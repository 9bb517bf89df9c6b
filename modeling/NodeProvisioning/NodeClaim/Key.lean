import NodeProvisioning.SortedMap

/-!
# Keys of node claims

A claim is known by its namespace and name. Keys are ordered by namespace, then by name.

## Main definitions

* `ClaimKey` — namespace and name
* `ClaimKey.text` — both, with a slash between them
-/

namespace NodeProvisioning

/-- The namespace and name of a node claim. -/
structure ClaimKey where
  ns : String
  name : String
deriving Repr

namespace ClaimKey

/-- Keys are ordered by namespace, then by name. -/
instance : LT ClaimKey := ⟨fun a b => a.ns < b.ns ∨ (a.ns = b.ns ∧ a.name < b.name)⟩

theorem lt_iff {a b : ClaimKey} : a < b ↔ a.ns < b.ns ∨ (a.ns = b.ns ∧ a.name < b.name) :=
  Iff.rfl

/-- The order of keys is strict and total. -/
instance : KeyOrder ClaimKey where
  decLT a b := inferInstanceAs (Decidable (a.ns < b.ns ∨ (a.ns = b.ns ∧ a.name < b.name)))
  irrefl a := by
    rintro (h | ⟨_, h⟩)
    · exact KeyOrder.irrefl _ h
    · exact KeyOrder.irrefl _ h
  trans a b c := by
    rintro (hab | ⟨eab, hab⟩) (hbc | ⟨ebc, hbc⟩)
    · exact .inl (KeyOrder.trans _ _ _ hab hbc)
    · exact .inl (ebc ▸ hab)
    · exact .inl (eab ▸ hbc)
    · exact .inr ⟨eab.trans ebc, KeyOrder.trans _ _ _ hab hbc⟩
  eq_of_not_lt a b hab hba := by
    rw [lt_iff, not_or] at hab hba
    have ens : a.ns = b.ns := KeyOrder.eq_of_not_lt _ _ hab.1 hba.1
    have ename : a.name = b.name :=
      KeyOrder.eq_of_not_lt _ _ (fun h => hab.2 ⟨ens, h⟩) (fun h => hba.2 ⟨ens.symm, h⟩)
    cases a; cases b; simp_all

/-- The namespace, a slash and the name. -/
def text (k : ClaimKey) : String := k.ns ++ "/" ++ k.name

end ClaimKey

end NodeProvisioning

import NodeProvisioning.Store.Basic

/-!
# What a store records of submissions

Looks at a claim change what is reported about it, and what later looks will show; they never
change what was asked for.  So two stores are said to agree if they have the same claims up to
their statuses, the same record of creations, and refuse creations alike.  A look takes a store to
one that agrees with it, and creating a claim takes stores that agree to stores that agree.

Creating several claims stores those whose keys are not taken.  Doing so again, after some were
created before, leaves the store that creating them once would have left.

## Main definitions

* `Store.entry` — what is stored under a key, apart from the status
* `Store.Agrees` — agreement of two stores
* `Store.createAll` — create several claims in order
* `Store.adoptAll` — what several claims make of the claims that are there

## Main statements

* `Store.get_agrees`, `Store.Agrees.create` — looks and creations
* `Store.createAll_createAll` — creating some of the claims before changes nothing
* `Store.claims_createAll`, `Store.created_createAll` — what creating several claims stores and
  records
-/

namespace NodeProvisioning.Store

variable {s s' s'' : Store}

/-- What is stored under a key, apart from the status. -/
def entry (s : Store) (key : ClaimKey) : Option (Metadata × NodeClaim.Spec) :=
  (s.claims.find? key).map fun claim => (claim.metadata, claim.spec)

/-- **Two stores agree** on what was submitted. -/
structure Agrees (s s' : Store) : Prop where
  entry_eq : ∀ key, s.entry key = s'.entry key
  created_eq : s.created = s'.created
  createFailure_eq : s.createFailure = s'.createFailure

namespace Agrees

theorem refl (s : Store) : s.Agrees s := ⟨fun _ => rfl, rfl, rfl⟩

theorem symm (h : s.Agrees s') : s'.Agrees s where
  entry_eq key := (h.entry_eq key).symm
  created_eq := h.created_eq.symm
  createFailure_eq := h.createFailure_eq.symm

theorem trans (h : s.Agrees s') (h' : s'.Agrees s'') : s.Agrees s'' where
  entry_eq key := (h.entry_eq key).trans (h'.entry_eq key)
  created_eq := h.created_eq.trans h'.created_eq
  createFailure_eq := h.createFailure_eq.trans h'.createFailure_eq

end Agrees

theorem contains_eq_isSome_entry (s : Store) (key : ClaimKey) :
    s.claims.contains key = (s.entry key).isSome := by
  simp [entry, SortedMap.contains]

/-- Stores that agree have the same keys. -/
theorem Agrees.contains_eq (h : s.Agrees s') (key : ClaimKey) :
    s.claims.contains key = s'.claims.contains key := by
  rw [contains_eq_isSome_entry, contains_eq_isSome_entry, h.entry_eq]

/-! ## Looks -/

/-- A look reports conditions at most. -/
theorem observe_agrees (s : Store) (key : ClaimKey) (shown : Option Snapshot) :
    (s.observe key shown).1.Agrees s := by
  unfold observe
  split
  · exact .refl s
  · split
    · exact .refl s
    · next l _ claim found =>
      refine ⟨fun k => ?_, rfl, rfl⟩
      by_cases same : key = k
      · subst same
        simp [entry, SortedMap.find?_insert, found]
      · simp [entry, SortedMap.find?_insert, same]
  · split <;> exact .refl s

/-- **A look leaves what was submitted alone.** -/
theorem get_agrees (s : Store) (key : ClaimKey) : (s.get key).1.Agrees s := by
  have counted : ∀ looks, ({ s with looks } : Store).Agrees s := fun _ => ⟨fun _ => rfl, rfl, rfl⟩
  have shown : ∀ looks scripts, ({ s with looks, scripts } : Store).Agrees s :=
    fun _ _ => ⟨fun _ => rfl, rfl, rfl⟩
  unfold get
  dsimp only
  split
  · exact counted _
  · split
    · exact (observe_agrees _ key none).trans (counted _)
    · exact (observe_agrees _ key _).trans (shown _ _)

/-- The store answers a look at once, or never. -/
theorem backend_get (t : Instant) (key : ClaimKey) (s : Store) :
    Store.backend.get t key s = ((s.get key).1,
      match (s.get key).2 with
      | some a => .answered a
      | none => .unanswered) := by
  unfold backend
  dsimp only
  split <;> next found => rw [found]

/-! ## Creations -/

section Create

variable {claim : NodeClaim}

theorem create_of_refused (h : s.createFailure ≠ none) : (s.create claim).1 = s := by
  unfold create
  split
  · rfl
  · next allowed => exact absurd allowed h

theorem create_of_contains (h : s.claims.contains claim.key = true) : (s.create claim).1 = s := by
  unfold create
  split
  · rfl
  · rw [if_pos h]

theorem create_of_absent (allowed : s.createFailure = none)
    (absent : s.claims.contains claim.key = false) :
    (s.create claim).1 =
      { s with
        claims := s.claims.insert claim.key claim
        created := s.created ++ [claim.key] } := by
  simp [create, allowed, absent]

/-- A claim that was not there is there from its creation on. -/
theorem contains_create_of_absent (allowed : s.createFailure = none)
    (absent : s.claims.contains claim.key = false) (key : ClaimKey) :
    (s.create claim).1.claims.contains key =
      (decide (claim.key = key) || s.claims.contains key) := by
  rw [create_of_absent allowed absent]
  exact SortedMap.contains_insert _ _ _ _

/-- A claim that was not there is stored as it was submitted. -/
theorem entry_create_of_absent (allowed : s.createFailure = none)
    (absent : s.claims.contains claim.key = false) (key : ClaimKey) :
    (s.create claim).1.entry key =
      if claim.key = key then some (claim.metadata, claim.spec) else s.entry key := by
  rw [create_of_absent allowed absent]
  by_cases own : claim.key = key <;> simp [entry, SortedMap.find?_insert, own]

@[simp] theorem createFailure_create (s : Store) (claim : NodeClaim) :
    (s.create claim).1.createFailure = s.createFailure := by
  unfold create
  split
  · rfl
  · split <;> rfl

/-- A claim that is there stays there. -/
theorem contains_create {key : ClaimKey} (h : s.claims.contains key = true) :
    (s.create claim).1.claims.contains key = true := by
  unfold create
  split
  · exact h
  · split
    · exact h
    · rw [SortedMap.contains_insert, h, Bool.or_true]

/-- A claim that is there is left as it is. -/
theorem find?_create {key : ClaimKey} {found : NodeClaim} (h : s.claims.find? key = some found) :
    (s.create claim).1.claims.find? key = some found := by
  by_cases allowed : s.createFailure = none
  · cases there : s.claims.contains claim.key with
    | true => rwa [create_of_contains there]
    | false =>
      have other : claim.key ≠ key := by
        rintro rfl
        simp [SortedMap.contains, h] at there
      rw [create_of_absent allowed there]
      show (s.claims.insert claim.key claim).find? key = some found
      rw [SortedMap.find?_insert, if_neg other, h]
  · rwa [create_of_refused allowed]

/-- **Creating a claim keeps agreement.** -/
theorem Agrees.create (h : s.Agrees s') (claim : NodeClaim) :
    (s.create claim).1.Agrees (s'.create claim).1 := by
  by_cases refused : s.createFailure = none
  · have refused' := h.createFailure_eq ▸ refused
    cases there : s.claims.contains claim.key with
    | true =>
      rw [create_of_contains there, create_of_contains (h.contains_eq _ ▸ there)]
      exact h
    | false =>
      rw [create_of_absent refused there, create_of_absent refused' (h.contains_eq _ ▸ there)]
      refine ⟨fun key => ?_, congrArg (· ++ [claim.key]) h.created_eq, h.createFailure_eq⟩
      have same := h.entry_eq key
      simp only [entry, SortedMap.find?_insert] at same ⊢
      split
      · rfl
      · exact same
  · rw [create_of_refused refused, create_of_refused (h.createFailure_eq ▸ refused)]
    exact h

end Create

/-! ## Several creations -/

/-- Create several claims in order. -/
def createAll (s : Store) (claims : List NodeClaim) : Store :=
  claims.foldl (fun s claim => (s.create claim).1) s

section CreateAll

variable (claims more : List NodeClaim)

@[simp] theorem createAll_nil : s.createAll [] = s := rfl

@[simp] theorem createAll_cons (claim : NodeClaim) :
    s.createAll (claim :: claims) = (s.create claim).1.createAll claims := rfl

theorem createAll_append : s.createAll (claims ++ more) = (s.createAll claims).createAll more :=
  List.foldl_append

theorem Agrees.createAll (h : s.Agrees s') : (s.createAll claims).Agrees (s'.createAll claims) := by
  induction claims generalizing s s' with
  | nil => exact h
  | cons claim rest ih => exact ih (h.create claim)

@[simp] theorem createFailure_createAll : (s.createAll claims).createFailure = s.createFailure := by
  induction claims generalizing s with
  | nil => rfl
  | cons claim rest ih => rw [createAll_cons, ih, createFailure_create]

/-- Where creations are refused, none has an effect. -/
theorem createAll_of_refused (h : s.createFailure ≠ none) : s.createAll claims = s := by
  induction claims with
  | nil => rfl
  | cons claim rest ih => rw [createAll_cons, create_of_refused h, ih]

/-- Where all claims are there, none has an effect. -/
theorem createAll_of_contains (h : ∀ claim ∈ claims, s.claims.contains claim.key = true) :
    s.createAll claims = s := by
  induction claims with
  | nil => rfl
  | cons claim rest ih =>
    obtain ⟨first, others⟩ := List.forall_mem_cons.1 h
    rw [createAll_cons, create_of_contains first, ih others]

theorem contains_createAll {key : ClaimKey} (h : s.claims.contains key = true) :
    (s.createAll claims).claims.contains key = true := by
  induction claims generalizing s with
  | nil => exact h
  | cons claim rest ih => exact ih (contains_create h)

/-- After several creations all claims are there. -/
theorem contains_createAll_of_mem (allowed : s.createFailure = none) :
    ∀ claim ∈ claims, (s.createAll claims).claims.contains claim.key = true := by
  induction claims generalizing s with
  | nil => simp
  | cons claim rest ih =>
    refine List.forall_mem_cons.2 ⟨contains_createAll rest ?_, ih (by simpa using allowed)⟩
    cases there : s.claims.contains claim.key with
    | true => exact contains_create there
    | false => simp [create_of_absent allowed there, SortedMap.contains_insert]

variable {claims} in
/-- **Creating some of the claims before** makes no difference to creating all of them. -/
theorem createAll_createAll {done : List NodeClaim} (allowed : s.createFailure = none)
    (sub : done <+: claims) : (s.createAll done).createAll claims = s.createAll claims := by
  obtain ⟨rest, rfl⟩ := sub
  rw [createAll_append, createAll_append,
    createAll_of_contains done (contains_createAll_of_mem done allowed)]

/-- Put a claim under its key, unless the key is taken. -/
def adopt (there : SortedMap ClaimKey NodeClaim) (claim : NodeClaim) :
    SortedMap ClaimKey NodeClaim :=
  if there.contains claim.key then there else there.insert claim.key claim

/-- Put several claims in order under their keys, wherever the key is not taken. -/
def adoptAll (there : SortedMap ClaimKey NodeClaim) (claims : List NodeClaim) :
    SortedMap ClaimKey NodeClaim :=
  claims.foldl adopt there

/-- **What several creations store.** -/
theorem claims_createAll (allowed : s.createFailure = none) :
    (s.createAll claims).claims = adoptAll s.claims claims := by
  induction claims generalizing s with
  | nil => rfl
  | cons claim rest ih =>
    rw [createAll_cons, ih (by simpa using allowed), adoptAll, adoptAll, List.foldl_cons, adopt]
    cases there : s.claims.contains claim.key with
    | true => rw [create_of_contains there, if_pos rfl]
    | false => rw [create_of_absent allowed there, if_neg Bool.false_ne_true]

/-- **What several creations record**: the keys that were not taken, in order, each once. -/
theorem created_createAll (allowed : s.createFailure = none) :
    (s.createAll claims).created = s.created ++
      ((claims.map NodeClaim.key).filter fun key => !s.claims.contains key).eraseDups := by
  induction claims generalizing s with
  | nil => simp
  | cons claim rest ih =>
    rw [createAll_cons, ih (by simpa using allowed), List.map_cons, List.filter_cons]
    cases there : s.claims.contains claim.key with
    | true => rw [create_of_contains there, Bool.not_true, if_neg Bool.false_ne_true]
    | false =>
      -- The key is taken from now on; in the list of keys this is what erasing its duplicates does.
      rw [create_of_absent allowed there, Bool.not_false, if_pos rfl, List.eraseDups_cons,
        List.filter_filter, List.append_assoc, List.singleton_append]
      congr 3
      refine List.filter_congr fun key _ => ?_
      rw [SortedMap.contains_insert, Bool.not_or]
      rw [BEq.comm]
      rfl

/-- A claim that is there is not touched by creations. -/
theorem find?_createAll {key : ClaimKey} {claim : NodeClaim} (h : s.claims.find? key = some claim) :
    (s.createAll claims).claims.find? key = some claim := by
  induction claims generalizing s with
  | nil => exact h
  | cons first rest ih => exact ih (find?_create h)

end CreateAll

end NodeProvisioning.Store

import Mathlib.Data.List.Forall2
import NodeProvisioning.Proofs.Codec.Basic

/-!
# What decoders accept

A decoder is one way of finding out what a value says.  What a value says can also be stated
directly, as a relation between values and what they mean: a text means itself, a sequence means the
list of what its items mean, and a field that is not there or is null means nothing.  A decoder is
right about a meaning if it returns exactly what the value means, and refuses a value that means
nothing.

That a decoder is right follows from what it is put together of, one lemma for each way of putting
decoders together.

## Main definitions

* `Meaning` — what a value says, as a relation
* `Meaning.text`, `Meaning.natural`, `Meaning.list`, `Meaning.map` — what leaves, sequences and maps
  mean
* `Meaning.Field` — what a field means that may be absent or null
* `Meaning.Record` — the fields of a record, by name or by position
* `Decoder.Finds` — a decoder is right about a meaning

## Main statements

* `Decoder.Finds.error_iff` — what is refused means nothing
* `Fields.nullable_eq_ok_iff`, `Json.record_eq_ok_iff` — fields are read by what they mean
-/

namespace NodeProvisioning

variable {α : Type}

/-- What a value says. -/
abbrev Meaning (α : Type) := Json → α → Prop

namespace Meaning

/-- A text means itself. -/
def text : Meaning String := fun v s => v = .str s

/-- A natural number below `2 ^ bits` means itself. -/
def natural (bits : Nat) : Meaning Nat := fun v n => v = Json.nat n ∧ n < twoTo bits

/-- A sequence means what its items mean. -/
def list (m : Meaning α) : Meaning (List α) := fun v l =>
  ∃ items, v = .arr items ∧ List.Forall₂ m items l

/-- An object means the map of what its members mean; of equal keys the last one counts. -/
def map (m : Meaning α) : Meaning (SortedMap String α) := fun v t =>
  ∃ members bindings, v = .obj members ∧
    List.Forall₂ (fun x e => x.1 = e.1 ∧ m x.2 e.2) members bindings ∧ t = .ofList bindings

/-- **What a field means**: nothing if it is absent or null, and otherwise what its value means. -/
def Field (m : Meaning α) (members : List (String × Json)) (name : String) : Option α → Prop
  | none => Json.lookup name members = none ∨ Json.lookup name members = some .null
  | some a => ∃ v, Json.lookup name members = some v ∧ v ≠ .null ∧ m v a

/-- **The fields of a record** with the declared names: those of an object that has none of these
names twice, or the items of a sequence, which are no more than the names. -/
inductive Record (declared : List String) : Json → List (String × Json) → Prop
  | named {members : List (String × Json)}
    (once : ∀ f ∈ declared, members.countP (fun m => m.1 == f) ≤ 1) :
    Record declared (.obj members) members
  | placed {items : List Json} (fit : items.length ≤ declared.length) :
    Record declared (.arr items) (declared.zip items)

end Meaning

/-- **A decoder is right** about a meaning: it returns exactly what a value means. -/
def Decoder.Finds (d : Decoder α) (m : Meaning α) : Prop := ∀ v a, d v = .ok a ↔ m v a

namespace Decoder

variable {d : Decoder α} {m : Meaning α}

/-- What is refused means nothing. -/
theorem Finds.error_iff (h : d.Finds m) {v : Json} : (∃ e, d v = .error e) ↔ ∀ a, ¬ m v a := by
  simp only [← h v]
  cases d v <;> simp

/-! ## Leaves -/

theorem string_finds : string.Finds .text := by
  intro v s
  cases v <;> simp [string, Meaning.text]

theorem natural_finds (bits : Nat) : (natural bits).Finds (.natural bits) := by
  intro v n
  constructor
  · intro read
    refine ⟨?_, (Codec.natural bits).yields v n read⟩
    unfold natural integer at read
    split at read
    · next i =>
      split at read
      · next range =>
        cases read
        rw [Json.nat, Int.toNat_of_nonneg range.1]
      · cases read
    · cases read
  · rintro ⟨rfl, small⟩
    exact (Codec.natural bits).reads n small

/-! ## Sequences and maps -/

theorem items_eq_ok_iff (h : d.Finds m) {l : List Json} {as : List α} :
    items d l = .ok as ↔ List.Forall₂ m l as := by
  induction l generalizing as with
  | nil => cases as <;> simp [items]
  | cons v rest ih =>
    rw [items, bind_eq_ok_iff]
    simp only [bind_eq_ok_iff, ih, h v]
    cases as <;> simp

theorem Finds.list (h : d.Finds m) : (list d).Finds (.list m) := by
  intro v as
  cases v <;> simp [Decoder.list, Meaning.list, items_eq_ok_iff h]

theorem members_eq_ok_iff (h : d.Finds m) {l : List (String × Json)} {es : List (String × α)} :
    members d l = .ok es ↔ List.Forall₂ (fun x e => x.1 = e.1 ∧ m x.2 e.2) l es := by
  induction l generalizing es with
  | nil => cases es <;> simp [members]
  | cons x rest ih =>
    obtain ⟨k, v⟩ := x
    rw [members, bind_eq_ok_iff]
    simp only [bind_eq_ok_iff, ih, h v]
    cases es with
    | nil => simp
    | cons e more =>
      obtain ⟨k', a⟩ := e
      simp only [Except.ok.injEq, List.cons.injEq, Prod.mk.injEq, List.forall₂_cons]
      constructor
      · rintro ⟨a, means, l, others, ⟨rfl, rfl⟩, rfl⟩
        exact ⟨⟨rfl, means⟩, others⟩
      · rintro ⟨⟨rfl, means⟩, others⟩
        exact ⟨a, means, more, others, ⟨rfl, rfl⟩, rfl⟩

theorem map_obj (d : Decoder α) (l : List (String × Json)) :
    map d (.obj l) = (members d l).map SortedMap.ofList := rfl

theorem Finds.map (h : d.Finds m) : (map d).Finds (.map m) := by
  intro v t
  cases v with
  | obj l =>
    constructor
    · intro read
      obtain ⟨bindings, members, rfl⟩ := map_eq_ok_iff.1 (map_obj d l ▸ read)
      exact ⟨l, bindings, rfl, (members_eq_ok_iff h).1 members, rfl⟩
    · rintro ⟨members, bindings, same, means, rfl⟩
      cases same
      rw [map_obj]
      exact map_eq_ok_iff.2 ⟨bindings, (members_eq_ok_iff h).2 means, rfl⟩
  | _ => simp [Decoder.map, Meaning.map]

end Decoder

/-! ## Fields of a record -/

section Fields

variable {d : Decoder α} {m : Meaning α} {fs : Fields} {name : String} {o : Option α}

theorem Decoder.nullable_of_ne {v : Json} (nonnull : v ≠ .null) :
    Decoder.nullable d v = (d v).map some := by
  cases v with
  | null => exact absurd rfl nonnull
  | _ => rfl

/-- **A field** that may be absent or null is read as what it means. -/
theorem Fields.nullable_eq_ok_iff (h : d.Finds m) :
    fs.nullable name d = .ok o ↔ m.Field fs.members name o := by
  unfold Fields.nullable
  cases found : Json.lookup name fs.members with
  | none => cases o <;> simp [Meaning.Field, found]
  | some v =>
    by_cases null : v = .null
    · subst null
      cases o <;> simp [Meaning.Field, found, Decoder.nullable]
    · dsimp only
      rw [Decoder.nullable_of_ne null, map_eq_ok_iff]
      cases o <;> simp [Meaning.Field, found, null, h v]

/-- A field that may be absent, but not null. -/
theorem Fields.optional_eq_ok_iff (h : d.Finds m) : fs.optional name d = .ok o ↔
    Json.lookup name fs.members = none ∧ o = none ∨
      ∃ v a, Json.lookup name fs.members = some v ∧ m v a ∧ o = some a := by
  unfold Fields.optional
  cases Json.lookup name fs.members with
  | none => simp [eq_comm]
  | some v =>
    dsimp only
    rw [map_eq_ok_iff]
    simp [h v, eq_comm]

/-- The fields of a record are those of an object, or of a sequence by their position. -/
theorem Json.record_eq_ok_iff {expected : String} {declared : List String} {v : Json}
    {members : List (String × Json)} :
    (∃ fs, record expected declared v = .ok fs ∧ fs.members = members) ↔
      Meaning.Record declared v members := by
  constructor
  · rintro ⟨fs, read, rfl⟩
    unfold record at read
    split at read
    · split at read
      · cases read
      · next once =>
        cases read
        refine .named fun f mem => ?_
        simpa using List.find?_eq_none.1 once f mem
    · dsimp only at read
      split at read
      · cases read
      · next fit =>
        cases read
        exact .placed (Nat.not_lt.1 fit)
    · cases read
  · rintro (⟨once⟩ | ⟨fit⟩)
    · have none : declared.find? (fun f => 1 < members.countP (fun m => m.1 == f)) = none :=
        List.find?_eq_none.2 fun f mem => by simpa using once f mem
      exact ⟨⟨members, .missingField⟩, by simp only [record, none], rfl⟩
    · exact ⟨_, if_neg (Nat.not_lt.2 fit), rfl⟩

/-- The fields of a record that is an object. -/
theorem Json.openRecord_eq_ok_iff {expected : String} {v : Json} {fs : Fields} :
    openRecord expected v = .ok fs ↔ v = .obj fs.members ∧ fs = ⟨fs.members, .missingField⟩ := by
  obtain ⟨members, missing⟩ := fs
  cases v <;> simp [openRecord, eq_comm]

end Fields

end NodeProvisioning

/-!
# Sorted maps

A finite map kept as a list of entries in strictly increasing key order, so that two maps with the
same contents are equal and listing a map needs no further order.

## Main definitions

* `SortedMap` — the entries with the proof that their keys increase
* `SortedMap.insert`, `SortedMap.find?` — one binding at a time
* `SortedMap.ofList` — of several bindings of one key the last one stays
* `SortedMap.inOrder` — a list of keys, sorted, each once

## Main statements

* `SortedMap.find?_insert` — what an insertion changes
* `SortedMap.ofList_entries` — listing a map and reading it back changes nothing
* `SortedMap.mem_inOrder`, `SortedMap.inOrder_nodup` — keys in order are the keys given, once each
-/

namespace NodeProvisioning

/-- A decidable strict total order on the keys of a map. -/
class KeyOrder (κ : Type) extends LT κ where
  decLT : ∀ a b : κ, Decidable (a < b)
  irrefl : ∀ a : κ, ¬ a < a
  trans : ∀ a b c : κ, a < b → b < c → a < c
  eq_of_not_lt : ∀ a b : κ, ¬ a < b → ¬ b < a → a = b

/-- The order of keys is decided. -/
instance (priority := low) KeyOrder.decidableLt {κ : Type} [KeyOrder κ] (a b : κ) :
    Decidable (a < b) :=
  KeyOrder.decLT a b

/-- Keys that are in no order are equal. -/
instance (priority := low) KeyOrder.decidableEq {κ : Type} [KeyOrder κ] :
    DecidableEq κ := fun a b =>
  if hab : a < b then .isFalse fun e => KeyOrder.irrefl b (e ▸ hab)
  else if hba : b < a then .isFalse fun e => KeyOrder.irrefl b (e ▸ hba)
  else .isTrue (KeyOrder.eq_of_not_lt a b hab hba)

/-- Strings are ordered by code point. -/
instance : KeyOrder String where
  decLT := inferInstance
  irrefl := String.lt_irrefl
  trans _ _ _ := String.lt_trans
  eq_of_not_lt _ _ hab hba := String.le_antisymm (String.not_lt.1 hba) (String.not_lt.1 hab)

/-- A finite map: its entries in strictly increasing key order. -/
structure SortedMap (κ β : Type) [KeyOrder κ] where
  /-- The bindings, least key first. -/
  entries : List (κ × β)
  /-- Keys increase from each entry to the next. -/
  sorted : entries.Pairwise (fun a b => a.1 < b.1)

namespace SortedMap

variable {κ β γ : Type} [KeyOrder κ]

theorem ext {m n : SortedMap κ β} (h : m.entries = n.entries) : m = n := by
  cases m; cases n; simp_all

instance [DecidableEq β] : DecidableEq (SortedMap κ β) := fun m n =>
  if h : m.entries = n.entries then .isTrue (ext h) else .isFalse fun e => h (e ▸ rfl)

/-- The map without bindings. -/
def empty : SortedMap κ β := ⟨[], .nil⟩

instance : EmptyCollection (SortedMap κ β) := ⟨empty⟩

instance : Inhabited (SortedMap κ β) := ⟨empty⟩

/-- Put a binding in its place among sorted entries, replacing one of the same key. -/
def insertEntry (k : κ) (v : β) : List (κ × β) → List (κ × β)
  | [] => [(k, v)]
  | (k', v') :: rest =>
    if k < k' then (k, v) :: (k', v') :: rest
    else if k' < k then (k', v') :: insertEntry k v rest
    else (k, v) :: rest

theorem mem_insertEntry {k : κ} {v : β} {e : κ × β} {l : List (κ × β)}
    (h : e ∈ insertEntry k v l) : e = (k, v) ∨ e ∈ l := by
  induction l with
  | nil => simp_all [insertEntry]
  | cons hd tl ih =>
    obtain ⟨k', v'⟩ := hd
    rw [insertEntry] at h
    split at h
    · simpa using h
    · split at h
      · rcases List.mem_cons.1 h with h | h
        · exact .inr (by simp [h])
        · exact (ih h).imp id fun m => by simp [m]
      · rcases List.mem_cons.1 h with h | h
        · exact .inl h
        · exact .inr (by simp [h])

theorem insertEntry_sorted (k : κ) (v : β) {l : List (κ × β)}
    (h : l.Pairwise (fun a b => a.1 < b.1)) :
    (insertEntry k v l).Pairwise (fun a b => a.1 < b.1) := by
  induction l with
  | nil => simp [insertEntry]
  | cons hd tl ih =>
    obtain ⟨k', v'⟩ := hd
    obtain ⟨below, rest⟩ := List.pairwise_cons.1 h
    rw [insertEntry]
    split
    · next lt =>
      refine List.pairwise_cons.2 ⟨fun e he => ?_, h⟩
      rcases List.mem_cons.1 he with rfl | he
      · exact lt
      · exact KeyOrder.trans _ _ _ lt (below e he)
    · next nlt =>
      split
      · next gt =>
        refine List.pairwise_cons.2 ⟨fun e he => ?_, ih rest⟩
        rcases mem_insertEntry he with rfl | he
        · exact gt
        · exact below e he
      · next ngt =>
        obtain rfl := KeyOrder.eq_of_not_lt _ _ nlt ngt
        exact List.pairwise_cons.2 ⟨below, rest⟩

/-- The map in which `k` is bound to `v` and every other key as before. -/
def insert (m : SortedMap κ β) (k : κ) (v : β) : SortedMap κ β :=
  ⟨insertEntry k v m.entries, insertEntry_sorted k v m.sorted⟩

/-- The value bound to a key. -/
def find? (m : SortedMap κ β) (k : κ) : Option β :=
  (m.entries.find? (fun e => decide (e.1 = k))).map (·.2)

/-- Whether a key is bound. -/
def contains (m : SortedMap κ β) (k : κ) : Bool := (m.find? k).isSome

/-- The keys, in increasing order. -/
def keys (m : SortedMap κ β) : List κ := m.entries.map (·.1)

/-- The values, in the order of their keys. -/
def values (m : SortedMap κ β) : List β := m.entries.map (·.2)

/-- Whether no key is bound. -/
def isEmpty (m : SortedMap κ β) : Bool := m.entries.isEmpty

/-- Read bindings one after the other; of several for one key the last stays. -/
def ofList (l : List (κ × β)) : SortedMap κ β :=
  l.foldl (fun m e => m.insert e.1 e.2) empty

/-- The elements of a list of keys in increasing order, each once. -/
def inOrder (ks : List κ) : List κ := (ofList (ks.map fun k => (k, ()))).keys

@[simp] theorem find?_empty (k : κ) : (empty : SortedMap κ β).find? k = none := rfl

theorem find?_insertEntry (k k' : κ) (v : β) (l : List (κ × β)) :
    (l.Pairwise fun a b => a.1 < b.1) →
    ((insertEntry k v l).find? (fun e => decide (e.1 = k'))).map (·.2) =
      if k = k' then some v else (l.find? (fun e => decide (e.1 = k'))).map (·.2) := by
  intro h
  induction l with
  | nil => by_cases hk : k = k' <;> simp [insertEntry, hk]
  | cons hd tl ih =>
    obtain ⟨k'', v''⟩ := hd
    obtain ⟨below, rest⟩ := List.pairwise_cons.1 h
    rw [insertEntry]
    split
    · by_cases hk : k = k' <;> simp [hk, List.find?_cons]
    · next nlt =>
      split
      · next gt =>
        have ne : k'' ≠ k := fun e => KeyOrder.irrefl _ (e ▸ gt)
        by_cases hk : k'' = k'
        · subst hk; simp [Ne.symm ne]
        · simp only [List.find?_cons, decide_eq_false hk]
          exact ih rest
      · next ngt =>
        obtain rfl := KeyOrder.eq_of_not_lt _ _ nlt ngt
        by_cases hk : k = k' <;> simp [hk]

/-- An insertion binds its key and changes no other. -/
theorem find?_insert (m : SortedMap κ β) (k k' : κ) (v : β) :
    (m.insert k v).find? k' = if k = k' then some v else m.find? k' :=
  find?_insertEntry k k' v m.entries m.sorted

theorem find?_foldl_insert (l : List (κ × β)) (m : SortedMap κ β) (k : κ) :
    (l.foldl (fun acc e => acc.insert e.1 e.2) m).find? k = ((ofList l).find? k).or (m.find? k) := by
  induction l generalizing m with
  | nil => simp [ofList]
  | cons e rest ih =>
    rw [ofList, List.foldl_cons, List.foldl_cons, ih, ih (insert empty e.1 e.2), find?_insert,
      find?_insert, Option.or_assoc]
    by_cases same : e.1 = k <;> simp [same]

/-- The first of several bindings counts where no other one follows for its key. -/
theorem find?_ofList_cons (e : κ × β) (l : List (κ × β)) (k : κ) :
    (ofList (e :: l)).find? k = ((ofList l).find? k).or (if e.1 = k then some e.2 else none) := by
  rw [ofList, List.foldl_cons, find?_foldl_insert, find?_insert]
  rfl

theorem insertEntry_of_all_lt (k : κ) (v : β) (l : List (κ × β)) (h : ∀ e ∈ l, e.1 < k) :
    insertEntry k v l = l ++ [(k, v)] := by
  induction l with
  | nil => rfl
  | cons hd tl ih =>
    obtain ⟨k', v'⟩ := hd
    have lt : k' < k := h (k', v') (by simp)
    have nlt : ¬ k < k' := fun gt => KeyOrder.irrefl _ (KeyOrder.trans _ _ _ lt gt)
    simp [insertEntry, lt, nlt, ih fun e he => h e (by simp [he])]

theorem foldl_insert_sorted (m : SortedMap κ β) (l : List (κ × β))
    (h : (m.entries ++ l).Pairwise fun a b => a.1 < b.1) :
    (l.foldl (fun acc e => acc.insert e.1 e.2) m).entries = m.entries ++ l := by
  induction l generalizing m with
  | nil => simp
  | cons hd tl ih =>
    have below : ∀ e ∈ m.entries, e.1 < hd.1 := fun e he =>
      (List.pairwise_append.1 h).2.2 e he hd (by simp)
    have step : (m.insert hd.1 hd.2).entries = m.entries ++ [hd] :=
      insertEntry_of_all_lt hd.1 hd.2 m.entries below
    simp only [List.foldl_cons]
    rw [ih _ (by rw [step]; simpa using h), step]
    simp

/-- Listing a map and reading the list back gives the map. -/
theorem ofList_entries (m : SortedMap κ β) : ofList m.entries = m :=
  ext (foldl_insert_sorted empty m.entries m.sorted)

theorem mem_of_mem_foldl_insert {e : κ × β} (l : List (κ × β)) (m : SortedMap κ β)
    (h : e ∈ (l.foldl (fun acc e => acc.insert e.1 e.2) m).entries) : e ∈ l ∨ e ∈ m.entries := by
  induction l generalizing m with
  | nil => exact .inr h
  | cons hd tl ih =>
    rcases ih _ h with later | early
    · exact .inl (List.mem_cons_of_mem _ later)
    · rcases mem_insertEntry early with rfl | before
      · exact .inl List.mem_cons_self
      · exact .inr before

/-- A map has no binding but those that it was made of. -/
theorem mem_of_mem_ofList {e : κ × β} {l : List (κ × β)} (h : e ∈ (ofList l).entries) : e ∈ l :=
  (mem_of_mem_foldl_insert l empty h).elim id nofun

/-- A binding is found exactly if it is one of the entries. -/
theorem find?_eq_some_iff {m : SortedMap κ β} {k : κ} {v : β} :
    m.find? k = some v ↔ (k, v) ∈ m.entries := by
  have first : ∀ l : List (κ × β), (l.Pairwise fun a b => a.1 < b.1) → (k, v) ∈ l →
      l.find? (fun e => decide (e.1 = k)) = some (k, v) := by
    intro l sorted mem
    induction l with
    | nil => cases mem
    | cons hd tl ih =>
      obtain ⟨below, rest⟩ := List.pairwise_cons.1 sorted
      rcases List.mem_cons.1 mem with rfl | later
      · exact List.find?_cons_of_pos (by simp)
      · have other : hd.1 ≠ k := by
          rintro rfl
          have lt := below _ later
          exact KeyOrder.irrefl _ lt
        rw [List.find?_cons_of_neg (by simpa using other)]
        exact ih rest later
  constructor
  · intro found
    obtain ⟨e, isFirst, rfl⟩ := Option.map_eq_some_iff.1 found
    have same : e.1 = k := by simpa using List.find?_some isFirst
    exact same ▸ List.mem_of_find?_eq_some isFirst
  · intro mem
    rw [find?, first m.entries m.sorted mem]
    rfl

/-! ## Keys -/

/-- The keys of a map are those that are bound. -/
theorem mem_keys_iff {m : SortedMap κ β} {k : κ} : k ∈ m.keys ↔ m.contains k = true := by
  simp [keys, contains, find?]

/-- The keys of a map increase. -/
theorem keys_pairwise (m : SortedMap κ β) : m.keys.Pairwise (· < ·) :=
  List.pairwise_map.2 m.sorted

/-- The keys of a map are listed once each. -/
theorem keys_nodup (m : SortedMap κ β) : m.keys.Nodup :=
  m.keys_pairwise.imp fun {a b} (lt : a < b) (e : a = b) => KeyOrder.irrefl b (e ▸ lt)

/-- Maps that bind the same keys list the same keys. -/
theorem keys_eq_of_contains_eq {m : SortedMap κ β} {n : SortedMap κ γ}
    (h : ∀ k, m.contains k = n.contains k) : m.keys = n.keys := by
  have perm : m.keys.Perm n.keys :=
    (List.perm_ext_iff_of_nodup m.keys_nodup n.keys_nodup).2 fun k => by
      rw [mem_keys_iff, mem_keys_iff, h]
  refine List.Perm.eq_of_pairwise (fun a b _ _ lt gt => ?_) m.keys_pairwise n.keys_pairwise perm
  exact absurd (KeyOrder.trans _ _ _ lt gt) (KeyOrder.irrefl a)

theorem contains_insert (m : SortedMap κ β) (k k' : κ) (v : β) :
    (m.insert k v).contains k' = (decide (k = k') || m.contains k') := by
  by_cases h : k = k' <;> simp [contains, find?_insert, h]

theorem contains_foldl_insert (l : List (κ × β)) (m : SortedMap κ β) (k : κ) :
    (l.foldl (fun acc e => acc.insert e.1 e.2) m).contains k = true ↔
      k ∈ l.map (·.1) ∨ m.contains k = true := by
  induction l generalizing m with
  | nil => simp
  | cons e rest ih =>
    rw [List.foldl_cons, ih, contains_insert]
    simp only [Bool.or_eq_true, decide_eq_true_eq, List.map_cons, List.mem_cons]
    grind

/-- Putting keys in order neither loses nor adds one. -/
@[simp] theorem mem_inOrder {k : κ} {ks : List κ} : k ∈ inOrder ks ↔ k ∈ ks := by
  rw [inOrder, mem_keys_iff, ofList, contains_foldl_insert]
  simp [contains]

theorem inOrder_eq_nil_iff {ks : List κ} : inOrder ks = [] ↔ ks = [] := by
  simp only [List.eq_nil_iff_forall_not_mem, mem_inOrder]

/-- Keys in order are listed once each. -/
theorem inOrder_nodup (ks : List κ) : (inOrder ks).Nodup := keys_nodup _

/-- Keys in order increase. -/
theorem inOrder_pairwise (ks : List κ) : (inOrder ks).Pairwise (· < ·) := keys_pairwise _

end SortedMap

end NodeProvisioning

import NodeProvisioning.Json.Decoding
import NodeProvisioning.Json.Encoding
import NodeProvisioning.Proofs.Time.Timestamp

/-!
# Codecs

A decoder and an encoder belong together where the decoder reads what the encoder wrote and yields
nothing that the encoder could not write. The values between them are those of a predicate: a moment
of the calendar, an integer of 64 bits. Codecs of leaves are put together to codecs of lists and of
records.

A record is written as a list of named fields, each of them there or not. Which fields are there
depends on the value; that no name occurs twice does not, and this alone makes each field be found
by its name.

## Main definitions

* `Codec` — the two laws, on the values of a predicate
* `Json.fields` — the members of an object from fields that may be absent

## Main statements

* `Codec.again` — a value that was decoded survives being encoded and decoded
* `Codec.nullable`, `Codec.optional` — a written field is read back, be it there or not
* `Json.canonical_canonical` — a value in canonical form stays as it is
-/

namespace NodeProvisioning

/-- **A decoder and an encoder that belong together** on the values with a property. -/
structure Codec {α : Type} (decode : Decoder α) (encode : α → Json) (Valid : α → Prop) : Prop where
  /-- What was written is read back. -/
  reads : ∀ a, Valid a → decode (encode a) = .ok a
  /-- What is read can be written. -/
  yields : ∀ v a, decode v = .ok a → Valid a
  /-- What is written is not taken for an absent value. -/
  nonnull : ∀ a, Valid a → encode a ≠ .null

namespace Codec

variable {α : Type} {d : Decoder α} {enc : α → Json} {P : α → Prop}

/-- A decoded value survives being encoded and decoded. -/
theorem again (c : Codec d enc P) {v : Json} {a : α} (h : d v = .ok a) : d (enc a) = .ok a :=
  c.reads a (c.yields v a h)

/-! ## Leaves -/

theorem string : Codec .string .str fun _ => True where
  reads _ _ := rfl
  yields _ _ _ := trivial
  nonnull _ _ := nofun

theorem bool : Codec .bool .bool fun _ => True where
  reads _ _ := rfl
  yields _ _ _ := trivial
  nonnull _ _ := nofun

theorem integer (name : String) (lo hi : Int) :
    Codec (.integer name lo hi) (fun n => .num (.integer n)) fun n => lo ≤ n ∧ n < hi where
  reads _ mem := if_pos mem
  yields v n h := by
    unfold Decoder.integer at h
    split at h
    · split at h
      · next mem =>
        cases h
        exact mem
      · cases h
    · cases h
  nonnull _ _ := nofun

theorem int64 : Codec .int64 (fun n => .num (.integer n))
    fun n => -(twoTo 63 : Nat) ≤ n ∧ n < (twoTo 63 : Nat) :=
  integer _ _ _

theorem natural (bits : Nat) : Codec (.natural bits) Json.nat fun n => n < twoTo bits where
  reads n lt := by
    have mem : (0 : Int) ≤ n ∧ (n : Int) < (twoTo bits : Nat) := by omega
    rw [Decoder.natural, Json.nat, (integer _ _ _).reads _ mem]
    rfl
  yields v n h := by
    unfold Decoder.natural at h
    generalize read : Decoder.integer ("u" ++ toString bits) 0 (twoTo bits : Nat) v = r at h
    cases r with
    | error e => cases h
    | ok i =>
      have mem := (integer _ _ _).yields _ _ read
      cases h
      omega
  nonnull _ _ := nofun

/-- A choice of names is read back when each of them is known. -/
theorem oneOf {known : List (String × α)} {text : α → String}
    (h : ∀ a, known.find? (fun e => e.1 == text a) = some (text a, a)) :
    Codec (.oneOf known) (fun a => .str (text a)) fun _ => True where
  reads a _ := by
    simp only [Decoder.oneOf, h]
  yields _ _ _ := trivial
  nonnull _ _ := nofun

/-! ## Sequences and maps -/

theorem list (c : Codec d enc P) :
    Codec (.list d) (fun l => .arr (l.map enc)) fun l => ∀ a ∈ l, P a where
  reads l valid := by
    show Decoder.items d (l.map enc) = .ok l
    induction l with
    | nil => rfl
    | cons a l ih =>
      rw [List.map_cons, Decoder.items, c.reads a (valid a List.mem_cons_self), ok_bind,
        ih fun b mem => valid b (List.mem_cons_of_mem _ mem), ok_bind]
  yields v l h := by
    unfold Decoder.list at h
    split at h
    · next items =>
      induction items generalizing l with
      | nil =>
        cases h
        intro a mem
        cases mem
      | cons v items ih =>
        obtain ⟨a, first, h⟩ := bind_eq_ok_iff.1 h
        obtain ⟨l, rest, h⟩ := bind_eq_ok_iff.1 h
        cases h
        intro b mem
        rcases List.mem_cons.1 mem with rfl | mem
        · exact c.yields _ _ first
        · exact ih l rest b mem
    · cases h
  nonnull _ _ := nofun

theorem strings : Codec (.list .string) Json.strs fun _ => True where
  reads l _ := string.list.reads l fun _ _ => trivial
  yields _ _ _ := trivial
  nonnull _ _ := nofun

theorem stringMap : Codec (.map .string) Json.ofStringMap fun _ => True where
  reads m _ := by
    have members (l : List (String × String)) :
        Decoder.members .string (l.map fun e => (e.1, .str e.2)) = .ok l := by
      induction l with
      | nil => rfl
      | cons e l ih => rw [List.map_cons, Decoder.members, Decoder.string, ok_bind, ih, ok_bind]
    rw [Json.ofStringMap, Decoder.map, members, Except.map, SortedMap.ofList_entries]
  yields _ _ _ := trivial
  nonnull _ _ := nofun

end Codec

/-! ## Fields of a record -/

/-- A value, unless it is the one that its absence stands for. -/
def unlessDefault {α : Type} [DecidableEq α] (absent a : α) : Option α :=
  if a = absent then none else some a

@[simp] theorem getD_unlessDefault {α : Type} [DecidableEq α] (absent a : α) :
    (unlessDefault absent a).getD absent = a := by
  unfold unlessDefault
  split
  · next default => exact default.symm
  · rfl

theorem of_mem_unlessDefault {α : Type} [DecidableEq α] {absent a b : α}
    (h : b ∈ unlessDefault absent a) : b = a := by
  unfold unlessDefault at h
  split at h
  · cases h
  · exact (Option.mem_some_iff.1 h).symm

namespace Json

/-- The members of an object from its fields, each of them there or not. -/
def fields (l : List (String × Option Json)) : List (String × Json) :=
  l.filterMap fun f => f.2.map fun v => (f.1, v)

@[simp] theorem present_eq {α : Type} (key : String) (enc : α → Json) (o : Option α) :
    present key enc o = fields [(key, o.map enc)] := by
  cases o <;> rfl

@[simp] theorem unlessBlank_eq (key s : String) :
    unlessBlank key s = fields [(key, (unlessDefault "" s).map .str)] := by
  unfold unlessBlank unlessDefault
  split <;> rfl

@[simp] theorem unlessEmpty_eq {α : Type} [DecidableEq α] (key : String) (enc : α → Json)
    (l : List α) :
    unlessEmpty key enc l =
      fields [(key, (unlessDefault [] l).map fun l => .arr (l.map enc))] := by
  cases l <;> rfl

@[simp] theorem cons_fields (key : String) (v : Json) (l : List (String × Option Json)) :
    (key, v) :: fields l = fields ((key, some v) :: l) := rfl

@[simp] theorem fields_append_cons (l : List (String × Option Json)) (key : String) (v : Json)
    (rest : List (String × Json)) :
    fields l ++ (key, v) :: rest = fields (l ++ [(key, some v)]) ++ rest := by
  simp [fields]

@[simp] theorem fields_append (l l' : List (String × Option Json)) :
    fields l ++ fields l' = fields (l ++ l') :=
  List.filterMap_append.symm

theorem fields_cons (key : String) (o : Option Json) (l : List (String × Option Json)) :
    fields ((key, o) :: l) = (o.map fun v => (key, v)).toList ++ fields l := by
  cases o <;> rfl

/-- Only the names of fields are keys. -/
theorem keys_fields (l : List (String × Option Json)) :
    ((fields l).map (·.1)).Sublist (l.map (·.1)) := by
  induction l with
  | nil => exact .slnil
  | cons f l ih =>
    obtain ⟨key, o⟩ := f
    rw [fields_cons]
    cases o with
    | none => exact ih.cons key
    | some v => exact ih.cons_cons key

theorem lookup_append (key : String) (l l' : List (String × Json)) :
    lookup key (l ++ l') = (lookup key l').or (lookup key l) := by
  simp [lookup, List.find?_append, Option.map_or]

theorem lookup_eq_none {key : String} {l : List (String × Json)} (h : key ∉ l.map (·.1)) :
    lookup key l = none := by
  simp only [lookup, Option.map_eq_none_iff, List.find?_eq_none, List.mem_reverse, beq_iff_eq]
  intro m mem eq
  exact h (eq ▸ List.mem_map_of_mem mem)

/-- A field is found by its name. -/
theorem lookup_fields {l : List (String × Option Json)} (keys : (l.map (·.1)).Nodup)
    {key : String} {o : Option Json} (mem : (key, o) ∈ l) : lookup key (fields l) = o := by
  induction l with
  | nil => cases mem
  | cons f l ih =>
    obtain ⟨key', o'⟩ := f
    obtain ⟨fresh, keys⟩ := List.nodup_cons.1 keys
    rw [fields_cons, lookup_append]
    rcases List.mem_cons.1 mem with here | later
    · cases here
      have : lookup key (fields l) = none :=
        lookup_eq_none fun mem => fresh ((keys_fields l).subset mem)
      rw [this]
      cases o <;> simp [lookup]
    · have other : key' ≠ key := by
        rintro rfl
        exact fresh (List.mem_map.2 ⟨_, later, rfl⟩)
      rw [ih keys later, lookup_eq_none, Option.or_none]
      cases o' <;> simp [other.symm]

/-- A record with distinct names is accepted as it stands. -/
theorem record_fields (expected : String) (declared : List String)
    {l : List (String × Option Json)} (keys : (l.map (·.1)).Nodup) :
    record expected declared (.obj (fields l)) = .ok ⟨fields l, .missingField⟩ := by
  have nodup : ((fields l).map (·.1)).Nodup := keys.sublist (keys_fields l)
  have once (name : String) : ¬ 1 < (fields l).countP (fun m => m.1 == name) := by
    have := List.nodup_iff_count.1 nodup name
    rw [List.count_eq_countP, List.countP_map] at this
    exact Nat.not_lt.2 this
  have : declared.find? (fun f => 1 < (fields l).countP (fun m => m.1 == f)) = none := by
    simp [once]
  rw [record, this]

end Json

namespace Fields

variable {α : Type} {d : Decoder α} {enc : α → Json}

theorem of_map_some {x : Except DecodeError α} {a : α} (h : x.map some = .ok (some a)) :
    x = .ok a := by
  cases x with
  | error e => cases h
  | ok b =>
    cases h
    rfl

theorem exists_of_optional {fs : Fields} {name : String} {a : α}
    (h : fs.optional name d = .ok (some a)) : ∃ v, d v = .ok a := by
  unfold optional at h
  split at h
  · cases h
  · next v _ => exact ⟨v, of_map_some h⟩

/-- The value of a field that counts as there is not null. -/
theorem exists_of_nullable {fs : Fields} {name : String} {a : α}
    (h : fs.nullable name d = .ok (some a)) : ∃ v, v ≠ .null ∧ d v = .ok a := by
  unfold nullable at h
  split at h
  · cases h
  · next v _ =>
    unfold Decoder.nullable at h
    split at h
    · cases h
    · next nonnull => exact ⟨v, nonnull, of_map_some h⟩

@[simp] theorem need_some (fs : Fields) (name : String) (a : α) :
    fs.need name (some a) = .ok a := rfl

variable {l : List (String × Option Json)} {missing : String → DecodeError} {name : String}
  {o : Option α}

theorem optional_fields (keys : (l.map (·.1)).Nodup) (mem : (name, o.map enc) ∈ l)
    (reads : ∀ a ∈ o, d (enc a) = .ok a) :
    Fields.optional ⟨Json.fields l, missing⟩ name d = .ok o := by
  rw [optional, Json.lookup_fields keys mem]
  cases o with
  | none => rfl
  | some a =>
    show (d (enc a)).map some = _
    rw [reads a rfl]
    rfl

theorem nullable_fields (keys : (l.map (·.1)).Nodup) (mem : (name, o.map enc) ∈ l)
    (reads : ∀ a ∈ o, d (enc a) = .ok a) (nonnull : ∀ a ∈ o, enc a ≠ .null) :
    Fields.nullable ⟨Json.fields l, missing⟩ name d = .ok o := by
  rw [nullable, Json.lookup_fields keys mem]
  cases o with
  | none => rfl
  | some a =>
    show Decoder.nullable d (enc a) = _
    unfold Decoder.nullable
    split
    · next null => exact absurd null (nonnull a rfl)
    · rw [reads a rfl]
      rfl

end Fields

namespace Codec

variable {α : Type} {d : Decoder α} {enc : α → Json} {P : α → Prop}
  {l : List (String × Option Json)} {missing : String → DecodeError} {name : String}

/-- A field that was written is read back. -/
theorem optional_bind {β : Type} (c : Codec d enc P) (o : Option α) (keys : (l.map (·.1)).Nodup)
    (valid : ∀ a ∈ o, P a) (f : Option α → Except DecodeError β)
    (mem : (name, o.map enc) ∈ l) :
    (Fields.optional ⟨Json.fields l, missing⟩ name d >>= f) = f o := by
  rw [Fields.optional_fields keys mem fun a ha => c.reads a (valid a ha), ok_bind]

/-- A field that was written is read back, an absent one as absent. -/
theorem nullable_bind {β : Type} (c : Codec d enc P) (o : Option α) (keys : (l.map (·.1)).Nodup)
    (valid : ∀ a ∈ o, P a) (f : Option α → Except DecodeError β)
    (mem : (name, o.map enc) ∈ l) :
    (Fields.nullable ⟨Json.fields l, missing⟩ name d >>= f) = f o := by
  rw [Fields.nullable_fields keys mem (fun a ha => c.reads a (valid a ha))
    fun a ha => c.nonnull a (valid a ha), ok_bind]

theorem of_optional (c : Codec d enc P) {fs : Fields} {o : Option α}
    (h : fs.optional name d = .ok o) :
    ∀ a ∈ o, P a := by
  rintro a rfl
  obtain ⟨v, read⟩ := Fields.exists_of_optional h
  exact c.yields v a read

theorem of_nullable (c : Codec d enc P) {fs : Fields} {o : Option α}
    (h : fs.nullable name d = .ok o) :
    ∀ a ∈ o, P a := by
  rintro a rfl
  obtain ⟨v, -, read⟩ := Fields.exists_of_nullable h
  exact c.yields v a read

end Codec

/-! ## Canonical form -/

namespace Json

theorem canonicalMembers_eq_self {l : List (String × Json)} (h : ∀ m ∈ l, m.2.canonical = m.2) :
    canonicalMembers l = l := by
  induction l with
  | nil => rfl
  | cons m l ih =>
    rw [canonicalMembers, h m List.mem_cons_self,
      ih fun m' mem => h m' (List.mem_cons_of_mem _ mem)]

mutual

/-- A value in canonical form stays as it is. -/
theorem canonical_canonical : (v : Json) → v.canonical.canonical = v.canonical
  | .null => rfl
  | .bool _ => rfl
  | .num _ => rfl
  | .str _ => rfl
  | .arr items => by
    rw [canonical, canonical, canonicalItems_canonicalItems items]
  | .obj members => by
    have fixed : ∀ m ∈ (SortedMap.ofList (canonicalMembers members)).entries,
        m.2.canonical = m.2 := fun m mem =>
      canonical_of_mem_canonicalMembers members m (SortedMap.mem_of_mem_ofList mem)
    rw [canonical, canonical, canonicalMembers_eq_self fixed, SortedMap.ofList_entries]

theorem canonicalItems_canonicalItems :
    (items : List Json) → canonicalItems (canonicalItems items) = canonicalItems items
  | [] => rfl
  | v :: rest => by
    rw [canonicalItems, canonicalItems, canonical_canonical v, canonicalItems_canonicalItems rest]

theorem canonical_of_mem_canonicalMembers :
    (members : List (String × Json)) → ∀ m ∈ canonicalMembers members, m.2.canonical = m.2
  | [] => by simp [canonicalMembers]
  | (k, v) :: rest => by
    rw [canonicalMembers]
    intro m mem
    rcases List.mem_cons.1 mem with rfl | mem
    · exact canonical_canonical v
    · exact canonical_of_mem_canonicalMembers rest m mem

end

theorem canonical_ne_null {v : Json} (h : v ≠ .null) : v.canonical ≠ .null := by
  cases v <;> simp_all [canonical]

end Json

end NodeProvisioning

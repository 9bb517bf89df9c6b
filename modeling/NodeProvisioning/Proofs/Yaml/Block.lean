import NodeProvisioning.Proofs.Yaml.Scalar

/-!
# Written documents are told apart

A value in block style ends where something stands that cannot belong to it: a line at a smaller
margin, the next document, or nothing. Behind a key the items of a sequence stand at the margin of
the key itself, so that there a further key ends them, and the dash of an item does not. Under these
conditions a value and what follows it are both determined by the characters of the two, by
induction over the value. A stream of documents is the last case: what follows each of them is the
next one, or nothing.

## Main definitions

* `Yaml.Outside`, `Yaml.AfterMember` — what may follow a value, and what may follow it behind a key
* `Yaml.Told` — a value is told from what follows it

## Main statements

* `Yaml.writeKey_inj`, `Yaml.writeKey_ne_flat` — a key is told from others and from values
* `Yaml.told_of_whole` — every value without fractions is told from what follows it
* `Yaml.write_inj`, `Yaml.stream_inj` — a document, and a stream of them, determines its values
-/

namespace NodeProvisioning.Yaml

variable {m i : Nat} {v v' : Json} {rest rest' : List Char}

/-! ## Keys -/

/-- What stands at a smaller margin stands left of a margin. -/
theorem leftOf_margin {c : Char} (lt : i < m) (space : c ≠ ' ') (stays : isBreak c = false)
    (rest : List Char) : LeftOf m (margin i ++ c :: rest) where
  noBreak d more eq := by
    cases i with
    | zero =>
      cases eq
      exact stays
    | succ i =>
      cases eq
      decide
  noMargin := by
    rintro ⟨more, eq⟩
    obtain ⟨n, rfl⟩ := Nat.exists_eq_add_of_lt lt
    rw [margin, margin, Nat.add_assoc, List.replicate_add, List.append_assoc,
      List.append_cancel_left_eq] at eq
    exact space (List.cons.inj eq).1.symm

section Keys

variable {k k' : String} {c d : Char}

/-- **How a key is written**: in one of three forms on the line, or behind a mark. -/
inductive WrittenKey (i : Nat) (k : String) : List Char → Prop
  | word (isWord : IsWord k.toList) (noMark : hasDocumentMark k.toList = false) :
    WrittenKey i k (k.toList ++ [':'])
  | single (alike : ∀ m m', writeSingle m k.toList = writeSingle m' k.toList) :
    WrittenKey i k (writeSingle i k.toList ++ [':'])
  | double : WrittenKey i k (writeDouble k.toList ++ [':'])
  | marked : WrittenKey i k
    ('?' :: ' ' :: endLine (writeFlat (i + 2) (.str k)) ++ margin i ++ [':'])

theorem writtenKey (i : Nat) (k : String) : WrittenKey i k (writeKey i k) := by
  unfold writeKey
  by_cases simple : isSimpleKey k = true
  · rw [if_pos simple, writeText]
    have oneLine : ∀ c ∈ k.toList, isBreak c = false := by
      simp only [isSimpleKey, Bool.and_eq_true, Bool.not_eq_true', isMultiline] at simple
      simpa using simple.1
    cases form : style true k with
    | plain =>
      have allowed := (allowsPlain_of_style form).1
      refine .word (isWord_of_allowsPlain allowed) ?_
      simp only [allowsPlain, Bool.not_eq_true', Bool.or_eq_false_iff] at allowed
      exact allowed.1.1.1.2
    | single =>
      have alike (m m' : Nat) : writeSingle m k.toList = writeSingle m' k.toList := by
        rw [writeSingle_of_oneLine oneLine, writeSingle_of_oneLine oneLine]
      dsimp only
      rw [alike (i + 2) i]
      exact .single alike
    | double => exact .double
    | block => cases (style_eq_block form).2
  · rw [if_neg simple]
    exact .marked

/-- **A key** is told from what follows its colon, if that is a gap. -/
theorem writeKey_inj (hc : isGap c = true) (hd : isGap d = true)
    (same : writeKey i k ++ c :: rest = writeKey i k' ++ d :: rest') :
    k = k' ∧ c :: rest = d :: rest' := by
  have written := writtenKey i k
  have written' := writtenKey i k'
  generalize writeKey i k = key at same written
  generalize writeKey i k' = key' at same written'
  cases written with
  | word isWord _ =>
    rw [List.append_assoc] at same
    cases written' with
    | word isWord' _ =>
      rw [List.append_assoc] at same
      obtain ⟨text, after⟩ := isWord.key_inj isWord' hc hd same
      exact ⟨String.toList_inj.1 text, after⟩
    | single _ => exact (isWord.ne_quoted (by simp) same).elim
    | double => exact (isWord.ne_quoted (by simp) same).elim
    | marked => exact (isWord.ne_marked (.inr rfl) isGap_space same).elim
  | single _ =>
    cases written' with
    | word isWord' _ =>
      rw [List.append_assoc _ _ (d :: _)] at same
      exact (isWord'.ne_quoted (by simp) same.symm).elim
    | single _ =>
      rw [List.append_assoc, List.append_assoc] at same
      obtain ⟨text, after⟩ := writeSingle_inj (by simp) (by simp) same
      exact ⟨String.toList_inj.1 text, (List.cons.inj after).2⟩
    | double => cases same
    | marked => cases same
  | double =>
    cases written' with
    | word isWord' _ =>
      rw [List.append_assoc _ _ (d :: _)] at same
      exact (isWord'.ne_quoted (by simp) same.symm).elim
    | single _ => cases same
    | double =>
      rw [List.append_assoc, List.append_assoc] at same
      obtain ⟨text, after⟩ := writeDouble_inj same
      exact ⟨String.toList_inj.1 text, (List.cons.inj after).2⟩
    | marked => cases same
  | marked =>
    cases written' with
    | word isWord' _ =>
      rw [List.append_assoc _ _ (d :: _)] at same
      exact (isWord'.ne_marked (.inr rfl) isGap_space same.symm).elim
    | single _ => cases same
    | double => cases same
    | marked =>
      simp only [List.append_assoc, List.cons_append, List.cons.injEq, true_and] at same
      have left (c : Char) (rest : List Char) : LeftOf (i + 2) (margin i ++ ':' :: c :: rest) :=
        leftOf_margin (by omega) (by decide) (by decide) _
      obtain ⟨text, after⟩ :=
        endLine_writeFlat_inj (.str k) (.str k') rfl rfl (left _ _) (left _ _) same
      exact ⟨Json.str.inj text, by simpa using after⟩

/-- **A key** is told from a flat value on its lines. -/
theorem writeKey_ne_flat (whole : v.IsWhole) (hc : isGap c = true) :
    writeKey i k ++ c :: rest ≠ endLine (writeFlat m v) ++ rest' := by
  have written := writtenKey i k
  have written' := writtenFlat whole m
  generalize writeKey i k = key at written
  generalize endLine (writeFlat m v) = flat at written'
  intro same
  cases written' with
  | @word cs isWord' =>
    rw [List.append_assoc cs] at same
    cases written with
    | word isWord _ =>
      rw [List.append_assoc] at same
      exact isWord.key_ne_line isWord' hc same
    | single _ => exact isWord'.ne_quoted (by simp) same.symm
    | double => exact isWord'.ne_quoted (by simp) same.symm
    | marked => exact isWord'.ne_marked (.inr rfl) isGap_space same.symm
  | single =>
    cases written with
    | word isWord _ =>
      rw [List.append_assoc] at same
      exact isWord.ne_quoted (by simp) same
    | single alike =>
      rw [alike i m, List.append_assoc, List.append_assoc] at same
      cases (writeSingle_inj (by simp) (by simp) same).2
    | double => cases same
    | marked => cases same
  | double =>
    cases written with
    | word isWord _ =>
      rw [List.append_assoc] at same
      exact isWord.ne_quoted (by simp) same
    | single _ => cases same
    | double =>
      rw [List.append_assoc, List.append_assoc] at same
      cases (writeDouble_inj same).2
    | marked => cases same
  | block =>
    cases written with
    | word isWord _ =>
      rw [List.append_assoc] at same
      exact isWord.ne_quoted (by simp) same
    | _ => cases same

/-- **A key begins** with no gap, and with no mark of an item or of a document. -/
theorem writeKey_begins (i : Nat) (k : String) :
    (∃ c more, writeKey i k = c :: more ∧ c ≠ ' ' ∧ isBreak c = false) ∧
      (∀ rest rest', writeKey i k ++ rest ≠ '-' :: ' ' :: rest') ∧
      ∀ rest rest', writeKey i k ++ rest ≠ '-' :: '-' :: '-' :: rest' := by
  have written := writtenKey i k
  generalize writeKey i k = key at written
  cases written with
  | word isWord noMark =>
    refine ⟨?_, fun rest rest' same => ?_, fun rest rest' same => ?_⟩
    · obtain ⟨c, more, eq⟩ := List.exists_cons_of_ne_nil isWord.nonempty
      refine ⟨c, more ++ [':'], by rw [eq]; rfl, ?_, isWord.oneLine c (by simp [eq])⟩
      rintro rfl
      exact isWord.space more eq
    · rw [List.append_assoc] at same
      exact isWord.ne_marked (.inl rfl) isGap_space same
    · generalize k.toList = cs at isWord noMark same
      match cs with
      | [] => exact isWord.nonempty rfl
      | [a] => cases same
      | [a, b] => cases same
      | a :: b :: c :: more =>
        cases same
        cases noMark
  | single _ => exact ⟨⟨_, _, rfl, by decide, by decide⟩, nofun, nofun⟩
  | double => exact ⟨⟨_, _, rfl, by decide, by decide⟩, nofun, nofun⟩
  | marked => exact ⟨⟨_, _, rfl, by decide, by decide⟩, nofun, nofun⟩

end Keys

/-! ## What follows a value -/

/-- **What follows stands outside** of the values at a margin: nothing, the next document, or a line
at a smaller margin. -/
inductive Outside (i : Nat) : List Char → Prop
  | nothing : Outside i []
  | document (rest : List Char) : Outside i ('-' :: '-' :: '-' :: rest)
  | line {j : Nat} {c : Char} (lt : j < i) (space : c ≠ ' ') (stays : isBreak c = false)
    (rest : List Char) : Outside i (margin j ++ c :: rest)

theorem Outside.mono {j : Nat} (h : Outside i rest) (le : i ≤ j) : Outside j rest := by
  cases h with
  | nothing => exact .nothing
  | document rest => exact .document rest
  | line lt space stays rest => exact .line (Nat.lt_of_lt_of_le lt le) space stays rest

/-- What stands outside of the values at a margin stands left of it. -/
theorem Outside.leftOf (h : Outside (i + 1) rest) : LeftOf (i + 1) rest := by
  cases h with
  | nothing =>
    refine ⟨nofun, fun pre => ?_⟩
    have := pre.length_le
    simp [margin] at this
  | document rest => exact leftOf_margin (i := 0) (Nat.succ_pos i) (by decide) (by decide) _
  | line lt space stays rest => exact leftOf_margin lt space stays rest

/-- Two lines are at one margin if they are alike. -/
theorem margin_inj {j : Nat} {c d : Char} (hc : c ≠ ' ') (hd : d ≠ ' ')
    (same : margin i ++ c :: rest = margin j ++ d :: rest') :
    i = j ∧ c :: rest = d :: rest' := by
  induction i generalizing j with
  | zero =>
    cases j with
    | zero => exact ⟨rfl, same⟩
    | succ j =>
      cases same
      exact absurd rfl hc
  | succ i ih =>
    cases j with
    | zero =>
      cases same
      exact absurd rfl hd
    | succ j =>
      obtain ⟨rfl, after⟩ := ih (List.cons.inj same).2
      exact ⟨rfl, after⟩

/-- A line at the margin does not stand outside, unless it begins a document. -/
theorem Outside.ne_margin {c : Char} (h : Outside i rest) (space : c ≠ ' ')
    (document : ∀ more, c :: rest' ≠ '-' :: '-' :: '-' :: more) :
    rest ≠ margin i ++ c :: rest' := by
  cases h with
  | nothing => cases i <;> nofun
  | document rest =>
    intro same
    obtain ⟨rfl, same⟩ := margin_inj (i := 0) (by decide) space same
    exact document _ same.symm
  | @line j d lt space' stays rest =>
    intro same
    obtain ⟨rfl, -⟩ := margin_inj space' space same
    exact Nat.lt_irrefl _ lt

/-- **What may follow a member** of a mapping: the next one, or something outside, but no item. -/
structure AfterMember (i : Nat) (rest : List Char) : Prop where
  outside : Outside (i + 1) rest
  noItem : ∀ more, rest ≠ margin i ++ '-' :: ' ' :: more

theorem Outside.afterMember (h : Outside i rest) : AfterMember i rest :=
  ⟨h.mono (Nat.le_succ i), fun more => h.ne_margin (by decide) (by simp)⟩

theorem afterMember_key (i j : Nat) (k : String) (rest : List Char) :
    AfterMember i (margin i ++ writeKey j k ++ rest) := by
  obtain ⟨⟨c, more, eq, space, stays⟩, noItem, -⟩ := writeKey_begins j k
  refine ⟨?_, fun more' same => ?_⟩
  · rw [eq, List.append_assoc]
    exact .line (Nat.lt_succ_self i) space stays _
  · rw [List.append_assoc, List.append_cancel_left_eq] at same
    exact noItem _ _ same

/-! ## Values -/

/-- **A value is told** from what follows it, behind a key and as an item. -/
structure Told (v : Json) : Prop where
  member : ∀ {i : Nat} {v' : Json} {rest rest' : List Char}, v'.IsWhole → AfterMember i rest →
    AfterMember i rest' →
    writeMemberValue i v ++ rest = writeMemberValue i v' ++ rest' → v = v' ∧ rest = rest'
  item : ∀ {i : Nat} {v' : Json} {rest rest' : List Char}, v'.IsWhole → Outside (i + 2) rest →
    Outside (i + 2) rest' →
    writeItemValue i v ++ rest = writeItemValue i v' ++ rest' → v = v' ∧ rest = rest'

/-! ## Parts at one margin -/

section Parts

variable {α : Type} {part : α → List Char} {between : List Char}

/-- Parts with something between them. -/
def writeParts (part : α → List Char) (between : List Char) : List α → List Char
  | [] => []
  | [a] => part a
  | a :: b :: rest => part a ++ (between ++ writeParts part between (b :: rest))

/-- **Parts are told** from what follows them, if each part is told from what follows it: one more
part, or what follows all of them. -/
theorem writeParts_inj (Follows : List Char → Prop) {l l' : List α}
    (one : ∀ a ∈ l, ∀ b ∈ l', ∀ rest rest', Follows rest → Follows rest' →
      part a ++ rest = part b ++ rest' → a = b ∧ rest = rest')
    (more : ∀ a rest, Follows (between ++ (part a ++ rest)))
    (some : l ≠ []) (some' : l' ≠ []) (follows : Follows rest) (follows' : Follows rest')
    (stops : ∀ a more, rest ≠ between ++ (part a ++ more))
    (stops' : ∀ a more, rest' ≠ between ++ (part a ++ more))
    (same : writeParts part between l ++ rest = writeParts part between l' ++ rest') :
    l = l' ∧ rest = rest' := by
  -- Parts begin with the first of them.
  have begins (a : α) (l : List α) (rest : List Char) :
      ∃ more, writeParts part between (a :: l) ++ rest = part a ++ more := by
    cases l with
    | nil => exact ⟨rest, rfl⟩
    | cons b l => exact ⟨_, List.append_assoc ..⟩
  induction l generalizing l' with
  | nil => exact absurd rfl some
  | cons a l ih =>
    cases l' with
    | nil => exact absurd rfl some'
    | cons a' l' =>
      have first := one a List.mem_cons_self a' List.mem_cons_self
      cases l with
      | nil =>
        cases l' with
        | nil =>
          obtain ⟨head, tail⟩ := first _ _ follows follows' same
          exact ⟨congrArg (· :: []) head, tail⟩
        | cons b' l' =>
          obtain ⟨next, eq⟩ := begins b' l' rest'
          rw [writeParts, writeParts, List.append_assoc, List.append_assoc, eq] at same
          exact (stops _ _ (first _ _ follows (more _ _) same).2).elim
      | cons b l =>
        obtain ⟨next, eq⟩ := begins b l rest
        cases l' with
        | nil =>
          rw [writeParts, writeParts, List.append_assoc, List.append_assoc, eq] at same
          exact (stops' _ _ (first _ _ (more _ _) follows' same).2.symm).elim
        | cons b' l' =>
          obtain ⟨next', eq'⟩ := begins b' l' rest'
          rw [writeParts, writeParts, List.append_assoc, List.append_assoc, List.append_assoc,
            List.append_assoc, eq, eq'] at same
          obtain ⟨head, tail⟩ := first _ _ (more _ _) (more _ _) same
          rw [← eq, ← eq', List.append_cancel_left_eq] at tail
          obtain ⟨others, after⟩ := ih
            (fun c mem d mem' => one c (List.mem_cons_of_mem _ mem) d (List.mem_cons_of_mem _ mem'))
            (by simp) (by simp) tail
          exact ⟨by rw [head, others], after⟩

end Parts

/-- Items are parts with the margin between them. -/
theorem writeItems_eq (i : Nat) (l : List Json) :
    writeItems i l = writeParts (fun v => '-' :: ' ' :: writeItemValue i v) (margin i) l := by
  induction l with
  | nil => rfl
  | cons v l ih =>
    cases l with
    | nil => rfl
    | cons w l =>
      rw [writeItems, ih, writeParts, List.append_assoc]

/-- So are members. -/
theorem writeMembers_eq (i : Nat) (l : List (String × Json)) :
    writeMembers i l =
      writeParts (fun m => writeKey i m.1 ++ writeMemberValue i m.2) (margin i) l := by
  induction l with
  | nil => rfl
  | cons m l ih =>
    cases l with
    | nil => rfl
    | cons w l =>
      rw [writeMembers, ih, writeParts, List.append_assoc]

/-- **Items** are told from what follows them. -/
theorem writeItems_inj {l l' : List Json} (told : ∀ v ∈ l, Told v) (whole : ∀ v ∈ l', v.IsWhole)
    (some : l ≠ []) (some' : l' ≠ []) (after : AfterMember i rest) (after' : AfterMember i rest')
    (same : writeItems i l ++ rest = writeItems i l' ++ rest') : l = l' ∧ rest = rest' := by
  rw [writeItems_eq, writeItems_eq] at same
  refine writeParts_inj (Outside (i + 2)) ?_ ?_ some some'
    (after.outside.mono (Nat.le_succ _)) (after'.outside.mono (Nat.le_succ _))
    (fun v more => after.noItem _) (fun v more => after'.noItem _) same
  · intro v mem v' mem' rest rest' outside outside' same
    exact (told v mem).item (whole v' mem') outside outside'
      (List.cons.inj (List.cons.inj same).2).2
  · intro v rest
    exact .line (by omega) (by decide) (by decide) _

/-- What stands outside of members does not begin with a key at their margin. -/
theorem Outside.ne_key (h : Outside i rest) (j : Nat) (k : String) :
    rest ≠ margin i ++ (writeKey j k ++ rest') := by
  obtain ⟨⟨c, more, eq, space, -⟩, -, noMark⟩ := writeKey_begins j k
  rw [eq] at noMark ⊢
  exact h.ne_margin space (noMark rest')

/-- A value behind a key begins with a gap, so that the key ends at its colon. -/
theorem writeMemberValue_begins (i : Nat) (v : Json) :
    ∃ c more, writeMemberValue i v = c :: more ∧ isGap c = true := by
  unfold writeMemberValue
  split
  · split
    · exact ⟨_, _, rfl, isGap_space⟩
    · exact ⟨_, _, rfl, isGap_newline⟩
  · split
    · exact ⟨_, _, rfl, isGap_space⟩
    · exact ⟨_, _, rfl, isGap_newline⟩
  · exact ⟨_, _, rfl, isGap_space⟩

/-- **Members** are told from what follows them. -/
theorem writeMembers_inj {l l' : List (String × Json)} (told : ∀ m ∈ l, Told m.2)
    (whole : ∀ m ∈ l', m.2.IsWhole) (some : l ≠ []) (some' : l' ≠ []) (after : Outside i rest)
    (after' : Outside i rest')
    (same : writeMembers i l ++ rest = writeMembers i l' ++ rest') : l = l' ∧ rest = rest' := by
  rw [writeMembers_eq, writeMembers_eq] at same
  refine writeParts_inj (AfterMember i) ?_ ?_ some some' after.afterMember
    after'.afterMember (fun m more => ?_) (fun m more => ?_) same
  · rintro ⟨k, v⟩ mem ⟨k', v'⟩ mem' rest rest' after after' same
    dsimp only at same
    obtain ⟨c, more, eq, gap⟩ := writeMemberValue_begins i v
    obtain ⟨c', more', eq', gap'⟩ := writeMemberValue_begins i v'
    rw [List.append_assoc, List.append_assoc, eq, eq'] at same
    obtain ⟨key, same⟩ := writeKey_inj gap gap' same
    have values : writeMemberValue i v ++ rest = writeMemberValue i v' ++ rest' := by
      rw [eq, eq']
      exact same
    obtain ⟨value, left⟩ := (told _ mem).member (whole _ mem') after after' values
    exact ⟨Prod.ext key value, left⟩
  · intro m rest
    rw [List.append_assoc, ← List.append_assoc]
    exact afterMember_key i i m.1 _
  · rw [List.append_assoc]
    exact after.ne_key i m.1
  · rw [List.append_assoc]
    exact after'.ne_key i m.1

/-! ## All values -/

theorem writeMemberValue_of_isFlat (i : Nat) (flat : isFlat v = true) :
    writeMemberValue i v = ' ' :: endLine (writeFlat (i + 2) v) := by
  cases v with
  | arr items =>
    rw [eq_nil_of_isFlat_arr flat]
    rfl
  | obj members =>
    rw [eq_nil_of_isFlat_obj flat]
    rfl
  | _ => rfl

theorem writeItemValue_of_isFlat (i : Nat) (flat : isFlat v = true) :
    writeItemValue i v = endLine (writeFlat (i + 2) v) := by
  cases v with
  | arr items =>
    rw [eq_nil_of_isFlat_arr flat]
    rfl
  | obj members =>
    rw [eq_nil_of_isFlat_obj flat]
    rfl
  | _ => rfl

section Nested

variable {items : List Json} {members : List (String × Json)}

theorem writeMemberValue_arr (i : Nat) (some : items ≠ []) :
    writeMemberValue i (.arr items) = '\n' :: margin i ++ writeItems i items := by
  simp [writeMemberValue, some]

theorem writeMemberValue_obj (i : Nat) (some : members ≠ []) :
    writeMemberValue i (.obj members) = '\n' :: margin (i + 2) ++ writeMembers (i + 2) members := by
  simp [writeMemberValue, some]

theorem writeItemValue_arr (i : Nat) (some : items ≠ []) :
    writeItemValue i (.arr items) = writeItems (i + 2) items := by
  simp [writeItemValue, some]

theorem writeItemValue_obj (i : Nat) (some : members ≠ []) :
    writeItemValue i (.obj members) = writeMembers (i + 2) members := by
  simp [writeItemValue, some]

theorem writeItems_begins (i : Nat) (some : items ≠ []) :
    ∃ more, writeItems i items = '-' :: ' ' :: more := by
  match items with
  | [] => exact absurd rfl some
  | [v] => exact ⟨_, rfl⟩
  | v :: w :: rest => exact ⟨_, rfl⟩

theorem writeMembers_begins (i : Nat) (some : members ≠ []) :
    ∃ k c more, writeMembers i members = writeKey i k ++ c :: more ∧ isGap c = true := by
  match members with
  | [] => exact absurd rfl some
  | [(k, v)] =>
    obtain ⟨c, more, eq, gap⟩ := writeMemberValue_begins i v
    exact ⟨k, c, more, by rw [writeMembers, eq], gap⟩
  | (k, v) :: m :: rest =>
    obtain ⟨c, more, eq, gap⟩ := writeMemberValue_begins i v
    refine ⟨k, c, more ++ (margin i ++ writeMembers i (m :: rest)), ?_, gap⟩
    simp [writeMembers, eq]

theorem flat_ne_items (whole : v.IsWhole) (some : items ≠ []) :
    endLine (writeFlat m v) ++ rest ≠ writeItems i items ++ rest' := by
  obtain ⟨more, eq⟩ := writeItems_begins i some
  rw [eq]
  intro same
  have written := writtenFlat whole m
  generalize endLine (writeFlat m v) = flat at written same
  cases written with
  | word isWord =>
    rw [List.append_assoc] at same
    exact isWord.ne_marked (.inl rfl) isGap_space same
  | single => cases same
  | double => cases same
  | block => cases same

theorem flat_ne_members (whole : v.IsWhole) (some : members ≠ []) :
    endLine (writeFlat m v) ++ rest ≠ writeMembers i members ++ rest' := by
  obtain ⟨k, c, more, eq, gap⟩ := writeMembers_begins i some
  rw [eq, List.append_assoc]
  exact (writeKey_ne_flat whole gap).symm

theorem items_ne_members {j : Nat} (some : items ≠ []) (some' : members ≠ []) :
    writeItems j items ++ rest ≠ writeMembers i members ++ rest' := by
  obtain ⟨more, eq⟩ := writeItems_begins j some
  obtain ⟨k, c, more', eq', -⟩ := writeMembers_begins i some'
  rw [eq, eq', List.append_assoc]
  exact ((writeKey_begins i k).2.1 _ _).symm

/-- Items stand at another margin than the members of a mapping in their place. -/
theorem margin_items_ne_members {j : Nat} (ne : i ≠ j) (some : items ≠ []) (some' : members ≠ []) :
    margin i ++ (writeItems i items ++ rest) ≠ margin j ++ (writeMembers j members ++ rest') := by
  obtain ⟨more, eq⟩ := writeItems_begins i some
  obtain ⟨k, c, more', eq', -⟩ := writeMembers_begins j some'
  obtain ⟨⟨d, key, begins, space, -⟩, -⟩ := writeKey_begins j k
  rw [eq, eq', begins]
  intro same
  exact ne (margin_inj (by decide) space same).1

end Nested

/-- A value is flat, or a sequence or a mapping with something in it. -/
inductive Shape : Json → Prop
  | flat {v : Json} (flat : isFlat v = true) : Shape v
  | items {items : List Json} (some : items ≠ []) : Shape (.arr items)
  | members {members : List (String × Json)} (some : members ≠ []) : Shape (.obj members)

theorem shape (v : Json) : Shape v := by
  cases v with
  | arr items =>
    cases items with
    | nil => exact .flat rfl
    | cons => exact .items (by simp)
  | obj members =>
    cases members with
    | nil => exact .flat rfl
    | cons => exact .members (by simp)
  | _ => exact .flat rfl

-- Behind a key a flat value goes on with the line of the key, and anything else begins a line:
-- items at the margin of the key, members at a larger one. As items, all three begin differently.

theorem told_of_flat (whole : v.IsWhole) (flat : isFlat v = true) : Told v where
  member {i v' rest rest'} whole' after after' same := by
    rw [writeMemberValue_of_isFlat i flat] at same
    cases shape v' with
    | flat flat' =>
      rw [writeMemberValue_of_isFlat i flat'] at same
      exact endLine_writeFlat_inj whole whole' flat flat'
        (after.outside.mono (Nat.le_succ _)).leftOf (after'.outside.mono (Nat.le_succ _)).leftOf
        (List.cons.inj same).2
    | items some' =>
      rw [writeMemberValue_arr i some'] at same
      cases same
    | members some' =>
      rw [writeMemberValue_obj i some'] at same
      cases same
  item {i v' rest rest'} whole' outside outside' same := by
    rw [writeItemValue_of_isFlat i flat] at same
    cases shape v' with
    | flat flat' =>
      rw [writeItemValue_of_isFlat i flat'] at same
      exact endLine_writeFlat_inj whole whole' flat flat' outside.leftOf outside'.leftOf same
    | items some' =>
      rw [writeItemValue_arr i some'] at same
      exact (flat_ne_items whole some' same).elim
    | members some' =>
      rw [writeItemValue_obj i some'] at same
      exact (flat_ne_members whole some' same).elim

theorem told_of_items {items : List Json} (told : ∀ v ∈ items, Told v) (some : items ≠ []) :
    Told (.arr items) where
  member {i v' rest rest'} whole' after after' same := by
    rw [writeMemberValue_arr i some] at same
    cases shape v' with
    | flat flat' =>
      rw [writeMemberValue_of_isFlat i flat'] at same
      cases same
    | items some' =>
      rw [writeMemberValue_arr i some', List.append_assoc, List.append_assoc,
        List.append_cancel_left_eq] at same
      obtain ⟨rfl, left⟩ :=
        writeItems_inj told (Json.isWhole_arr_iff.1 whole') some some' after after' same
      exact ⟨rfl, left⟩
    | members some' =>
      rw [writeMemberValue_obj i some', List.append_assoc, List.append_assoc] at same
      exact (margin_items_ne_members (by omega) some some' (List.cons.inj same).2).elim
  item {i v' rest rest'} whole' outside outside' same := by
    rw [writeItemValue_arr i some] at same
    cases shape v' with
    | flat flat' =>
      rw [writeItemValue_of_isFlat i flat'] at same
      exact (flat_ne_items whole' some same.symm).elim
    | items some' =>
      rw [writeItemValue_arr i some'] at same
      obtain ⟨rfl, left⟩ := writeItems_inj told (Json.isWhole_arr_iff.1 whole') some some'
        outside.afterMember outside'.afterMember same
      exact ⟨rfl, left⟩
    | members some' =>
      rw [writeItemValue_obj i some'] at same
      exact (items_ne_members some some' same).elim

theorem told_of_members {members : List (String × Json)} (told : ∀ m ∈ members, Told m.2)
    (some : members ≠ []) : Told (.obj members) where
  member {i v' rest rest'} whole' after after' same := by
    rw [writeMemberValue_obj i some] at same
    cases shape v' with
    | flat flat' =>
      rw [writeMemberValue_of_isFlat i flat'] at same
      cases same
    | items some' =>
      rw [writeMemberValue_arr i some', List.append_assoc, List.append_assoc] at same
      exact (margin_items_ne_members (by omega) some' some (List.cons.inj same).2.symm).elim
    | members some' =>
      rw [writeMemberValue_obj i some', List.append_assoc, List.append_assoc,
        List.append_cancel_left_eq] at same
      obtain ⟨rfl, left⟩ := writeMembers_inj told (Json.isWhole_obj_iff.1 whole') some some'
        (after.outside.mono (Nat.le_succ _)) (after'.outside.mono (Nat.le_succ _)) same
      exact ⟨rfl, left⟩
  item {i v' rest rest'} whole' outside outside' same := by
    rw [writeItemValue_obj i some] at same
    cases shape v' with
    | flat flat' =>
      rw [writeItemValue_of_isFlat i flat'] at same
      exact (flat_ne_members whole' some same.symm).elim
    | items some' =>
      rw [writeItemValue_arr i some'] at same
      exact (items_ne_members some' some same.symm).elim
    | members some' =>
      rw [writeItemValue_obj i some'] at same
      obtain ⟨rfl, left⟩ := writeMembers_inj told (Json.isWhole_obj_iff.1 whole') some some'
        outside outside' same
      exact ⟨rfl, left⟩

/-- **Every value without fractions** is told from what follows it. -/
theorem told_of_whole (whole : v.IsWhole) : Told v := by
  induction whole with
  | null => exact told_of_flat .null rfl
  | bool b => exact told_of_flat (.bool b) rfl
  | integer small => exact told_of_flat (.integer small) rfl
  | str s => exact told_of_flat (.str s) rfl
  | @arr items whole told =>
    cases shape (.arr items) with
    | flat flat => exact told_of_flat (.arr whole) flat
    | items some => exact told_of_items told some
  | @obj members whole told =>
    cases shape (.obj members) with
    | flat flat => exact told_of_flat (.obj whole) flat
    | members some => exact told_of_members told some

/-! ## Documents -/

/-- Every document but that of a mapping is written as an item is. -/
theorem toList_write_of_ne (h : ∀ members, v = .obj members → members = []) :
    (write v).toList = writeItemValue 0 v := by
  cases v with
  | obj members =>
    rw [h members rfl]
    exact String.toList_ofList
  | _ => exact String.toList_ofList

theorem toList_write_obj {members : List (String × Json)} (some : members ≠ []) :
    (write (.obj members)).toList = writeMembers 0 members := by
  simp [write, some]

/-- No document but that of a mapping begins as one does. -/
theorem writeItemValue_ne_members {members : List (String × Json)} (whole : v.IsWhole)
    (h : ∀ members, v = .obj members → members = []) (some : members ≠ []) :
    writeItemValue 0 v ++ rest ≠ writeMembers 0 members ++ rest' := by
  cases shape v with
  | flat flat =>
    rw [writeItemValue_of_isFlat 0 flat]
    exact flat_ne_members whole some
  | items some' =>
    rw [writeItemValue_arr 0 some']
    exact items_ne_members some' some
  | members some' => exact absurd (h _ rfl) some'

/-- **A document** is told from what follows it. -/
theorem write_inj (whole : v.IsWhole) (whole' : v'.IsWhole) (outside : Outside 0 rest)
    (outside' : Outside 0 rest')
    (same : (write v).toList ++ rest = (write v').toList ++ rest') : v = v' ∧ rest = rest' := by
  have mapping (v : Json) : (∃ members, v = .obj members ∧ members ≠ []) ∨
      ∀ members, v = .obj members → members = [] := by
    cases v with
    | obj members => by_cases none : members = [] <;> simp [none]
    | _ => exact .inr nofun
  rcases mapping v with ⟨members, rfl, some⟩ | other <;>
    rcases mapping v' with ⟨members', rfl, some'⟩ | other'
  · rw [toList_write_obj some, toList_write_obj some'] at same
    have told := fun m mem => told_of_whole (Json.isWhole_obj_iff.1 whole m mem)
    obtain ⟨rfl, after⟩ := writeMembers_inj told (Json.isWhole_obj_iff.1 whole') some some'
      outside outside' same
    exact ⟨rfl, after⟩
  · rw [toList_write_obj some, toList_write_of_ne other'] at same
    exact (writeItemValue_ne_members whole' other' some same.symm).elim
  · rw [toList_write_of_ne other, toList_write_obj some'] at same
    exact (writeItemValue_ne_members whole other some' same).elim
  · rw [toList_write_of_ne other, toList_write_of_ne other'] at same
    exact (told_of_whole whole).item whole' (outside.mono (Nat.zero_le _))
      (outside'.mono (Nat.zero_le _)) same

/-- **A stream of documents**, each behind a line of its own, determines its values. -/
theorem stream_inj {l l' : List Json} (whole : ∀ v ∈ l, v.IsWhole) (whole' : ∀ v ∈ l', v.IsWhole)
    (same : String.join (l.map fun v => "---\n" ++ write v) =
      String.join (l'.map fun v => "---\n" ++ write v)) : l = l' := by
  have chars (v : Json) (l : List Json) :
      (String.join ((v :: l).map fun v => "---\n" ++ write v)).toList =
        '-' :: '-' :: '-' :: '\n' :: ((write v).toList ++
          (String.join (l.map fun v => "---\n" ++ write v)).toList) := by
    simp [String.join_cons]
  have outside (l : List Json) :
      Outside 0 (String.join (l.map fun v => "---\n" ++ write v)).toList := by
    cases l with
    | nil => exact .nothing
    | cons v l =>
      rw [chars]
      exact .document _
  induction l generalizing l' with
  | nil =>
    cases l' with
    | nil => rfl
    | cons v' l' =>
      have chars' := congrArg String.toList same
      rw [chars] at chars'
      cases chars'
  | cons v l ih =>
    have first := congrArg String.toList same
    rw [chars] at first
    cases l' with
    | nil => cases first
    | cons v' l' =>
      obtain ⟨here, later⟩ := List.forall_mem_cons.1 whole
      obtain ⟨here', later'⟩ := List.forall_mem_cons.1 whole'
      rw [chars] at first
      simp only [List.cons.injEq, true_and] at first
      obtain ⟨rfl, after⟩ := write_inj here here' (outside l) (outside l') first
      rw [ih later later' (String.toList_inj.1 after)]

end NodeProvisioning.Yaml

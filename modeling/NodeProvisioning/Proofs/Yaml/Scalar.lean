import NodeProvisioning.Proofs.Yaml.Text

/-!
# Written values without parts

A value that has no parts is written on the line of its key or item: a text in one of its forms,
anything else as a word. A word is read back, and since a text that would be read as another value
is never written without quotes, no two values are written as one word. So such a value and what
follows it on the left of its margin are determined by the characters of the two.

Numbers are integers here; nothing is said of fractions.

## Main definitions

* `Json.IsWhole` — a value all of whose numbers are integers
* `Yaml.isFlat`, `Yaml.writeFlat` — a value without parts, and what it is written as
* `Yaml.readWord` — what a word is read as
* `Yaml.WrittenFlat` — how a value without parts is written on its lines

## Main statements

* `Yaml.readWord_writeFlat` — what is written without quotes is read back
* `Yaml.endLine_writeFlat_inj` — a value without parts is told from what follows it
-/

namespace NodeProvisioning

/-- **A value without fractions**: every number in it is an integer of at most 64 bits. -/
inductive Json.IsWhole : Json → Prop
  | null : IsWhole .null
  | bool (b : Bool) : IsWhole (.bool b)
  | integer {n : Int} (small : n.natAbs < twoTo 64) : IsWhole (.num (.integer n))
  | str (s : String) : IsWhole (.str s)
  | arr {items : List Json} (whole : ∀ v ∈ items, IsWhole v) : IsWhole (.arr items)
  | obj {members : List (String × Json)} (whole : ∀ m ∈ members, IsWhole m.2) :
    IsWhole (.obj members)

theorem Json.isWhole_arr_iff {items : List Json} :
    (Json.arr items).IsWhole ↔ ∀ v ∈ items, v.IsWhole := by
  refine ⟨fun whole => ?_, .arr⟩
  cases whole with
  | arr whole => exact whole

theorem Json.isWhole_obj_iff {members : List (String × Json)} :
    (Json.obj members).IsWhole ↔ ∀ m ∈ members, m.2.IsWhole := by
  refine ⟨fun whole => ?_, .obj⟩
  cases whole with
  | obj whole => exact whole

namespace Yaml

variable {m : Nat} {v v' : Json} {cs rest rest' : List Char}

/-! ## Numbers -/

section Numbers

variable {n : Nat} {k : Int}

theorem isDigit_of_mem_decimalDigits {c : Char} (mem : c ∈ decimalDigits n) : c.isDigit = true :=
  Nat.isDigit_of_mem_toDigits (by decide) (by decide) mem

/-- A number is one digit, or that of its tenth part and one digit more. -/
theorem decimalDigits_of_lt (small : n < 10) : decimalDigits n = [n.digitChar] :=
  Nat.toDigits_of_lt_base small

theorem decimalDigits_of_le (large : 10 ≤ n) :
    decimalDigits n = decimalDigits (n / 10) ++ [(n % 10).digitChar] :=
  Nat.toDigits_of_base_le (by decide) large

theorem digitsIn?_decimalDigits (n : Nat) : digitsIn? 10 (decimalDigits n) = some n := by
  have digit : ∀ d < 10, Text.hexValue? d.digitChar = some d := by decide
  induction n using Nat.strongRecOn with
  | ind n ih =>
    rcases Nat.lt_or_ge n 10 with small | large
    · rw [decimalDigits_of_lt small]
      exact digitsIn?_singleton (digit n small) small
    · have lt : n % 10 < 10 := Nat.mod_lt n (by decide)
      rw [decimalDigits_of_le large, digitsIn?_concat (ih (n / 10) (by omega)) (digit _ lt) lt,
        Nat.div_add_mod']

theorem magnitude?_decimalDigits (n : Nat) : magnitude? (decimalDigits n) = some n := by
  have digits : ∀ c ∈ decimalDigits n, c.isDigit = true := fun c => isDigit_of_mem_decimalDigits
  rw [← digitsIn?_decimalDigits n]
  unfold magnitude?
  split
  · next eq => exact absurd (digits 'x' (by simp [eq])) (by decide)
  · next eq => exact absurd (digits 'o' (by simp [eq])) (by decide)
  · next eq => exact absurd (digits 'b' (by simp [eq])) (by decide)
  · rfl

theorem writeNumber_of_neg (neg : k < 0) :
    Json.writeNumber (.integer k) = '-' :: decimalDigits k.natAbs := if_pos neg

theorem writeNumber_of_nonneg (nonneg : ¬ k < 0) :
    Json.writeNumber (.integer k) = decimalDigits k.natAbs := if_neg nonneg

theorem decimalDigits_ne_cons {c : Char} (h : c.isDigit = false) (n : Nat) (more : List Char) :
    decimalDigits n ≠ c :: more := by
  intro same
  have := isDigit_of_mem_decimalDigits (n := n) (c := c) (by simp [same])
  rw [h] at this
  cases this

/-- Only zero begins with a zero. -/
theorem eq_zero_of_decimalDigits {more : List Char} (h : decimalDigits n = '0' :: more) :
    n = 0 := by
  induction n using Nat.strongRecOn generalizing more with
  | ind n ih =>
    rcases Nat.lt_or_ge n 10 with small | large
    · rw [decimalDigits_of_lt small] at h
      have all : ∀ n < 10, n.digitChar = '0' → n = 0 := by decide
      exact all n small (List.cons.inj h).1
    · obtain ⟨c, rest, digits⟩ := List.exists_cons_of_ne_nil
        (show decimalDigits (n / 10) ≠ [] from Nat.toDigits_ne_nil)
      rw [decimalDigits_of_le large, digits] at h
      obtain ⟨rfl, -⟩ := List.cons.inj h
      have := ih (n / 10) (by omega) digits
      omega

/-- The characters of an integer. -/
theorem mem_writeNumber {c : Char} (mem : c ∈ Json.writeNumber (.integer k)) :
    c = '-' ∨ c.isDigit = true := by
  by_cases neg : k < 0
  · rw [writeNumber_of_neg neg] at mem
    exact (List.mem_cons.1 mem).imp_right isDigit_of_mem_decimalDigits
  · rw [writeNumber_of_nonneg neg] at mem
    exact .inr (isDigit_of_mem_decimalDigits mem)

theorem unsigned_writeNumber (k : Int) :
    unsigned (Json.writeNumber (.integer k)) = decimalDigits k.natAbs := by
  by_cases neg : k < 0
  · rw [writeNumber_of_neg neg]
    rfl
  · rw [writeNumber_of_nonneg neg]
    unfold unsigned
    split
    · next eq => exact absurd eq (decimalDigits_ne_cons (by decide) _ _)
    · next eq => exact absurd eq (decimalDigits_ne_cons (by decide) _ _)
    · rfl

/-- No zero stands in front of other digits. -/
theorem isPaddedNumber_writeNumber (k : Int) :
    isPaddedNumber (Json.writeNumber (.integer k)) = false := by
  unfold isPaddedNumber
  split
  · next digits =>
    rw [unsigned_writeNumber] at digits
    rw [eq_zero_of_decimalDigits digits] at digits
    cases digits
  · rfl

theorem isInteger_writeNumber (small : k.natAbs < twoTo 64) :
    isInteger (Json.writeNumber (.integer k)) = true := by
  have enough : twoTo 64 ≤ twoTo 127 ∧ twoTo 64 ≤ twoTo 128 := by decide
  unfold isInteger
  rw [isPaddedNumber_writeNumber, if_neg (by decide), unsigned_writeNumber]
  split
  · next rest eq =>
    have size : rest = decimalDigits k.natAbs := by
      rw [← unsigned_writeNumber, eq]
      rfl
    rw [size, magnitude?_decimalDigits, Option.any_some, decide_eq_true_eq]
    exact Nat.le_of_lt (Nat.lt_of_lt_of_le small enough.1)
  · rw [magnitude?_decimalDigits, Option.any_some, decide_eq_true_eq]
    exact Nat.lt_of_lt_of_le small enough.2

theorem not_mem_of_head {l : List String} (h : l.all fun t =>
    t.toList.head?.all fun c => !(c = '-' || c.isDigit)) :
    l.contains (String.ofList (Json.writeNumber (.integer k))) = false := by
  obtain ⟨c, more, eq⟩ : ∃ c more, Json.writeNumber (.integer k) = c :: more := by
    refine List.exists_cons_of_ne_nil fun none => ?_
    have size := unsigned_writeNumber k
    rw [none] at size
    exact Nat.toDigits_ne_nil size.symm
  rw [List.contains_eq_mem, decide_eq_false_iff_not]
  intro mem
  have head := List.all_eq_true.1 h _ mem
  rw [String.toList_ofList, eq] at head
  rcases mem_writeNumber (k := k) (c := c) (by simp [eq]) with rfl | digit
  · cases head
  · simp [digit] at head

/-- **An integer without quotes** is read as a number. -/
theorem ofPlain_writeNumber (small : k.natAbs < twoTo 64) :
    Node.ofPlain (String.ofList (Json.writeNumber (.integer k))) =
      .number (String.ofList (Json.writeNumber (.integer k))) := by
  have null : isNull (String.ofList (Json.writeNumber (.integer k))) = false :=
    not_mem_of_head (by decide)
  have bool : isBool (String.ofList (Json.writeNumber (.integer k))) = false :=
    not_mem_of_head (by decide)
  simp [Node.ofPlain, null, bool, readsAsText, isPaddedNumber_writeNumber,
    isInteger_writeNumber small]

/-- An integer is known by its characters. -/
theorem writeNumber_inj {l : Int}
    (same : Json.writeNumber (.integer k) = Json.writeNumber (.integer l)) : k = l := by
  have size {m n : Nat} (same : decimalDigits m = decimalDigits n) : m = n := by
    have read := digitsIn?_decimalDigits m
    rw [same, digitsIn?_decimalDigits] at read
    exact (Option.some.inj read).symm
  by_cases neg : k < 0 <;> by_cases neg' : l < 0
  · rw [writeNumber_of_neg neg, writeNumber_of_neg neg'] at same
    have := size (List.cons.inj same).2
    omega
  · rw [writeNumber_of_neg neg, writeNumber_of_nonneg neg'] at same
    exact absurd same.symm (decimalDigits_ne_cons (by decide) _ _)
  · rw [writeNumber_of_nonneg neg, writeNumber_of_neg neg'] at same
    exact absurd same (decimalDigits_ne_cons (by decide) _ _)
  · rw [writeNumber_of_nonneg neg, writeNumber_of_nonneg neg'] at same
    have := size same
    omega

end Numbers

/-! ## Values on one line -/

/-- Nothing of a flat value stands on lines of its own. -/
def isFlat : Json → Bool
  | .arr (_ :: _) => false
  | .obj (_ :: _) => false
  | _ => true

/-- What a flat value is written as. -/
def writeFlat (m : Nat) : Json → List Char
  | .arr _ => ['[', ']']
  | .obj _ => ['\x7b', '\x7d']
  | v => writeScalar m v

/-- The form of a flat value: that of a text, or none. -/
def flatStyle : Json → Style
  | .str s => style false s
  | _ => .plain

/-- A value in quotes is a text. -/
theorem exists_str_of_flatStyle (h : flatStyle v ≠ .plain) :
    ∃ s, v = .str s ∧ style false s = flatStyle v := by
  cases v with
  | str s => exact ⟨s, rfl, rfl⟩
  | _ => exact absurd rfl h

/-- A character that means nothing anywhere in a word. -/
def isMute (c : Char) : Bool := !isGap c && c ≠ ':' && !(['\'', '"', '|'].contains c)

theorem isMute_iff {c : Char} :
    isMute c = true ↔ isGap c = false ∧ c ≠ ':' ∧ c ∉ ['\'', '"', '|'] := by
  simp [isMute, and_assoc]

theorem isMute_of_isDigit {c : Char} (h : c.isDigit = true) : isMute c = true := by
  have bounds : 48 ≤ c.toNat ∧ c.toNat ≤ 57 := by
    simpa [Char.isDigit, UInt32.le_iff_toNat_le] using h
  have all : ∀ n < 58, 48 ≤ n → isMute (Char.ofNat n) = true := by decide
  rw [← Char.ofNat_toNat c]
  exact all _ (by omega) bounds.1

/-- Mute characters are a word, unless they are a mark by themselves. -/
theorem isWord_of_mute (cs : List Char) (nonempty : cs ≠ []) (mute : cs.all isMute = true)
    (mark : cs ≠ ['-'] ∧ cs ≠ ['?']) : IsWord cs := by
  have means {c : Char} (mem : c ∈ cs) := isMute_iff.1 (List.all_eq_true.1 mute c mem)
  refine ⟨nonempty, fun rest => ?_, ?_, ?_, ?_, ?_⟩
  · obtain ⟨c, more, rfl⟩ := List.exists_cons_of_ne_nil nonempty
    exact opening_eq_plain_iff.2 (means (c := c) (by simp)).2.2
  · rintro more rfl
    simpa using (means (c := ' ') (by simp)).1
  · rintro c more rfl isMark
    cases more with
    | nil => rcases isMark with rfl | rfl <;> simp at mark
    | cons d rest => exact ⟨d, rest, rfl, (means (by simp)).1⟩
  · intro c mem
    have gap := (means mem).1
    simp only [isGap, Bool.or_eq_false_iff] at gap
    exact gap.2
  · rintro before after rfl
    exact absurd rfl (means (c := ':') (by simp)).2.1

/-- Digits and a sign are a word. -/
theorem isWord_writeNumber (n : Int) : IsWord (Json.writeNumber (.integer n)) := by
  have mute : (Json.writeNumber (.integer n)).all isMute = true := by
    refine List.all_eq_true.2 fun c mem => ?_
    rcases mem_writeNumber mem with rfl | digit
    · decide
    · exact isMute_of_isDigit digit
  have digits : decimalDigits n.natAbs ≠ [] := Nat.toDigits_ne_nil
  by_cases neg : n < 0
  · rw [writeNumber_of_neg neg] at mute ⊢
    exact isWord_of_mute _ (by simp) mute (by simp [digits])
  · rw [writeNumber_of_nonneg neg] at mute ⊢
    exact isWord_of_mute _ digits mute
      ⟨decimalDigits_ne_cons (by decide) _ _, decimalDigits_ne_cons (by decide) _ _⟩

theorem writeFlat_num (m : Nat) (n : Number) : writeFlat m (.num n) = Json.writeNumber n :=
  String.toList_ofList

/-- **Without quotes** a flat value is a word. -/
theorem isWord_writeFlat (whole : v.IsWhole) (plain : flatStyle v = .plain) :
    IsWord (writeFlat m v) := by
  cases whole with
  | null => exact isWord_of_mute ['n', 'u', 'l', 'l'] (by decide) rfl (by decide)
  | bool b =>
    cases b with
    | false => exact isWord_of_mute ['f', 'a', 'l', 's', 'e'] (by decide) rfl (by decide)
    | true => exact isWord_of_mute ['t', 'r', 'u', 'e'] (by decide) rfl (by decide)
  | integer small =>
    rw [writeFlat_num]
    exact isWord_writeNumber _
  | str s =>
    have form : style false s = .plain := plain
    show IsWord (writeText false m s)
    rw [writeText, form]
    exact isWord_of_allowsPlain (allowsPlain_of_style form).1
  | arr whole => exact isWord_of_mute ['[', ']'] (by decide) rfl (by decide)
  | obj whole => exact isWord_of_mute ['\x7b', '\x7d'] (by decide) rfl (by decide)

/-- What a word is read as. -/
def readWord : List Char → Node
  | '[' :: _ => .sequence []
  | '\x7b' :: _ => .mapping []
  | cs => .ofPlain (String.ofList cs)

/-- The value that is read where a flat value was written. -/
def nodeOfFlat : Json → Node
  | .null => .null
  | .bool b => .bool b
  | .num n => .number (String.ofList (Json.writeNumber n))
  | .str s => .text s
  | .arr _ => .sequence []
  | .obj _ => .mapping []

theorem readWord_of_ne (bracket : ∀ more, cs ≠ '[' :: more) (brace : ∀ more, cs ≠ '\x7b' :: more) :
    readWord cs = .ofPlain (String.ofList cs) := by
  unfold readWord
  split
  · exact absurd rfl (bracket _)
  · exact absurd rfl (brace _)
  · rfl

/-- **A flat value without quotes** is read back: a text that would be read as another value has
quotes. -/
theorem readWord_writeFlat (whole : v.IsWhole) (plain : flatStyle v = .plain) :
    readWord (writeFlat m v) = nodeOfFlat v := by
  cases whole with
  | null => rfl
  | bool b => cases b <;> rfl
  | @integer n small =>
    have digits {c : Char} (h : c ≠ '-' ∧ c.isDigit = false) (more : List Char) :
        Json.writeNumber (.integer n) ≠ c :: more := by
      intro eq
      rcases mem_writeNumber (k := n) (c := c) (by simp [eq]) with dash | digit
      · exact h.1 dash
      · rw [h.2] at digit
        cases digit
    rw [writeFlat_num, readWord_of_ne (digits (by decide)) (digits (by decide)),
      ofPlain_writeNumber small]
    rfl
  | str s =>
    have form : style false s = .plain := plain
    obtain ⟨allowed, read⟩ := allowsPlain_of_style form
    have written : writeFlat m (.str s) = s.toList := by
      show writeText false m s = _
      rw [writeText, form]
    rw [written, readWord_of_ne, String.ofList_toList, Node.ofPlain_of_readsAsText read]
    · rfl
    · intro more eq
      simp [eq, allowsPlain, hasLeadingMark, isLeadingMark] at allowed
    · intro more eq
      simp [eq, allowsPlain, hasLeadingMark, isLeadingMark] at allowed
  | arr whole => rfl
  | obj whole => rfl

theorem eq_nil_of_isFlat_arr {items : List Json} (flat : isFlat (.arr items) = true) :
    items = [] := by
  cases items with
  | nil => rfl
  | cons => cases flat

theorem eq_nil_of_isFlat_obj {members : List (String × Json)}
    (flat : isFlat (.obj members) = true) : members = [] := by
  cases members with
  | nil => rfl
  | cons => cases flat

/-- A flat value is known by what it is read as. -/
theorem eq_of_nodeOfFlat (flat : isFlat v = true) (flat' : isFlat v' = true) (whole : v.IsWhole)
    (whole' : v'.IsWhole) (same : nodeOfFlat v = nodeOfFlat v') : v = v' := by
  cases whole with
  | null => cases whole' <;> first | rfl | cases same
  | bool b =>
    cases whole' <;> cases same
    rfl
  | integer small =>
    cases whole' with
    | integer small' =>
      have digits := congrArg String.toList (Node.number.inj same)
      rw [String.toList_ofList, String.toList_ofList] at digits
      rw [writeNumber_inj digits]
    | _ => cases same
  | str s =>
    cases whole' <;> cases same
    rfl
  | arr whole =>
    cases whole' with
    | arr whole' => rw [eq_nil_of_isFlat_arr flat, eq_nil_of_isFlat_arr flat']
    | _ => cases same
  | obj whole =>
    cases whole' with
    | obj whole' => rw [eq_nil_of_isFlat_obj flat, eq_nil_of_isFlat_obj flat']
    | _ => cases same

/-! ## Flat values on their lines -/

theorem endLine_concat {c : Char} (stays : isBreak c = false) (cs : List Char) :
    endLine (cs ++ [c]) = cs ++ [c, '\n'] := by
  simp [endLine, stays]

theorem endLine_of_isWord (h : IsWord cs) : endLine cs = cs ++ ['\n'] := by
  obtain ⟨before, c, rfl⟩ := (List.eq_nil_or_concat cs).resolve_left h.nonempty
  rw [List.concat_eq_append] at *
  rw [endLine_concat (h.oneLine c (by simp)), List.append_assoc]
  rfl

theorem endLine_writeSingle (m : Nat) (cs : List Char) :
    endLine (writeSingle m cs) = writeSingle m cs ++ ['\n'] := by
  rw [writeSingle, endLine_concat isBreak_quote, List.append_assoc]
  rfl

theorem endLine_writeDouble (cs : List Char) :
    endLine (writeDouble cs) = writeDouble cs ++ ['\n'] := by
  rw [writeDouble, endLine_concat (by decide), List.append_assoc]
  rfl

/-- The first character of a flat value tells its form. -/
theorem opening_writeFlat (whole : v.IsWhole) (m : Nat) (rest : List Char) :
    opening (writeFlat m v ++ rest) = flatStyle v := by
  by_cases plain : flatStyle v = .plain
  · rw [plain, (isWord_writeFlat whole plain).opening]
  · obtain ⟨s, rfl, form⟩ := exists_str_of_flatStyle plain
    exact opening_writeText false m s rest

theorem exists_endLine_append (cs rest : List Char) :
    ∃ more, endLine cs ++ rest = cs ++ more := by
  unfold endLine
  split
  · exact ⟨_, rfl⟩
  · exact ⟨_, List.append_assoc ..⟩

/-- **How a flat value is written** on its lines: as a word, as a text in quotes, or as a block. -/
inductive WrittenFlat (m : Nat) : List Char → Prop
  | word {cs : List Char} (isWord : IsWord cs) : WrittenFlat m (cs ++ ['\n'])
  | single (cs : List Char) : WrittenFlat m (writeSingle m cs ++ ['\n'])
  | double (cs : List Char) : WrittenFlat m (writeDouble cs ++ ['\n'])
  | block (cs : List Char) : WrittenFlat m ('|' :: cs)

theorem writtenFlat (whole : v.IsWhole) (m : Nat) : WrittenFlat m (endLine (writeFlat m v)) := by
  by_cases plain : flatStyle v = .plain
  · have word := isWord_writeFlat (m := m) whole plain
    rw [endLine_of_isWord word]
    exact .word word
  · obtain ⟨s, rfl, form⟩ := exists_str_of_flatStyle plain
    have text : writeFlat m (.str s) = writeText false m s := rfl
    rw [text, writeText, form]
    cases kind : flatStyle (.str s) with
    | plain => exact absurd kind plain
    | single =>
      dsimp only
      rw [endLine_writeSingle]
      exact .single _
    | double =>
      dsimp only
      rw [endLine_writeDouble]
      exact .double _
    | block =>
      obtain ⟨more, eq⟩ := exists_endLine_append (blockHeader s.toList ++
        '\n' :: writeLines m true s.toList) []
      rw [List.append_nil] at eq
      dsimp only
      rw [eq]
      exact .block _

/-- **A flat value on its lines** is told from what follows on the left of its margin. -/
theorem endLine_writeFlat_inj (whole : v.IsWhole) (whole' : v'.IsWhole) (flat : isFlat v = true)
    (flat' : isFlat v' = true) (left : LeftOf m rest) (left' : LeftOf m rest')
    (same : endLine (writeFlat m v) ++ rest = endLine (writeFlat m v') ++ rest') :
    v = v' ∧ rest = rest' := by
  have alike : flatStyle v = flatStyle v' := by
    obtain ⟨more, eq⟩ := exists_endLine_append (writeFlat m v) rest
    obtain ⟨more', eq'⟩ := exists_endLine_append (writeFlat m v') rest'
    rw [← opening_writeFlat whole m more, ← opening_writeFlat whole' m more', ← eq, ← eq', same]
  by_cases plain : flatStyle v = .plain
  · have word := isWord_writeFlat (m := m) whole plain
    have word' := isWord_writeFlat (m := m) whole' (alike ▸ plain)
    rw [endLine_of_isWord word, endLine_of_isWord word', List.append_assoc,
      List.append_assoc] at same
    obtain ⟨words, after⟩ := line_inj word.oneLine word'.oneLine same
    refine ⟨?_, after⟩
    have read := readWord_writeFlat (m := m) whole plain
    rw [words, readWord_writeFlat whole' (alike ▸ plain)] at read
    exact eq_of_nodeOfFlat flat flat' whole whole' read.symm
  · obtain ⟨s, rfl, form⟩ := exists_str_of_flatStyle plain
    obtain ⟨s', rfl, form'⟩ := exists_str_of_flatStyle (alike ▸ plain)
    have text : writeFlat m (.str s) = writeText false m s := rfl
    have text' : writeFlat m (.str s') = writeText false m s' := rfl
    rw [text, text', writeText, writeText, form, form', alike] at same
    cases kind : flatStyle (.str s') with
    | plain => exact absurd (alike.trans kind) plain
    | single =>
      rw [kind] at same
      simp only [endLine_writeSingle, List.append_assoc] at same
      obtain ⟨chars, same⟩ := writeSingle_inj (by simp) (by simp) same
      exact ⟨congrArg Json.str (String.toList_inj.1 chars), (List.cons.inj same).2⟩
    | double =>
      rw [kind] at same
      simp only [endLine_writeDouble, List.append_assoc] at same
      obtain ⟨chars, same⟩ := writeDouble_inj same
      exact ⟨congrArg Json.str (String.toList_inj.1 chars), (List.cons.inj same).2⟩
    | block =>
      rw [kind] at same
      have some := (style_eq_block (form.trans (alike.trans kind))).1
      have some' := (style_eq_block (form'.trans kind)).1
      obtain ⟨chars, after⟩ := writeBlock_inj left left' some some' same
      exact ⟨congrArg Json.str (String.toList_inj.1 chars), after⟩

end Yaml

end NodeProvisioning

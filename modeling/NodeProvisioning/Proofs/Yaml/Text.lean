import Mathlib.Algebra.Group.Nat.Defs
import Mathlib.Data.List.Basic
import NodeProvisioning.Yaml.Block
import NodeProvisioning.Yaml.Flow

/-!
# Written texts are told apart

A text is written in one of four forms, and where its form ends something else follows.  The text
and what follows it are both determined by the characters of the two, and this is said of each form
in turn.

* **Without quotes** a text has one line, so it ends with the line; a key ends before its colon,
  since no colon inside it is followed by a gap.
* **Between single quotes** a quote is written twice, so that a single one is the end.
* **Between double quotes** a text is read back as it was written.
* **As a block** a text ends with the first line that stands left of its margin.

## Main definitions

* `Yaml.LeftOf` — what follows stands left of a margin
* `Yaml.WrittenDouble` — how a character is written between double quotes
* `Yaml.ColonFree`, `Yaml.IsWord` — no colon of a text ends a key, and nothing else in it is a mark
* `Yaml.opening` — the form that the first character tells

## Main statements

* `Yaml.readDouble_writeDouble` — a text between double quotes is read back
* `Yaml.writeSingle_inj`, `Yaml.writeDouble_inj`, `Yaml.writeBlock_inj`,
  `Yaml.IsWord.key_inj` — a text in each form is told from what follows
-/

namespace NodeProvisioning.Yaml

variable {m : Nat} {fresh : Bool} {c d : Char} {cs cs' rest rest' : List Char}

@[simp] theorem isBreak_newline : isBreak '\n' = true := rfl

@[simp] theorem isBreak_space : isBreak ' ' = false := rfl

@[simp] theorem isBreak_quote : isBreak '\'' = false := rfl

@[simp] theorem isGap_newline : isGap '\n' = true := rfl

@[simp] theorem isGap_space : isGap ' ' = true := rfl

/-- Characters are divided at the first line break. -/
theorem line_inj (line : ∀ c ∈ cs, isBreak c = false) (line' : ∀ c ∈ cs', isBreak c = false)
    (same : cs ++ '\n' :: rest = cs' ++ '\n' :: rest') : cs = cs' ∧ rest = rest' := by
  have broken {before between : List Char}
      (line : ∀ c ∈ before ++ '\n' :: between, isBreak c = false) : False := by
    simpa using line '\n' (by simp)
  rcases List.append_eq_append_iff.1 same with ⟨between, rfl, tail⟩ | ⟨between, rfl, tail⟩
  · cases between with
    | nil => exact ⟨by simp, (List.cons.inj tail).2⟩
    | cons c between =>
      obtain ⟨rfl, -⟩ := List.cons.inj tail
      exact (broken line').elim
  · cases between with
    | nil => exact ⟨by simp, (List.cons.inj tail).2.symm⟩
    | cons c between =>
      obtain ⟨rfl, -⟩ := List.cons.inj tail
      exact (broken line).elim

/-! ## Lines with a margin -/

/-- What one character adds to lines with a margin. -/
def writeInLine (m : Nat) (fresh : Bool) (c : Char) : List Char :=
  if isBreak c then [c] else (if fresh then margin m else []) ++ [c]

theorem writeLines_cons (m : Nat) (fresh : Bool) (c : Char) (cs : List Char) :
    writeLines m fresh (c :: cs) = writeInLine m fresh c ++ writeLines m (isBreak c) cs := by
  rw [writeLines, writeInLine]
  by_cases ends : isBreak c = true
  · simp [ends]
  · simp [ends]

/-- A character is told from what follows it. -/
theorem writeInLine_inj (same : writeInLine m fresh c ++ rest = writeInLine m fresh d ++ rest') :
    c = d ∧ rest = rest' := by
  have head {c d : Char} {rest rest' : List Char} (ends : isBreak c = true)
      (stays : isBreak d = false)
      (same : c :: rest = (if fresh then margin m else []) ++ d :: rest') : False := by
    cases m with
    | zero => grind [margin]
    | succ m => cases fresh <;> grind [margin, isBreak_space]
  simp only [writeInLine] at same
  by_cases hc : isBreak c = true <;> by_cases hd : isBreak d = true
  · simpa [hc, hd] using same
  · exact (head hc (eq_false_of_ne_true hd) (by simpa [hc, hd] using same)).elim
  · exact (head hd (eq_false_of_ne_true hc) (by simpa [hc, hd] using same.symm)).elim
  · simpa [hc, hd] using same

/-- A text of one line needs no margin. -/
theorem writeLines_of_oneLine (oneLine : ∀ c ∈ cs, isBreak c = false) :
    writeLines m false cs = cs := by
  induction cs with
  | nil => rfl
  | cons c cs ih =>
    obtain ⟨here, later⟩ := List.forall_mem_cons.1 oneLine
    rw [writeLines_cons, here, ih later, writeInLine, if_neg (by simp [here])]
    rfl

/-! ## Between single quotes -/

/-- A character between single quotes begins with itself; a quote comes twice. -/
theorem writeLines_writeSingleChar (m : Nat) (fresh : Bool) (c : Char) (cs : List Char) :
    writeLines m fresh (writeSingleChar c ++ cs) = writeInLine m fresh c ++
      if c = '\'' then '\'' :: writeLines m false cs else writeLines m (isBreak c) cs := by
  by_cases quote : c = '\''
  · subst quote
    simp [writeSingleChar, writeLines_cons, writeInLine]
  · simp [writeSingleChar, writeLines_cons, quote]

/-- Only a quote looks like the quote at the end. -/
theorem eq_quote_of_writeInLine (same : '\'' :: rest = writeInLine m fresh c ++ rest') :
    c = '\'' ∧ rest = rest' := by
  unfold writeInLine at same
  by_cases ends : isBreak c = true
  · grind [isBreak_quote]
  · cases m <;> cases fresh <;> grind [margin]

/-- Where the quotes end, no more of the text does: a quote in it comes twice. -/
theorem quote_ne_writeSingleChar (after : ∀ more, rest ≠ '\'' :: more) :
    '\'' :: rest ≠ writeLines m fresh (writeSingleChar c ++ cs) ++ rest' := by
  intro same
  rw [writeLines_writeSingleChar, List.append_assoc] at same
  obtain ⟨rfl, same⟩ := eq_quote_of_writeInLine same
  exact after _ same

theorem writeLines_flatMap_inj (after : ∀ more, rest ≠ '\'' :: more)
    (after' : ∀ more, rest' ≠ '\'' :: more)
    (same : writeLines m fresh (cs.flatMap writeSingleChar) ++ '\'' :: rest =
      writeLines m fresh (cs'.flatMap writeSingleChar) ++ '\'' :: rest') :
    cs = cs' ∧ rest = rest' := by
  induction cs generalizing cs' fresh with
  | nil =>
    cases cs' with
    | nil => simpa [writeLines] using same
    | cons d cs' => exact (quote_ne_writeSingleChar after same).elim
  | cons c cs ih =>
    cases cs' with
    | nil => exact (quote_ne_writeSingleChar after' same.symm).elim
    | cons d cs' =>
      simp only [List.flatMap_cons, writeLines_writeSingleChar, List.append_assoc] at same
      obtain ⟨rfl, same⟩ := writeInLine_inj same
      by_cases quote : c = '\''
      · rw [if_pos quote, if_pos quote, List.cons_append, List.cons_append] at same
        obtain ⟨rfl, left⟩ := ih (List.cons.inj same).2
        exact ⟨rfl, left⟩
      · rw [if_neg quote, if_neg quote] at same
        obtain ⟨rfl, left⟩ := ih same
        exact ⟨rfl, left⟩

/-- **A text between single quotes** is told from what follows the quote that ends it, if that is
not one more quote. -/
theorem writeSingle_inj (after : ∀ more, rest ≠ '\'' :: more)
    (after' : ∀ more, rest' ≠ '\'' :: more)
    (same : writeSingle m cs ++ rest = writeSingle m cs' ++ rest') : cs = cs' ∧ rest = rest' :=
  writeLines_flatMap_inj after after' (by simpa [writeSingle] using same)

/-- On one line a text between single quotes does not depend on the margin. -/
theorem writeSingle_of_oneLine (oneLine : ∀ c ∈ cs, isBreak c = false) (m : Nat) :
    writeSingle m cs = '\'' :: cs.flatMap writeSingleChar ++ ['\''] := by
  rw [writeSingle, writeLines_of_oneLine]
  intro c mem
  obtain ⟨d, inside, mem⟩ := List.mem_flatMap.1 mem
  have same : c = d := by
    unfold writeSingleChar at mem
    split at mem
    · next quote => simpa [quote] using mem
    · simpa using mem
  exact same ▸ oneLine d inside

/-! ## Between double quotes -/

/-- A letter after a backslash is read as the character that it stands for. -/
theorem escapedLetter?_escapeLetter? (h : escapeLetter? c = some d) :
    escapedLetter? d = some c := by
  unfold escapeLetter? at h
  split at h <;> cases h <;> rename_i code <;> rw [← Char.ofNat_toNat c, code] <;> decide

theorem digitsIn?_singleton {base n : Nat} (digit : Text.hexValue? c = some n) (lt : n < base) :
    digitsIn? base [c] = some n := by
  simp [digitsIn?, digit, lt]

/-- One more digit. -/
theorem digitsIn?_concat {base k n : Nat} (read : digitsIn? base cs = some k)
    (digit : Text.hexValue? c = some n) (lt : n < base) :
    digitsIn? base (cs ++ [c]) = some (k * base + n) := by
  have nonempty : cs.isEmpty = false := by
    cases cs with
    | nil => cases read
    | cons => rfl
  rw [digitsIn?, nonempty] at read
  rw [digitsIn?, List.foldl_append, if_neg (by simp)]
  rw [if_neg (by decide)] at read
  rw [read]
  simp [digit, lt]

/-- **Hexadecimal digits** of either case are read as the number that they show. -/
theorem digitsIn?_hexFixed {count n : Nat} (pos : 0 < count) (small : n < 16 ^ count) :
    digitsIn? 16 ((Text.hexFixed count n).map Char.toUpper) = some n := by
  have digit : ∀ d < 16, Text.hexValue? (Text.hexDigit d).toUpper = some d := by decide
  have lt (n : Nat) : n % 16 < 16 := Nat.mod_lt n (by decide)
  induction count generalizing n with
  | zero => exact absurd pos (Nat.lt_irrefl 0)
  | succ count ih =>
    rw [Text.hexFixed, List.map_append, List.map_singleton]
    rcases Nat.eq_zero_or_pos count with rfl | pos
    · have lt : n < 16 := by simpa using small
      rw [Nat.mod_eq_of_lt lt]
      exact digitsIn?_singleton (digit n lt) lt
    · have upper : n / 16 < 16 ^ count := Nat.div_lt_of_lt_mul (Nat.pow_succ' ▸ small)
      rw [digitsIn?_concat (ih pos upper) (digit _ (lt n)) (lt n), Nat.div_add_mod']

/-- **How a character is written** between double quotes: after a backslash, by its letter or by its
number, or as it is. -/
inductive WrittenDouble (c : Char) : List Char → Prop
  | letter {d : Char} (letter : escapeLetter? c = some d) : WrittenDouble c ['\\', d]
  | shown (backslash : c ≠ '\\') (quote : c ≠ '"') (line : c ≠ '\n') : WrittenDouble c [c]
  | number {mark : Char} {count : Nat} (noLetter : escapedLetter? mark = none)
      (width : escapeWidth? mark = some count) (notBreak : mark ≠ '\n') (pos : 0 < count)
      (small : c.toNat < 16 ^ count) :
      WrittenDouble c ('\\' :: mark :: (Text.hexFixed count c.toNat).map Char.toUpper)

theorem writtenDouble (c : Char) : WrittenDouble c (writeDoubleChar c) := by
  unfold writeDoubleChar
  split
  · next letter isLetter => exact .letter isLetter
  · next noLetter =>
    split
    · refine .shown ?_ ?_ ?_ <;>
      · rintro rfl
        exact absurd noLetter (by decide)
    · dsimp only
      split
      · next small =>
        exact .number (by decide) (by decide) (by decide) (by decide) small
      · split
        · next small => exact .number (by decide) (by decide) (by decide) (by decide) small
        · refine .number (by decide) (by decide) (by decide) (by decide) ?_
          exact Nat.lt_of_lt_of_le c.val.toNat_lt (by decide)

/-- **One character** between double quotes is read as it was written. -/
theorem readDouble_writeDoubleChar (fuel : Nat) (acc : List Char) (c : Char) (rest : List Char) :
    readDouble (fuel + 1) acc (writeDoubleChar c ++ rest) = readDouble fuel (c :: acc) rest := by
  have written := writtenDouble c
  generalize writeDoubleChar c = cs at written
  cases written with
  | letter isLetter =>
    have read := escapedLetter?_escapeLetter? isLetter
    have notBreak : ∀ d, escapedLetter? d = some c → d ≠ '\n' := by
      rintro d read rfl
      have none : escapedLetter? '\n' = none := by decide
      rw [none] at read
      cases read
    simp [readDouble, read, notBreak _ read]
  | shown backslash quote line =>
    simp [readDouble, backslash, line]
  | @number mark count noLetter width notBreak pos small =>
    have read : codePoint? ((Text.hexFixed count c.toNat).map Char.toUpper) = some c := by
      have valid : c.toNat.isValidChar := c.valid
      simp only [codePoint?, digitsIn?_hexFixed pos small, Option.bind_eq_bind, Option.bind_some,
        if_pos valid, Char.ofNat_toNat]
    simp [readDouble, noLetter, width, read]

/-- **A text between double quotes** is read back. -/
theorem readDouble_writeDouble (cs rest acc : List Char) (fuel : Nat)
    (enough : cs.length < fuel) :
    readDouble fuel acc (cs.flatMap writeDoubleChar ++ '"' :: rest) =
      some (String.ofList (acc.reverse ++ cs), rest) := by
  induction cs generalizing acc fuel with
  | nil =>
    obtain ⟨fuel, rfl⟩ := Nat.exists_eq_succ_of_ne_zero (Nat.ne_of_gt enough)
    simp [readDouble]
  | cons c cs ih =>
    rw [List.length_cons] at enough
    obtain ⟨fuel, rfl⟩ := Nat.exists_eq_succ_of_ne_zero (Nat.ne_of_gt (Nat.zero_lt_of_lt enough))
    rw [List.flatMap_cons, List.append_assoc, readDouble_writeDoubleChar,
      ih (c :: acc) fuel (Nat.lt_of_succ_lt_succ enough)]
    simp

/-- So the text is told from what follows the quote that ends it. -/
theorem writeDouble_inj (same : writeDouble cs ++ rest = writeDouble cs' ++ rest') :
    cs = cs' ∧ rest = rest' := by
  have same : cs.flatMap writeDoubleChar ++ '"' :: rest =
      cs'.flatMap writeDoubleChar ++ '"' :: rest' := by simpa [writeDouble] using same
  have read := readDouble_writeDouble cs rest [] (max cs.length cs'.length + 1) (by omega)
  rw [same, readDouble_writeDouble cs' rest' [] _ (by omega)] at read
  simpa [String.ofList_inj, eq_comm] using read

/-! ## Blocks -/

/-- **What follows stands left of a margin**: neither a line break nor the margin comes first. -/
structure LeftOf (m : Nat) (rest : List Char) : Prop where
  noBreak : ∀ c more, rest = c :: more → isBreak c = false
  noMargin : ¬ margin m <+: rest

/-- Whether a line begins where a text ends; `fresh` tells whether one does where it begins. -/
def endsFresh (fresh : Bool) (cs : List Char) : Bool := (cs.getLast?.map isBreak).getD fresh

theorem endsFresh_cons (fresh : Bool) (c : Char) (cs : List Char) :
    endsFresh fresh (c :: cs) = endsFresh (isBreak c) cs := by
  cases cs with
  | nil => rfl
  | cons d cs =>
    rw [endsFresh, endsFresh, List.getLast?_cons_cons, List.getLast?_eq_some_getLast (by simp)]
    rfl

/-- No character of a text stands left of the margin. -/
theorem LeftOf.ne_writeInLine (left : LeftOf m rest) : rest ≠ writeInLine m true c ++ rest' := by
  rintro rfl
  by_cases ends : isBreak c = true
  · have := left.noBreak c rest' (by simp [writeInLine, ends])
    rw [ends] at this
    cases this
  · exact left.noMargin ⟨c :: rest', by simp [writeInLine, ends]⟩

/-- **Lines with a margin** are told from what follows them on the left of it. -/
theorem writeLines_inj (left : LeftOf m rest) (left' : LeftOf m rest')
    (ends : endsFresh fresh cs = true) (ends' : endsFresh fresh cs' = true)
    (same : writeLines m fresh cs ++ rest = writeLines m fresh cs' ++ rest') :
    cs = cs' ∧ rest = rest' := by
  induction cs generalizing cs' fresh with
  | nil =>
    cases cs' with
    | nil => exact ⟨rfl, same⟩
    | cons d cs' =>
      obtain rfl : fresh = true := ends
      rw [writeLines_cons, List.append_assoc] at same
      exact (left.ne_writeInLine same).elim
  | cons c cs ih =>
    cases cs' with
    | nil =>
      obtain rfl : fresh = true := ends'
      rw [writeLines_cons, List.append_assoc] at same
      exact (left'.ne_writeInLine same.symm).elim
    | cons d cs' =>
      rw [writeLines_cons, writeLines_cons, List.append_assoc, List.append_assoc] at same
      obtain ⟨rfl, same⟩ := writeInLine_inj same
      rw [endsFresh_cons] at ends ends'
      obtain ⟨rfl, after⟩ := ih ends ends' same
      exact ⟨rfl, after⟩

theorem getLast?_writeLines (m : Nat) (fresh : Bool) (cs : List Char) :
    (writeLines m fresh cs).getLast? = cs.getLast? := by
  have last (fresh : Bool) (c : Char) : (writeInLine m fresh c).getLast? = some c := by
    unfold writeInLine
    split <;> simp
  induction cs generalizing fresh with
  | nil => rfl
  | cons c cs ih =>
    rw [writeLines_cons, List.getLast?_append, ih, last, List.getLast?_cons]
    cases cs.getLast? <;> rfl

theorem writeLines_append_break (m : Nat) (fresh : Bool) (cs : List Char) :
    writeLines m fresh (cs ++ ['\n']) = writeLines m fresh cs ++ ['\n'] := by
  induction cs generalizing fresh with
  | nil => rfl
  | cons c cs ih => rw [List.cons_append, writeLines_cons, ih, writeLines_cons, List.append_assoc]

/-- The lines of a text that is not empty end as the text does. -/
theorem endLine_append_writeLines (before : List Char) (nonempty : cs ≠ []) :
    endLine (before ++ writeLines m fresh cs) = before ++ writeLines m fresh (endLine cs) := by
  have last : (before ++ writeLines m fresh cs).getLast? = cs.getLast? := by
    rw [List.getLast?_append, getLast?_writeLines, List.getLast?_eq_some_getLast nonempty]
    rfl
  rw [endLine, endLine, last]
  split
  · rfl
  · rw [writeLines_append_break, List.append_assoc]

theorem endsFresh_endLine (cs : List Char) : endsFresh true (endLine cs) = true := by
  unfold endLine
  split
  · next ends =>
    unfold endsFresh
    cases last : cs.getLast? with
    | none => rfl
    | some c =>
      rw [last] at ends
      exact ends
  · simp [endsFresh]

/-- The header of a block stands on its line, and tells whether the text ends with one. -/
theorem mem_blockHeader (before : List Char) (c : Char) :
    (∀ d ∈ blockHeader (before ++ [c]), isBreak d = false) ∧
      ('-' ∈ blockHeader (before ++ [c]) ↔ isBreak c = false) := by
  have marks : isBreak '|' = false ∧ isBreak '2' = false ∧ isBreak '-' = false ∧
      isBreak '+' = false := by decide
  unfold blockHeader
  rw [List.reverse_append, List.reverse_singleton]
  dsimp only [List.singleton_append]
  by_cases ends : isBreak c = true
  · rw [ends]
    cases before.reverse with
    | nil => split <;> simp [marks]
    | cons d _ => cases isBreak d <;> split <;> simp [marks]
  · rw [eq_false_of_ne_true ends]
    split <;> simp [marks]

/-- **A block** is told from what follows it on the left of its margin. -/
theorem writeBlock_inj (left : LeftOf m rest) (left' : LeftOf m rest') (nonempty : cs ≠ [])
    (nonempty' : cs' ≠ [])
    (same : endLine (blockHeader cs ++ '\n' :: writeLines m true cs) ++ rest =
      endLine (blockHeader cs' ++ '\n' :: writeLines m true cs') ++ rest') :
    cs = cs' ∧ rest = rest' := by
  have lines {cs : List Char} (nonempty : cs ≠ []) :
      endLine (blockHeader cs ++ '\n' :: writeLines m true cs) =
        blockHeader cs ++ '\n' :: writeLines m true (endLine cs) := by
    rw [List.append_cons, endLine_append_writeLines _ nonempty, ← List.append_cons]
  obtain ⟨before, c, rfl⟩ := (List.eq_nil_or_concat cs).resolve_left nonempty
  obtain ⟨before', c', rfl⟩ := (List.eq_nil_or_concat cs').resolve_left nonempty'
  rw [List.concat_eq_append, List.concat_eq_append] at *
  obtain ⟨oneLine, dash⟩ := mem_blockHeader before c
  obtain ⟨oneLine', dash'⟩ := mem_blockHeader before' c'
  rw [lines nonempty, lines nonempty', List.append_assoc, List.append_assoc, List.cons_append,
    List.cons_append] at same
  obtain ⟨header, same⟩ := line_inj oneLine oneLine' same
  obtain ⟨ended, after⟩ :=
    writeLines_inj left left' (endsFresh_endLine _) (endsFresh_endLine _) same
  refine ⟨?_, after⟩
  have alike : isBreak c = isBreak c' := by
    rw [header, dash'] at dash
    revert dash
    cases isBreak c <;> cases isBreak c' <;> simp
  simp only [endLine, List.getLast?_concat, Option.any_some, alike] at ended
  split at ended
  · exact ended
  · exact List.append_cancel_right ended

/-! ## Without quotes -/

/-- **No colon of a text ends a key**: after each comes something, and no gap. -/
def ColonFree (cs : List Char) : Prop :=
  ∀ before after, cs = before ++ ':' :: after → ∃ c more, after = c :: more ∧ isGap c = false

/-- The form that the first character of a written text tells. -/
def opening : List Char → Style
  | '\'' :: _ => .single
  | '"' :: _ => .double
  | '|' :: _ => .block
  | _ => .plain

theorem opening_eq_plain_iff : opening (c :: rest) = .plain ↔ c ∉ ['\'', '"', '|'] := by
  unfold opening
  split <;> simp_all

/-- **A word**: a text on one line that needs no quotes and is no mark of the format. -/
structure IsWord (cs : List Char) : Prop where
  nonempty : cs ≠ []
  opening : ∀ rest, opening (cs ++ rest) = .plain
  /-- It does not begin with a space. -/
  space : ∀ more, cs ≠ ' ' :: more
  /-- Nor with the mark of an item or a key, which has a gap behind it. -/
  mark : ∀ c more, cs = c :: more → c = '-' ∨ c = '?' →
    ∃ d rest, more = d :: rest ∧ isGap d = false
  oneLine : ∀ c ∈ cs, isBreak c = false
  colonFree : ColonFree cs

theorem hasPair_append {p q : Char → Bool} (before : List Char) (hc : p c = true)
    (hd : q d = true) (rest : List Char) : hasPair p q (before ++ c :: d :: rest) = true := by
  induction before with
  | nil => simp [hasPair, hc, hd]
  | cons b before ih =>
    cases before with
    | nil => simp_all [hasPair]
    | cons b' before => simp_all [hasPair]

theorem colonFree_of_not_hasInnerMark (h : hasInnerMark cs = false) : ColonFree cs := by
  rintro before after rfl
  simp only [hasInnerMark, Bool.or_eq_false_iff] at h
  cases after with
  | nil => simp at h
  | cons c more =>
    refine ⟨c, more, rfl, eq_false_of_ne_true fun gap => ?_⟩
    have pair := hasPair_append (p := (· = ':')) before (c := ':') (by simp) gap more
    rw [h.1.1] at pair
    cases pair

theorem opening_of_not_isLeadingMark (h : isLeadingMark c = false) (rest : List Char) :
    opening (c :: rest) = .plain := by
  have marks : ∀ c ∈ ['\'', '"', '|'], isLeadingMark c = true := by simp [isLeadingMark]
  refine opening_eq_plain_iff.2 fun mem => ?_
  rw [marks c mem] at h
  cases h

/-- **What may be written without quotes** is a word. -/
theorem isWord_of_allowsPlain (h : allowsPlain cs = true) : IsWord cs := by
  simp only [allowsPlain, Bool.not_eq_true', Bool.or_eq_false_iff] at h
  obtain ⟨⟨⟨⟨⟨⟨⟨nonempty, first⟩, -⟩, oneLine⟩, -⟩, leading⟩, inner⟩, -⟩ := h
  cases cs with
  | nil => cases nonempty
  | cons c more =>
    rw [hasLeadingMark.eq_def, Bool.or_eq_false_iff] at leading
    refine ⟨by simp, fun rest => opening_of_not_isLeadingMark leading.1 _, ?_, ?_,
      by simpa [isMultiline] using oneLine, colonFree_of_not_hasInnerMark inner⟩
    · rintro more same
      cases same
      simp at first
    · rintro c' more' same isMark
      cases same
      have gap := leading.2
      have isMark' : (c = '-' || c = '?' || c = ':') = true := by
        rcases isMark with rfl | rfl <;> rfl
      rw [isMark', Bool.true_and] at gap
      cases more with
      | nil => cases gap
      | cons d rest => exact ⟨d, rest, rfl, gap⟩

namespace IsWord

/-- A word is told from the mark of an item or a key. -/
theorem ne_marked (h : IsWord cs) (hc : c = '-' ∨ c = '?') (hd : isGap d = true) :
    cs ++ rest ≠ c :: d :: rest' := by
  intro same
  cases cs with
  | nil => exact h.nonempty rfl
  | cons e more =>
    simp only [List.cons_append, List.cons.injEq] at same
    obtain ⟨rfl, same⟩ := same
    obtain ⟨f, rest, rfl, noGap⟩ := h.mark _ more rfl hc
    simp only [List.cons_append, List.cons.injEq] at same
    rw [same.1, hd] at noGap
    cases noGap

/-- A word has no quotes, and does not begin a block. -/
theorem ne_quoted (h : IsWord cs) (hc : c ∈ ['\'', '"', '|']) : cs ++ rest ≠ c :: rest' := by
  intro same
  have plain := h.opening rest
  rw [same] at plain
  exact opening_eq_plain_iff.1 plain hc

/-- A word does not go on behind a colon with a gap. -/
theorem ne_append_colon (h : IsWord (cs ++ ':' :: cs')) (hc : isGap c = true) :
    c :: rest ≠ cs' ++ rest' := by
  obtain ⟨d, more, rfl, noGap⟩ := h.colonFree cs cs' rfl
  intro same
  simp only [List.cons_append, List.cons.injEq] at same
  rw [← same.1, hc] at noGap
  cases noGap

/-- **A word as a key** is told from what follows its colon, if that is a gap. -/
theorem key_inj (h : IsWord cs) (h' : IsWord cs') (hc : isGap c = true) (hd : isGap d = true)
    (same : cs ++ ':' :: c :: rest = cs' ++ ':' :: d :: rest') :
    cs = cs' ∧ c :: rest = d :: rest' := by
  rcases List.append_eq_append_iff.1 same with ⟨between, rfl, tail⟩ | ⟨between, rfl, tail⟩
  · cases between with
    | nil => exact ⟨by simp, (List.cons.inj tail).2⟩
    | cons e between =>
      simp only [List.cons_append, List.cons.injEq] at tail
      obtain ⟨rfl, tail⟩ := tail
      exact (h'.ne_append_colon hc (by simpa using tail)).elim
  · cases between with
    | nil => exact ⟨by simp, (List.cons.inj tail).2.symm⟩
    | cons e between =>
      simp only [List.cons_append, List.cons.injEq] at tail
      obtain ⟨rfl, tail⟩ := tail
      exact (h.ne_append_colon hd (by simpa using tail)).elim

/-- A word as a key is told from a word that ends its line. -/
theorem key_ne_line (h : IsWord cs) (h' : IsWord cs') (hc : isGap c = true) :
    cs ++ ':' :: c :: rest ≠ cs' ++ '\n' :: rest' := by
  intro same
  rcases List.append_eq_append_iff.1 same with ⟨between, rfl, tail⟩ | ⟨between, rfl, tail⟩
  · cases between with
    | nil => cases tail
    | cons e between =>
      simp only [List.cons_append, List.cons.injEq] at tail
      obtain ⟨rfl, tail⟩ := tail
      exact h'.ne_append_colon hc (by simpa using tail)
  · cases between with
    | nil => cases tail
    | cons e between =>
      simp only [List.cons_append, List.cons.injEq] at tail
      obtain ⟨rfl, -⟩ := tail
      exact absurd (h.oneLine '\n' (by simp)) (by decide)

end IsWord

/-! ## The form of a text -/

section Style

variable {key : Bool} {s : String}

theorem allowsPlain_of_style (h : style key s = .plain) :
    allowsPlain s.toList = true ∧ readsAsText s = true := by
  simp only [style] at h
  grind

/-- A block has lines, and is no key. -/
theorem style_eq_block (h : style key s = .block) : s.toList ≠ [] ∧ key = false := by
  simp only [style] at h
  have nonempty : allowsBlock [] = false := by decide
  grind

/-- **A text begins** as its form says. -/
theorem opening_writeText (key : Bool) (m : Nat) (s : String) (rest : List Char) :
    opening (writeText key m s ++ rest) = style key s := by
  unfold writeText
  cases form : style key s with
  | plain => exact (isWord_of_allowsPlain (allowsPlain_of_style form).1).opening rest
  | single => rfl
  | double => rfl
  | block => rfl

end Style

end NodeProvisioning.Yaml

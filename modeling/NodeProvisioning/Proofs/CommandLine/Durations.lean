import NodeProvisioning.CommandLine.Invocation
import NodeProvisioning.Proofs.Time.Timestamp
import NodeProvisioning.Proofs.Trimming

/-!
# Durations on the command line

Which texts are durations is said by a grammar, apart from the function that reads them: a number in
decimal digits, with or without a plus, and at most one letter for the unit.  Both the number and
the seconds that it comes to have to fit into 64 bits.

The reader takes the last character for a unit when it is one of the three letters, and then has
digits for the rest.  Since no digit is such a letter, it cuts a text of the grammar where the
grammar does (`CommandLine.splitUnit_append`), and each of its three parts turns into the
corresponding part of the grammar.

## Main definitions

* `CommandLine.IsNumber` — digits with an optional plus, and what they come to
* `CommandLine.Names` — a text of the grammar and the seconds that it names

## Main statements

* `CommandLine.seconds?_eq_some_iff` — the reader follows the grammar
* `CommandLine.duration_eq_ok_iff`, `CommandLine.duration_eq_error_iff` — so do durations
* `CommandLine.duration_toString` — any number of seconds below `2 ^ 64` can be given
* `CommandLine.duration_grammar` — durations and poll intervals in full
-/

namespace NodeProvisioning

namespace Duration

/-- A duration without a fraction is as many seconds as it has. -/
theorem eq_ofSeconds_iff {d : Duration} {n : Nat} :
    d = ofSeconds n ↔ d.seconds = n ∧ d.subsecond = 0 := by
  constructor
  · rintro rfl
    simp
  · rintro ⟨rfl, whole⟩
    have : d.seconds * nanosPerSecond = d.nanos :=
      Nat.div_mul_cancel (Nat.dvd_of_mod_eq_zero whole)
    rw [ofSeconds, this]

theorem isZero_iff {d : Duration} : d.isZero = true ↔ d = zero := by
  cases d
  simp [isZero, zero]

theorem nanos_pos_iff {d : Duration} : 0 < d.nanos ↔ d ≠ zero := by
  cases d
  simp [zero, Nat.pos_iff_ne_zero]

end Duration

namespace CommandLine

variable {cs digits number letter : List Char} {n scale : Nat} {s : String} {d : Duration}

/-- What is read is what is not refused. -/
theorem orRefused_eq_ok_iff {ε α : Type} {message : ε → String} {x : Except ε α} {a : α} :
    orRefused message x = .ok a ↔ x = .ok a := by
  cases x <;> simp [orRefused]

/-! ## The grammar -/

/-- Decimal digits, at least one of them, and the number that they are. -/
def IsDecimal (digits : List Char) (n : Nat) : Prop :=
  digits ≠ [] ∧ (∀ c ∈ digits, c.isDigit = true) ∧ Nat.ofDigitChars 10 digits 0 = n

/-- A number in digits with an optional plus. -/
def IsNumber (text : List Char) (n : Nat) : Prop :=
  ∃ digits, (text = digits ∨ text = '+' :: digits) ∧ IsDecimal digits n

/-- What may end a duration, and the seconds that it stands for. -/
def units : List (List Char × Nat) := [([], 1), (['s'], 1), (['m'], 60), (['h'], 3600)]

/-- **A text names a number of seconds**: it is a number and at most one unit, and neither the
number nor the seconds exceed 64 bits. -/
inductive Names : List Char → Nat → Prop
  | of {number letter : List Char} {n scale : Nat} (value : IsNumber number n)
    (small : n < twoTo 64) (unit : (letter, scale) ∈ units) (fits : n * scale < twoTo 64) :
    Names (number ++ letter) (n * scale)

theorem Names.lt (h : Names cs n) : n < twoTo 64 := by
  cases h with
  | of value small unit fits => exact fits

/-! ## The number -/

theorem digits?_eq_some_iff : digits? cs = some n ↔ IsDecimal cs n := by
  have value : cs.foldl (fun n c => n * 10 + (c.toNat - 48)) 0 = Nat.ofDigitChars 10 cs 0 := by
    rw [Nat.ofDigitChars_eq_foldl]
    refine List.foldl_ext _ _ _ fun k c _ => ?_
    rw [Nat.mul_comm]
    rfl
  rw [digits?, value]
  split
  · next garbage =>
    constructor
    · nofun
    · rintro ⟨ne, decimal, -⟩
      simp only [List.isEmpty_iff, Bool.not_eq_eq_eq_not, Bool.not_true, ← Bool.not_eq_true,
        List.all_eq_true] at garbage
      exact absurd decimal (garbage.resolve_left ne)
  · next good =>
    simp only [List.isEmpty_iff, Bool.not_eq_eq_eq_not, Bool.not_true, ← Bool.not_eq_true,
      List.all_eq_true, not_or, not_not] at good
    simp only [IsDecimal, Option.some.injEq]
    exact ⟨fun value => ⟨good.1, good.2, value⟩, fun named => named.2.2⟩

/-- Digits do not begin with a plus. -/
theorem not_isDecimal_plus : ¬ IsDecimal ('+' :: digits) n := by
  rintro ⟨-, decimal, -⟩
  exact absurd (decimal '+' List.mem_cons_self) (by decide)

/-- A number is read by its digits. -/
theorem isNumber_iff : IsNumber cs n ↔
    digits? (match cs with | '+' :: rest => rest | cs => cs) = some n := by
  rw [digits?_eq_some_iff]
  split
  · constructor
    · rintro ⟨digits, rfl | same, decimal⟩
      · exact absurd decimal not_isDecimal_plus
      · rwa [(List.cons_inj_right '+').1 same]
    · exact fun decimal => ⟨_, .inr rfl, decimal⟩
  · next unsigned =>
    constructor
    · rintro ⟨digits, rfl | signed, decimal⟩
      · exact decimal
      · exact absurd signed (unsigned digits)
    · exact fun decimal => ⟨_, .inl rfl, decimal⟩

theorem natural?_eq_some_iff : natural? cs = some n ↔ IsNumber cs n ∧ n < twoTo 64 := by
  rw [isNumber_iff]
  unfold natural?
  dsimp only
  cases digits? (match cs with | '+' :: rest => rest | cs => cs) with
  | none => simp
  | some m =>
    simp only [Option.ite_none_right_eq_some, Option.some.injEq]
    constructor
    · rintro ⟨small, rfl⟩
      exact ⟨rfl, small⟩
    · rintro ⟨rfl, small⟩
      exact ⟨small, rfl⟩

/-! ## The unit -/

/-- A number ends with a digit. -/
theorem IsNumber.exists_last (h : IsNumber number n) :
    ∃ c, number.getLast? = some c ∧ c.isDigit = true := by
  obtain ⟨digits, whole, ne, decimal, -⟩ := h
  have last := List.getLast?_eq_getLast_of_ne_nil ne
  refine ⟨digits.getLast ne, ?_, decimal _ (List.getLast_mem ne)⟩
  rcases whole with rfl | rfl
  · exact last
  · rw [← List.singleton_append, List.getLast?_append, last]
    rfl

/-- **A number and a unit** are taken apart where they were put together. -/
theorem splitUnit_append (value : IsNumber number n) (unit : (letter, scale) ∈ units) :
    splitUnit (number ++ letter) = (number, scale) := by
  simp only [units, List.mem_cons, List.not_mem_nil, or_false, Prod.mk.injEq] at unit
  rcases unit with ⟨rfl, rfl⟩ | ⟨rfl, rfl⟩ | ⟨rfl, rfl⟩ | ⟨rfl, rfl⟩
  · obtain ⟨c, last, digit⟩ := value.exists_last
    rw [List.append_nil, splitUnit, last]
    split
    · next h => cases h; exact absurd digit (by decide)
    · next h => cases h; exact absurd digit (by decide)
    · next h => cases h; exact absurd digit (by decide)
    · rfl
  all_goals simp [splitUnit]

/-- What is taken off is a unit. -/
theorem exists_unit (cs : List Char) :
    ∃ letter, cs = (splitUnit cs).1 ++ letter ∧ (letter, (splitUnit cs).2) ∈ units := by
  rw [splitUnit]
  split
  · next last => exact ⟨['h'], (List.dropLast_append_getLast? _ last).symm, by simp [units]⟩
  · next last => exact ⟨['m'], (List.dropLast_append_getLast? _ last).symm, by simp [units]⟩
  · next last => exact ⟨['s'], (List.dropLast_append_getLast? _ last).symm, by simp [units]⟩
  · exact ⟨[], (List.append_nil cs).symm, by simp [units]⟩

/-! ## Durations -/

/-- **The reader follows the grammar.** -/
theorem seconds?_eq_some_iff : seconds? cs = some n ↔ Names cs n := by
  constructor
  · intro read
    obtain ⟨letter, whole, unit⟩ := exists_unit cs
    rw [seconds?] at read
    generalize splitUnit cs = split at read whole unit
    obtain ⟨number, scale⟩ := split
    cases value : natural? number with
    | none => simp [value] at read
    | some m =>
      obtain ⟨isNumber, small⟩ := natural?_eq_some_iff.1 value
      simp only [value, Option.ite_none_right_eq_some, Option.some.injEq] at read
      obtain ⟨fits, rfl⟩ := read
      rw [whole]
      exact .of isNumber small unit fits
  · rintro ⟨isNumber, small, unit, fits⟩
    rw [seconds?, splitUnit_append isNumber unit]
    simp only [natural?_eq_some_iff.2 ⟨isNumber, small⟩]
    exact if_pos fits

/-- A duration is what the text between the outer blanks names. -/
theorem duration_eq_ok_iff :
    duration s = .ok d ↔ ∃ n, Names (Text.trim s).toList n ∧ d = .ofSeconds n := by
  simp only [← seconds?_eq_some_iff]
  unfold duration
  dsimp only
  generalize seconds? (Text.trim s).toList = read
  cases read with
  | none => simp
  | some n => simp [eq_comm]

/-- A text that names no duration is reported without its outer blanks. -/
theorem duration_eq_error_iff {e : CommandError} :
    duration s = .error e ↔ (∀ n, ¬ Names (Text.trim s).toList n) ∧
      e = .invalid ("invalid duration '" ++ Text.trim s ++ "', expected e.g. 1h, 15m, 30s") := by
  simp only [← seconds?_eq_some_iff]
  unfold duration
  dsimp only
  generalize seconds? (Text.trim s).toList = read
  cases read with
  | none => simp [eq_comm]
  | some n => simp

/-- A duration is a number of whole seconds below `2 ^ 64`. -/
theorem exists_ofSeconds_of_duration (h : duration s = .ok d) :
    ∃ n, n < twoTo 64 ∧ d = .ofSeconds n := by
  obtain ⟨n, named, rfl⟩ := duration_eq_ok_iff.1 h
  exact ⟨n, named.lt, rfl⟩

/-- Any number of seconds below `2 ^ 64` can be given. -/
theorem duration_toString (small : n < twoTo 64) : duration (toString n) = .ok (.ofSeconds n) := by
  have decimal : ∀ c ∈ (toString n).toList, c.isDigit = true := fun c mem =>
    Nat.isDigit_of_mem_toDigits (b := 10) (n := n) (by decide) (by decide) (by simpa using mem)
  have visible : ∀ c ∈ (toString n).toList, Text.isBlank c = false := fun c mem =>
    Timestamp.isBlank_of_isDigit (decimal c mem)
  have inner : Text.trim (toString n) = toString n :=
    Text.trim_eq_iff.2 ⟨⟨[], [], by simp, by simp⟩, fun c mem => visible c (List.mem_of_head? mem),
      fun c mem => visible c (List.mem_of_getLast? mem)⟩
  have value : IsNumber (toString n).toList n :=
    ⟨_, .inl rfl, by simp [Nat.toDigits_ne_nil], decimal, by simp [Nat.ofDigitChars_ten_toDigits]⟩
  have names : Names (toString n).toList n := by
    simpa using @Names.of _ [] n 1 value small (by decide) (by simpa using small)
  exact duration_eq_ok_iff.2 ⟨n, inner.symm ▸ names, rfl⟩

/-! ## Poll intervals -/

theorem pollInterval_eq_ok_iff :
    pollInterval s = .ok d ↔ duration s = .ok d ∧ d ≠ .zero := by
  unfold pollInterval
  generalize duration s = given
  cases given with
  | error e => simp
  | ok given =>
    simp only [Duration.isZero_iff]
    split
    · next zero => simp [zero, eq_comm]
    · next positive => simp +contextual [eq_comm, positive]

theorem pollInterval_eq_error_iff {e : CommandError} :
    pollInterval s = .error e ↔ duration s = .error e ∨
      duration s = .ok .zero ∧ e = .invalid "poll interval must be greater than zero" := by
  unfold pollInterval
  generalize duration s = given
  cases given with
  | error e' => simp
  | ok given =>
    simp only [Duration.isZero_iff]
    split
    · next zero => simp [zero, eq_comm]
    · next positive => simp [positive]

/-- **Which durations can be given.**  Of a text only what is left without its outer blanks counts.
If that is a number with at most one unit, and number and seconds are below `2 ^ 64`, it is the
duration of exactly so many seconds.  Otherwise the error quotes it.  Poll intervals are the
durations other than zero, and zero is refused for what it is. -/
theorem duration_grammar (s : String) :
    ∃ inner : String, (∀ t : String, Text.IsInner t.toList s.toList ↔ t = inner) ∧
      (∀ d, duration s = .ok d ↔
        ∃ n, Names inner.toList n ∧ d.seconds = n ∧ d.subsecond = 0) ∧
      (∀ e, duration s = .error e ↔ (∀ n, ¬ Names inner.toList n) ∧
        e = .invalid ("invalid duration '" ++ inner ++ "', expected e.g. 1h, 15m, 30s")) ∧
      (∀ d, pollInterval s = .ok d ↔ duration s = .ok d ∧ d ≠ .zero) ∧
      ∀ e, pollInterval s = .error e ↔ duration s = .error e ∨
        duration s = .ok .zero ∧ e = .invalid "poll interval must be greater than zero" := by
  refine ⟨Text.trim s, fun t => ?_, fun d => ?_, fun e => duration_eq_error_iff,
    fun d => pollInterval_eq_ok_iff, fun e => pollInterval_eq_error_iff⟩
  · rw [← Text.trim_eq_iff, eq_comm]
  · simp only [duration_eq_ok_iff, Duration.eq_ofSeconds_iff]

end CommandLine

end NodeProvisioning

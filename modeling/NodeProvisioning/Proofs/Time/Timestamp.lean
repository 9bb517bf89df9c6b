import Mathlib.Algebra.Group.Nat.Defs
import NodeProvisioning.Proofs.Time.Calendar

/-!
# Written timestamps

A moment is written in a form that reads back as the same moment, and every moment that is read from
a text can be written. The writer pads each number to a fixed width and ends it with a mark, so that
the reader, which takes as many digits as there are, stops where the number does. What a text can
name is a moment of the calendar whose leap seconds, if it lies in one, end a minute: offsets are
whole minutes.

## Main definitions

* `Timestamp.Valid` — a moment that a text can name

## Main statements

* `Timestamp.read_text` — the written form of a valid moment names that moment
* `Timestamp.valid_of_read` — only valid moments are named
-/

namespace NodeProvisioning

/-- What follows a value goes on with it. -/
@[simp] theorem ok_bind {ε α β : Type} (a : α) (f : α → Except ε β) : (.ok a >>= f) = f a := rfl

/-- A sequence ends well exactly if both of its parts do. -/
theorem bind_eq_ok_iff {ε α β : Type} {x : Except ε α} {f : α → Except ε β} {b : β} :
    x >>= f = .ok b ↔ ∃ a, x = .ok a ∧ f a = .ok b := by
  cases x <;> simp [bind, Except.bind]

/-- A value that went through a function came from one before it. -/
theorem map_eq_ok_iff {ε α β : Type} {x : Except ε α} {f : α → β} {b : β} :
    x.map f = .ok b ↔ ∃ a, x = .ok a ∧ f a = b := by
  cases x <;> simp [Except.map]

theorem map_eq_error_iff {ε α β : Type} {x : Except ε α} {f : α → β} {e : ε} :
    x.map f = .error e ↔ x = .error e := by
  cases x <;> simp [Except.map]

namespace Timestamp

/-- A moment of the calendar, in a leap second only at the end of a minute. -/
structure Valid (t : Timestamp) : Prop where
  first_le : firstSecond ≤ t.seconds
  lt_end : t.seconds < endSecond
  nanos_lt : t.nanos < 2000000000
  leap : 1000000000 ≤ t.nanos → t.seconds % 60 = 59

/-! ## Numbers -/

section Numbers

variable {width limit n : Nat} {rest : List Char}

/-- Characters that end a number: none, or one that is not a digit. -/
def Ends (rest : List Char) : Prop := ∀ c ∈ rest.head?, c.isDigit = false

theorem ends_cons {c : Char} (h : c.isDigit = false) : Ends (c :: rest) := by
  intro d hd
  rw [Option.mem_some_iff.1 hd.symm]
  exact h

theorem toNat_mem_of_isDigit {c : Char} (h : c.isDigit) : 48 ≤ c.toNat ∧ c.toNat ≤ 57 := by
  simp only [Char.isDigit, Bool.and_eq_true, decide_eq_true_eq, ge_iff_le,
    UInt32.le_iff_toNat_le] at h
  exact h

theorem isBlank_of_isDigit {c : Char} (h : c.isDigit) : Text.isBlank c = false := by
  have range := toNat_mem_of_isDigit h
  simp [Text.isBlank, Text.CodePoints.contains, Text.blankRanges]
  omega

theorem trimStart_cons {c : Char} (h : Text.isBlank c = false) :
    Text.trimStart (c :: rest) = c :: rest := by
  simp [Text.trimStart, h]

theorem length_padded (h : n < 10 ^ width) (pos : 0 < width) : (padded width n).length = width := by
  have := (Nat.length_toDigits_le_iff (by decide) pos).2 h
  simp only [padded, List.length_append, List.length_replicate]
  omega

theorem isDigit_of_mem_padded {c : Char} (h : c ∈ padded width n) : c.isDigit := by
  rcases List.mem_append.1 h with pad | digit
  · rw [List.eq_of_mem_replicate pad]
    decide
  · exact Nat.isDigit_of_mem_toDigits (by decide) (by decide) digit

/-- A number begins with a digit. -/
theorem padded_eq_cons (width n : Nat) : ∃ c cs, padded width n = c :: cs ∧ c.isDigit := by
  cases h : padded width n with
  | nil => exact absurd h (by simp [padded, Nat.toDigits_ne_nil])
  | cons c cs => exact ⟨c, cs, rfl, isDigit_of_mem_padded (h ▸ List.mem_cons_self)⟩

theorem ofDigitChars_padded : Nat.ofDigitChars 10 (padded width n) 0 = n := by
  rw [padded, Nat.ofDigitChars_append, Nat.ofDigitChars_replicate_zero, Nat.mul_zero,
    Nat.ofDigitChars_ten_toDigits]

/-- Nothing blank comes before a number. -/
theorem trimStart_padded : Text.trimStart (padded width n ++ rest) = padded width n ++ rest := by
  obtain ⟨c, cs, h, digit⟩ := padded_eq_cons width n
  rw [h]
  exact trimStart_cons (isBlank_of_isDigit digit)

/-- A number is read up to what ends it, or as far as it may go. -/
theorem digits_padded (fits : (padded width n).length ≤ limit)
    (stop : (padded width n).length = limit ∨ Ends rest) :
    digits limit (padded width n ++ rest) = .ok (n, rest) := by
  have none : (rest.take (limit - (padded width n).length)).takeWhile Char.isDigit = [] := by
    rcases stop with full | ends
    · simp [full]
    · cases rest with
      | nil => simp
      | cons c tail =>
        have : c.isDigit = false := ends c rfl
        cases limit - (padded width n).length <;> simp [this]
  have taken : ((padded width n ++ rest).take limit).takeWhile Char.isDigit = padded width n := by
    rw [List.take_append, List.take_of_length_le fits,
      List.takeWhile_append_of_pos fun _ => isDigit_of_mem_padded, none, List.append_nil]
  have step : (fun k c => k * 10 + (Char.toNat c - 48)) =
      fun k c => 10 * k + (c.toNat - '0'.toNat) := by
    funext k c
    rw [Nat.mul_comm]
    rfl
  have value : Nat.ofDigitChars 10 (padded width n) 0 = n := ofDigitChars_padded
  rw [Nat.ofDigitChars_eq_foldl] at value
  obtain ⟨c, cs, h, -⟩ := padded_eq_cons width n
  simp only [digits, taken, step, value]
  simp [h]

/-- A number of a fixed width is read whatever follows. -/
theorem number_padded {lo hi : Nat} (small : n < 10 ^ width) (pos : 0 < width)
    (mem : lo ≤ n ∧ n ≤ hi) : number width lo hi (padded width n ++ rest) = .ok (n, rest) := by
  have length := length_padded small pos
  rw [number, trimStart_padded, digits_padded (Nat.le_of_eq length) (.inl length), ok_bind]
  exact if_pos mem

theorem mark_cons {c : Char} (h : Text.isBlank c = false) :
    mark c (c :: rest) = .ok ((), rest) := by
  rw [mark, trimStart_cons h]
  exact if_pos rfl

theorem trimStart_yearText (y : Int) :
    Text.trimStart (yearText y ++ rest) = yearText y ++ rest := by
  unfold yearText
  split
  · exact trimStart_padded
  · split <;> exact trimStart_cons (by decide)

theorem signedYear_of_isDigit {c : Char} (h : c.isDigit) :
    signedYear (c :: rest) = (digits 4 (c :: rest)).map fun x => ((x.1 : Int), x.2) := by
  unfold signedYear
  split
  · next eq =>
    obtain ⟨rfl, -⟩ := List.cons.inj eq
    exact absurd h (by decide)
  · next eq =>
    obtain ⟨rfl, -⟩ := List.cons.inj eq
    exact absurd h (by decide)
  · rfl

/-- A year is read up to the mark after it. -/
theorem signedYear_yearText (y : Int) (ends : Ends rest) :
    signedYear (yearText y ++ rest) = .ok (y, rest) := by
  have signed : digits (padded 4 y.natAbs ++ rest).length (padded 4 y.natAbs ++ rest) =
      .ok (y.natAbs, rest) :=
    digits_padded (by simp) (.inr ends)
  unfold yearText
  split
  · next plain =>
    have length : (padded 4 y.toNat).length = 4 := length_padded (by omega) (by decide)
    have unsigned := digits_padded (Nat.le_of_eq length) (.inr ends)
    obtain ⟨c, cs, h, digit⟩ := padded_eq_cons 4 y.toNat
    rw [h] at unsigned ⊢
    rw [List.cons_append] at unsigned ⊢
    rw [signedYear_of_isDigit digit, unsigned]
    simp only [Except.map, Int.toNat_of_nonneg plain.1]
  · split
    · next before =>
      rw [List.cons_append]
      simp only [signedYear, signed, Except.map]
      rw [show -(y.natAbs : Int) = y by omega]
    · next after =>
      rw [List.cons_append]
      simp only [signedYear, signed, Except.map]
      rw [show (y.natAbs : Int) = y by omega]

theorem year_yearText {y : Int} (mem : -262143 ≤ y ∧ y ≤ 262142) (ends : Ends rest) :
    year (yearText y ++ rest) = .ok (y, rest) := by
  have fits : -(twoTo 31 : Nat) ≤ y ∧ y < (twoTo 31 : Nat) := by
    have : twoTo 31 = 2147483648 := rfl
    omega
  rw [year, trimStart_yearText, signedYear_yearText y ends, ok_bind]
  exact if_pos fits

/-- A fraction is read up to the letter after it. -/
theorem fraction_fractionText {ns : Nat} (h : ns < 1000000000) :
    fraction (fractionText ns ++ ['Z']) = .ok (ns, ['Z']) := by
  have groups {width n : Nat} (small : n < 10 ^ width) (pos : 0 < width) (le : width ≤ 9) :
      fraction ('.' :: padded width n ++ ['Z']) = .ok (n * tenTo (9 - width), ['Z']) := by
    have length := length_padded small pos
    rw [List.cons_append, fraction, digits_padded (by omega) (.inr (ends_cons (by decide))),
      ok_bind]
    simp [length]
  unfold fractionText
  split
  · next none => simp [none, fraction]
  · split
    · next milli =>
      rw [groups (by omega) (by decide) (by decide)]
      rw [show tenTo (9 - 3) = 1000000 from rfl, Nat.div_mul_cancel (Nat.dvd_of_mod_eq_zero milli)]
    · split
      · next micro =>
        rw [groups (by omega) (by decide) (by decide)]
        rw [show tenTo (9 - 6) = 1000 from rfl, Nat.div_mul_cancel (Nat.dvd_of_mod_eq_zero micro)]
      · rw [groups (by omega) (by decide) (by decide)]
        simp

end Numbers

/-! ## Reading what was written -/

/-- Seconds of the calendar fall on days of the calendar. -/
theorem Valid.year_mem {t : Timestamp} (h : t.Valid) :
    -262143 ≤ (civilFromDays (t.seconds.fdiv 86400)).1 ∧
      (civilFromDays (t.seconds.fdiv 86400)).1 ≤ 262142 := by
  have date := isDate_civilFromDays (t.seconds.fdiv 86400)
  have day := daysFromCivil_civilFromDays (t.seconds.fdiv 86400)
  have lo := h.first_le
  have hi := h.lt_end
  rw [Int.fdiv_eq_ediv_of_nonneg _ (by decide)] at date day ⊢
  unfold firstSecond at lo
  unfold endSecond at hi
  constructor
  · apply Int.not_lt.1
    intro early
    have := daysFromCivil_lt date early
    omega
  · apply Int.not_lt.1
    intro late
    have := le_daysFromCivil date (show 262143 ≤ _ from late)
    omega

/-- The fields of a written moment are read one after the other. -/
theorem read_fields {y : Int} {mo d h mi s ns : Nat} (hy : -262143 ≤ y ∧ y ≤ 262142)
    (hmo : 1 ≤ mo ∧ mo ≤ 12) (hd : 1 ≤ d ∧ d ≤ 31) (hh : h ≤ 23) (hmi : mi ≤ 59) (hs : s ≤ 60)
    (hns : ns < 1000000000) :
    read (String.ofList (yearText y ++ '-' :: padded 2 mo ++ '-' :: padded 2 d ++
      'T' :: padded 2 h ++ ':' :: padded 2 mi ++ ':' :: padded 2 s ++ fractionText ns ++ ['Z'])) =
      ofLocal y mo d h mi s ns 0 := by
  have two {lo hi n : Nat} (mem : lo ≤ n ∧ n ≤ hi) (le : hi ≤ 99) (rest : List Char) :
      number 2 lo hi (padded 2 n ++ rest) = .ok (n, rest) :=
    number_padded (by omega) (by decide) mem
  have dash (rest : List Char) : mark '-' ('-' :: rest) = .ok ((), rest) := mark_cons (by decide)
  have colon (rest : List Char) : mark ':' (':' :: rest) = .ok ((), rest) := mark_cons (by decide)
  have letter (rest : List Char) : separator ('T' :: rest) = .ok ((), rest) := by simp [separator]
  have zone : offset ['Z'] = .ok (0, []) := rfl
  simp only [read, String.toList_ofList, List.append_assoc, List.cons_append]
  rw [year_yearText hy (ends_cons (by decide))]
  simp only [ok_bind, dash, colon, letter, two hmo (by decide), two hd (by decide),
    two ⟨Nat.zero_le _, hh⟩ (by decide), two ⟨Nat.zero_le _, hmi⟩ (by decide),
    two ⟨Nat.zero_le _, hs⟩ (by decide), fraction_fractionText hns, zone]
  rfl

/-- The written form of a valid moment names that moment. -/
theorem read_text {t : Timestamp} (h : t.Valid) : read t.text = .ok t := by
  have year_mem := h.year_mem
  have date := isDate_civilFromDays (t.seconds.fdiv 86400)
  have day := daysFromCivil_civilFromDays (t.seconds.fdiv 86400)
  dsimp only [text]
  rw [Int.fdiv_eq_ediv_of_nonneg _ (by decide)] at *
  generalize civilFromDays (t.seconds / 86400) = civil at year_mem date day ⊢
  obtain ⟨y, m, d⟩ := civil
  dsimp only at year_mem date day ⊢
  have last := Nat.le_trans date.day_mem.2 (daysInMonth_le y m)
  have leap := h.leap
  have nanos := h.nanos_lt
  rw [read_fields year_mem date.month_mem ⟨date.day_mem.1, last⟩ (by omega) (by omega) (by omega)
    (by omega)]
  have inMonth : ¬ (daysInMonth y m < d ∨ y < -262143 ∨ 262142 < y) := by
    have := date.day_mem.2
    omega
  have mem : firstSecond ≤ t.seconds ∧ t.seconds < endSecond := ⟨h.first_le, h.lt_end⟩
  generalize hs : (t.seconds - t.seconds / 86400 * 86400).toNat = s
  rw [ofLocal, if_neg (by decide), if_neg inMonth, day]
  by_cases hleap : s % 60 + t.nanos / 1000000000 = 60
  · have seconds : t.seconds / 86400 * 86400 + (s / 3600 : Nat) * 3600 +
        (s / 60 % 60 : Nat) * 60 + (59 : Nat) - 0 = t.seconds := by omega
    have nanos : t.nanos % 1000000000 + 1000000000 = t.nanos := by omega
    simp only [hleap, if_true, seconds, nanos]
    exact if_pos mem
  · have seconds : t.seconds / 86400 * 86400 + (s / 3600 : Nat) * 3600 +
        (s / 60 % 60 : Nat) * 60 + (s % 60 + t.nanos / 1000000000 : Nat) - 0 = t.seconds := by omega
    have nanos : t.nanos % 1000000000 = t.nanos := by omega
    simp only [hleap, if_false, seconds, nanos]
    exact if_pos mem

/-! ## What can be read -/

section Reading

variable {cs rest : List Char} {n : Nat}

/-- Digits after a number are less than one more of it. -/
theorem foldl_digits_lt (ds : List Char) (h : ∀ c ∈ ds, c.isDigit) (k : Nat) :
    ds.foldl (fun k c => k * 10 + (c.toNat - 48)) k < (k + 1) * 10 ^ ds.length := by
  induction ds generalizing k with
  | nil => simp
  | cons c ds ih =>
    have digit := toNat_mem_of_isDigit (h c List.mem_cons_self)
    calc _ < (k * 10 + (c.toNat - 48) + 1) * 10 ^ ds.length :=
          ih (fun c mem => h c (List.mem_cons_of_mem _ mem)) _
      _ ≤ ((k + 1) * 10) * 10 ^ ds.length := Nat.mul_le_mul_right _ (by omega)
      _ = (k + 1) * 10 ^ (c :: ds).length := by
        rw [List.length_cons, Nat.pow_succ', Nat.mul_assoc]

theorem digits_lt {width : Nat} (h : digits width cs = .ok (n, rest)) :
    cs.length - rest.length ≤ width ∧ n < 10 ^ (cs.length - rest.length) := by
  unfold digits at h
  generalize hread : (cs.take width).takeWhile Char.isDigit = read at h
  dsimp only at h
  split at h
  · cases h
  · split at h
    · cases h
    · obtain ⟨rfl, rfl⟩ := Prod.mk.inj (Except.ok.inj h)
      have le : read.length ≤ (cs.take width).length := by
        rw [← hread]
        exact (List.takeWhile_sublist _).length_le
      rw [List.length_take] at le
      have length : cs.length - (cs.drop read.length).length = read.length := by
        rw [List.length_drop]
        omega
      have digit : ∀ c ∈ read, c.isDigit := by
        rw [← hread]
        exact fun c => List.all_eq_true.1 List.all_takeWhile c
      have := foldl_digits_lt read digit 0
      rw [length]
      exact ⟨by omega, by simpa using this⟩

theorem fraction_lt (h : fraction cs = .ok (n, rest)) : n < 1000000000 := by
  unfold fraction at h
  split at h
  · obtain ⟨⟨k, tail⟩, read, h⟩ := bind_eq_ok_iff.1 h
    obtain ⟨rfl, -⟩ := Prod.mk.inj (Except.ok.inj h)
    obtain ⟨le, lt⟩ := digits_lt read
    calc _ < 10 ^ _ * tenTo (9 - _) := Nat.mul_lt_mul_of_pos_right lt (tenTo_pos _)
      _ = 10 ^ 9 := by
        rw [show tenTo _ = 10 ^ _ from rfl, ← Nat.pow_add, Nat.add_sub_cancel' le]
  · obtain ⟨rfl, -⟩ := Prod.mk.inj (Except.ok.inj h)
    decide

/-- Offsets are whole minutes. -/
theorem signedOffset_dvd {off : Int} (h : signedOffset cs = .ok (off, rest)) : off % 60 = 0 := by
  unfold signedOffset at h
  split at h
  · cases h
  · split at h
    · obtain ⟨rfl, -⟩ := Prod.mk.inj (Except.ok.inj h)
      decide
    · split at h
      · obtain ⟨⟨hours, _⟩, -, h⟩ := bind_eq_ok_iff.1 h
        obtain ⟨⟨minutes, _⟩, -, h⟩ := bind_eq_ok_iff.1 h
        obtain ⟨rfl, -⟩ := Prod.mk.inj (Except.ok.inj h)
        split <;> omega
      · cases h

theorem offset_dvd {off : Int} (h : offset cs = .ok (off, rest)) : off % 60 = 0 := by
  unfold offset at h
  split at h
  · split at h
    · obtain ⟨rfl, -⟩ := Prod.mk.inj (Except.ok.inj h)
      decide
    · exact signedOffset_dvd h
  · exact signedOffset_dvd h

end Reading

theorem valid_of_ofLocal {y : Int} {mo d h mi s ns : Nat} {off : Int} {t : Timestamp}
    (hns : ns < 1000000000) (hoff : off % 60 = 0) (hok : ofLocal y mo d h mi s ns off = .ok t) :
    t.Valid := by
  unfold ofLocal at hok
  split at hok
  · cases hok
  · split at hok
    · cases hok
    · generalize hpair : (if s = 60 then (59, ns + 1000000000) else (s, ns)) = pair at hok
      obtain ⟨s', ns'⟩ := pair
      dsimp only at hok
      split at hok
      · next mem =>
        rw [← Except.ok.inj hok]
        split at hpair <;> obtain ⟨rfl, rfl⟩ := Prod.mk.inj hpair <;>
          exact ⟨mem.1, mem.2, by dsimp only; omega, by dsimp only; omega⟩
      · cases hok

/-- Only valid moments are named. -/
theorem valid_of_read {s : String} {t : Timestamp} (h : read s = .ok t) : t.Valid := by
  obtain ⟨⟨y, _⟩, -, h⟩ := bind_eq_ok_iff.1 h
  obtain ⟨_, -, h⟩ := bind_eq_ok_iff.1 h
  obtain ⟨⟨mo, _⟩, -, h⟩ := bind_eq_ok_iff.1 h
  obtain ⟨_, -, h⟩ := bind_eq_ok_iff.1 h
  obtain ⟨⟨d, _⟩, -, h⟩ := bind_eq_ok_iff.1 h
  obtain ⟨_, -, h⟩ := bind_eq_ok_iff.1 h
  obtain ⟨⟨hour, _⟩, -, h⟩ := bind_eq_ok_iff.1 h
  obtain ⟨_, -, h⟩ := bind_eq_ok_iff.1 h
  obtain ⟨⟨minute, _⟩, -, h⟩ := bind_eq_ok_iff.1 h
  obtain ⟨_, -, h⟩ := bind_eq_ok_iff.1 h
  obtain ⟨⟨second, _⟩, -, h⟩ := bind_eq_ok_iff.1 h
  obtain ⟨⟨ns, _⟩, hns, h⟩ := bind_eq_ok_iff.1 h
  obtain ⟨⟨off, _⟩, hoff, h⟩ := bind_eq_ok_iff.1 h
  dsimp only at h
  split at h
  · cases h
  · exact valid_of_ofLocal (fraction_lt hns) (offset_dvd hoff) h

end Timestamp

end NodeProvisioning

import NodeProvisioning.Decimal.Power
import NodeProvisioning.Text.Blank

/-!
# Timestamps

A moment in universal time with nanoseconds, read from and written to the form of RFC 3339. The
reader is lenient: it takes a blank for the `T`, blanks around each part, numbers without leading
zeros, and `UTC` for the offset; a second may be the sixtieth.

## Main definitions

* `Timestamp` — whole seconds since 1970 and nanoseconds, the latter past a second in a leap second
* `Timestamp.read` — the moment that a text names, or why it names none
* `Timestamp.text` — the shortest of no, three, six and nine fraction digits that is exact
-/

namespace NodeProvisioning

/-- A moment in universal time. -/
structure Timestamp where
  /-- Whole seconds since the start of 1970. -/
  seconds : Int
  /-- Nanoseconds within the second; from `10 ^ 9` on within the leap second after it. -/
  nanos : Nat
deriving DecidableEq, Repr

/-- Why a text names no moment. -/
inductive TimestampError where
  | tooShort
  | invalid
  | outOfRange
  | impossible
  | tooLong
deriving DecidableEq, Repr

/-- The wording of an error. -/
def TimestampError.message : TimestampError → String
  | .tooShort => "premature end of input"
  | .invalid => "input contains invalid characters"
  | .outOfRange => "input is out of range"
  | .impossible => "no possible date and time matching input"
  | .tooLong => "trailing input"

namespace Timestamp

/-! ## The calendar -/

/-- Whether a year has a twenty-ninth of February. -/
def isLeapYear (y : Int) : Bool := y % 4 = 0 ∧ (y % 100 ≠ 0 ∨ y % 400 = 0)

/-- The days of a month. -/
def daysInMonth (y : Int) (m : Nat) : Nat :=
  if m = 2 then if isLeapYear y then 29 else 28
  else if m = 4 ∨ m = 6 ∨ m = 9 ∨ m = 11 then 30
  else 31

/-- Days from the start of 1970 to a date, in years that begin in March. -/
def daysFromCivil (y : Int) (m d : Nat) : Int :=
  let y := if m ≤ 2 then y - 1 else y
  let era := y.fdiv 400
  let yearOfEra := y - era * 400
  let month : Int := if 2 < m then (m : Int) - 3 else (m : Int) + 9
  let dayOfYear := (153 * month + 2) / 5 + d - 1
  let dayOfEra := yearOfEra * 365 + yearOfEra / 4 - yearOfEra / 100 + dayOfYear
  era * 146097 + dayOfEra - 719468

/-- The date some days after the start of 1970. -/
def civilFromDays (days : Int) : Int × Nat × Nat :=
  let z := days + 719468
  let era := z.fdiv 146097
  let dayOfEra := z - era * 146097
  let yearOfEra := (dayOfEra - dayOfEra / 1460 + dayOfEra / 36524 - dayOfEra / 146096) / 365
  let dayOfYear := dayOfEra - (365 * yearOfEra + yearOfEra / 4 - yearOfEra / 100)
  let month := (5 * dayOfYear + 2) / 153
  let d := dayOfYear - (153 * month + 2) / 5 + 1
  let m := if month < 10 then month + 3 else month - 9
  let y := yearOfEra + era * 400 + (if m ≤ 2 then 1 else 0)
  (y, m.toNat, d.toNat)

/-! ## Reading -/

/-- Decimal digits, at least one and at most `width`. -/
def digits (width : Nat) (cs : List Char) : Except TimestampError (Nat × List Char) :=
  let read := (cs.take width).takeWhile Char.isDigit
  if cs.isEmpty then .error .tooShort
  else if read.isEmpty then .error .invalid
  else .ok (read.foldl (fun n c => n * 10 + (c.toNat - 48)) 0, cs.drop read.length)

/-- A number after blanks, of at most `width` digits and not outside `lo` to `hi`. -/
def number (width lo hi : Nat) (cs : List Char) : Except TimestampError (Nat × List Char) := do
  let (n, rest) ← digits width (Text.trimStart cs)
  if lo ≤ n ∧ n ≤ hi then .ok (n, rest) else .error .outOfRange

/-- A year: four digits at most, or a sign and any number of them. -/
def signedYear : List Char → Except TimestampError (Int × List Char)
  | '-' :: rest => (digits rest.length rest).map fun (n, r) => (-(n : Int), r)
  | '+' :: rest => (digits rest.length rest).map fun (n, r) => ((n : Int), r)
  | cs => (digits 4 cs).map fun (n, r) => ((n : Int), r)

/-- A year after blanks, of 32 bits. -/
def year (cs : List Char) : Except TimestampError (Int × List Char) := do
  let (y, rest) ← signedYear (Text.trimStart cs)
  if -(twoTo 31 : Nat) ≤ y ∧ y < (twoTo 31 : Nat) then .ok (y, rest) else .error .outOfRange

/-- A given character after blanks. -/
def mark (c : Char) (cs : List Char) : Except TimestampError (Unit × List Char) :=
  match Text.trimStart cs with
  | [] => .error .tooShort
  | d :: rest => if d = c then .ok ((), rest) else .error .invalid

/-- The character between date and time: a `T` or a space. -/
def separator : List Char → Except TimestampError (Unit × List Char)
  | [] => .error .tooShort
  | c :: rest => if c = 't' ∨ c = 'T' ∨ c = ' ' then .ok ((), rest) else .error .invalid

/-- A fraction of a second in nanoseconds; digits beyond the ninth are dropped. -/
def fraction : List Char → Except TimestampError (Nat × List Char)
  | '.' :: rest => do
    let (n, tail) ← digits 9 rest
    let width := rest.length - tail.length
    .ok (n * tenTo (9 - width), tail.dropWhile Char.isDigit)
  | cs => .ok (0, cs)

/-- Two digits, the first of them at most `top`. -/
def twoDigits (top : Char) : List Char → Except TimestampError (Nat × List Char)
  | a :: b :: rest =>
    if a.isDigit ∧ b.isDigit then
      if a ≤ top then .ok ((a.toNat - 48) * 10 + (b.toNat - 48), rest) else .error .outOfRange
    else .error .invalid
  | [a] => if a.toNat < 0x80 then .error .tooShort else .error .invalid
  | [] => .error .tooShort

/-- The offset from universal time in seconds: a `Z`, or a sign, hours and minutes. -/
def signedOffset : List Char → Except TimestampError (Int × List Char)
  | [] => .error .tooShort
  | c :: rest =>
    if c = 'z' ∨ c = 'Z' then .ok (0, rest)
    else if c = '+' ∨ c = '-' ∨ c = '\u2212' then do
      let (h, rest) ← twoDigits '9' rest
      let rest := rest.dropWhile fun c => c = ':' || Text.isBlank c
      let (m, rest) ← twoDigits '5' rest
      let size : Int := h * 3600 + m * 60
      .ok (if c = '+' then size else -size, rest)
    else .error .invalid

/-- The offset from universal time in seconds, after blanks; `UTC` is none. -/
def offset (cs : List Char) : Except TimestampError (Int × List Char) :=
  match Text.trimStart cs with
  | u :: t :: c :: rest =>
    if u.toUpper = 'U' ∧ t.toUpper = 'T' ∧ c.toUpper = 'C' then .ok (0, rest)
    else signedOffset (u :: t :: c :: rest)
  | cs => signedOffset cs

/-- The first second of the first year that the calendar has. -/
def firstSecond : Int := daysFromCivil (-262143) 1 1 * 86400

/-- The second after the last year that the calendar has. -/
def endSecond : Int := daysFromCivil 262143 1 1 * 86400

/-- The moment of a date and a time of day at an offset from universal time. The sixtieth second of
a minute is written as a leap second of the one before it. -/
def ofLocal (y : Int) (mo d h mi s ns : Nat) (off : Int) : Except TimestampError Timestamp :=
  if 86400 ≤ off.natAbs then .error .outOfRange
  else if daysInMonth y mo < d ∨ y < -262143 ∨ 262142 < y then .error .outOfRange
  else
    let (s, ns) := if s = 60 then (59, ns + 1000000000) else (s, ns)
    let seconds := daysFromCivil y mo d * 86400 + h * 3600 + mi * 60 + s - off
    -- The offset can carry a date of the last year past its end.
    if firstSecond ≤ seconds ∧ seconds < endSecond then .ok ⟨seconds, ns⟩ else .error .impossible

/-- The moment that a text names. -/
def read (text : String) : Except TimestampError Timestamp := do
  let (y, cs) ← year text.toList
  let (_, cs) ← mark '-' cs
  let (mo, cs) ← number 2 1 12 cs
  let (_, cs) ← mark '-' cs
  let (d, cs) ← number 2 1 31 cs
  let (_, cs) ← separator cs
  let (h, cs) ← number 2 0 23 cs
  let (_, cs) ← mark ':' cs
  let (mi, cs) ← number 2 0 59 cs
  let (_, cs) ← mark ':' cs
  let (s, cs) ← number 2 0 60 cs
  let (ns, cs) ← fraction cs
  let (off, cs) ← offset cs
  if ¬ (Text.trimStart cs).isEmpty then .error .tooLong else ofLocal y mo d h mi s ns off

/-! ## Writing -/

/-- A number in at least `width` digits. -/
def padded (width n : Nat) : List Char :=
  let ds := Nat.toDigits 10 n
  List.replicate (width - ds.length) '0' ++ ds

/-- A year in four digits, or with a sign where it does not fit. -/
def yearText (y : Int) : List Char :=
  if 0 ≤ y ∧ y ≤ 9999 then padded 4 y.toNat
  else (if y < 0 then '-' else '+') :: padded 4 y.natAbs

/-- The fraction of a second in as few groups of three digits as are exact. -/
def fractionText (ns : Nat) : List Char :=
  if ns = 0 then []
  else if ns % 1000000 = 0 then '.' :: padded 3 (ns / 1000000)
  else if ns % 1000 = 0 then '.' :: padded 6 (ns / 1000)
  else '.' :: padded 9 ns

/-- The written form of a moment. -/
def text (t : Timestamp) : String :=
  let days := t.seconds.fdiv 86400
  let second := (t.seconds - days * 86400).toNat
  let (y, m, d) := civilFromDays days
  String.ofList (yearText y ++ '-' :: padded 2 m ++ '-' :: padded 2 d ++
    'T' :: padded 2 (second / 3600) ++ ':' :: padded 2 (second / 60 % 60) ++
    ':' :: padded 2 (second % 60 + t.nanos / 1000000000) ++
    fractionText (t.nanos % 1000000000) ++ ['Z'])

end Timestamp

end NodeProvisioning

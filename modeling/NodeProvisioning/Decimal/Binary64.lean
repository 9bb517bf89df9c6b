import NodeProvisioning.Decimal.Power

/-!
# Decimals and binary floating point

Finite binary numbers of 53 significant bits, the nearest one to a decimal, and the shortest decimal
that reads back as a given one. All arithmetic is on natural numbers.

## Main definitions

* `Decimal` — a sign, digits and a power of ten
* `Binary64` — a sign, a mantissa and a power of two
* `Decimal.toBinary64?` — the nearest binary number, a tie going to the even mantissa
* `Binary64.shortest` — the fewest digits that read back
* `Decimal.text` — positional from a hundred-thousandth to ten quadrillion, else with an exponent
-/

namespace NodeProvisioning

/-- The number `± digits * 10 ^ exponent`. -/
structure Decimal where
  negative : Bool
  digits : Nat
  exponent : Int
deriving DecidableEq, Repr

/-- The number `± mantissa * 2 ^ exponent`. -/
structure Binary64 where
  negative : Bool
  mantissa : Nat
  exponent : Int
deriving DecidableEq, Repr

/-- The quotient rounded to the nearest integer, a tie going to the even one. -/
def roundHalfEven (num den : Nat) : Nat :=
  let q := num / den
  let r := num % den
  if 2 * r < den then q
  else if den < 2 * r then q + 1
  else if q % 2 = 0 then q else q + 1

/-- The digits of a natural number to the base ten. -/
def decimalDigits (n : Nat) : List Char := (Nat.toDigits 10 n)

namespace Decimal

/-- The nearest binary number to `num / den`, unless it is too large. -/
def nearest? (negative : Bool) (num den : Nat) : Option Binary64 :=
  let guess : Int := (Nat.log2 num : Int) - (Nat.log2 den : Int) - 53
  let mantissaAt (e : Int) : Nat :=
    roundHalfEven (num * twoTo (-e).toNat) (den * twoTo e.toNat)
  let tooSmall := num * twoTo (-guess).toNat < den * twoTo guess.toNat * twoTo 53
  let exponent := max (if tooSmall then guess else guess + 1) (-1074)
  let mantissa := mantissaAt exponent
  let (mantissa, exponent) :=
    if mantissa = twoTo 53 then (twoTo 52, exponent + 1) else (mantissa, exponent)
  if 971 < exponent then none else some ⟨negative, mantissa, exponent⟩

/-- The nearest binary number to a decimal, unless it is too large. -/
def toBinary64? (d : Decimal) : Option Binary64 :=
  let magnitude : Int := d.exponent + (decimalDigits d.digits).length
  if d.digits = 0 ∨ magnitude < -330 then some ⟨d.negative, 0, -1074⟩
  else if 310 < magnitude then none
  else if 0 ≤ d.exponent then nearest? d.negative (d.digits * tenTo d.exponent.toNat) 1
  else nearest? d.negative d.digits (tenTo (-d.exponent).toNat)

/-- Drop the zeros at the end of the digits. -/
def trimZeros : (fuel : Nat) → Decimal → Decimal
  | 0, d => d
  | fuel + 1, d =>
    if d.digits ≠ 0 ∧ d.digits % 10 = 0 then
      trimZeros fuel { d with digits := d.digits / 10, exponent := d.exponent + 1 }
    else d

/-- A decimal in digits: positional from `0.00001` up to below ten quadrillion, else one digit, a
point, the others, and an exponent with its sign and at least two digits. -/
def text (d : Decimal) : String :=
  let sign := if d.negative then "-" else ""
  let digits := decimalDigits d.digits
  let point : Int := digits.length + d.exponent
  if d.digits = 0 then sign ++ "0.0"
  else if 0 ≤ d.exponent ∧ point ≤ 16 then
    sign ++ String.ofList (digits ++ List.replicate d.exponent.toNat '0') ++ ".0"
  else if 0 < point ∧ point ≤ 16 then
    sign ++ String.ofList (digits.take point.toNat) ++ "." ++
      String.ofList (digits.drop point.toNat)
  else if -5 < point ∧ point ≤ 0 then
    sign ++ "0." ++ String.ofList (List.replicate (-point).toNat '0' ++ digits)
  else
    let rest := digits.drop 1
    let fraction := if rest.isEmpty then "" else "." ++ String.ofList rest
    let scale := point - 1
    let size := decimalDigits scale.natAbs
    let size := if size.length < 2 then '0' :: size else size
    sign ++ String.ofList (digits.take 1) ++ fraction ++ "e" ++ (if scale < 0 then "-" else "+") ++
      String.ofList size

end Decimal

namespace Binary64

/-- The number zero of a sign. -/
def zero (negative : Bool) : Binary64 := ⟨negative, 0, -1074⟩

/-- The least `j` up to a bound for which `num * 10 ^ j` reaches `den`. -/
def scaleUp (num den : Nat) : (fuel j : Nat) → Nat
  | 0, j => j
  | fuel + 1, j => if den ≤ num * tenTo j then j else scaleUp num den fuel (j + 1)

/-- The shortest of the decimals that read back as the number, of those the nearest to it, looked
for on the grids of `n`, `n + 1`, … digits below the leading power of ten `lead`. -/
def search (b : Binary64) (lead : Int) : (fuel n : Nat) → Decimal
  | 0, _ => ⟨b.negative, b.mantissa, 0⟩
  | fuel + 1, n =>
    let grid : Int := lead - n + 1
    -- in units of a quarter of the last place: the number and the ends of what rounds to it
    let value := 4 * b.mantissa
    let low := if b.mantissa = twoTo 52 ∧ -1074 < b.exponent then value - 1 else value - 2
    let high := value + 2
    let unit : Int := b.exponent - 2
    let left := tenTo grid.toNat * twoTo (-unit).toNat
    let right := tenTo (-grid).toNat * twoTo unit.toNat
    let below := value * right / left
    let above := below + 1
    let inside (c : Nat) : Bool :=
      if b.mantissa % 2 = 0 then low * right ≤ c * left ∧ c * left ≤ high * right
      else low * right < c * left ∧ c * left < high * right
    let nearBelow := value * right - below * left ≤ above * left - value * right
    if inside below ∧ (nearBelow ∨ ¬ inside above) ∧ below ≠ 0 then
      Decimal.trimZeros 20 ⟨b.negative, below, grid⟩
    else if inside above then Decimal.trimZeros 20 ⟨b.negative, above, grid⟩
    else search b lead fuel (n + 1)

/-- The shortest decimal that reads back as the number. -/
def shortest (b : Binary64) : Decimal :=
  if b.mantissa = 0 then ⟨b.negative, 0, 0⟩
  else
    let num := b.mantissa * twoTo b.exponent.toNat
    let den := twoTo (-b.exponent).toNat
    let lead : Int :=
      if den ≤ num then (decimalDigits (num / den)).length - 1
      else -(scaleUp num den 400 1 : Nat)
    search b lead 20 1

/-- The number as an exact quotient. -/
def toRat (b : Binary64) : Rat :=
  let size : Rat := (b.mantissa * twoTo b.exponent.toNat : Nat) / (twoTo (-b.exponent).toNat : Nat)
  if b.negative then -size else size

end Binary64

end NodeProvisioning

/-!
# Hexadecimal digits

## Main definitions

* `Text.hexDigit` — the lower-case digit of a value below sixteen
* `Text.hex` — a number without leading zeros
* `Text.hexFixed` — a number in a given count of digits
* `Text.hexValue?` — the value of a digit of either case
-/

namespace NodeProvisioning.Text

/-- The lower-case hexadecimal digit of a value below sixteen. -/
def hexDigit (n : Nat) : Char :=
  if n < 10 then Char.ofNat (48 + n) else Char.ofNat (87 + n)

/-- The last `count` hexadecimal digits of a number, with leading zeros. -/
def hexFixed : (count : Nat) → Nat → List Char
  | 0, _ => []
  | count + 1, n => hexFixed count (n / 16) ++ [hexDigit (n % 16)]

/-- The lower-case hexadecimal digits of a number, without leading zeros. -/
def hex (n : Nat) : List Char :=
  if n < 16 then [hexDigit n] else hex (n / 16) ++ [hexDigit (n % 16)]

/-- The value of a hexadecimal digit of either case. -/
def hexValue? (c : Char) : Option Nat :=
  if '0' ≤ c ∧ c ≤ '9' then some (c.toNat - 48)
  else if 'a' ≤ c ∧ c ≤ 'f' then some (c.toNat - 87)
  else if 'A' ≤ c ∧ c ≤ 'F' then some (c.toNat - 55)
  else none

@[simp] theorem length_hexFixed (count n : Nat) : (hexFixed count n).length = count := by
  induction count generalizing n with
  | zero => rfl
  | succ count ih => simp [hexFixed, ih]

end NodeProvisioning.Text

/-!
# Powers of two and ten

The scales of binary and decimal numbers, and how many numbers fit into so many bits.

## Main definitions

* `twoTo`, `tenTo` — the powers
-/

namespace NodeProvisioning

/-- Two to a power: how many numbers fit into so many bits. -/
def twoTo (n : Nat) : Nat := Nat.pow 2 n

/-- Ten to a power. -/
def tenTo (n : Nat) : Nat := Nat.pow 10 n

theorem twoTo_succ (n : Nat) : twoTo (n + 1) = twoTo n * 2 := rfl

@[simp] theorem tenTo_zero : tenTo 0 = 1 := rfl

theorem twoTo_pos (n : Nat) : 0 < twoTo n := Nat.pow_pos (by decide)

theorem tenTo_pos (n : Nat) : 0 < tenTo n := Nat.pow_pos (by decide)

end NodeProvisioning

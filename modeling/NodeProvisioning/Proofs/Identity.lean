import Mathlib.Algebra.Group.Nat.Defs
import NodeProvisioning.Manifest

/-!
# The identity of claims

A claim is known by the namespace of its workload and by nine hexadecimal digits of a digest, so
its key tells the workload and the index apart as far as the digests do.  The digested text has the
namespace, the name and the index with slashes between them, and none of the three is escaped.
Still no two of them are written alike: the namespace is in the key as well, and an index has no
slash, so that the last slash of the text is the one before the index.

## Main definitions

* `Digest.value`, `Digest.leading` — a digest as a number, and its first bits

## Main statements

* `Digest.take_sha256Hex` — the first digits of a digest are its first bits, four to a digit
* `Workload.claimSeed_eq_iff` — in one namespace, the digested text determines name and index
* `Workload.claim_identity` — when two claims have one key
-/

namespace NodeProvisioning

/-! ## Digits -/

namespace Text

/-- Every lower-case hexadecimal digit. -/
def hexDigits : List Char := "0123456789abcdef".toList

theorem hexDigit_mem {n : Nat} (h : n < 16) : hexDigit n ∈ hexDigits := by
  have all : ∀ n < 16, hexDigit n ∈ hexDigits := by decide
  exact all n h

theorem hexDigit_inj {m n : Nat} (hm : m < 16) (hn : n < 16) (h : hexDigit m = hexDigit n) :
    m = n := by
  have all : ∀ m < 16, ∀ n < 16, hexDigit m = hexDigit n → m = n := by decide
  exact all m hm n hn h

theorem hexFixed_subset (count n : Nat) : ∀ c ∈ hexFixed count n, c ∈ hexDigits := by
  induction count generalizing n with
  | zero => simp [hexFixed]
  | succ count ih =>
    intro c mem
    rcases List.mem_append.1 mem with early | last
    · exact ih _ c early
    · rw [List.mem_singleton.1 last]
      exact hexDigit_mem (Nat.mod_lt n (by decide))

/-- The digits of a number are those of its upper part, and then those of its lower part. -/
theorem hexFixed_add (m n x : Nat) :
    hexFixed (m + n) x = hexFixed m (x / 16 ^ n) ++ hexFixed n x := by
  induction n generalizing x with
  | zero => simp [hexFixed]
  | succ n ih =>
    rw [← Nat.add_assoc, hexFixed, ih, hexFixed, Nat.div_div_eq_div_mul, List.append_assoc,
      Nat.pow_succ']

/-- What is above the digits does not show. -/
theorem hexFixed_mul_add (count high low : Nat) :
    hexFixed count (high * 16 ^ count + low) = hexFixed count low := by
  induction count generalizing high low with
  | zero => rfl
  | succ count ih =>
    have upper : (high * 16 ^ (count + 1) + low) / 16 = high * 16 ^ count + low / 16 := by
      rw [Nat.pow_succ, ← Nat.mul_assoc]
      omega
    have last : (high * 16 ^ (count + 1) + low) % 16 = low % 16 := by
      rw [Nat.pow_succ, ← Nat.mul_assoc]
      omega
    rw [hexFixed, hexFixed, upper, last, ih]

/-- A number that fits is known by its digits. -/
theorem hexFixed_inj (count : Nat) {a b : Nat} (ha : a < 16 ^ count) (hb : b < 16 ^ count) :
    hexFixed count a = hexFixed count b ↔ a = b := by
  refine ⟨fun same => ?_, fun same => same ▸ rfl⟩
  induction count generalizing a b with
  | zero =>
    rw [Nat.pow_zero] at ha hb
    omega
  | succ count ih =>
    rw [Nat.pow_succ] at ha hb
    obtain ⟨early, last⟩ := List.append_inj same (by simp)
    have upper : a / 16 = b / 16 := ih (by omega) (by omega) early
    have lower : a % 16 = b % 16 :=
      hexDigit_inj (Nat.mod_lt a (by decide)) (Nat.mod_lt b (by decide)) (List.singleton_inj.1 last)
    omega

end Text

/-! ## Digests -/

namespace Digest

open Text (hexFixed hexFixed_add hexFixed_inj hexFixed_mul_add)

/-- The number that a digest is, its first word the most significant. -/
def value : List UInt32 → Nat
  | [] => 0
  | w :: rest => w.toNat * 16 ^ (8 * rest.length) + value rest

/-- The first bits of a digest, as a number. -/
def leading (bits : Nat) (digest : List UInt32) : Nat :=
  value digest / 2 ^ (32 * digest.length - bits)

theorem value_lt (digest : List UInt32) : value digest < 16 ^ (8 * digest.length) := by
  induction digest with
  | nil => decide
  | cons w rest ih =>
    have word : w.toNat + 1 ≤ 16 ^ 8 := w.toNat_lt
    calc value (w :: rest)
        < w.toNat * 16 ^ (8 * rest.length) + 16 ^ (8 * rest.length) := Nat.add_lt_add_left ih _
      _ = (w.toNat + 1) * 16 ^ (8 * rest.length) := by rw [Nat.add_mul, Nat.one_mul]
      _ ≤ 16 ^ 8 * 16 ^ (8 * rest.length) := Nat.mul_le_mul_right _ word
      _ = 16 ^ (8 * (w :: rest).length) := by
        rw [← Nat.pow_add, List.length_cons, Nat.mul_add, Nat.add_comm]

/-- The digits of the words of a digest are those of the digest as one number. -/
theorem flatMap_hexFixed (digest : List UInt32) :
    (digest.flatMap fun w => hexFixed 8 w.toNat) = hexFixed (8 * digest.length) (value digest) := by
  induction digest with
  | nil => rfl
  | cons w rest ih =>
    have positive : 0 < 16 ^ (8 * rest.length) := Nat.pow_pos (by decide)
    have upper : value (w :: rest) / 16 ^ (8 * rest.length) = w.toNat := by
      rw [value, Nat.add_comm, Nat.add_mul_div_right _ _ positive,
        Nat.div_eq_of_lt (value_lt rest), Nat.zero_add]
    rw [List.flatMap_cons, ih, List.length_cons, Nat.mul_add, Nat.add_comm (8 * rest.length),
      Nat.mul_one, hexFixed_add, upper, value, hexFixed_mul_add]

theorem length_sha256 (message : List UInt8) : (sha256 message).length = 8 := rfl

/-- The digest of a text. -/
def ofText (text : String) : List UInt32 := sha256 text.toUTF8.toList

/-- **The first digits of a digest** are its first bits, four to a digit. -/
theorem take_sha256Hex (text : String) {count : Nat} (h : count ≤ 64) :
    (sha256Hex text).take count = hexFixed count (leading (4 * count) (ofText text)) := by
  have length : 8 * (ofText text).length = count + (64 - count) := by
    rw [ofText, length_sha256]
    omega
  have exponent : 32 * (ofText text).length - 4 * count = 4 * (64 - count) := by
    rw [ofText, length_sha256]
    omega
  have digits : sha256Hex text = hexFixed (count + (64 - count)) (value (ofText text)) := by
    rw [← length, ← flatMap_hexFixed]
    rfl
  rw [digits, hexFixed_add, List.take_left' (by simp), leading, exponent, Nat.pow_mul]

theorem leading_lt (text : String) (count : Nat) (h : count ≤ 64) :
    leading (4 * count) (ofText text) < 16 ^ count := by
  have exponent : 32 * (ofText text).length - 4 * count = 4 * (64 - count) := by
    rw [ofText, length_sha256]
    omega
  have bound : value (ofText text) < 16 ^ (64 - count) * 16 ^ count := by
    rw [← Nat.pow_add, Nat.sub_add_cancel h]
    exact value_lt _
  rw [leading, exponent, Nat.pow_mul]
  exact Nat.div_lt_of_lt_mul bound

end Digest

/-! ## Claims -/

namespace Workload

open Digest (leading ofText)

/-- Texts that end in a part without the separator are divided at the last separator. -/
theorem append_cons_inj {sep : Char} {a b x y : List Char} (hx : sep ∉ x) (hy : sep ∉ y)
    (same : a ++ sep :: x = b ++ sep :: y) : a = b ∧ x = y := by
  rcases List.append_eq_append_iff.1 same with ⟨between, rfl, tail⟩ | ⟨between, rfl, tail⟩ <;>
  cases between with
  | nil =>
    injection tail with _ tail
    exact ⟨by simp, by simp [tail]⟩
  | cons c between =>
    injection tail with _ tail
    simp_all

/-- An index is written in digits. -/
theorem slash_not_mem_indexText (i : Nat) : '/' ∉ (indexText i).toList := by
  intro mem
  rw [indexText, Nat.toString_eq_repr, Nat.toList_repr] at mem
  exact absurd (Nat.isDigit_of_mem_toDigits (by decide) (by decide) mem) (by decide)

/-- An index is known by its text. -/
theorem indexText_inj {i j : Nat} (same : indexText i = indexText j) : i = j := by
  have digits : Nat.toDigits 10 i = Nat.toDigits 10 j := by
    simpa only [indexText, Nat.toString_eq_repr, Nat.toList_repr] using congrArg String.toList same
  have read := congrArg (fun l => Nat.ofDigitChars 10 l 0) digits
  simpa using read

/-- **In one namespace the digested text determines the name and the index**, whatever slashes
there are in the namespace and the name. -/
theorem claimSeed_eq_iff {w v : Workload} (ns : w.ns = v.ns) {i j : Nat} :
    w.claimSeed (indexText i) = v.claimSeed (indexText j) ↔ w.name = v.name ∧ i = j := by
  constructor
  · intro same
    have same : w.ns.toList ++ '/' :: (w.name.toList ++ '/' :: (indexText i).toList) =
        v.ns.toList ++ '/' :: (v.name.toList ++ '/' :: (indexText j).toList) := by
      simpa [claimSeed] using congrArg String.toList same
    rw [ns, List.append_cancel_left_eq, List.cons_inj_right] at same
    obtain ⟨name, index⟩ :=
      append_cons_inj (slash_not_mem_indexText i) (slash_not_mem_indexText j) same
    exact ⟨String.toList_injective name, indexText_inj (String.toList_injective index)⟩
  · rintro ⟨name, rfl⟩
    rw [claimSeed, claimSeed, ns, name]

/-- The digits of a name are the first thirty-six bits of the digest. -/
theorem claimName_eq (w : Workload) (index : String) :
    w.claimName index =
      "ws" ++ String.ofList (Text.hexFixed 9 (leading 36 (ofText (w.claimSeed index)))) := by
  have digits : (shortDigest (w.claimSeed index)).take 9 =
      Text.hexFixed 9 (leading 36 (ofText (w.claimSeed index))) := by
    rw [shortDigest, List.take_take]
    exact Digest.take_sha256Hex _ (by decide)
  apply String.toList_injective
  simp [claimName, digits]

/-- Two names are the same exactly if the digests agree in their first thirty-six bits. -/
theorem claimName_eq_iff {w v : Workload} {index index' : String} :
    w.claimName index = v.claimName index' ↔
      leading 36 (ofText (w.claimSeed index)) = leading 36 (ofText (v.claimSeed index')) := by
  have small (text : String) : leading 36 (ofText text) < 16 ^ 9 :=
    Digest.leading_lt text 9 (by decide)
  have digits := Text.hexFixed_inj 9 (small (w.claimSeed index)) (small (v.claimSeed index'))
  rw [claimName_eq, claimName_eq, ← digits]
  refine ⟨fun same => ?_, fun same => congrArg (fun l => "ws" ++ String.ofList l) same⟩
  exact String.ofList_injective ((String.append_right_inj "ws").1 same)

/-- **The identity of claims.**  The key of a claim depends on nothing but the namespace and the
name of its workload and the index; its name is `ws` and nine hexadecimal digits; and two claims
have one key exactly if they are in one namespace and either have one name and index, or have
different digested texts whose digests agree in their first thirty-six bits. -/
theorem claim_identity (w v : Workload) (i j : Nat) (options options' : ManifestOptions) :
    let key := (w.claim options (indexText i)).key
    let other := (v.claim options' (indexText j)).key
    let text := w.claimSeed (indexText i)
    let text' := v.claimSeed (indexText j)
    (w.ns = v.ns → w.name = v.name → i = j → key = other) ∧
    (∃ digits : List Char, key.name = "ws" ++ String.ofList digits ∧ digits.length = 9 ∧
      ∀ c ∈ digits, c ∈ Text.hexDigits) ∧
    (key = other ↔ w.ns = v.ns ∧ (w.name = v.name ∧ i = j ∨
      text ≠ text' ∧ leading 36 (ofText text) = leading 36 (ofText text'))) := by
  intro key other text text'
  have keys : key = other ↔ w.ns = v.ns ∧ leading 36 (ofText text) = leading 36 (ofText text') := by
    rw [← claimName_eq_iff]
    exact ClaimKey.mk.injEq .. ▸ Iff.rfl
  have iff : key = other ↔ w.ns = v.ns ∧ (w.name = v.name ∧ i = j ∨
      text ≠ text' ∧ leading 36 (ofText text) = leading 36 (ofText text')) := by
    rw [keys]
    refine and_congr_right fun ns => ?_
    rw [← claimSeed_eq_iff ns]
    by_cases same : text = text'
    · have leading_eq : leading 36 (ofText text) = leading 36 (ofText text') := by rw [same]
      exact ⟨fun _ => .inl same, fun _ => leading_eq⟩
    · exact ⟨fun leading_eq => .inr ⟨same, leading_eq⟩, fun h => (h.resolve_left same).2⟩
  refine ⟨fun ns name index => iff.2 ⟨ns, .inl ⟨name, index⟩⟩, ?_, iff⟩
  exact ⟨_, claimName_eq w _, Text.length_hexFixed _ _, Text.hexFixed_subset _ _⟩

end Workload

end NodeProvisioning

import Mathlib.Data.Nat.Bitwise

/-!
# Parities

The number of ones of a word, of which only the parity respects exclusive or, and words put
together from a list of bits.
-/

namespace RioFabric.Lib

/-- The number of ones among the low `count` bits. -/
def ones (count value : Nat) : Nat := (List.range count).countP value.testBit

theorem ones_succ (count value : Nat) :
    ones (count + 1) value = ones count value + (value.testBit count).toNat := by
  rw [ones, List.range_succ, List.countP_append, List.countP_singleton, ones]
  cases value.testBit count <;> rfl

@[simp] theorem ones_zero (count : Nat) : ones count 0 = 0 := by
  induction count with
  | zero => rfl
  | succ count ih => rw [ones_succ, ih, Nat.zero_testBit, Bool.toNat_false]

theorem ones_xor (count left right : Nat) :
    ones count (left ^^^ right) % 2 = (ones count left + ones count right) % 2 := by
  induction count with
  | zero => rfl
  | succ count ih =>
    have bit : (left ^^^ right).testBit count = (left.testBit count ^^ right.testBit count) :=
      Nat.testBit_xor left right count
    rw [ones_succ, ones_succ, ones_succ, bit]
    cases left.testBit count <;> cases right.testBit count <;>
      simp only [Bool.xor_false, Bool.xor_true, Bool.not_false, Bool.not_true, Bool.toNat_false,
        Bool.toNat_true] <;> omega

theorem ones_xor_and (count left right mask : Nat) :
    ones count ((left ^^^ right) &&& mask) % 2 =
      (ones count (left &&& mask) + ones count (right &&& mask)) % 2 := by
  rw [Nat.and_xor_distrib_right, ones_xor]

theorem foldl_count {α : Type} (holds : α → Prop) [DecidablePred holds] (items : List α)
    (start : Nat) :
    items.foldl (fun count item => if holds item then count + 1 else count) start =
      start + items.countP fun item => holds item := by
  induction items generalizing start with
  | nil => rfl
  | cons item rest ih =>
    rw [List.foldl_cons, ih, List.countP_cons]
    by_cases isCounted : holds item
    · simp only [isCounted, if_true, decide_true]
      omega
    · simp [isCounted]

theorem foldl_bits (bit : Nat → Nat) (single : ∀ i, bit i ≤ 1) (count : Nat) :
    (List.range count).foldl (fun word i => word + (bit i <<< i)) 0 < 2 ^ count ∧
      ∀ i < count,
        ((List.range count).foldl (fun word i => word + (bit i <<< i)) 0).testBit i =
          decide (bit i = 1) := by
  induction count with
  | zero => exact ⟨Nat.one_pos, fun i below => absurd below (Nat.not_lt_zero i)⟩
  | succ count ih =>
    rw [List.range_succ, List.foldl_append]
    generalize (List.range count).foldl (fun word i => word + (bit i <<< i)) 0 = word at ih
    obtain ⟨below, bits⟩ := ih
    have top := single count
    have sum_eq : word + bit count <<< count = 2 ^ count * bit count + word := by
      rw [Nat.shiftLeft_eq, Nat.mul_comm, Nat.add_comm]
    simp only [List.foldl_cons, List.foldl_nil, sum_eq]
    constructor
    · have upper : 2 ^ count * bit count ≤ 2 ^ count * 1 := Nat.mul_le_mul_left _ top
      rw [Nat.pow_succ]
      omega
    · intro i inRange
      rw [Nat.testBit_two_pow_mul_add _ below]
      by_cases isTop : i < count
      · rw [if_pos isTop, bits i isTop]
      · obtain rfl : i = count := by omega
        rw [if_neg isTop, Nat.sub_self, Nat.testBit_zero]
        have residue : bit i % 2 = bit i := Nat.mod_eq_of_lt (Nat.lt_succ_of_le top)
        rw [residue]

end RioFabric.Lib

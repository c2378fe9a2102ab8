import Mathlib.Tactic.Common

/-!
# Fields of registers

What is read of a field, under its mask, after some field was cleared and set.
-/

namespace RioFabric.Lib

variable {w : Nat} {reg other value mask field : BitVec w}

theorem and_within (within : mask &&& field = field) : reg &&& mask &&& field = reg &&& field := by
  rw [BitVec.and_assoc, within]

theorem or_and_cancel : (mask ||| field) &&& mask = mask := by
  apply BitVec.eq_of_getLsbD_eq
  intro idx _
  rw [BitVec.getLsbD_and, BitVec.getLsbD_or]
  cases mask.getLsbD idx
  · exact Bool.and_false _
  · exact Bool.and_true _

theorem eq_of_and_eq
    (bits : ∀ idx < w, mask.getLsbD idx = true → reg.getLsbD idx = other.getLsbD idx) :
    reg &&& mask = other &&& mask := by
  apply BitVec.eq_of_getLsbD_eq
  intro idx inRange
  rw [BitVec.getLsbD_and, BitVec.getLsbD_and]
  cases isSet : mask.getLsbD idx with
  | false => rw [Bool.and_false, Bool.and_false]
  | true => rw [bits idx inRange isSet]

theorem getLsbD_of_apart (apart : mask &&& field = 0) {idx : Nat}
    (isSet : field.getLsbD idx = true) :
    mask.getLsbD idx = false := by
  have both := congrArg (fun bits => bits.getLsbD idx) apart
  simpa [isSet] using both

theorem and_eq_zero_of_within (within : value &&& mask = value) (apart : mask &&& field = 0) :
    value &&& field = 0 := by
  rw [← within, BitVec.and_assoc, apart]
  exact BitVec.and_zero

theorem within_of_and_not_eq_zero (outside : value &&& ~~~mask = 0) : value &&& mask = value := by
  apply BitVec.eq_of_getLsbD_eq
  intro idx inRange
  rw [BitVec.getLsbD_and, Bool.and_eq_left_iff_imp]
  intro isSet
  have notOutside := @getLsbD_of_apart _ (~~~mask) _ (by rw [BitVec.and_comm, outside]) _ isSet
  simpa [inRange] using notOutside

theorem cleared_within (within : mask &&& field = field) : reg &&& ~~~mask &&& field = 0 := by
  apply BitVec.eq_of_getLsbD_eq
  intro idx inRange
  rw [← within, BitVec.getLsbD_and, BitVec.getLsbD_and, BitVec.getLsbD_and, BitVec.getLsbD_not]
  cases mask.getLsbD idx <;> simp

theorem cleared_apart (apart : mask &&& field = 0) :
    reg &&& ~~~mask &&& field = reg &&& field := by
  apply eq_of_and_eq
  intro idx inRange isSet
  rw [BitVec.getLsbD_and, BitVec.getLsbD_not, getLsbD_of_apart apart isSet]
  simp [inRange]

theorem replaced_and_self (within : value &&& mask = value) :
    ((reg &&& ~~~mask) ||| value) &&& mask = value := by
  refine Eq.trans (eq_of_and_eq fun idx inRange isSet => ?_) within
  rw [BitVec.getLsbD_or, BitVec.getLsbD_and, BitVec.getLsbD_not, isSet]
  simp

theorem replaced_and_apart (within : value &&& mask = value) (apart : mask &&& field = 0) :
    ((reg &&& ~~~mask) ||| value) &&& field = reg &&& field := by
  apply eq_of_and_eq
  intro idx inRange isSet
  have outside := getLsbD_of_apart apart isSet
  have notSet : value.getLsbD idx = false := by
    rw [← within, BitVec.getLsbD_and, outside, Bool.and_false]
  rw [BitVec.getLsbD_or, BitVec.getLsbD_and, BitVec.getLsbD_not, outside, notSet]
  simp [inRange]

theorem and_or_eq_iff :
    reg &&& (mask ||| field) = other &&& (mask ||| field) ↔
      reg &&& mask = other &&& mask ∧ reg &&& field = other &&& field := by
  constructor
  · intro same
    have part : ∀ {sub : BitVec w}, (mask ||| field) &&& sub = sub →
        reg &&& sub = other &&& sub := by
      intro sub within
      rw [← within, ← BitVec.and_assoc, same, BitVec.and_assoc]
    exact ⟨part or_and_cancel, part (by rw [BitVec.or_comm, or_and_cancel])⟩
  · rintro ⟨first, second⟩
    rw [BitVec.and_or_distrib_left, BitVec.and_or_distrib_left, first, second]

/-- The bits under a mask are replaced. -/
def putBits (mask bits reg : BitVec w) : BitVec w := (reg &&& ~~~mask) ||| bits

theorem or_eq_putBits : reg ||| field = putBits field field reg := by
  apply BitVec.eq_of_getLsbD_eq
  intro idx inRange
  rw [putBits, BitVec.getLsbD_or, BitVec.getLsbD_or, BitVec.getLsbD_and, BitVec.getLsbD_not]
  cases field.getLsbD idx
  · simp [inRange]
  · simp

theorem and_not_eq_putBits : reg &&& ~~~field = putBits field 0 reg :=
  (BitVec.or_zero).symm

/-- Fields that are put one after the other, put at once. -/
theorem putBits_putBits {bits others : BitVec w} : putBits mask bits (putBits field others reg) =
    putBits (mask ||| field) (bits ||| (others &&& ~~~mask)) reg := by
  apply BitVec.eq_of_getLsbD_eq
  intro idx inRange
  simp only [putBits, BitVec.getLsbD_or, BitVec.getLsbD_and, BitVec.getLsbD_not, inRange,
    decide_true, Bool.true_and]
  cases mask.getLsbD idx
  · cases field.getLsbD idx
    · simp [Bool.or_comm, Bool.or_left_comm]
    · simp [Bool.or_comm]
  · simp

end RioFabric.Lib

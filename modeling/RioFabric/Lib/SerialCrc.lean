import Mathlib.Data.List.Basic

/-!
# Bit-serial CRCs

A CRC register takes one bit after the other, most significant bit first.  The register is linear
in exclusive or, so that a faster computation need only be compared with it on single bits.  If the
polynomial has a constant term, then a step can be undone: feeding a register its own bits is the
only way to clear it in as many steps as it has bits, and a burst of errors that is no longer than
the register cannot leave it clear.
-/

namespace RioFabric.Lib

variable {w v : Nat}

/-- A map that turns exclusive ors into exclusive ors. -/
def XorLinear (f : BitVec w → BitVec v) : Prop := ∀ x y, f (x ^^^ y) = f x ^^^ f y

namespace XorLinear

variable {f g : BitVec w → BitVec v}

theorem zero (linear : XorLinear f) : f 0 = 0 := by
  have twice := linear 0 0
  rwa [BitVec.xor_self, BitVec.xor_self] at twice

theorem eq_below (fLinear : XorLinear f) (gLinear : XorLinear g)
    (onBits : ∀ i < w, f (BitVec.twoPow w i) = g (BitVec.twoPow w i)) (count : Nat) :
    ∀ x : BitVec w, (∀ i ≥ count, x.getLsbD i = false) → f x = g x := by
  induction count with
  | zero =>
    intro x clear
    have isZero : x = 0 := by
      apply BitVec.eq_of_getLsbD_eq
      intro i _
      rw [clear i (Nat.zero_le i)]
      exact BitVec.getLsbD_zero.symm
    rw [isZero, fLinear.zero, gLinear.zero]
  | succ count ih =>
    intro x clear
    by_cases isSet : x.getLsbD count = true
    · have inRange : count < w := BitVec.lt_of_getLsbD isSet
      have rest : ∀ i ≥ count, (x ^^^ BitVec.twoPow w count).getLsbD i = false := by
        intro i above
        rw [BitVec.getLsbD_xor, BitVec.getLsbD_twoPow]
        by_cases same : count = i
        · subst same
          simp [isSet, inRange]
        · rw [clear i (by omega)]
          simp [same]
      have split : x = x ^^^ BitVec.twoPow w count ^^^ BitVec.twoPow w count := by
        rw [BitVec.xor_assoc, BitVec.xor_self, BitVec.xor_zero]
      rw [split, fLinear, gLinear, ih _ rest, onBits count inRange]
    · apply ih
      intro i above
      by_cases same : i = count
      · subst same
        exact Bool.eq_false_iff.mpr isSet
      · exact clear i (by omega)

theorem ext_of_bits (fLinear : XorLinear f) (gLinear : XorLinear g)
    (onBits : ∀ i < w, f (BitVec.twoPow w i) = g (BitVec.twoPow w i)) : f = g := by
  funext x
  exact fLinear.eq_below gLinear onBits w x fun i above => BitVec.getLsbD_of_ge x i above

end XorLinear

section

variable (poly crc : BitVec w)

/-- One step: the register moves up, and the polynomial is added when the bit that leaves it
differs from the one that comes. -/
def serialStep (bit : Bool) : BitVec w :=
  (crc <<< 1) ^^^ (if crc.msb ^^ bit then poly else 0)

/-- The register after a string of bits. -/
def serialCrc (bits : List Bool) : BitVec w :=
  bits.foldl (serialStep poly) crc

@[simp] theorem serialCrc_nil : serialCrc poly crc [] = crc := rfl

@[simp] theorem serialCrc_cons (bit : Bool) (rest : List Bool) :
    serialCrc poly crc (bit :: rest) = serialCrc poly (serialStep poly crc bit) rest := rfl

theorem serialCrc_append (left right : List Bool) :
    serialCrc poly crc (left ++ right) = serialCrc poly (serialCrc poly crc left) right :=
  List.foldl_append

end

theorem serialStep_xor (poly x y : BitVec w) (a b : Bool) :
    serialStep poly (x ^^^ y) (a ^^ b) = serialStep poly x a ^^^ serialStep poly y b := by
  have fed : ((x ^^^ y).msb ^^ (a ^^ b)) = ((x.msb ^^ a) ^^ (y.msb ^^ b)) := by
    rw [BitVec.msb_xor]
    cases x.msb <;> cases y.msb <;> cases a <;> cases b <;> rfl
  unfold serialStep
  rw [fed, BitVec.shiftLeft_xor_distrib]
  cases x.msb ^^ a <;> cases y.msb ^^ b
  · simp
  · simp [BitVec.xor_assoc]
  · simp only [Bool.xor_false, if_true, Bool.false_eq_true, if_false]
    ac_rfl
  · have cancelled : x <<< 1 ^^^ poly ^^^ (y <<< 1 ^^^ poly) =
        x <<< 1 ^^^ y <<< 1 ^^^ (poly ^^^ poly) := by ac_rfl
    simp [cancelled]

theorem serialCrc_xor (poly : BitVec w) {left right : List Bool} (same : left.length = right.length)
    (x y : BitVec w) :
    serialCrc poly (x ^^^ y) (List.zipWith xor left right) =
      serialCrc poly x left ^^^ serialCrc poly y right := by
  induction left generalizing right x y with
  | nil =>
    rw [List.length_eq_zero_iff.mp same.symm]
    rfl
  | cons a left ih =>
    cases right with
    | nil => cases same
    | cons b right =>
      rw [List.zipWith_cons_cons, serialCrc_cons, serialStep_xor]
      exact ih (Nat.succ.inj same) _ _

theorem serialCrc_zeros (poly : BitVec w) (count : Nat) :
    serialCrc poly 0 (List.replicate count false) = 0 := by
  induction count with
  | zero => rfl
  | succ count ih =>
    have step : serialStep poly 0 false = 0 := by simp [serialStep, BitVec.msb_zero]
    rw [List.replicate_succ, serialCrc_cons, step, ih]

/-- The first `count` bits of a word, most significant bit first. -/
def leading : Nat → BitVec w → List Bool
  | 0, _ => []
  | count + 1, x => x.msb :: leading count (x <<< 1)

/-- A word as a string of bits. -/
def msbFirst (x : BitVec w) : List Bool := leading w x

@[simp] theorem leading_length (count : Nat) (x : BitVec w) : (leading count x).length = count := by
  induction count generalizing x with
  | zero => rfl
  | succ count ih => rw [leading, List.length_cons, ih]

@[simp] theorem msbFirst_length (x : BitVec w) : (msbFirst x).length = w := leading_length w x

theorem leading_xor (count : Nat) (x y : BitVec w) :
    leading count (x ^^^ y) = List.zipWith xor (leading count x) (leading count y) := by
  induction count generalizing x y with
  | zero => rfl
  | succ count ih =>
    rw [leading, leading, leading, List.zipWith_cons_cons, BitVec.msb_xor,
      BitVec.shiftLeft_xor_distrib, ih]

theorem leading_zero (count : Nat) : leading count (0 : BitVec w) = List.replicate count false := by
  induction count with
  | zero => rfl
  | succ count ih =>
    have moved : (0 : BitVec w) <<< 1 = 0 := BitVec.zero_shiftLeft 1
    have highest : (0 : BitVec w).msb = false := BitVec.msb_zero
    rw [leading, moved, ih, highest, List.replicate_succ]

theorem leading_eq_map (count : Nat) (x : BitVec w) :
    leading count x = (List.range count).map x.getMsbD := by
  induction count generalizing x with
  | zero => rfl
  | succ count ih =>
    rw [leading, ih, List.range_succ_eq_map, List.map_cons, List.map_map]
    congr 1
    apply List.map_congr_left
    intro i _
    rw [BitVec.getMsbD_shiftLeft]
    rfl

theorem msbFirst_append (x : BitVec w) (y : BitVec v) :
    msbFirst (x ++ y) = msbFirst x ++ msbFirst y := by
  rw [msbFirst, msbFirst, msbFirst, leading_eq_map, leading_eq_map, leading_eq_map, List.range_add,
    List.map_append, List.map_map]
  congr 1
  · apply List.map_congr_left
    intro i inRange
    rw [BitVec.getMsbD_append, if_neg (Nat.not_le.mpr (List.mem_range.mp inRange))]
  · apply List.map_congr_left
    intro i _
    rw [Function.comp_apply, BitVec.getMsbD_append, if_pos (Nat.le_add_right w i),
      Nat.add_sub_cancel_left]

theorem eq_of_msb {x y : BitVec w} (highest : x.msb = y.msb) (below : x <<< 1 = y <<< 1) :
    x = y := by
  apply BitVec.eq_of_getMsbD_eq
  intro i _
  cases i with
  | zero => exact highest
  | succ i =>
    have here := congrArg (fun z => BitVec.getMsbD z i) below
    simpa [BitVec.getMsbD_shiftLeft, Nat.add_comm] using here

theorem eq_of_leading {count : Nat} {x y : BitVec w} (same : leading count x = leading count y)
    (below : x <<< count = y <<< count) : x = y := by
  induction count generalizing x y with
  | zero => simpa using below
  | succ count ih =>
    rw [leading, leading, List.cons.injEq] at same
    rw [Nat.add_comm, BitVec.shiftLeft_add, BitVec.shiftLeft_add] at below
    exact eq_of_msb same.1 (ih same.2 below)

theorem msbFirst_xor (x y : BitVec w) :
    msbFirst (x ^^^ y) = List.zipWith xor (msbFirst x) (msbFirst y) := leading_xor w x y

theorem msbFirst_zero : msbFirst (0 : BitVec w) = List.replicate w false := leading_zero w

theorem serialCrc_msbFirst_xor (poly left right : BitVec w) (x y : BitVec v) :
    serialCrc poly (left ^^^ right) (msbFirst (x ^^^ y)) =
      serialCrc poly left (msbFirst x) ^^^ serialCrc poly right (msbFirst y) := by
  rw [msbFirst_xor]
  exact serialCrc_xor poly ((msbFirst_length x).trans (msbFirst_length y).symm) left right

section Odd

variable {poly : BitVec w} (odd : poly.getLsbD 0 = true) {crc : BitVec w} {bits : List Bool}

include odd

theorem serialCrc_eq_zero_iff (short : bits.length ≤ w) :
    serialCrc poly crc bits = 0 ↔ bits = leading bits.length crc ∧ crc <<< bits.length = 0 := by
  induction bits generalizing crc with
  | nil => simp [leading]
  | cons bit rest ih =>
    rw [List.length_cons] at short
    rw [serialCrc_cons, ih (Nat.le_of_succ_le short), List.length_cons, leading,
      List.cons.injEq, Nat.add_comm rest.length 1, BitVec.shiftLeft_add]
    by_cases fed : crc.msb = bit
    · have step : serialStep poly crc bit = crc <<< 1 := by simp [serialStep, fed]
      rw [step]
      simp [fed]
    · -- the step leaves its lowest bit set, and the rest is too short to move it out
      have lowest : (serialStep poly crc bit).getLsbD 0 = true := by
        have differs : (crc.msb ^^ bit) = true := by simpa using fed
        simp [serialStep, differs, odd]
      have stays : serialStep poly crc bit <<< rest.length ≠ 0 := by
        intro clear
        have inRange : rest.length < w := short
        have moved := congrArg (fun x => BitVec.getLsbD x rest.length) clear
        simp only [BitVec.getLsbD_shiftLeft, inRange, Nat.lt_irrefl, Nat.sub_self, lowest] at moved
        simp at moved
      constructor
      · exact fun both => absurd both.2 stays
      · exact fun both => absurd both.1.1.symm fed

/-- Feeding a register as many bits as it has clears it exactly when they are its own. -/
theorem serialCrc_msbFirst_eq_zero_iff {other : BitVec w} :
    serialCrc poly crc (msbFirst other) = 0 ↔ other = crc := by
  rw [serialCrc_eq_zero_iff odd (Nat.le_of_eq (msbFirst_length other)), msbFirst_length]
  constructor
  · intro both
    apply eq_of_leading both.1
    rw [both.2]
    exact BitVec.shiftLeft_eq_zero (Nat.le_refl w)
  · rintro rfl
    exact ⟨rfl, BitVec.shiftLeft_eq_zero (Nat.le_refl w)⟩

theorem serialCrc_zeros_ne_zero (notZero : crc ≠ 0) (count : Nat) :
    serialCrc poly crc (List.replicate count false) ≠ 0 := by
  induction count generalizing crc with
  | zero => exact notZero
  | succ count ih =>
    rw [List.replicate_succ, serialCrc_cons]
    apply ih
    intro clear
    have width : 1 ≤ w := Nat.succ_le_of_lt (BitVec.lt_of_getLsbD odd)
    have single := (@serialCrc_eq_zero_iff w poly odd crc [false] width).mp clear
    apply notZero
    apply eq_of_leading (single.1.symm.trans (leading_zero 1).symm)
    exact single.2.trans (BitVec.zero_shiftLeft 1).symm

theorem serialCrc_burst_ne_zero {burst : List Bool} (short : burst.length ≤ w)
    (notEmpty : true ∈ burst) (before after : Nat) :
    serialCrc poly 0
        (List.replicate before false ++ burst ++ List.replicate after false) ≠ 0 := by
  rw [serialCrc_append, serialCrc_append, serialCrc_zeros]
  apply serialCrc_zeros_ne_zero odd
  intro clear
  have own := ((serialCrc_eq_zero_iff odd short).mp clear).1
  rw [leading_zero] at own
  rw [own] at notEmpty
  exact Bool.noConfusion (List.eq_of_mem_replicate notEmpty)

theorem serialCrc_confined_ne_zero {before length : Nat} (short : length ≤ w)
    (confined : ∀ j, bits[j]? = some true → before ≤ j ∧ j < before + length)
    (notEmpty : true ∈ bits) : serialCrc poly 0 bits ≠ 0 := by
  have zeros : ∀ part : List Bool, true ∉ part → part = List.replicate part.length false := by
    intro part clear
    refine List.eq_replicate_iff.mpr ⟨rfl, fun bit isMember => ?_⟩
    cases bit with
    | false => rfl
    | true => exact absurd isMember clear
  have split : bits = bits.take before ++ (bits.drop before).take length ++
      (bits.drop before).drop length := by
    rw [List.append_assoc, List.take_append_drop, List.take_append_drop]
  have front : true ∉ bits.take before := by
    intro isMember
    obtain ⟨j, found⟩ := List.mem_iff_getElem?.mp isMember
    rw [List.getElem?_take] at found
    split at found
    · next inFront => exact absurd (confined j found).1 (Nat.not_le.mpr inFront)
    · cases found
  have back : true ∉ (bits.drop before).drop length := by
    intro isMember
    obtain ⟨j, found⟩ := List.mem_iff_getElem?.mp isMember
    rw [List.getElem?_drop, List.getElem?_drop] at found
    have inside := (confined _ found).2
    omega
  have middle : true ∈ (bits.drop before).take length := by
    rw [split, List.mem_append, List.mem_append] at notEmpty
    rcases notEmpty with (inFront | inMiddle) | inBack
    · exact absurd inFront front
    · exact inMiddle
    · exact absurd inBack back
  have within : ((bits.drop before).take length).length ≤ w := by
    rw [List.length_take]
    omega
  rw [split, zeros _ front, zeros _ back]
  exact serialCrc_burst_ne_zero odd within middle _ _

end Odd

/-- An error that is not empty and confined to `length` consecutive bits of a word. -/
def IsBurst (length : Nat) (error : BitVec v) : Prop :=
  error ≠ 0 ∧ ∃ first, ∀ i, error.getLsbD i = true → first ≤ i ∧ i < first + length

/-- A burst that is no longer than the CRC is never missed. -/
theorem IsBurst.serialCrc_ne_zero {poly : BitVec w} (odd : poly.getLsbD 0 = true) {length : Nat}
    (short : length ≤ w) {error : BitVec v} (burst : IsBurst length error) :
    serialCrc poly 0 (msbFirst error) ≠ 0 := by
  obtain ⟨notZero, first, window⟩ := burst
  have bit : ∀ j, (msbFirst error)[j]? = some true ↔ j < v ∧ error.getLsbD (v - 1 - j) = true := by
    intro j
    rw [msbFirst, leading_eq_map, List.getElem?_map]
    by_cases inRange : j < v
    · simp [BitVec.getMsbD_eq_getLsbD, inRange]
    · simp [inRange]
  apply @serialCrc_confined_ne_zero w poly odd _ (v - (first + length)) length short
  · intro j found
    obtain ⟨inRange, isSet⟩ := (bit j).mp found
    have inside := window _ isSet
    omega
  · by_contra clear
    apply notZero
    apply BitVec.eq_of_getLsbD_eq
    intro i inRange
    have notSet : ¬error.getLsbD i = true := by
      intro isSet
      have mirrored : v - 1 - (v - 1 - i) = i := by omega
      rw [← mirrored] at isSet
      exact clear (List.mem_iff_getElem?.mpr ⟨v - 1 - i, (bit _).mpr ⟨by omega, isSet⟩⟩)
    rw [Bool.eq_false_iff.mpr notSet]
    exact BitVec.getLsbD_zero.symm

end RioFabric.Lib

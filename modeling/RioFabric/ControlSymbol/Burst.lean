import RioFabric.Lib.SerialCrc
import RioFabric.ControlSymbol

/-!
# Bursts of errors in a large control symbol

The thirteen-bit CRC is computed from a table with a row for each payload bit.  The rows are the
remainders of a polynomial, so that payload and CRC together leave a shift register in one and the
same state whatever the payload is, and an error is seen unless it clears the register.
-/

namespace RioFabric.ControlSymbol

open Lib
open Packet (Byte u8)

/-- Bytes of a symbol after the bits of `error` have been inverted. -/
def CsBytes.corrupted (bytes : CsBytes) (error : BitVec 48) : CsBytes :=
  bytes.withWord (bytes.word ^^^ error)

/-- The polynomial x^13 + x^10 + x^8 + x^5 + x^2 + 1, without its first term. -/
abbrev crc13Poly : BitVec 13 := 0x0525#13

/-- The contribution of one payload bit. -/
def crc13Row (isSet : Bool) (row : Nat) : Nat := if isSet then cs13bitCrcBitMask.getD row 0 else 0

theorem crc13Row_xor (a b : Bool) (row : Nat) :
    crc13Row (a ^^ b) row = crc13Row a row ^^^ crc13Row b row := by
  cases a <;> cases b <;> simp [crc13Row]

/-- The payload bit that round `i` looks at. -/
def crc13Bit (word i : Nat) : Bool := decide (i < 32) && word.testBit (31 - i)

theorem and_shiftRight_ne_zero (word i : Nat) :
    word &&& (0x80000000 >>> i) ≠ 0 ↔ crc13Bit word i = true := by
  have top : (0x80000000 : Nat) >>> i = 2 ^ 31 / 2 ^ i := Nat.shiftRight_eq_div_pow _ i
  rw [top, crc13Bit]
  by_cases inRange : i < 32
  · rw [Nat.pow_div (by omega) (by decide), ne_eq, Nat.and_two_pow]
    cases word.testBit (31 - i) <;> simp [inRange]
  · have none : 2 ^ 31 / 2 ^ i = 0 := Nat.div_eq_of_lt (Nat.pow_lt_pow_right (by decide) (by omega))
    rw [none, Nat.and_zero]
    simp [inRange]

theorem crc13Round_eq (msbits lsbits crc i : Nat) :
    crc13Round msbits lsbits crc i =
      crc ^^^ crc13Row (crc13Bit msbits i) i ^^^
        crc13Row (crc13Bit lsbits i && decide (i + 32 < 35)) (i + 32) := by
  simp only [crc13Round, and_shiftRight_ne_zero, crc13Row]
  cases crc13Bit msbits i <;> cases crc13Bit lsbits i <;> by_cases inTable : i + 32 < 35 <;>
    simp [inTable]

theorem crc13Round_xor (leftMs rightMs leftLs rightLs left right i : Nat) :
    crc13Round (leftMs ^^^ rightMs) (leftLs ^^^ rightLs) (left ^^^ right) i =
      crc13Round leftMs leftLs left i ^^^ crc13Round rightMs rightLs right i := by
  have bit : ∀ x y, crc13Bit (x ^^^ y) i = (crc13Bit x i ^^ crc13Bit y i) := by
    intro x y
    rw [crc13Bit, Nat.testBit_xor]
    exact Bool.and_xor_distrib_left _ _ _
  rw [crc13Round_eq, crc13Round_eq, crc13Round_eq, bit, bit, Bool.and_xor_distrib_right,
    crc13Row_xor, crc13Row_xor]
  ac_rfl

theorem foldl_crc13Round_xor (indices : List Nat) (leftMs rightMs leftLs rightLs left right : Nat) :
    indices.foldl (crc13Round (leftMs ^^^ rightMs) (leftLs ^^^ rightLs)) (left ^^^ right) =
      indices.foldl (crc13Round leftMs leftLs) left ^^^
        indices.foldl (crc13Round rightMs rightLs) right := by
  induction indices generalizing left right with
  | nil => rfl
  | cons i rest ih => rw [List.foldl_cons, List.foldl_cons, List.foldl_cons, crc13Round_xor, ih]

/-- The contribution of a payload of 35 bits. -/
def tableCrc (payload : BitVec 35) : BitVec 13 :=
  .ofNat 13 ((List.range 32).foldl
    (crc13Round (payload.toNat >>> 3) ((payload.toNat &&& 7) <<< 29)) 0)

theorem tableCrc_eq : tableCrc = fun payload => serialCrc crc13Poly 0#13 (msbFirst payload) := by
  apply XorLinear.ext_of_bits
  · intro x y
    rw [tableCrc, BitVec.toNat_xor, Nat.shiftRight_xor_distrib, Nat.and_xor_distrib_right,
      Nat.shiftLeft_xor_distrib]
    exact (congrArg (BitVec.ofNat 13) (foldl_crc13Round_xor (List.range 32) _ _ _ _ 0 0)).trans
      BitVec.ofNat_xor
  · exact serialCrc_msbFirst_xor crc13Poly 0#13 0#13
  · decide +kernel

theorem compute13bitCrc_eq (payload : BitVec 35) :
    BitVec.ofNat 13 (compute13bitCrc (payload.toNat >>> 3) ((payload.toNat &&& 7) <<< 29)) =
      0x1FFF#13 ^^^ serialCrc crc13Poly 0#13 (msbFirst payload) := by
  have low : (payload.toNat &&& 7) <<< 29 &&& 0xE0000000 = (payload.toNat &&& 7) <<< 29 := by
    rw [show (0xE0000000 : Nat) = 7 <<< 29 from rfl, ← Nat.shiftLeft_and_distrib, Nat.and_assoc,
      Nat.and_self]
  have start := foldl_crc13Round_xor (List.range 32) 0 (payload.toNat >>> 3) 0
    ((payload.toNat &&& 7) <<< 29) 0x1FFF 0
  have empty : (List.range 32).foldl (crc13Round 0 0) 0x1FFF = 0x1FFF := by decide +kernel
  rw [Nat.zero_xor, Nat.zero_xor, Nat.xor_zero, empty] at start
  rw [compute13bitCrc, low, start, BitVec.ofNat_xor]
  exact congrArg (0x1FFF#13 ^^^ ·) (congrFun tableCrc_eq payload)

/-- The CRC of a symbol with these 48 bits is right. -/
def CrcHolds (word : BitVec 48) : Prop :=
  compute13bitCrc
      (longCsValueMs (wordByte word 40) (wordByte word 32) (wordByte word 24) (wordByte word 16))
      (longCsValueLs (wordByte word 8)) =
    (((wordByte word 8).toNat &&& 0x1F) <<< 8) + (wordByte word 0).toNat

theorem high_three (value : Nat) : (value &&& 0xE0) <<< 24 = value / 2 ^ 5 % 2 ^ 3 * 2 ^ 29 := by
  rw [and_field value 0xE0 5 3 rfl, Nat.shiftLeft_eq]
  omega

theorem low_three (value : Nat) : (value &&& 7) <<< 29 = value % 2 ^ 3 * 2 ^ 29 := by
  rw [and_field value 7 0 3 rfl, Nat.shiftLeft_eq, Nat.pow_zero, Nat.div_one, Nat.mul_one]

theorem word_split (word : BitVec 48) :
    ∃ (payload : BitVec 35) (crc : BitVec 13), word = payload ++ crc ∧
      longCsValueMs (wordByte word 40) (wordByte word 32) (wordByte word 24) (wordByte word 16) =
        payload.toNat >>> 3 ∧
      longCsValueLs (wordByte word 8) = (payload.toNat &&& 7) <<< 29 ∧
      (((wordByte word 8).toNat &&& 0x1F) <<< 8) + (wordByte word 0).toNat = crc.toNat := by
  have bounded := word.isLt
  refine ⟨.ofNat 35 (word.toNat >>> 13), .ofNat 13 word.toNat, ?_, ?_, ?_, ?_⟩
  · apply BitVec.eq_of_toNat_eq
    rw [BitVec.toNat_append, BitVec.toNat_ofNat, BitVec.toNat_ofNat,
      ← Nat.shiftLeft_add_eq_or_of_lt (Nat.mod_lt _ (by decide)), Nat.shiftLeft_eq,
      Nat.shiftRight_eq_div_pow]
    omega
  · simp only [longCsValueMs, wordByte, BitVec.toNat_ofNat, Nat.shiftLeft_eq,
      Nat.shiftRight_eq_div_pow]
    omega
  · have bits : word.toNat / 2 ^ 8 % 2 ^ 8 / 2 ^ 5 % 2 ^ 3 =
        word.toNat / 2 ^ 13 % 2 ^ 35 % 2 ^ 3 := by
      omega
    have left : longCsValueLs (wordByte word 8) =
        (wordByte word 8).toNat / 2 ^ 5 % 2 ^ 3 * 2 ^ 29 := high_three _
    rw [left, low_three, wordByte, BitVec.toNat_ofNat, BitVec.toNat_ofNat,
      Nat.shiftRight_eq_div_pow, Nat.shiftRight_eq_div_pow, bits]
  · simp only [wordByte, BitVec.toNat_ofNat]
    rw [and_field _ 0x1F 0 5 rfl]
    simp only [Nat.shiftLeft_eq, Nat.shiftRight_eq_div_pow]
    omega

theorem CrcHolds.register {word : BitVec 48} (holds : CrcHolds word) :
    serialCrc crc13Poly 0#13 (msbFirst word) =
      serialCrc crc13Poly 0x1FFF#13 (List.replicate 13 false) := by
  obtain ⟨payload, crc, word_eq, upper, lower, carried⟩ := word_split word
  unfold CrcHolds at holds
  rw [upper, lower, carried] at holds
  have computed := compute13bitCrc_eq payload
  rw [holds, BitVec.ofNat_toNat, BitVec.setWidth_eq] at computed
  have reached : serialCrc crc13Poly 0#13 (msbFirst payload) = 0x1FFF#13 ^^^ crc := by
    rw [computed, ← BitVec.xor_assoc, BitVec.xor_self, BitVec.zero_xor]
  have own : serialCrc crc13Poly crc (msbFirst crc) = 0 :=
    (serialCrc_msbFirst_eq_zero_iff rfl).mpr rfl
  have sum := serialCrc_msbFirst_xor crc13Poly 0x1FFF#13 crc 0 crc
  rw [own, msbFirst_zero, BitVec.ofNat_eq_ofNat, BitVec.zero_xor, BitVec.xor_zero] at sum
  rw [word_eq, msbFirst_append, serialCrc_append, reached, sum]

theorem CrcHolds.not_burst {word error : BitVec 48} (holds : CrcHolds word)
    (burst : IsBurst 13 error) : ¬CrcHolds (word ^^^ error) := by
  intro also
  have sum := serialCrc_msbFirst_xor crc13Poly 0#13 0#13 word error
  rw [BitVec.xor_self, also.register, holds.register] at sum
  apply burst.serialCrc_ne_zero (show crc13Poly.getLsbD 0 = true from rfl) (Nat.le_refl 13)
  have cancelled := congrArg
    (serialCrc crc13Poly 0x1FFF#13 (List.replicate 13 false) ^^^ ·) sum
  simp only [BitVec.xor_self, ← BitVec.xor_assoc, BitVec.zero_xor] at cancelled
  exact cancelled.symm

section Symbol

variable {bytes : CsBytes}

theorem CsBytes.withWord_word (bytes : CsBytes) : bytes.withWord bytes.word = bytes := by
  have first := bytes.csBytes[1].isLt
  have second := bytes.csBytes[2].isLt
  have third := bytes.csBytes[3].isLt
  have fourth := bytes.csBytes[4].isLt
  have fifth := bytes.csBytes[5].isLt
  have sixth := bytes.csBytes[6].isLt
  have same : ∀ (i shift : Nat) (inRange : i < 8),
      bytes.word.toNat / 2 ^ shift % 2 ^ 8 = bytes.csBytes[i].toNat →
      wordByte bytes.word shift = bytes.csBytes[i] := by
    intro i shift inRange value
    apply BitVec.eq_of_toNat_eq
    rw [wordByte, BitVec.toNat_ofNat, Nat.shiftRight_eq_div_pow, value]
  have total : bytes.word.toNat =
      bytes.csBytes[1].toNat * 2 ^ 40 + bytes.csBytes[2].toNat * 2 ^ 32 +
      bytes.csBytes[3].toNat * 2 ^ 24 + bytes.csBytes[4].toNat * 2 ^ 16 +
      bytes.csBytes[5].toNat * 2 ^ 8 + bytes.csBytes[6].toNat := by
    rw [CsBytes.word, BitVec.toNat_ofNat]
    simp only [Nat.shiftLeft_eq]
    omega
  have data : (bytes.withWord bytes.word).csBytes = bytes.csBytes := by
    apply Vector.ext
    intro i inRange
    interval_cases i
    · rfl
    · exact same 1 40 (by decide) (by omega)
    · exact same 2 32 (by decide) (by omega)
    · exact same 3 24 (by decide) (by omega)
    · exact same 4 16 (by decide) (by omega)
    · exact same 5 8 (by decide) (by omega)
    · exact same 6 0 (by decide) (by omega)
    · rfl
  exact congrArg (CsBytes.mk bytes.csTypeValid) data

theorem csCrcCorrect_withWord (large : bytes.csTypeValid = .csLarge)
    (delimited : bytes.delimited = true) (word : BitVec 48) (out : CsField) :
    (csBytesToFields (bytes.withWord word) out).2.csCrcCorrect = true ↔ CrcHolds word := by
  have same : (bytes.withWord word).delimited = true := delimited
  have type : (bytes.withWord word).csTypeValid = .csLarge := large
  simp only [csBytesToFields, type, same, if_true]
  exact decide_eq_true_iff

end Symbol

/-- A large symbol that composition has made and a burst of at most thirteen bits has hit is
reported to have a wrong CRC. -/
theorem csBytesToFields_corrupted (fields : CsField) (large : fields.csSize = .csLarge)
    (before : CsBytes) (error : BitVec 48) (burst : IsBurst 13 error) (out : CsField) :
    (csBytesToFields ((csFieldsToBytes fields before).2.corrupted error) out).2.csCrcCorrect =
      false := by
  let composed : CsBytes := (csFieldsToBytes fields before).2
  have composed_eq : composed = ⟨.csLarge,
      #v[delimiter fields.csT1, (largeBytes fields)[0], (largeBytes fields)[1],
        (largeBytes fields)[2], (largeBytes fields)[3], (largeBytes fields)[4],
        (largeBytes fields)[5], delimiter fields.csT1]⟩ := by
    simp only [composed, csFieldsToBytes, large]
  have type : composed.csTypeValid = .csLarge := by rw [composed_eq]
  have delimited : composed.delimited = true := by
    rw [composed_eq]
    exact (delimited_delimiter fields.csT1 .csLarge _ rfl).1
  have correct : (csBytesToFields composed out).2.csCrcCorrect = true := by
    simp only [csBytesToFields, type, delimited, if_true]
    rw [composed_eq]
    exact decide_eq_true (largeBytes_crc fields).2
  rw [← composed.withWord_word, csCrcCorrect_withWord type delimited] at correct
  have refused := mt (csCrcCorrect_withWord type delimited (composed.word ^^^ error) out).mp
    (correct.not_burst burst)
  exact Bool.eq_false_iff.mpr refused

/-- The sample of the codec, with the thirteen bits of its CRC inverted. -/
theorem csBytesToFields_corrupted_largeSample :
    largeSample.csSize = .csLarge ∧ IsBurst 13 0x1FFF#48 ∧
      (csBytesToFields ((csFieldsToBytes largeSample
        ⟨.csInvalid, Vector.replicate 8 0⟩).2.corrupted 0x1FFF#48) largeSample).2.csCrcCorrect =
          false := by
  have burst : IsBurst 13 0x1FFF#48 := by
    refine ⟨by decide, 0, fun i isSet => ⟨Nat.zero_le i, ?_⟩⟩
    have low : ∀ i < 48, (0x1FFF#48).getLsbD i = true → i < 0 + 13 := by decide
    exact low i (BitVec.lt_of_getLsbD isSet) isSet
  exact ⟨rfl, burst, csBytesToFields_corrupted largeSample rfl _ _ burst largeSample⟩

end RioFabric.ControlSymbol

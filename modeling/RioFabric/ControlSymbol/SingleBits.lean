import RioFabric.ControlSymbol
import RioFabric.Packet.BitSerial

/-!
# Single errors in a small control symbol

The five-bit CRC is five parities of the nineteen payload bits.  The masks of the parities are
twenty bits wide, but the counter behind them looks at sixteen bits: the three bits of the first
type take part in no parity.
-/

namespace RioFabric.ControlSymbol

open Lib
open Packet (Byte u8 countBits_eq_ones)

/-- Bytes of a small symbol after one bit of its word has been inverted. -/
def CsBytes.flipped (bytes : CsBytes) (bit : Nat) : CsBytes :=
  bytes.withSmallWord (bytes.smallWord ^^^ BitVec.twoPow 24 bit)

/-- The mask of a parity. -/
def crc5Mask (row : Nat) : Nat := (cs5bitCrcMasks.getD row (0, 0)).1

theorem crc5Bit_eq (smallCsData row : Nat) :
    crc5Bit smallCsData row =
      ones 16 ((smallCsData ^^^ (cs5bitCrcMasks.getD row (0, 0)).2) &&& crc5Mask row) % 2 := by
  rw [crc5Bit, countBits_eq_ones, Nat.and_one_is_mod, crc5Mask]

theorem crc5Bit_xor (smallCsData error row : Nat) :
    crc5Bit (smallCsData ^^^ error) row =
      (crc5Bit smallCsData row + ones 16 (error &&& crc5Mask row)) % 2 := by
  have swapped : smallCsData ^^^ error ^^^ (cs5bitCrcMasks.getD row (0, 0)).2 =
      (smallCsData ^^^ (cs5bitCrcMasks.getD row (0, 0)).2) ^^^ error := by
    rw [Nat.xor_assoc, Nat.xor_comm error, Nat.xor_assoc]
  rw [crc5Bit_eq, crc5Bit_eq, swapped, ones_xor_and]
  omega

theorem compute5bitCrc_eq_iff (left right : Nat) :
    compute5bitCrc left = compute5bitCrc right ↔
      ∀ row < 5, crc5Bit left row = crc5Bit right row := by
  have single : ∀ value row, crc5Bit value row ≤ 1 := fun value row => Nat.and_le_right
  constructor
  · intro same row inRange
    have left0 := single left 0
    have left1 := single left 1
    have left2 := single left 2
    have left3 := single left 3
    have left4 := single left 4
    have right0 := single right 0
    have right1 := single right 1
    have right2 := single right 2
    have right3 := single right 3
    have right4 := single right 4
    simp only [compute5bitCrc, List.range, List.range.loop, List.foldl, Nat.shiftLeft_eq] at same
    interval_cases row <;> omega
  · intro same
    simp only [compute5bitCrc, List.range, List.range.loop, List.foldl]
    rw [same 0 (by decide), same 1 (by decide), same 2 (by decide), same 3 (by decide),
      same 4 (by decide)]

theorem crc5Mask_selects : ∀ bit < 19,
    (∀ row < 5, ones 16 (2 ^ bit &&& crc5Mask row) % 2 = 0) ↔ 16 ≤ bit := by
  decide +kernel

theorem compute5bitCrc_flip_iff (smallCsData : Nat) {bit : Nat} (inRange : bit < 19) :
    compute5bitCrc (smallCsData ^^^ 2 ^ bit) = compute5bitCrc smallCsData ↔ 16 ≤ bit := by
  rw [compute5bitCrc_eq_iff, ← crc5Mask_selects bit inRange]
  refine forall₂_congr fun row _ => ?_
  have single : crc5Bit smallCsData row ≤ 1 := Nat.and_le_right
  rw [crc5Bit_xor]
  omega

/-- The CRC of a small symbol with these 24 bits is right. -/
def SmallCrcHolds (word : BitVec 24) : Prop :=
  compute5bitCrc (shortCsValue (smallWordByte word 16) (smallWordByte word 8)
    (smallWordByte word 0)) = (smallWordByte word 0).toNat &&& 0x1F

theorem smallCrcHolds_iff (word : BitVec 24) :
    SmallCrcHolds word ↔ compute5bitCrc (word.toNat >>> 5) = word.toNat % 2 ^ 5 := by
  have bounded := word.isLt
  have payload : shortCsValue (smallWordByte word 16) (smallWordByte word 8)
      (smallWordByte word 0) = word.toNat >>> 5 := by
    rw [shortCsValue, and_field_shiftRight _ 0xE0 5 3 rfl]
    simp only [smallWordByte, BitVec.extractLsb'_toNat, Nat.shiftLeft_eq,
      Nat.shiftRight_eq_div_pow]
    omega
  have crc : (smallWordByte word 0).toNat &&& 0x1F = word.toNat % 2 ^ 5 := by
    rw [and_field _ 0x1F 0 5 rfl]
    simp only [smallWordByte, BitVec.extractLsb'_toNat, Nat.shiftRight_eq_div_pow]
    omega
  rw [SmallCrcHolds, payload, crc]

theorem SmallCrcHolds.flip_iff {word : BitVec 24} (holds : SmallCrcHolds word) {bit : Nat}
    (inRange : bit < 24) : SmallCrcHolds (word ^^^ BitVec.twoPow 24 bit) ↔ 21 ≤ bit := by
  have value : (BitVec.twoPow 24 bit).toNat = 2 ^ bit :=
    BitVec.toNat_twoPow_of_lt inRange
  rw [smallCrcHolds_iff] at holds
  rw [smallCrcHolds_iff, BitVec.toNat_xor, value, Nat.shiftRight_xor_distrib, Nat.xor_mod_two_pow,
    Nat.shiftRight_eq_div_pow (2 ^ bit)]
  by_cases isPayload : 5 ≤ bit
  · -- the CRC that the symbol carries stays as it is
    rw [Nat.pow_div isPayload (by decide), Nat.mod_eq_zero_of_dvd (Nat.pow_dvd_pow 2 isPayload),
      Nat.xor_zero, ← holds, compute5bitCrc_flip_iff _ (by omega)]
    omega
  · -- the computed CRC stays as it is
    have small : 2 ^ bit < 2 ^ 5 := Nat.pow_lt_pow_right (by decide) (by omega)
    rw [Nat.div_eq_of_lt small, Nat.xor_zero, Nat.mod_eq_of_lt small, holds]
    refine iff_of_false (fun same => ?_) (by omega)
    have cancelled := congrArg (word.toNat % 2 ^ 5 ^^^ ·) same
    simp only [Nat.xor_self, ← Nat.xor_assoc, Nat.zero_xor] at cancelled
    exact absurd cancelled.symm (Nat.two_pow_pos bit).ne'

section Symbol

variable {bytes : CsBytes}

theorem CsBytes.withSmallWord_smallWord (bytes : CsBytes) :
    bytes.withSmallWord bytes.smallWord = bytes := by
  have first : smallWordByte bytes.smallWord 16 = bytes.csBytes[1] := by
    ext i inRange
    rw [CsBytes.smallWord, BitVec.getElem_extractLsb', BitVec.getLsbD_append,
      if_neg (by omega), BitVec.getLsbD_append, if_neg (by omega)]
    rw [← BitVec.getLsbD_eq_getElem inRange]
    congr 1
    omega
  have second : smallWordByte bytes.smallWord 8 = bytes.csBytes[2] := by
    ext i inRange
    rw [CsBytes.smallWord, BitVec.getElem_extractLsb', BitVec.getLsbD_append,
      if_neg (by omega), BitVec.getLsbD_append, if_pos (by omega)]
    rw [← BitVec.getLsbD_eq_getElem inRange]
    congr 1
    omega
  have third : smallWordByte bytes.smallWord 0 = bytes.csBytes[3] := by
    ext i inRange
    rw [CsBytes.smallWord, BitVec.getElem_extractLsb', BitVec.getLsbD_append,
      if_pos (by omega)]
    rw [← BitVec.getLsbD_eq_getElem inRange]
    congr 1
    omega
  rw [CsBytes.withSmallWord, first, second, third, Vector.set_getElem_self,
    Vector.set_getElem_self, Vector.set_getElem_self]

theorem csCrcCorrect_withSmallWord (small : bytes.csTypeValid = .csSmall)
    (delimited : bytes.delimited = true) (word : BitVec 24) (out : CsField) :
    (csBytesToFields (bytes.withSmallWord word) out).2.csCrcCorrect = true ↔
      SmallCrcHolds word := by
  have same : (bytes.withSmallWord word).delimited = true := by
    simpa [CsBytes.delimited, CsBytes.withSmallWord] using delimited
  have type : (bytes.withSmallWord word).csTypeValid = .csSmall := small
  simp only [csBytesToFields, type, same, if_true, smallFields, decide_eq_true_eq, SmallCrcHolds]
  simp [CsBytes.withSmallWord]

end Symbol

theorem smallBytes_crc (fields : CsField) :
    compute5bitCrc (shortCsValue (smallBytes fields).1 (smallBytes fields).2.1
        (smallBytes fields).2.2) = (smallBytes fields).2.2.toNat &&& 0x1F := by
  let byte3 := u8 ((fields.csT1Cmd &&& 7) <<< 5)
  let crc := compute5bitCrc (shortCsValue (smallBytes fields).1 (smallBytes fields).2.1 byte3)
  obtain ⟨room, -, crc_eq⟩ :=
    crc_byte (fields.csT1Cmd &&& 7) (Nat.lt_succ_of_le Nat.and_le_right) crc
      (compute5bitCrc_lt _)
  have shared : (smallBytes fields).2.2 = byte3 + u8 crc := rfl
  rw [shared, shortCsValue_congr room, crc_eq]

/-- A small symbol that composition has made and in which one bit is inverted is reported to have a
wrong CRC exactly if the bit is none of the three of the first type. -/
theorem csBytesToFields_flipped_iff (fields : CsField) (small : fields.csSize = .csSmall)
    (before : CsBytes) {bit : Nat} (inRange : bit < 24) (out : CsField) :
    (csBytesToFields ((csFieldsToBytes fields before).2.flipped bit) out).2.csCrcCorrect =
      false ↔ bit < 21 := by
  let composed : CsBytes := (csFieldsToBytes fields before).2
  have type : composed.csTypeValid = .csSmall := by simp only [composed, csFieldsToBytes, small]
  have bytes_eq : composed.csBytes = (((before.csBytes.set 0 (delimiter fields.csT1)).set 1
      (smallBytes fields).1).set 2 (smallBytes fields).2.1).set 3 (smallBytes fields).2.2 := by
    simp only [composed, csFieldsToBytes, small]
  have first : composed.csBytes[0] = delimiter fields.csT1 := by simp [bytes_eq]
  have delimited : composed.delimited = true :=
    (delimited_delimiter fields.csT1 .csSmall composed.csBytes first).1
  have correct : (csBytesToFields composed out).2.csCrcCorrect = true := by
    simp only [csBytesToFields, type, delimited, if_true, smallFields, decide_eq_true_eq]
    have crc_ok := smallBytes_crc fields
    simpa [bytes_eq] using crc_ok
  rw [← composed.withSmallWord_smallWord, csCrcCorrect_withSmallWord type delimited] at correct
  have seen := csCrcCorrect_withSmallWord type delimited
    (composed.smallWord ^^^ BitVec.twoPow 24 bit) out
  rw [correct.flip_iff inRange] at seen
  rw [Bool.eq_false_iff, ne_eq, CsBytes.flipped]
  exact (not_congr seen).trans Nat.not_le

/-- The small symbol of the source's tests, with all the fields it can hold. -/
def smallSample : CsField := ⟨.csSmall, .vcStatus, 0x0B, 0x12, .rsvd, 4, .nop, 0, 0, true⟩

theorem csBytesToFields_flipped_smallSample :
    smallSample.csSize = .csSmall ∧ (3 : Nat) < 24 ∧
      (csBytesToFields ((csFieldsToBytes smallSample ⟨.csInvalid, Vector.replicate 8 0⟩).2.flipped
        3) smallSample).2.csCrcCorrect = false :=
  ⟨rfl, by decide,
    (csBytesToFields_flipped_iff smallSample rfl ⟨.csInvalid, Vector.replicate 8 0⟩ (by decide)
      smallSample).mpr (by decide)⟩

/-- The highest bit of the first type is inverted, and nothing is said. -/
theorem flipped_smallSample_unseen :
    ¬∀ (fields : CsField) (before : CsBytes) (bit : Nat) (out : CsField),
      fields.csSize = .csSmall → bit < 24 →
        (csBytesToFields ((csFieldsToBytes fields before).2.flipped bit) out).2.csCrcCorrect =
          false := by
  intro seen
  have sample := seen smallSample ⟨.csInvalid, Vector.replicate 8 0⟩ 23 smallSample rfl (by decide)
  exact absurd sample (by decide +kernel)

end RioFabric.ControlSymbol

import RioFabric.Lib.Bits
import RioFabric.Lib.Parity
import RioFabric.Lib.SerialCrc
import RioFabric.Packet.Crc

/-!
# The packet CRC, bit by bit

`crc_comp_bytewise` takes a byte at a time: each bit of the new CRC is the parity of what a mask
leaves of the byte and of what another leaves of the old CRC.  Both this and eight steps of the
shift register are linear in exclusive or, so that the masks are checked on single bits.
-/

namespace RioFabric.Packet

open Lib

/-- The polynomial x^16 + x^12 + x^5 + 1, without its first term. -/
abbrev crcPoly : BitVec 16 := 0x1021#16

/-- The CRC of the packet format: a shift register that starts with all bits set. -/
def bitSerialCrc (val : List Byte) : BitVec 16 :=
  serialCrc crcPoly 0xFFFF#16 (val.flatMap msbFirst)

theorem countBits_eq_ones (val : Nat) : countBits val = ones 16 val := by
  have meets : ∀ i, ((1 <<< i) &&& val ≠ 0) = (val.testBit i = true) := by
    intro i
    rw [Nat.shiftLeft_eq, Nat.one_mul, ne_eq, Nat.two_pow_and]
    cases val.testBit i <;> simp
  unfold countBits
  split
  · rw [foldl_count (fun i => (1 <<< i) &&& val ≠ 0), Nat.zero_add, ones]
    simp [meets]
  · next isZero =>
    rw [not_not.mp isZero, ones_zero]

/-- What decides bit `j` of the new CRC. -/
def crcParity (oldCrc : Nat) (val : Byte) (j : Nat) : Nat :=
  ones 16 (val.toNat &&& bytewiseDataBits.getD j 0) + ones 16 (oldCrc &&& bytewiseCrcBits.getD j 0)

theorem crcByte_testBit {oldCrc : Nat} {val : Byte} {j : Nat} (inRange : j < 16) :
    (crcByte oldCrc val).testBit j = decide (crcParity oldCrc val j % 2 = 1) := by
  have single : ∀ i, crcParity oldCrc val i % 2 ≤ 1 := fun i => by omega
  have bits := (foldl_bits (fun i => crcParity oldCrc val i % 2) single 16).2 j inRange
  rw [← bits]
  simp [crcByte, countBits_eq_ones, crcParity]

/-- One round of `crc_comp_bytewise` on a register. -/
def crcWord (oldCrc : BitVec 16) (val : Byte) : BitVec 16 := .ofNat 16 (crcByte oldCrc.toNat val)

theorem crcWord_toNat (oldCrc : BitVec 16) (val : Byte) :
    (crcWord oldCrc val).toNat = crcByte oldCrc.toNat val := by
  rw [crcWord, BitVec.toNat_ofNat, Nat.mod_eq_of_lt (crcByte_lt _ _)]

theorem crcWord_xor (left right : BitVec 16) (leftVal rightVal : Byte) :
    crcWord (left ^^^ right) (leftVal ^^^ rightVal) =
      crcWord left leftVal ^^^ crcWord right rightVal := by
  apply BitVec.eq_of_getLsbD_eq
  intro j inRange
  have data := ones_xor_and 16 leftVal.toNat rightVal.toNat (bytewiseDataBits.getD j 0)
  have old := ones_xor_and 16 left.toNat right.toNat (bytewiseCrcBits.getD j 0)
  have bit : ∀ (crc : BitVec 16) (val : Byte),
      (crcWord crc val).getLsbD j = decide (crcParity crc.toNat val j % 2 = 1) := by
    intro crc val
    rw [← crcByte_testBit inRange, ← crcWord_toNat]
    rfl
  have sum : crcParity (left ^^^ right).toNat (leftVal ^^^ rightVal) j % 2 =
      (crcParity left.toNat leftVal j + crcParity right.toNat rightVal j) % 2 := by
    unfold crcParity
    rw [BitVec.toNat_xor, BitVec.toNat_xor]
    omega
  rw [BitVec.getLsbD_xor, bit, bit, bit, sum]
  rcases Nat.mod_two_eq_zero_or_one (crcParity left.toNat leftVal j) with even | odd <;>
    rcases Nat.mod_two_eq_zero_or_one (crcParity right.toNat rightVal j) with even' | odd' <;>
    simp [Nat.add_mod, *]

/-- Eight steps of the shift register. -/
def serialWord (oldCrc : BitVec 16) (val : Byte) : BitVec 16 :=
  serialCrc crcPoly oldCrc (msbFirst val)

theorem serialWord_xor (left right : BitVec 16) (leftVal rightVal : Byte) :
    serialWord (left ^^^ right) (leftVal ^^^ rightVal) =
      serialWord left leftVal ^^^ serialWord right rightVal := by
  have same : (msbFirst leftVal).length = (msbFirst rightVal).length := by
    rw [msbFirst_length, msbFirst_length]
  rw [serialWord, msbFirst, leading_xor]
  exact serialCrc_xor crcPoly same left right

theorem crcWord_eq (oldCrc : BitVec 16) (val : Byte) :
    crcWord oldCrc val = serialWord oldCrc val := by
  have onCrc : (crcWord · 0#8) = (serialWord · 0#8) := by
    apply XorLinear.ext_of_bits
    · intro left right
      exact crcWord_xor left right 0#8 0#8
    · intro left right
      exact serialWord_xor left right 0#8 0#8
    · decide +kernel
  have onData : crcWord 0#16 = serialWord 0#16 := by
    apply XorLinear.ext_of_bits
    · intro left right
      exact crcWord_xor 0#16 0#16 left right
    · intro left right
      exact serialWord_xor 0#16 0#16 left right
    · decide +kernel
  have split := crcWord_xor oldCrc 0#16 0#8 val
  have serialSplit := serialWord_xor oldCrc 0#16 0#8 val
  rw [BitVec.xor_zero, BitVec.zero_xor] at split serialSplit
  rw [split, serialSplit, onData]
  exact congrArg (· ^^^ serialWord 0#16 val) (congrFun onCrc oldCrc)

theorem foldl_crcByte (val : List Byte) (start : BitVec 16) :
    val.foldl crcByte start.toNat = (serialCrc crcPoly start (val.flatMap msbFirst)).toNat := by
  induction val generalizing start with
  | nil => rfl
  | cons head rest ih =>
    rw [List.foldl_cons, List.flatMap_cons, serialCrc_append, ← crcWord_toNat, crcWord_eq, ih]
    rfl

theorem crcCompBytewise_eq (val : List Byte) :
    crcCompBytewise val = (bitSerialCrc val).toNat := foldl_crcByte val 0xFFFF#16

theorem flatMap_crcBytes (crc : BitVec 16) :
    (crcBytes crc.toNat).flatMap msbFirst = msbFirst crc := by
  have halves : u8 ((crc.toNat >>> 8) &&& 0x00ff) ++ u8 (crc.toNat &&& 0x00ff) = crc := by
    have bounded := crc.isLt
    apply BitVec.eq_of_toNat_eq
    rw [BitVec.toNat_append, BitVec.toNat_ofNat, BitVec.toNat_ofNat, low_byte, low_byte,
      ← Nat.shiftLeft_add_eq_or_of_lt (Nat.mod_lt _ (by decide))]
    exact two_bytes bounded
  have bits := msbFirst_append (u8 ((crc.toNat >>> 8) &&& 0x00ff)) (u8 (crc.toNat &&& 0x00ff))
  rw [halves] at bits
  rw [bits, crcBytes, List.flatMap_cons, List.flatMap_cons, List.flatMap_nil, List.append_nil]

theorem crcCompBytewise_closed (val : List Byte) :
    crcCompBytewise (val ++ crcBytes (crcCompBytewise val)) = 0 := by
  have odd : crcPoly.getLsbD 0 = true := rfl
  rw [crcCompBytewise_eq val, crcCompBytewise_eq, bitSerialCrc, List.flatMap_append,
    serialCrc_append, flatMap_crcBytes]
  have cleared := (serialCrc_msbFirst_eq_zero_iff odd).mpr (Eq.refl (bitSerialCrc val))
  exact congrArg BitVec.toNat cleared

/-- `crc_comp_bytewise` is the bit-serial CRC of the packet format, and a string closed with its
CRC has a CRC of zero. -/
theorem crcCompBytewise_serial (val : List Byte) :
    crcCompBytewise val = (bitSerialCrc val).toNat ∧
      crcCompBytewise (val ++ crcBytes (crcCompBytewise val)) = 0 :=
  ⟨crcCompBytewise_eq val, crcCompBytewise_closed val⟩

end RioFabric.Packet

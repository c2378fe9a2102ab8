import RioFabric.Packet.BitSerial
import RioFabric.Packet.DataStreaming
import RioFabric.Packet.Maintenance

/-!
# Frames of composed packets

What a receiver may expect of a frame: whole words, CRCs that check, and padding where it is
needed.  The composer decides on padding by one bit of the length, which is right for bodies of an
even length only.  Headers and most payloads have one; an inner data streaming segment of odd
length and an SWRITE of an odd number of bytes below a doubleword do not.
-/

namespace RioFabric.Packet

open Lib

/-- A frame as it should be, for a packet with `body` in front of the CRCs. -/
structure WellFramed (packet : DarPktBytes) (body : List Byte) : Prop where
  words : packet.numChars % 4 = 0
  crc : crcCompBytewise
    (packet.stream.take (packet.numChars - if packet.pktPadded then 2 else 0)) = 0
  innerCrc : 80 < body.length → crcCompBytewise (packet.stream.take 82) = 0
  pktPadded : packet.pktPadded = true ↔
    (body.length + if 80 < body.length then 4 else 2) % 4 ≠ 0
  padBytes : packet.pktPadded = true → packet.stream.drop (packet.numChars - 2) = [0, 0]

namespace Framed

variable {packet : DarPktBytes} {body : List Byte}

section

variable (framed : Framed packet body)
include framed

theorem padded_iff : packet.pktPadded = true ↔ Padded body :=
  framed.pktPadded

theorem take_unpadded :
    packet.stream.take (packet.numChars - if packet.pktPadded then 2 else 0) = withCrc body := by
  rw [framed.stream, framed.numChars, framed_eq]
  by_cases pad : Padded body
  · rw [if_pos (framed.padded_iff.mpr pad), if_pos pad, List.length_append]
    exact List.take_left' rfl
  · rw [if_neg (mt framed.padded_iff.mp pad), if_neg pad, List.append_nil, Nat.sub_zero]
    exact List.take_length

theorem crc_holds :
    crcCompBytewise
      (packet.stream.take (packet.numChars - if packet.pktPadded then 2 else 0)) = 0 := by
  rw [framed.take_unpadded, withCrc, finalCrc]
  exact crcCompBytewise_closed _

theorem innerCrc_holds (long : 80 < body.length) :
    crcCompBytewise (packet.stream.take 82) = 0 := by
  have front : packet.stream.take 82 =
      body.take 80 ++ crcBytes (crcCompBytewise (body.take 80)) := by
    have length_eq : (body.take 80 ++ crcBytes (crcCompBytewise (body.take 80))).length = 82 := by
      rw [List.length_append, List.length_take, crcBytes_length]
      omega
    rw [framed.stream, framed_eq, withCrc, withInnerCrc, if_pos long, List.append_assoc,
      List.append_assoc]
    exact List.take_left' length_eq
  rw [front]
  exact crcCompBytewise_closed _

theorem wellFramed_iff :
    WellFramed packet body ↔ body.length % 2 = 0 := by
  have padding := RioFabric.Packet.padded_iff body
  have total := framed_length body
  rw [← framed.numChars] at total
  constructor
  · intro wellFramed
    have words := wellFramed.words
    split at total <;> split at total <;> omega
  · intro even
    refine ⟨?_, framed.crc_holds, framed.innerCrc_holds, ?_, ?_⟩
    · by_cases pad : Padded body
      · have residue := padding.mp pad
        rw [if_pos pad] at total
        split at total <;> split at residue <;> omega
      · have residue := mt padding.mpr pad
        rw [if_neg pad] at total
        split at total <;> split at residue <;> omega
    · rw [framed.padded_iff, padding]
      split <;> omega
    · intro isPadded
      rw [framed.stream, framed.numChars, framed_eq, if_pos (framed.padded_iff.mp isPadded),
        List.length_append]
      exact List.drop_left' rfl

end

end Framed

/-- Packets whose body has an odd length: an odd payload that nothing fills up. -/
def DarPktFields.LeavesOdd (fields : DarPktFields) : Prop :=
  fields.pktBytes % 2 = 1 ∧
    ((fields.pktType = .pktSw ∧ fields.pktBytes < 8) ∨
      (fields.pktType = .pktDstm ∧ fields.logDs.dstmXhSeg = false ∧
        fields.logDs.dstmEndSeg = false))

instance (fields : DarPktFields) : Decidable fields.LeavesOdd :=
  inferInstanceAs (Decidable (_ ∧ _))

section Length

variable {fields : DarPktFields} {after : ComposeState}

theorem padded_write_even {align count : Nat} {data : List Byte} {sizes : Nat × Nat}
    (encoded : darUtilGetWrsizeWdptr align count = some sizes) (length_eq : data.length = count) :
    (if count < 8 then doubleword (align % 8) count data else data).length % 2 = 0 := by
  split
  next short =>
    have bounded := wr_short_bounded (Nat.le_of_lt short) encoded
    rw [doubleword_length bounded length_eq]
  next long =>
    rw [length_eq]
    by_cases eight : count = 8
    · rw [eight]
    · have whole := (wr_long_aligned (by omega) encoded).2
      omega

theorem not_leavesOdd (notSw : fields.pktType ≠ .pktSw) (notDstm : fields.pktType ≠ .pktDstm) :
    ¬fields.LeavesOdd := by
  rintro ⟨-, ⟨type, -⟩ | ⟨type, -⟩⟩
  · exact notSw type
  · exact notDstm type

theorem swrite_even_iff (type : fields.pktType = .pktSw) (bounded : fields.pktBytes ≤ 256)
    (accepted : fields.Accepted) : fields.wireData.length % 2 = 0 ↔ ¬fields.LeavesOdd := by
  have odd_iff : fields.LeavesOdd ↔ fields.pktBytes % 2 = 1 ∧ fields.pktBytes < 8 := by
    simp [DarPktFields.LeavesOdd, type]
  rw [odd_iff]
  rcases swrite_wireData type accepted bounded with ⟨-, short, wire⟩ | ⟨-, whole, -, length_eq⟩
  · rw [wire, List.length_replicate]
    omega
  · omega

theorem dstm_even_iff (type : fields.pktType = .pktDstm) (bounded : fields.pktBytes ≤ 256)
    (composed : Composed fields after) :
    fields.wireData.length % 2 = 0 ↔ ¬fields.LeavesOdd := by
  cases extended : fields.logDs.dstmXhSeg with
  | true => simp [DarPktFields.LeavesOdd, DarPktFields.wireData, type, extended]
  | false =>
    rw [(seg_wireData type extended bounded composed).2.2.1]
    cases endSeg : fields.logDs.dstmEndSeg with
    | true =>
      simp only [if_true, DarPktFields.LeavesOdd, type, endSeg]
      simp
      omega
    | false => simp [DarPktFields.LeavesOdd, type, extended, endSeg]

theorem other_even (notSw : fields.pktType ≠ .pktSw) (notDstm : fields.pktType ≠ .pktDstm)
    (bounded : fields.pktBytes ≤ 256) (accepted : fields.Accepted) :
    fields.wireData.length % 2 = 0 := by
  have inside : ∀ {index count : Nat}, index + count ≤ 256 →
      (fields.payload index count).length = count := by
    intro index count fits
    exact payload_length (by unfold rioMaxPktBytes; omega)
  have dataLength : (fields.payload 0 fields.pktBytes).length = fields.pktBytes :=
    inside (by omega)
  cases type : fields.pktType <;> simp only [DarPktFields.Accepted, type] at accepted <;>
    simp only [DarPktFields.wireData, type]
  case pktSw => exact absurd type notSw
  case pktDstm => exact absurd type notDstm
  case pktNw | pktNwr => exact padded_write_even accepted dataLength
  case pktNwSwap | pktNwTstSwap | pktMw | pktPw => exact padded_write_even accepted.1 dataLength
  case pktNwCmpSwap =>
    have align := wr_short_bounded (by omega) accepted.1
    have second : (fields.payload fields.pktBytes fields.pktBytes).length = fields.pktBytes :=
      inside (by omega)
    rw [List.length_append, doubleword_length align dataLength, doubleword_length align second]
  case pktMrr =>
    have sizes := mem_rdSizes_of_some accepted.1
    simp only [rdSizes, List.mem_cons, List.not_mem_nil, or_false] at sizes
    split
    · rw [doubleword_length (by omega) dataLength]
    · omega
  case pktDb => rw [inside (by decide)]
  case pktMsg =>
    obtain ⟨⟨ssize, sized⟩, -⟩ := accepted
    have whole := msgSsize_doublewords sized
    omega
  case pktRespData => omega
  all_goals rfl

theorem wireData_even_iff (bounded : fields.pktBytes ≤ 256) (composed : Composed fields after) :
    fields.wireData.length % 2 = 0 ↔ ¬fields.LeavesOdd := by
  by_cases isSw : fields.pktType = .pktSw
  · exact swrite_even_iff isSw bounded composed.accepted
  · by_cases isDstm : fields.pktType = .pktDstm
    · exact dstm_even_iff isDstm bounded composed
    · exact iff_of_true (other_even isSw isDstm bounded composed.accepted)
        (not_leavesOdd isSw isDstm)

end Length

/-- A composed packet is well framed exactly when its payload does not leave it with an odd
length. -/
theorem wellFramed_composed_iff {fields : DarPktFields} {after : ComposeState}
    (notRaw : fields.pktType ≠ .pktRaw) (bounded : fields.pktBytes ≤ 256)
    (succeeds : darPktFieldsToBytes fields = .ok () after) :
    WellFramed after.bytesOut fields.wireBody ↔ ¬fields.LeavesOdd := by
  have composed := darPktFieldsToBytes_composed notRaw succeeds
  have hdr := hdrLength_bounds notRaw composed
  rw [composed.framed.wellFramed_iff, ← wireData_even_iff bounded composed, wireBody_length]
  omega

/-- An NWRITE is well framed. -/
theorem wellFramed_nwriteSample :
    ∃ after, darPktFieldsToBytes (nwriteSample (1, 2)) = .ok () after ∧
      WellFramed after.bytesOut (nwriteSample (1, 2)).wireBody := by
  obtain ⟨after, succeeds⟩ :=
    exists_ok_of_succeeded (show succeeded (darPktFieldsToBytes (nwriteSample (1, 2))) = true by
      decide +kernel)
  exact ⟨after, succeeds,
    (wellFramed_composed_iff (by decide) (by decide) succeeds).mpr (by decide)⟩

/-- A start segment with a payload of one byte goes out with thirteen bytes, two of them padding. -/
theorem startSegSample_not_wellFramed :
    ∃ after, darPktFieldsToBytes (startSegSample 1 true true) = .ok () after ∧
      after.bytesOut.numChars = 13 ∧
      ¬WellFramed after.bytesOut (startSegSample 1 true true).wireBody := by
  have ends : endsWith (fun _ final => final.bytesOut.numChars == 13)
      (darPktFieldsToBytes (startSegSample 1 true true)) = true := by decide +kernel
  obtain ⟨_, after, ran, test⟩ := exists_of_endsWith ends
  have total : after.bytesOut.numChars = 13 := by simpa using test
  refine ⟨after, ran, total, fun wellFramed => ?_⟩
  have words := wellFramed.words
  rw [total] at words
  cases words

/-- The bytes that the CRCs of a packet cover, and the CRCs. -/
def DarPktBytes.unpadded (packet : DarPktBytes) : List Byte :=
  packet.stream.take (packet.numChars - if packet.pktPadded then 2 else 0)

/-- An error that is not empty and confined to `length` consecutive bits of some bytes. -/
def IsByteBurst (length : Nat) (error : List Byte) : Prop :=
  ∃ before flips after, flips.length ≤ length ∧ true ∈ flips ∧
    error.flatMap msbFirst = List.replicate before false ++ flips ++ List.replicate after false

theorem flatMap_msbFirst_xor {val error : List Byte} (same : val.length = error.length) :
    (List.zipWith (· ^^^ ·) val error).flatMap msbFirst =
      List.zipWith xor (val.flatMap msbFirst) (error.flatMap msbFirst) := by
  induction val generalizing error with
  | nil => rfl
  | cons byte val ih =>
    cases error with
    | nil => cases same
    | cons flips error =>
      have lengths : (msbFirst byte).length = (msbFirst flips).length := by simp
      rw [List.zipWith_cons_cons, List.flatMap_cons, List.flatMap_cons, List.flatMap_cons,
        List.zipWith_append lengths, msbFirst_xor, ih (Nat.succ.inj same)]

theorem crcCompBytewise_corrupted {val error : List Byte} (same : val.length = error.length)
    (closed : crcCompBytewise val = 0) (burst : IsByteBurst 16 error) :
    crcCompBytewise (List.zipWith (· ^^^ ·) val error) ≠ 0 := by
  obtain ⟨before, flips, after, short, some, bits⟩ := burst
  have lengths : (val.flatMap msbFirst).length = (error.flatMap msbFirst).length := by
    simp [List.length_flatMap, same]
  have sum := serialCrc_xor crcPoly lengths 0xFFFF#16 0#16
  have clear : bitSerialCrc val = 0#16 :=
    BitVec.eq_of_toNat_eq ((crcCompBytewise_eq val).symm.trans closed)
  rw [← flatMap_msbFirst_xor same, BitVec.xor_zero, ← bitSerialCrc, ← bitSerialCrc, clear,
    BitVec.zero_xor, bits] at sum
  have odd : crcPoly.getLsbD 0 = true := rfl
  rw [crcCompBytewise_eq, sum]
  exact fun zero => serialCrc_burst_ne_zero odd short some before after (BitVec.eq_of_toNat_eq zero)

/-- A burst of at most sixteen bits in front of the padding of a composed packet shows in the final
CRC. -/
theorem composed_corrupted {fields : DarPktFields} {after : ComposeState}
    (notRaw : fields.pktType ≠ .pktRaw) (succeeds : darPktFieldsToBytes fields = .ok () after)
    {error : List Byte} (same : after.bytesOut.unpadded.length = error.length)
    (burst : IsByteBurst 16 error) :
    crcCompBytewise (List.zipWith (· ^^^ ·) after.bytesOut.unpadded error) ≠ 0 :=
  crcCompBytewise_corrupted same
    (darPktFieldsToBytes_composed notRaw succeeds).framed.crc_holds burst

/-- An NWRITE with sixteen inverted bits that begin in the middle of a byte. -/
theorem composed_corrupted_nwriteSample :
    ∃ after, darPktFieldsToBytes (nwriteSample (1, 2)) = .ok () after ∧
      crcCompBytewise (List.zipWith (· ^^^ ·) after.bytesOut.unpadded
        ([0x0F, 0xFF, 0xF0] ++ List.replicate 25 0)) ≠ 0 := by
  have ends : endsWith (fun _ final => final.bytesOut.unpadded.length == 28)
      (darPktFieldsToBytes (nwriteSample (1, 2))) = true := by decide +kernel
  obtain ⟨_, after, ran, test⟩ := exists_of_endsWith ends
  exact ⟨after, ran, composed_corrupted (by decide) ran (by simpa using test)
    ⟨4, List.replicate 16 true, 204, by decide, by decide, by decide +kernel⟩⟩

end RioFabric.Packet

import RioFabric.Packet.Wire

/-!
# What composition accepts and produces

The byte string in front of the CRC, as a function of the packet fields, and the theorem
that a successful `DAR_pkt_fields_to_bytes` frames exactly that string.  For each packet
kind the guards that must have passed come with it.
-/

namespace RioFabric.Packet

open Lib

/-- The address a request carries. -/
def DarPktLogRwHdr.wireAddr (hdr : DarPktLogRwHdr) (wptr : Nat) : List Byte :=
  rwAddrBytes hdr.pktAddrSize hdr.addr0 hdr.addr1 hdr.addr2 wptr

section

variable (fields : DarPktFields)

/-- Size code and word pointer of a read request. -/
def DarPktFields.rdSizes : Nat × Nat :=
  (darUtilGetRdsizeWdptr fields.logRw.addr0 fields.pktBytes).getD (0, 0)

/-- Size code and word pointer of a write request. -/
def DarPktFields.wrSizes : Nat × Nat :=
  (darUtilGetWrsizeWdptr fields.logRw.addr0 fields.pktBytes).getD (0, 0)

/-- Size or status nibble and word pointer of a maintenance packet. -/
def DarPktFields.mtcSizes : Nat × Nat :=
  match fields.pktType with
  | .pktMr => fields.rdSizes
  | .pktMw | .pktPw => fields.wrSizes
  | _ => (fields.logRw.status.code, 0)

/-- The address word a maintenance packet carries: responses have none. -/
def DarPktFields.mtcAddr0 : Nat :=
  match fields.pktType with
  | .pktMrr | .pktMwr => 0
  | _ => fields.logRw.addr0

/-- The logical layer header. -/
def DarPktFields.logHdrBytes : List Byte :=
  match fields.pktType with
  | .pktNr | .pktNrInc | .pktNrDec | .pktNrSet | .pktNrClr =>
    [u8 ((rdTransType fields.pktType <<< 4) + (fields.rdSizes.1 &&& 0xF)),
     u8 fields.logRw.tid] ++ fields.logRw.wireAddr fields.rdSizes.2
  | .pktNw | .pktNwr | .pktNwSwap | .pktNwCmpSwap | .pktNwTstSwap =>
    [u8 (((wrTransType fields.pktType).getD 0 <<< 4) + (fields.wrSizes.1 &&& 0xF)),
     u8 fields.logRw.tid] ++ fields.logRw.wireAddr fields.wrSizes.2
  | .pktSw => fields.logRw.wireAddr 0
  | .pktFc =>
    [u8 ((if fields.logFc.fcXon then 0x80 else 0) ||| ((fields.logFc.fcFam &&& 7) <<< 4)),
     u8 (((fields.logFc.fcFlow &&& 0x7F) <<< 1) |||
       (if fields.logFc.fcSocIsEp then 1 else 0))]
  | .pktMr | .pktMw | .pktMrr | .pktMwr | .pktPw =>
    [u8 ((mtcTransType fields.pktType <<< 4) + (fields.mtcSizes.1 &&& 0xF)),
     u8 fields.logRw.tid, fields.trans.hopcount] ++
      rwAddrBytes .rioAddr21 fields.mtcAddr0 fields.logRw.addr1 fields.logRw.addr2
        fields.mtcSizes.2
  | .pktDstm =>
    [u8 fields.logDs.dstmCos] ++
      (if fields.logDs.dstmXhSeg then dstmXhBytes fields.logDs
       else dstmSegBytes fields.logDs)
  | .pktDb => [0, u8 fields.logRw.tid]
  | .pktMsg =>
    [u8 (((fields.logMs.msgLen &&& 0xF) <<< 4) +
        (msgSsize fields.logMs fields.pktBytes).getD 0),
     if fields.logMs.msgLen ≠ 0 then
       u8 (((fields.logMs.letter &&& 3) <<< 6) + ((fields.logMs.mbid &&& 3) <<< 4) +
         (fields.logMs.msgseg &&& 0xF))
     else u8 (((fields.logMs.letter &&& 3) <<< 6) + (fields.logMs.mbid &&& 0x3F))]
  | .pktMsgResp =>
    [u8 ((fields.logMs.status.code &&& 0xF) ||| 0x10),
     if fields.logMs.msgLen ≠ 0 then
       u8 ((fields.logMs.letter <<< 6) ||| (fields.logMs.mbid <<< 4) |||
         (fields.logMs.msgseg &&& 0xF))
     else u8 ((fields.logMs.letter <<< 6) ||| (fields.logMs.mbid &&& 0x3F))]
  | .pktResp => [u8 (fields.logRw.status.code &&& 0xF), u8 (fields.logRw.tid &&& 0xFF)]
  | .pktRespData =>
    [u8 ((fields.logRw.status.code &&& 0xF) ||| 0x80), u8 (fields.logRw.tid &&& 0xFF)]
  | .pktRaw => []

end

/-- One doubleword of a request for fewer than eight bytes: `data` between zeros, at the
alignment of the address. -/
def doubleword (align pktBytes : Nat) (data : List Byte) : List Byte :=
  List.replicate align 0 ++ data ++ List.replicate (8 - (align + pktBytes)) 0

section

variable (fields : DarPktFields)

/-- The payload as it goes on the wire. -/
def DarPktFields.wireData : List Byte :=
  match fields.pktType with
  | .pktNw | .pktNwr | .pktNwSwap | .pktNwTstSwap | .pktMw | .pktPw =>
    if fields.pktBytes < 8 then
      doubleword (fields.logRw.addr0 % 8) fields.pktBytes (fields.payload 0 fields.pktBytes)
    else fields.payload 0 fields.pktBytes
  | .pktNwCmpSwap =>
    doubleword (fields.logRw.addr0 % 8) fields.pktBytes (fields.payload 0 fields.pktBytes) ++
      doubleword (fields.logRw.addr0 % 8) fields.pktBytes
        (fields.payload fields.pktBytes fields.pktBytes)
  | .pktSw =>
    -- no payload byte of a short SWRITE is stored, only the zeros around it
    if fields.pktBytes = 0 then []
    else if fields.pktBytes < 8 then
      doubleword (fields.logRw.addr0 % 8) fields.pktBytes []
    else fields.payload 0 fields.pktBytes
  | .pktMrr =>
    if fields.pktBytes < 8 then doubleword 0 fields.pktBytes (fields.payload 0 fields.pktBytes)
    else fields.payload 0 fields.pktBytes
  | .pktDstm =>
    if fields.logDs.dstmXhSeg then []
    else fields.payload 0 fields.pktBytes ++
      (if fields.logDs.dstmEndSeg && fields.logDs.dstmPadDataAmt then [0] else [])
  | .pktDb => fields.payload 0 2
  | .pktMsg | .pktRespData => fields.payload 0 fields.pktBytes
  | _ => []

/-- The guards a packet of each kind must pass. -/
def DarPktFields.Accepted : Prop :=
  let rdsize := darUtilGetRdsizeWdptr fields.logRw.addr0 fields.pktBytes
  let wrsize := darUtilGetWrsizeWdptr fields.logRw.addr0 fields.pktBytes
  match fields.pktType with
  | .pktNr | .pktNrInc | .pktNrDec | .pktNrSet | .pktNrClr => rdsize = some fields.rdSizes
  | .pktNw | .pktNwr => wrsize = some fields.wrSizes
  | .pktNwSwap | .pktNwCmpSwap | .pktNwTstSwap =>
    wrsize = some fields.wrSizes ∧ fields.pktBytes ≤ 4
  | .pktMr => rdsize = some fields.rdSizes ∧ fields.pktBytes ≤ 64
  | .pktMw => wrsize = some fields.wrSizes ∧ fields.pktBytes ≤ 64
  | .pktMrr => rdsize = some fields.rdSizes ∧ fields.pktBytes ≤ 64
  | .pktPw => wrsize = some fields.wrSizes ∧ fields.pktBytes % 8 = 0
  | .pktSw =>
    (fields.pktBytes < 8 ∧ (fields.pktBytes = 0 ∨
      fields.logRw.addr0 % 8 + fields.pktBytes ≤ 8)) ∨
    (fields.logRw.addr0 % 8 = 0 ∧ fields.pktBytes % 8 = 0)
  | .pktDstm =>
    fields.logDs.dstmXhSeg = false → dstmSizeConsistent fields.logDs fields.pktBytes = true
  | .pktDb => fields.pktBytes = 2
  | .pktMsg =>
    (∃ ssize, msgSsize fields.logMs fields.pktBytes = some ssize) ∧
      (8 ≤ fields.pktBytes → fields.logRw.addr0 % 8 = 0)
  | .pktResp | .pktMsgResp => fields.pktBytes = 0
  | .pktRespData =>
    (fields.pktBytes = 0 → fields.logRw.status = .pktErr) ∧ fields.pktBytes % 8 = 0 ∧
      (8 ≤ fields.pktBytes → fields.logRw.addr0 % 8 = 0)
  | .pktFc | .pktMwr | .pktRaw => True

/-- Physical and transport layer header. -/
def DarPktFields.frontBytes : List Byte :=
  physHdrBytes fields ++ transHdrBytes fields.trans

/-- Everything in front of the CRC. -/
def DarPktFields.wireBody : List Byte :=
  fields.frontBytes ++ (fields.logHdrBytes ++ fields.wireData)

end

theorem and_seven (value : Nat) : value &&& 7 = value % 8 :=
  Nat.and_two_pow_sub_one_eq_mod value 3

/-- The doublewords of the repetitions from `dataRepeat` on. -/
def doublewords (fields : DarPktFields) (align pktBytes dataBytes : Nat) (dataRepeat : Nat) :
    Nat → List Byte
  | 0 => []
  | left + 1 =>
    doubleword align pktBytes (fields.payload (dataRepeat * dataBytes) dataBytes) ++
      doublewords fields align pktBytes dataBytes (dataRepeat + 1) left

variable {before after : ComposeState} {result : Unit} {fields : DarPktFields}

theorem storeDoublewords_wrote {align pktBytes dataBytes dataRepeat left : Nat}
    (inMemory : before.bytesOut.numChars ≤ rioMaxPktBytes)
    (succeeds : (storeDoublewords align pktBytes dataBytes dataRepeat left).run before =
      .ok result after) :
    Wrote before after
      (doublewords before.fieldsIn align pktBytes dataBytes dataRepeat left) := by
  induction left generalizing dataRepeat before with
  | zero =>
    obtain ⟨-, rfl⟩ := pure_ok_iff.mp succeeds
    exact Wrote.refl inMemory
  | succ left ih =>
    simp only [storeDoublewords, bind_ok_iff] at succeeds
    obtain ⟨_, first, front, _, second, data, _, third, back, rest⟩ := succeeds
    have frontWrote := emit_wrote inMemory front
    have dataWrote := (storeData_wrote frontWrote.inMemory data).1
    have backWrote := emit_wrote dataWrote.inMemory back
    have restWrote := ih backWrote.inMemory rest
    rw [frontWrote.fieldsIn] at dataWrote
    have word := (frontWrote.trans dataWrote).trans backWrote
    rw [word.fieldsIn] at restWrote
    exact word.trans restWrote

/-- The payload bytes that a plan makes the common code store. -/
def DataPlan.bytes (plan : DataPlan) (fields : DarPktFields) : List Byte :=
  if plan.addData ∧ fields.pktBytes ≠ 0 then
    if fields.pktBytes < 8 then
      doublewords fields (fields.logRw.addr0 % 8) fields.pktBytes plan.dataBytes 0
        plan.repeatDataBytes
    else fields.payload 0 fields.pktBytes
  else []

/-- The alignment the common code insists on. -/
def DataPlan.Aligned (plan : DataPlan) (fields : DarPktFields) : Prop :=
  plan.addData → fields.pktBytes ≠ 0 →
    if fields.pktBytes < 8 then fields.logRw.addr0 % 8 + fields.pktBytes ≤ 8
    else fields.logRw.addr0 % 8 = 0 ∧ fields.pktBytes % 8 = 0

theorem composeData_wrote {plan : DataPlan} (inMemory : before.bytesOut.numChars ≤ rioMaxPktBytes)
    (succeeds : (composeData plan).run before = .ok result after) :
    Wrote before after (plan.bytes before.fieldsIn) ∧ plan.Aligned before.fieldsIn := by
  simp only [composeData, bind_ok_iff, get_ok_iff] at succeeds
  obtain ⟨_, _, ⟨rfl, rfl⟩, succeeds⟩ := succeeds
  unfold DataPlan.bytes DataPlan.Aligned
  split at succeeds
  next present =>
    rw [if_pos present]
    split at succeeds
    next short =>
      simp only [bind_ok_iff, failIf_ok_iff] at succeeds
      obtain ⟨_, _, ⟨bounded, rfl⟩, stored⟩ := succeeds
      rw [and_seven] at bounded stored
      rw [if_pos short, if_pos short]
      exact ⟨storeDoublewords_wrote inMemory stored, fun _ _ => by omega⟩
    next long =>
      simp only [bind_ok_iff, failIf_ok_iff] at succeeds
      obtain ⟨_, _, ⟨aligned, rfl⟩, stored⟩ := succeeds
      rw [and_seven, and_seven] at aligned
      rw [if_neg long, if_neg long]
      exact ⟨(storeData_wrote inMemory stored).1, fun _ _ => by omega⟩
  next absent =>
    obtain ⟨-, rfl⟩ := pure_ok_iff.mp succeeds
    rw [if_neg absent]
    exact ⟨Wrote.refl inMemory, fun added nonempty => (absent ⟨added, nonempty⟩).elim⟩

/-- The caller's description after composition: maintenance responses lose their
address. -/
def DarPktFields.composed (fields : DarPktFields) : DarPktFields :=
  match fields.pktType with
  | .pktMrr | .pktMwr => { fields with logRw.addr0 := 0 }
  | _ => fields

/-- The address size the stream records. -/
def DarPktFields.recordedAddrSize (fields : DarPktFields) : RioAddrSize :=
  match fields.pktType with
  | .pktRaw | .pktFc | .pktDstm | .pktDb | .pktMsg | .pktResp | .pktRespData
  | .pktMsgResp => darUtilPktBytesInit.pktAddrSize
  | _ => fields.logRw.pktAddrSize

/-- A state with the records a switch arm makes beside its stores. -/
def ComposeState.recorded (state : ComposeState) (fields : DarPktFields) : ComposeState :=
  ⟨fields.composed, { state.bytesOut with pktAddrSize := fields.recordedAddrSize }⟩

/-- What a switch arm has done: together with the payload its plan asks for, its stores
make up the rest of the wire image, and its guards are among those of `Accepted`. -/
structure ArmDone (fields : DarPktFields) (before after : ComposeState) (plan : DataPlan)
    (bytes : List Byte) : Prop where
  wrote : Wrote (before.recorded fields) after bytes
  completes : plan.Aligned fields.composed →
    fields.Accepted ∧
      bytes ++ plan.bytes fields.composed = fields.logHdrBytes ++ fields.wireData

theorem Wrote.recorded {bytes : List Byte} (wrote : Wrote before after bytes)
    (sameFields : before.fieldsIn = fields.composed)
    (sameSize : before.bytesOut.pktAddrSize = fields.recordedAddrSize) :
    Wrote (before.recorded fields) after bytes where
  numChars := wrote.numChars
  inMemory := wrote.inMemory
  stream := wrote.stream
  fieldsIn := wrote.fieldsIn.trans sameFields
  pktAddrSize := wrote.pktAddrSize.trans sameSize

/-- What a switch arm starts with. -/
structure ArmStart (fields : DarPktFields) (before : ComposeState) : Prop where
  inMemory : before.bytesOut.numChars ≤ rioMaxPktBytes
  sameFields : before.fieldsIn = fields
  initial : before.bytesOut.pktAddrSize = darUtilPktBytesInit.pktAddrSize

/-- A switch arm does what is expected of it, if it succeeds. -/
def IsArm (fields : DarPktFields) (arm : ComposeM DataPlan) : Prop :=
  ∀ ⦃before after plan⦄, ArmStart fields before → arm.run before = .ok plan after →
    ∃ bytes, ArmDone fields before after plan bytes

section Arms

variable {fields : DarPktFields} {before after : ComposeState} {plan : DataPlan} {pktBytes : Nat}
  {sizes : Nat × Nat}

theorem composeNread_done (kind : darUtilGetFtype fields.pktType = 2) :
    IsArm fields (composeNread fields) := by
  rintro before after plan ⟨inMemory, sameFields, -⟩ succeeds
  simp only [composeNread, bind_ok_iff, orFail_ok_iff, failIf_ok_iff, pure_ok_iff] at succeeds
  obtain ⟨sizes, _, ⟨encoded, rfl⟩, _, _, ⟨atomic, rfl⟩, _, middle, emitted, _, _, added, rfl,
    rfl⟩ := succeeds
  have head := emit_wrote inMemory emitted
  have address := darAddRwAddr_wrote head.inMemory added
  have wrote := (head.withAddrSize fields.logRw.pktAddrSize).trans address
  have sizes_eq : fields.rdSizes = sizes := by
    rw [DarPktFields.rdSizes, encoded, Option.getD_some]
  subst sizes_eq
  cases type : fields.pktType <;> rw [type] at kind <;> try (cases kind; done)
  all_goals
    refine ⟨_, wrote.recorded ?_ ?_, fun _ => ⟨?_, ?_⟩⟩
    · simp [sameFields, DarPktFields.composed, type]
    · simp [DarPktFields.recordedAddrSize, type]
    · simpa [DarPktFields.Accepted, type] using encoded
    · simp [DataPlan.bytes, DarPktFields.logHdrBytes, DarPktFields.wireData, type,
        DarPktLogRwHdr.wireAddr]

section

variable (fields : DarPktFields)

theorem doublewords_one (align pktBytes dataBytes : Nat) :
    doublewords fields align pktBytes dataBytes 0 1 =
      doubleword align pktBytes (fields.payload 0 dataBytes) := by
  simp [doublewords]

theorem doublewords_two (align pktBytes dataBytes : Nat) :
    doublewords fields align pktBytes dataBytes 0 2 =
      doubleword align pktBytes (fields.payload 0 dataBytes) ++
        doubleword align pktBytes (fields.payload dataBytes dataBytes) := by
  simp [doublewords]

theorem DataPlan.bytes_once (dataBytes : Nat)
    (nonempty : fields.pktBytes ≠ 0) :
    DataPlan.bytes ⟨true, dataBytes, 1⟩ fields =
      if fields.pktBytes < 8 then
        doubleword (fields.logRw.addr0 % 8) fields.pktBytes (fields.payload 0 dataBytes)
      else fields.payload 0 fields.pktBytes := by
  rw [DataPlan.bytes, if_pos ⟨rfl, nonempty⟩, doublewords_one]

@[simp] theorem DataPlan.bytes_none (dataBytes repeats : Nat) :
    DataPlan.bytes ⟨false, dataBytes, repeats⟩ fields = [] := by
  simp [DataPlan.bytes]

end

theorem wrsize_pktBytes_ne_zero {addr : Nat}
    (encoded : darUtilGetWrsizeWdptr addr pktBytes = some sizes) : pktBytes ≠ 0 := by
  rintro rfl
  simp [darUtilGetWrsizeWdptr] at encoded

theorem composeNwrite_done (kind : darUtilGetFtype fields.pktType = 5) :
    IsArm fields (composeNwrite fields) := by
  rintro before after plan ⟨inMemory, sameFields, -⟩ succeeds
  simp only [composeNwrite, bind_ok_iff, orFail_ok_iff, failIf_ok_iff, pure_ok_iff] at succeeds
  obtain ⟨_, _, ⟨atomic, rfl⟩, transType, _, ⟨trans, rfl⟩, sizes, _, ⟨encoded, rfl⟩, _, middle,
    emitted, _, _, added, rfl, rfl⟩ := succeeds
  have head := emit_wrote inMemory emitted
  have address := darAddRwAddr_wrote head.inMemory added
  have wrote := (head.withAddrSize fields.logRw.pktAddrSize).trans address
  have sizes_eq : fields.wrSizes = sizes := by
    rw [DarPktFields.wrSizes, encoded, Option.getD_some]
  subst sizes_eq
  obtain rfl : (wrTransType fields.pktType).getD 0 = transType := by
    rw [trans, Option.getD_some]
  have nonempty := wrsize_pktBytes_ne_zero encoded
  cases type : fields.pktType <;> rw [type] at kind <;> try (cases kind; done)
  all_goals
    have composed_eq : fields.composed = fields := by simp [DarPktFields.composed, type]
    refine ⟨_, wrote.recorded (sameFields.trans composed_eq.symm) ?_, fun _ => ⟨?_, ?_⟩⟩
    · simp [DarPktFields.recordedAddrSize, type]
    · simp only [type, reduceCtorEq, or_self, or_true, true_or, true_and] at atomic
      simp only [DarPktFields.Accepted, type]
      first
        | exact encoded
        | exact ⟨encoded, by omega⟩
    · rw [composed_eq]
      refine congrArg₂ (· ++ ·) ?_ ?_
      · simp [DarPktFields.logHdrBytes, type, DarPktLogRwHdr.wireAddr]
      · simp only [reduceCtorEq, if_false, if_true, DarPktFields.wireData, type]
        first
          | exact DataPlan.bytes_once fields fields.pktBytes nonempty
          | (simp only [type, reduceCtorEq, or_true, true_or, true_and] at atomic
             rw [DataPlan.bytes, if_pos ⟨rfl, nonempty⟩, if_pos (by omega), doublewords_two])

theorem composeSwrite_done (type : fields.pktType = .pktSw) :
    IsArm fields (composeSwrite fields) := by
  rintro before after plan ⟨inMemory, sameFields, -⟩ succeeds
  simp only [composeSwrite, bind_ok_iff, pure_ok_iff] at succeeds
  obtain ⟨_, _, added, rfl, rfl⟩ := succeeds
  have composed_eq : fields.composed = fields := by simp [DarPktFields.composed, type]
  have wrote := darAddRwAddr_wrote inMemory added
  refine ⟨_, wrote.recorded (sameFields.trans composed_eq.symm) ?_, fun aligned => ⟨?_, ?_⟩⟩
  · simp [DarPktFields.recordedAddrSize, type]
  · rw [composed_eq] at aligned
    simp only [DarPktFields.Accepted, type]
    by_cases empty : fields.pktBytes = 0
    · exact Or.inl ⟨by omega, Or.inl empty⟩
    · have bounds := aligned rfl empty
      split at bounds
      next short => exact Or.inl ⟨short, Or.inr bounds⟩
      next => exact Or.inr bounds
  · rw [composed_eq]
    refine congrArg₂ (· ++ ·) ?_ ?_
    · simp [DarPktFields.logHdrBytes, type, DarPktLogRwHdr.wireAddr]
    · simp only [DarPktFields.wireData, type]
      by_cases empty : fields.pktBytes = 0
      · simp [DataPlan.bytes, empty]
      · rw [DataPlan.bytes_once fields 0 empty, if_neg empty]
        simp [DarPktFields.payload]

theorem composeFc_done (type : fields.pktType = .pktFc) : IsArm fields (composeFc fields) := by
  rintro before after plan ⟨inMemory, sameFields, initial⟩ succeeds
  simp only [composeFc, bind_ok_iff, pure_ok_iff] at succeeds
  obtain ⟨_, _, emitted, rfl, rfl⟩ := succeeds
  have composed_eq : fields.composed = fields := by simp [DarPktFields.composed, type]
  have wrote := emit_wrote inMemory emitted
  refine ⟨_, wrote.recorded (sameFields.trans composed_eq.symm) ?_, fun _ => ⟨?_, ?_⟩⟩
  · simp [DarPktFields.recordedAddrSize, type, initial]
  · simp [DarPktFields.Accepted, type]
  · simp [DarPktFields.logHdrBytes, DarPktFields.wireData, type]

theorem composeMtcPlan_inv {mtc : MtcPlan} (sameFields : before.fieldsIn = fields)
    (succeeds : (composeMtcPlan fields).run before = .ok mtc after) :
    after = { before with fieldsIn := fields.composed } ∧
      (mtc.sizeRc, mtc.wdptr) = fields.mtcSizes ∧
      mtc.addData = decide (fields.pktType = .pktMw ∨ fields.pktType = .pktMrr ∨
        fields.pktType = .pktPw) ∧
      fields.Accepted := by
  subst sameFields
  unfold composeMtcPlan at succeeds
  split at succeeds
  next type =>
    simp only [bind_ok_iff, orFail_ok_iff, failIf_ok_iff, pure_ok_iff] at succeeds
    obtain ⟨sizes, _, ⟨encoded, rfl⟩, _, _, ⟨bounded, rfl⟩, rfl, rfl⟩ := succeeds
    have sizes_eq : before.fieldsIn.rdSizes = sizes := by
      rw [DarPktFields.rdSizes, encoded, Option.getD_some]
    subst sizes_eq
    simp [DarPktFields.composed, DarPktFields.mtcSizes, DarPktFields.Accepted, type, encoded,
      Nat.not_lt.mp bounded]
  next type =>
    simp only [bind_ok_iff, orFail_ok_iff, failIf_ok_iff, pure_ok_iff] at succeeds
    obtain ⟨sizes, _, ⟨encoded, rfl⟩, _, _, ⟨bounded, rfl⟩, rfl, rfl⟩ := succeeds
    have sizes_eq : before.fieldsIn.wrSizes = sizes := by
      rw [DarPktFields.wrSizes, encoded, Option.getD_some]
    subst sizes_eq
    simp [DarPktFields.composed, DarPktFields.mtcSizes, DarPktFields.Accepted, type, encoded,
      Nat.not_lt.mp bounded]
  next type =>
    simp only [bind_ok_iff, orFail_ok_iff, failIf_ok_iff, clearAddr, modify_ok_iff,
      pure_ok_iff] at succeeds
    obtain ⟨sizes, _, ⟨encoded, rfl⟩, _, _, ⟨bounded, rfl⟩, _, _, rfl, rfl, rfl⟩ := succeeds
    have sizes_eq : before.fieldsIn.rdSizes = sizes := by
      rw [DarPktFields.rdSizes, encoded, Option.getD_some]
    subst sizes_eq
    simp [DarPktFields.composed, DarPktFields.mtcSizes, DarPktFields.Accepted, type, encoded]
    omega
  next type =>
    simp only [bind_ok_iff, clearAddr, modify_ok_iff, pure_ok_iff] at succeeds
    obtain ⟨_, _, rfl, rfl, rfl⟩ := succeeds
    simp [DarPktFields.composed, DarPktFields.mtcSizes, DarPktFields.Accepted, type]
  next type =>
    simp only [bind_ok_iff, orFail_ok_iff, failIf_ok_iff, pure_ok_iff, and_seven] at succeeds
    obtain ⟨sizes, _, ⟨encoded, rfl⟩, _, _, ⟨bounded, rfl⟩, rfl, rfl⟩ := succeeds
    have sizes_eq : before.fieldsIn.wrSizes = sizes := by
      rw [DarPktFields.wrSizes, encoded, Option.getD_some]
    subst sizes_eq
    simp [DarPktFields.composed, DarPktFields.mtcSizes, DarPktFields.Accepted, type, encoded]
    omega
  next => cases succeeds

theorem composed_logRw (fields : DarPktFields) (kind : darUtilGetFtype fields.pktType = 8) :
    fields.composed.logRw = { fields.logRw with addr0 := fields.mtcAddr0 } := by
  cases type : fields.pktType <;> rw [type] at kind <;> first
    | (cases kind; done)
    | simp [DarPktFields.composed, DarPktFields.mtcAddr0, type]

theorem composed_pktBytes (fields : DarPktFields) :
    fields.composed.pktBytes = fields.pktBytes := by
  unfold DarPktFields.composed
  split <;> rfl

theorem composed_payload (fields : DarPktFields) (index count : Nat) :
    fields.composed.payload index count = fields.payload index count := by
  unfold DarPktFields.composed
  split <;> rfl

theorem rdsize_pktBytes_ne_zero {addr : Nat}
    (encoded : darUtilGetRdsizeWdptr addr pktBytes = some sizes) : pktBytes ≠ 0 := by
  rintro rfl
  simp [darUtilGetRdsizeWdptr] at encoded

theorem mtc_plan_bytes {fields : DarPktFields} (kind : darUtilGetFtype fields.pktType = 8)
    (accepted : fields.Accepted) :
    DataPlan.bytes ⟨decide (fields.pktType = .pktMw ∨ fields.pktType = .pktMrr ∨
        fields.pktType = .pktPw), fields.pktBytes, 1⟩ fields.composed = fields.wireData := by
  have logRw_eq := composed_logRw fields kind
  cases type : fields.pktType <;> rw [type] at kind <;> try (cases kind; done)
  case pktMr => simp [DarPktFields.wireData, type]
  case pktMwr => simp [DarPktFields.wireData, type]
  all_goals
    simp only [DarPktFields.Accepted, type] at accepted
    have nonempty : fields.composed.pktBytes ≠ 0 := by
      rw [composed_pktBytes]
      first
        | exact wrsize_pktBytes_ne_zero accepted.1
        | exact rdsize_pktBytes_ne_zero accepted.1
    simp only [reduceCtorEq, or_true, or_false, decide_true]
    rw [DataPlan.bytes_once fields.composed fields.pktBytes nonempty, composed_pktBytes,
      composed_payload, logRw_eq]
    simp [DarPktFields.wireData, DarPktFields.mtcAddr0, type]

theorem composeMtc_done (kind : darUtilGetFtype fields.pktType = 8) :
    IsArm fields (composeMtc fields) := by
  rintro before after plan ⟨inMemory, sameFields, -⟩ succeeds
  simp only [composeMtc, bind_ok_iff, failIf_ok_iff, get_ok_iff, pure_ok_iff] at succeeds
  obtain ⟨mtc, start, planned, _, middle, emitted, _, _, ⟨small, rfl⟩, _, _, ⟨rfl, rfl⟩, _, _,
    added, rfl, rfl⟩ := succeeds
  obtain ⟨start_eq, sizes_eq, addData_eq, accepted⟩ := composeMtcPlan_inv sameFields planned
  have startInMemory : start.bytesOut.numChars ≤ rioMaxPktBytes := by rw [start_eq]; exact inMemory
  have startFields : start.fieldsIn = fields.composed := by rw [start_eq]
  have head := emit_wrote startInMemory emitted
  have hdr_eq : middle.fieldsIn.logRw = { fields.logRw with addr0 := fields.mtcAddr0 } := by
    rw [head.fieldsIn, startFields, composed_logRw fields kind]
  rw [hdr_eq] at added
  have address := darAddRwAddr_wrote head.inMemory added
  have wrote := (head.withAddrSize fields.logRw.pktAddrSize).trans address
  have size_eq : fields.logRw.pktAddrSize = .rioAddr21 := not_not.mp small
  have sizeRc_eq : mtc.sizeRc = fields.mtcSizes.1 := congrArg Prod.fst sizes_eq
  have wdptr_eq : mtc.wdptr = fields.mtcSizes.2 := congrArg Prod.snd sizes_eq
  have recordedSize : fields.recordedAddrSize = fields.logRw.pktAddrSize := by
    cases type : fields.pktType <;> rw [type] at kind <;> first
      | (cases kind; done)
      | simp [DarPktFields.recordedAddrSize, type]
  have sameState : before.recorded fields =
      { start with bytesOut.pktAddrSize := fields.logRw.pktAddrSize } := by
    rw [start_eq, ComposeState.recorded, recordedSize]
  refine ⟨_, by rw [sameState]; exact wrote, fun _ => ⟨accepted, ?_⟩⟩
  rw [addData_eq, mtc_plan_bytes kind accepted, sizeRc_eq, wdptr_eq, size_eq]
  refine congrArg (· ++ fields.wireData) ?_
  cases type : fields.pktType <;> rw [type] at kind <;> first
    | (cases kind; done)
    | simp [DarPktFields.logHdrBytes, type]

theorem composeDstm_done (type : fields.pktType = .pktDstm) :
    IsArm fields (composeDstm fields) := by
  rintro before after plan ⟨inMemory, sameFields, initial⟩ succeeds
  have composed_eq : fields.composed = fields := by simp [DarPktFields.composed, type]
  have sameSize : before.bytesOut.pktAddrSize = fields.recordedAddrSize := by
    simp [DarPktFields.recordedAddrSize, type, initial]
  simp only [composeDstm, bind_ok_iff, pure_ok_iff] at succeeds
  obtain ⟨_, middle, emitted, _, _, composedHdr, rfl, rfl⟩ := succeeds
  have head := emit_wrote inMemory emitted
  unfold composeDstmHdr at composedHdr
  split at composedHdr
  next extended =>
    have wrote := head.trans (emit_wrote head.inMemory composedHdr)
    refine ⟨_, wrote.recorded (sameFields.trans composed_eq.symm) sameSize, fun _ => ⟨?_, ?_⟩⟩
    · simp [DarPktFields.Accepted, type, extended]
    · simp [DarPktFields.logHdrBytes, DarPktFields.wireData, type, extended]
  next standard =>
    simp only [composeDstmSeg, bind_ok_iff, failIf_ok_iff] at composedHdr
    obtain ⟨_, segment, segEmitted, _, _, dataStored, _, _, ⟨consistent, rfl⟩, padEmitted⟩ :=
      composedHdr
    have seg := head.trans (emit_wrote head.inMemory segEmitted)
    have data := (storeData_wrote seg.inMemory dataStored).1
    rw [seg.fieldsIn, sameFields] at data
    have wrote := (seg.trans data).trans (emit_wrote data.inMemory padEmitted)
    refine ⟨_, wrote.recorded (sameFields.trans composed_eq.symm) sameSize, fun _ => ⟨?_, ?_⟩⟩
    · simpa [DarPktFields.Accepted, type, standard] using consistent
    · simp [DarPktFields.logHdrBytes, DarPktFields.wireData, type, standard]

theorem composeDb_done (type : fields.pktType = .pktDb) : IsArm fields (composeDb fields) := by
  rintro before after plan ⟨inMemory, sameFields, initial⟩ succeeds
  have composed_eq : fields.composed = fields := by simp [DarPktFields.composed, type]
  simp only [composeDb, bind_ok_iff, failIf_ok_iff, pure_ok_iff] at succeeds
  obtain ⟨_, middle, emitted, _, _, ⟨two, rfl⟩, _, _, stored, rfl, rfl⟩ := succeeds
  have head := emit_wrote inMemory emitted
  have data := (storeData_wrote head.inMemory stored).1
  rw [head.fieldsIn, sameFields] at data
  refine ⟨_, (head.trans data).recorded (sameFields.trans composed_eq.symm) ?_,
    fun _ => ⟨?_, ?_⟩⟩
  · simp [DarPktFields.recordedAddrSize, type, initial]
  · simpa [DarPktFields.Accepted, type] using two
  · simp [DarPktFields.logHdrBytes, DarPktFields.wireData, type]

theorem msgSsize_doublewords {ms : DarPktLogMsHdr} {ssize : Nat}
    (sized : msgSsize ms pktBytes = some ssize) : pktBytes % 8 = 0 := by
  unfold msgSsize at sized
  split at sized
  · split at sized
    · cases sized
    · rwa [and_seven, ne_eq, not_not] at *
  · split at sized <;> first | rfl | cases sized

theorem DataPlan.bytes_whole {fields : DarPktFields} (dataBytes repeats : Nat)
    (whole : fields.pktBytes % 8 = 0) :
    DataPlan.bytes ⟨true, dataBytes, repeats⟩ fields = fields.payload 0 fields.pktBytes := by
  by_cases empty : fields.pktBytes = 0
  · simp [DataPlan.bytes, DarPktFields.payload, empty]
  · rw [DataPlan.bytes, if_pos ⟨rfl, empty⟩, if_neg (by omega)]

theorem DataPlan.Aligned.of_long {fields : DarPktFields} {dataBytes repeats : Nat}
    (aligned : DataPlan.Aligned ⟨true, dataBytes, repeats⟩ fields)
    (long : 8 ≤ fields.pktBytes) : fields.logRw.addr0 % 8 = 0 := by
  have bounds := aligned rfl (by omega)
  rw [if_neg (by omega)] at bounds
  exact bounds.1

theorem composeMsg_done (type : fields.pktType = .pktMsg) : IsArm fields (composeMsg fields) := by
  rintro before after plan ⟨inMemory, sameFields, initial⟩ succeeds
  have composed_eq : fields.composed = fields := by simp [DarPktFields.composed, type]
  simp only [composeMsg, bind_ok_iff, orFail_ok_iff, pure_ok_iff] at succeeds
  obtain ⟨ssize, _, ⟨sized, rfl⟩, _, _, emitted, rfl, rfl⟩ := succeeds
  have wrote := emit_wrote inMemory emitted
  refine ⟨_, wrote.recorded (sameFields.trans composed_eq.symm) ?_, fun aligned => ⟨?_, ?_⟩⟩
  · simp [DarPktFields.recordedAddrSize, type, initial]
  · rw [composed_eq] at aligned
    simp only [DarPktFields.Accepted, type]
    exact ⟨⟨ssize, sized⟩, fun long => aligned.of_long long⟩
  · rw [composed_eq, DataPlan.bytes_whole 0 1 (msgSsize_doublewords sized)]
    simp [DarPktFields.logHdrBytes, DarPktFields.wireData, type, sized]

theorem composeResp_done (kind : darUtilGetFtype fields.pktType = 13) :
    IsArm fields (composeResp fields) := by
  rintro before after plan ⟨inMemory, sameFields, initial⟩ succeeds
  unfold composeResp at succeeds
  cases type : fields.pktType <;> rw [type] at kind <;> try (cases kind; done)
  all_goals
    have composed_eq : fields.composed = fields := by simp [DarPktFields.composed, type]
    have sameSize : before.bytesOut.pktAddrSize = fields.recordedAddrSize := by
      simp [DarPktFields.recordedAddrSize, type, initial]
    simp only [type, bind_ok_iff, failIf_ok_iff, pure_ok_iff] at succeeds
  case pktResp =>
    obtain ⟨_, _, ⟨empty, rfl⟩, _, _, emitted, rfl, rfl⟩ := succeeds
    have wrote := emit_wrote inMemory emitted
    refine ⟨_, wrote.recorded (sameFields.trans composed_eq.symm) sameSize, fun _ => ⟨?_, ?_⟩⟩
    · simpa [DarPktFields.Accepted, type] using empty
    · simp [DarPktFields.logHdrBytes, DarPktFields.wireData, type]
  case pktRespData =>
    obtain ⟨_, _, ⟨bounded, rfl⟩, _, _, emitted, rfl, rfl⟩ := succeeds
    have wrote := emit_wrote inMemory emitted
    rw [and_seven] at bounded
    refine ⟨_, wrote.recorded (sameFields.trans composed_eq.symm) sameSize,
      fun aligned => ⟨?_, ?_⟩⟩
    · rw [composed_eq] at aligned
      simp only [DarPktFields.Accepted, type]
      refine ⟨fun empty => ?_, by omega, fun long => ?_⟩
      · by_contra notErr
        exact bounded (Or.inl ⟨empty, notErr⟩)
      · rw [decide_eq_true (show fields.pktBytes ≠ 0 by omega)] at aligned
        exact aligned.of_long long
    · have plan_bytes : DataPlan.bytes ⟨decide (fields.pktBytes ≠ 0), 0, 1⟩ fields =
          fields.payload 0 fields.pktBytes := by
        by_cases empty : fields.pktBytes = 0
        · simp [empty, DarPktFields.payload]
        · rw [decide_eq_true empty]
          exact DataPlan.bytes_whole 0 1 (by omega)
      rw [composed_eq, plan_bytes]
      simp [DarPktFields.logHdrBytes, DarPktFields.wireData, type]
  case pktMsgResp =>
    obtain ⟨_, _, emitted, _, _, ⟨empty, rfl⟩, rfl, rfl⟩ := succeeds
    have wrote := emit_wrote inMemory emitted
    refine ⟨_, wrote.recorded (sameFields.trans composed_eq.symm) sameSize, fun _ => ⟨?_, ?_⟩⟩
    · simpa [DarPktFields.Accepted, type] using empty
    · simp [DarPktFields.logHdrBytes, DarPktFields.wireData, type]

theorem composeLogHdr_done : IsArm fields (composeLogHdr fields) := by
  rintro before after plan start succeeds
  unfold composeLogHdr at succeeds
  cases type : fields.pktType <;> simp only [type, darUtilGetFtype] at succeeds
  case pktRaw => cases succeeds
  case pktNr | pktNrInc | pktNrDec | pktNrSet | pktNrClr =>
    exact composeNread_done (by rw [type]; rfl) start succeeds
  case pktNw | pktNwr | pktNwSwap | pktNwCmpSwap | pktNwTstSwap =>
    exact composeNwrite_done (by rw [type]; rfl) start succeeds
  case pktSw => exact composeSwrite_done type start succeeds
  case pktFc => exact composeFc_done type start succeeds
  case pktMr | pktMw | pktMrr | pktMwr | pktPw =>
    exact composeMtc_done (by rw [type]; rfl) start succeeds
  case pktDstm => exact composeDstm_done type start succeeds
  case pktDb => exact composeDb_done type start succeeds
  case pktMsg => exact composeMsg_done type start succeeds
  case pktResp | pktRespData | pktMsgResp =>
    exact composeResp_done (by rw [type]; rfl) start succeeds

end Arms

/-- What a successful composition of a packet that is not raw tells: the guards that were
passed, and the stream. -/
structure Composed (fields : DarPktFields) (after : ComposeState) : Prop where
  ttDefined : fields.trans.ttCode.Defined
  mtcAddrSize : darUtilGetFtype fields.pktType = 8 ↔ fields.logRw.pktAddrSize = .rioAddr21
  accepted : fields.Accepted
  framed : Framed after.bytesOut fields.wireBody
  pktAddrSize : after.bytesOut.pktAddrSize = fields.recordedAddrSize
  fieldsIn : after.fieldsIn = fields.composed

theorem darPktFieldsToBytes_composed (notRaw : fields.pktType ≠ .pktRaw)
    (succeeds : darPktFieldsToBytes fields = .ok result after) : Composed fields after := by
  simp only [darPktFieldsToBytes, bind_ok_iff, composeHead, if_neg notRaw, composeBody,
    failIf_ok_iff] at succeeds
  obtain ⟨_, body, ⟨_, first, phys, _, second, trans, _, _, ⟨agrees, rfl⟩, plan, third, header,
    data⟩, tail⟩ := succeeds
  have initial : (⟨fields, darUtilPktBytesInit⟩ : ComposeState).bytesOut.numChars ≤
      rioMaxPktBytes := by simp [darUtilPktBytesInit]
  have physWrote := emit_wrote initial phys
  obtain ⟨ttDefined, transWrote⟩ := composeTransHdr_wrote physWrote.inMemory trans
  have front := physWrote.trans transWrote
  obtain ⟨bytes, done⟩ :=
    composeLogHdr_done ⟨front.inMemory, front.fieldsIn, front.pktAddrSize⟩ header
  obtain ⟨dataWrote, aligned⟩ := composeData_wrote done.wrote.inMemory data
  have thirdFields : third.fieldsIn = fields.composed := done.wrote.fieldsIn
  rw [thirdFields] at dataWrote aligned
  obtain ⟨accepted, rest_eq⟩ := done.completes aligned
  have bodyWrote := done.wrote.trans dataWrote
  rw [rest_eq] at bodyWrote
  obtain ⟨framed, sameFields, sameSize⟩ := composeTail_framed bodyWrote.inMemory tail
  have start_stream : (⟨fields, darUtilPktBytesInit⟩ : ComposeState).bytesOut.stream = [] := rfl
  have body_eq : body.bytesOut.stream = fields.wireBody := by
    rw [bodyWrote.stream]
    change second.bytesOut.stream ++ _ = _
    rw [front.stream, start_stream, List.nil_append]
    rfl
  exact {
    ttDefined := ttDefined
    mtcAddrSize := by
      constructor
      · intro maintenance
        by_contra other
        exact agrees (Or.inl ⟨maintenance, other⟩)
      · intro small
        by_contra other
        exact agrees (Or.inr ⟨other, small⟩)
    accepted := accepted
    framed := body_eq ▸ framed
    pktAddrSize := sameSize.trans bodyWrote.pktAddrSize
    fieldsIn := sameFields.trans bodyWrote.fieldsIn }

end RioFabric.Packet

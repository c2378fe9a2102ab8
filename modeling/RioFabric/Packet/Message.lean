import RioFabric.Packet.ReadWrite

/-!
# Messages, doorbells, flow control and responses

The packet kinds without an address.  Their round trips fail in different places: the
parser masks one flow control bit away and leaves the byte count of flow control packets
alone, retries lose their payload, and a zero CRC may be taken for padding.  The composer,
on the other hand, checks the alignment of an address these packets do not have.
-/

namespace RioFabric.Packet

open Lib

/-- Message, doorbell, flow control and response packets. -/
def DarPktType.Unaddressed (pktType : DarPktType) : Prop :=
  pktType = .pktMsg ∨ pktType = .pktDb ∨ pktType = .pktFc ∨ pktType = .pktResp ∨
    pktType = .pktRespData ∨ pktType = .pktMsgResp

/-- Header members that fit their wire fields.  The mailbox of a single segment message
has four bits more. -/
structure DarPktFields.MsFits (fields : DarPktFields) : Prop extends fields.FrontFits where
  tid : fields.logRw.tid < 2 ^ 8
  msgLen : fields.logMs.msgLen < 2 ^ 4
  letter : fields.logMs.letter < 2 ^ 2
  mbid : fields.logMs.mbid < if fields.logMs.msgLen = 0 then 2 ^ 6 else 2 ^ 2
  msgseg : fields.logMs.msgseg < 2 ^ 4
  fcFam : fields.logFc.fcFam < 2 ^ 3
  fcFlow : fields.logFc.fcFlow < 2 ^ 7

/-- Message lengths of the protocol; message responses are those of multi-segment
messages. -/
def DarPktFields.MsSized (fields : DarPktFields) : Prop :=
  (fields.pktType = .pktMsg → 8 ≤ fields.pktBytes ∧ fields.pktBytes ≤ 256) ∧
    (fields.pktType = .pktMsgResp → fields.logMs.msgLen ≠ 0)

/-- The members of the message header that a message or a message response carries. -/
def SameMailbox (fields result : DarPktFields) : Prop :=
  result.logMs.letter = fields.logMs.letter ∧ result.logMs.mbid = fields.logMs.mbid ∧
    (fields.logMs.msgLen ≠ 0 → result.logMs.msgseg = fields.logMs.msgseg)

/-- The members of the flow control header. -/
def SameFc (fields result : DarPktFields) : Prop :=
  result.logFc.fcXon = fields.logFc.fcXon ∧ result.logFc.fcFam = fields.logFc.fcFam ∧
    result.logFc.fcFlow = fields.logFc.fcFlow ∧
    result.logFc.fcSocIsEp = fields.logFc.fcSocIsEp

/-- What the logical header of each kind carries. -/
def SameLogHdr (fields result : DarPktFields) : Prop :=
  match fields.pktType with
  | .pktMsg => SameMailbox fields result ∧ result.logMs.msgLen = fields.logMs.msgLen
  | .pktDb => result.logRw.tid = fields.logRw.tid
  | .pktFc => SameFc fields result
  | .pktMsgResp => SameMailbox fields result ∧ result.logMs.status = fields.logMs.status
  | _ => result.logRw.tid = fields.logRw.tid ∧ result.logRw.status = fields.logRw.status

/-- What a packet without an address carries; flow control packets have no payload. -/
structure SameMs (fields result : DarPktFields) : Prop where
  front : SameFront fields result
  pktType : result.pktType = fields.pktType
  logHdr : SameLogHdr fields result
  pktBytes : result.pktBytes = fields.pktBytes
  data : fields.pktType ≠ .pktFc → result.data fields.pktBytes = fields.data fields.pktBytes

/-! ## Headers -/

section Header

variable {fields out : DarPktFields} {packet : DarPktBytes} {index : Nat}

theorem parseFc_run (type : fields.pktType = .pktFc) (fits : fields.MsFits)
    (ahead : packet.pktData.Ahead index fields.logHdrBytes) :
    parseFc.run ⟨packet, out, index⟩ =
      .ok ⟨false, false, 1⟩ ⟨packet, { out with
          pktType := .pktFc
          logFc := { fields.logFc with
            fcFlow := fields.logFc.fcFlow &&& 0x7B
            fcDestId := out.trans.destId
            fcSrcId := out.trans.srcId } }, index + fields.logHdrBytes.length⟩ := by
  have first : ∀ xon : Bool, ∀ fam < 2 ^ 3,
      decide ((u8 ((if xon then 0x80 else 0) ||| ((fam &&& 7) <<< 4))).toNat &&& 0x80 ≠ 0) =
          xon ∧
        ((u8 ((if xon then 0x80 else 0) ||| ((fam &&& 7) <<< 4))).toNat &&& 0x70) >>> 4 =
          fam := by decide
  have second : ∀ soc : Bool, ∀ flow < 2 ^ 7,
      ((u8 (((flow &&& 0x7F) <<< 1) ||| (if soc then 1 else 0))).toNat &&& 0xF7) >>> 1 =
          flow &&& 0x7B ∧
        decide ((u8 (((flow &&& 0x7F) <<< 1) ||| (if soc then 1 else 0))).toNat &&& 0x01 ≠ 0) =
          soc := by decide +kernel
  obtain ⟨xon, fam⟩ := first fields.logFc.fcXon _ fits.fcFam
  obtain ⟨flow, soc⟩ := second fields.logFc.fcSocIsEp _ fits.fcFlow
  simp only [DarPktFields.logHdrBytes, type, PktData.ahead_cons, PktData.ahead_nil,
    and_true] at ahead
  simp only [parseFc, EStateM.run_bind, next_run, ahead, setFields_run, EStateM.run_pure, xon,
    fam, flow, soc, DarPktFields.logHdrBytes, type, List.length_cons, List.length_nil,
    Nat.add_assoc, Nat.zero_add]

theorem parseDb_run (type : fields.pktType = .pktDb) (fits : fields.MsFits)
    (ahead : packet.pktData.Ahead index (fields.logHdrBytes ++ fields.data 2)) :
    parseDb.run ⟨packet, out, index⟩ =
      .ok ⟨false, false, 1⟩ ⟨packet, { out with
          pktType := .pktDb
          logRw.tid := fields.logRw.tid
          pktBytes := 2
          pktData := out.pktData.place 0 (fields.data 2) }, index + 4⟩ := by
  obtain ⟨info0, info1, info_eq⟩ : ∃ info0 info1, fields.data 2 = [info0, info1] := by
    have length_eq : (fields.data 2).length = 2 := payload_length (by decide)
    exact ⟨_, _, List.eq_getElem_of_length_eq_two _ length_eq⟩
  have byte_eq : ∀ value : Byte, u8 value.toNat = value := BitVec.ofNat_toNat 8
  simp only [DarPktFields.logHdrBytes, type, info_eq, List.cons_append, List.nil_append,
    PktData.ahead_cons, PktData.ahead_nil, and_true] at ahead
  obtain ⟨-, tidAhead, firstAhead, secondAhead⟩ := ahead
  simp only [parseDb, EStateM.run_bind, skip_run, next_run, tidAhead, firstAhead, secondAhead,
    toNat_u8 fits.tid, setFields_run, EStateM.run_pure, info_eq, byte_eq, Nat.add_assoc]
  rfl

/-- The header of a message is parsed back. -/
theorem parseMsg_run {ssize : Nat} (type : fields.pktType = .pktMsg) (fits : fields.MsFits)
    (sized : msgSsize fields.logMs fields.pktBytes = some ssize) (ssize_ge : 9 ≤ ssize)
    (ssize_lt : ssize < 16) (ahead : packet.pktData.Ahead index fields.logHdrBytes) :
    parseMsg.run ⟨packet, out, index⟩ =
      .ok ⟨true, decide (fields.logMs.msgLen ≠ 0 ∧ fields.logMs.msgseg ≠ fields.logMs.msgLen), 1⟩
        ⟨packet, { out with
          pktType := .pktMsg
          pktBytes := 8 <<< (ssize - 9)
          logMs := { out.logMs with
            msgLen := fields.logMs.msgLen
            letter := fields.logMs.letter
            mbid := fields.logMs.mbid
            msgseg := if fields.logMs.msgLen ≠ 0 then fields.logMs.msgseg else 0 } },
          index + fields.logHdrBytes.length⟩ := by
  have first : ∀ msgLen < 2 ^ 4, ∀ ssize < 16,
      ((u8 (((msgLen &&& 0xF) <<< 4) + ssize)).toNat &&& 0xF0) >>> 4 = msgLen ∧
        (u8 (((msgLen &&& 0xF) <<< 4) + ssize)).toNat &&& 0xF = ssize := by decide +kernel
  have multi : ∀ letter < 2 ^ 2, ∀ mbid < 2 ^ 2, ∀ msgseg < 2 ^ 4,
      let byte := (u8 (((letter &&& 3) <<< 6) + ((mbid &&& 3) <<< 4) + (msgseg &&& 0xF))).toNat
      (byte &&& 0xC0) >>> 6 = letter ∧ (byte &&& 0x30) >>> 4 = mbid ∧
        byte &&& 0x0F = msgseg := by decide +kernel
  have single : ∀ letter < 2 ^ 2, ∀ mbid < 2 ^ 6,
      (((u8 (((letter &&& 3) <<< 6) + (mbid &&& 0x3F))).toNat &&& 0xC0) >>> 6 = letter) ∧
        ((u8 (((letter &&& 3) <<< 6) + (mbid &&& 0x3F))).toNat &&& 0x3F = mbid) := by
    decide +kernel
  obtain ⟨msgLen, size⟩ := first _ fits.msgLen ssize ssize_lt
  have mbid_lt := fits.mbid
  simp only [DarPktFields.logHdrBytes, type, sized, Option.getD_some, PktData.ahead_cons,
    PktData.ahead_nil, and_true] at ahead
  by_cases several : fields.logMs.msgLen ≠ 0
  · rw [if_neg several] at mbid_lt
    obtain ⟨letter, mbid, msgseg⟩ := multi _ fits.letter _ mbid_lt _ fits.msgseg
    rw [if_pos several] at ahead
    simp only [parseMsg, EStateM.run_bind, next_run, ahead, setFields_run, msgLen, size,
      failIf_run, if_neg (Nat.not_lt.mpr ssize_ge), if_pos several, letter, mbid, msgseg,
      EStateM.run_pure, DarPktFields.logHdrBytes, type, List.length_cons, List.length_nil,
      Nat.add_assoc index, Nat.zero_add]
  · rw [if_pos (not_not.mp several)] at mbid_lt
    obtain ⟨letter, mbid⟩ := single _ fits.letter _ mbid_lt
    rw [if_neg several] at ahead
    simp only [parseMsg, EStateM.run_bind, next_run, ahead, setFields_run, msgLen, size,
      failIf_run, if_neg (Nat.not_lt.mpr ssize_ge), if_neg several, letter, mbid,
      EStateM.run_pure, DarPktFields.logHdrBytes, type, List.length_cons, List.length_nil,
      Nat.add_assoc index, Nat.zero_add]
    simp [not_not.mp several]

theorem respStatusOf_code (status : RioPktStatus) :
    ∀ trans ∈ [0x00, 0x10, 0x80],
      respStatusOf ((u8 ((status.code &&& 0xF) ||| trans)).toNat &&& 0x0F) = some status := by
  cases status <;> decide

theorem respTransOf_code (status : RioPktStatus) :
    respTransOf (((u8 (status.code &&& 0xF)).toNat &&& 0xF0) >>> 4) = some .pktResp ∧
      respTransOf (((u8 ((status.code &&& 0xF) ||| 0x10)).toNat &&& 0xF0) >>> 4) =
        some .pktMsgResp ∧
      respTransOf (((u8 ((status.code &&& 0xF) ||| 0x80)).toNat &&& 0xF0) >>> 4) =
        some .pktRespData := by
  cases status <;> decide

/-- A description after parsing the header of a response with transaction ID. -/
def DarPktFields.withResp (out fields : DarPktFields) (count : Nat) : DarPktFields :=
  { out with
    pktType := fields.pktType
    pktBytes := count
    logMs.status := fields.logRw.status
    logRw.status := fields.logRw.status
    logRw.tid := fields.logRw.tid }

theorem parseResp_resp_run (type : fields.pktType = .pktResp) (fits : fields.MsFits)
    (ahead : packet.pktData.Ahead index fields.logHdrBytes) :
    parseResp.run ⟨packet, out, index⟩ =
      .ok ⟨false, false, 1⟩ ⟨packet, out.withResp fields 0,
        index + fields.logHdrBytes.length⟩ := by
  have status := respStatusOf_code fields.logRw.status 0x00 (by simp)
  have trans := (respTransOf_code fields.logRw.status).1
  have tid : (u8 (fields.logRw.tid &&& 0xFF)).toNat = fields.logRw.tid := by
    rw [BitVec.toNat_ofNat, low_byte, Nat.mod_eq_of_lt fits.tid]
  rw [Nat.or_zero] at status
  simp only [DarPktFields.logHdrBytes, type, PktData.ahead_cons, PktData.ahead_nil,
    and_true] at ahead
  simp only [parseResp, parseRespTid, EStateM.run_bind, next_run, ahead, trans, orFail_some,
    EStateM.run_pure, setFields_run, status, tid, DarPktFields.logHdrBytes, type,
    DarPktFields.withResp, List.length_cons, List.length_nil, Nat.add_assoc index,
    Nat.zero_add, reduceCtorEq, if_false, ite_self, false_and, decide_false]

theorem parseResp_data_run (type : fields.pktType = .pktRespData) (fits : fields.MsFits)
    (ahead : packet.pktData.Ahead index fields.logHdrBytes) :
    parseResp.run ⟨packet, out, index⟩ =
      .ok ⟨decide (fields.logRw.status ≠ .pktRetry), false, 1⟩
        ⟨packet, out.withResp fields (if fields.logRw.status = .pktRetry then 0 else 256),
          index + fields.logHdrBytes.length⟩ := by
  have status := respStatusOf_code fields.logRw.status 0x80 (by simp)
  have trans := (respTransOf_code fields.logRw.status).2.2
  have tid : (u8 (fields.logRw.tid &&& 0xFF)).toNat = fields.logRw.tid := by
    rw [BitVec.toNat_ofNat, low_byte, Nat.mod_eq_of_lt fits.tid]
  simp only [DarPktFields.logHdrBytes, type, PktData.ahead_cons, PktData.ahead_nil,
    and_true] at ahead
  simp only [parseResp, parseRespTid, EStateM.run_bind, next_run, ahead, trans, orFail_some,
    EStateM.run_pure, setFields_run, status, tid, DarPktFields.logHdrBytes, type,
    DarPktFields.withResp, List.length_cons, List.length_nil, Nat.add_assoc index,
    Nat.zero_add, reduceCtorEq, if_false, if_true, true_and]

theorem parseResp_msg_run (type : fields.pktType = .pktMsgResp) (fits : fields.MsFits)
    (several : fields.logMs.msgLen ≠ 0) (ahead : packet.pktData.Ahead index fields.logHdrBytes) :
    parseResp.run ⟨packet, out, index⟩ =
      .ok ⟨false, false, 1⟩ ⟨packet, { out with
          pktType := .pktMsgResp
          pktBytes := 0
          logRw.status := fields.logMs.status
          logMs := { fields.logMs with msgLen := out.logMs.msgLen } },
        index + fields.logHdrBytes.length⟩ := by
  have target : ∀ letter < 2 ^ 2, ∀ mbid < 2 ^ 2, ∀ msgseg < 2 ^ 4,
      let byte := (u8 ((letter <<< 6) ||| (mbid <<< 4) ||| (msgseg &&& 0xF))).toNat
      (byte &&& 0xC0) >>> 6 = letter ∧ (byte &&& 0x30) >>> 4 = mbid ∧
        byte &&& 0x0F = msgseg := by decide +kernel
  have mbid_lt := fits.mbid
  rw [if_neg several] at mbid_lt
  obtain ⟨letter, mbid, msgseg⟩ := target _ fits.letter _ mbid_lt _ fits.msgseg
  have status := respStatusOf_code fields.logMs.status 0x10 (by simp)
  have trans := (respTransOf_code fields.logMs.status).2.1
  simp only [DarPktFields.logHdrBytes, type, if_pos several, PktData.ahead_cons,
    PktData.ahead_nil, and_true] at ahead
  simp only [parseResp, parseRespTid, EStateM.run_bind, next_run, ahead, trans, orFail_some,
    EStateM.run_pure, setFields_run, status, letter, mbid, msgseg, DarPktFields.logHdrBytes,
    type, List.length_cons, List.length_nil, Nat.add_assoc index, Nat.zero_add, reduceCtorEq,
    if_false, if_true, ite_self, false_and, decide_false]

end Header

/-- Segment sizes: the size code gives at least the length, exactly the length of all but
the last segment, and a single doubleword only for eight bytes. -/
theorem msgSsize_bounds {ms : DarPktLogMsHdr} {pktBytes ssize : Nat}
    (sized : msgSsize ms pktBytes = some ssize) (least : 8 ≤ pktBytes) (most : pktBytes ≤ 256) :
    9 ≤ ssize ∧ ssize < 16 ∧ pktBytes % 8 = 0 ∧ pktBytes ≤ 8 <<< (ssize - 9) ∧
      (8 < pktBytes ↔ 8 < 8 <<< (ssize - 9)) ∧
      (ms.msgLen ≠ 0 ∧ ms.msgseg ≠ ms.msgLen → pktBytes = 8 <<< (ssize - 9)) := by
  unfold msgSsize at sized
  split at sized
  next last =>
    rw [and_seven] at sized
    have inner : ¬(ms.msgLen ≠ 0 ∧ ms.msgseg ≠ ms.msgLen) := by
      rintro ⟨several, notLast⟩
      exact last.elim several notLast
    simp only [inner, false_implies, and_true]
    split at sized
    next => cases sized
    next whole =>
      split at sized
      · cases sized; norm_num; omega
      · split at sized
        · cases sized; norm_num; omega
        · split at sized
          · cases sized; norm_num; omega
          · split at sized
            · cases sized; norm_num; omega
            · split at sized <;> (cases sized; norm_num; omega)
  next =>
    split at sized <;> cases sized <;>
      exact ⟨by decide, by decide, by decide, by decide, by decide, fun _ => rfl⟩

/-! ## Round trips -/

section Kinds

variable {fields : DarPktFields} {after : ComposeState}

theorem fc_returns_iff (type : fields.pktType = .pktFc) (fits : fields.MsFits)
    (composed : Composed fields after) (out : DarPktFields) :
    Returns SameMs fields after out ↔
      fields.logFc.fcFlow &&& 0x7B = fields.logFc.fcFlow ∧ out.pktBytes = fields.pktBytes := by
  have notRaw : fields.pktType ≠ .pktRaw := by rw [type]; decide
  have ahead := (composed.ahead notRaw).2.1
  have parsed := darPktBytesToFields_front notRaw composed fits.toFrontFits out
  simp only [type, darUtilGetFtype, parseLogHdr, EStateM.run_bind] at parsed
  rw [parseFc_run type fits ahead] at parsed
  rw [returns_iff_of_ok parsed]
  constructor
  · intro same
    have logHdr := same.logHdr
    simp only [SameLogHdr, type] at logHdr
    exact ⟨logHdr.2.2.1, same.pktBytes⟩
  · rintro ⟨flow, count⟩
    exact {
      front := ⟨rfl, rfl, rfl, rfl, rfl, rfl⟩
      pktType := type.symm
      logHdr := by
        simp only [SameLogHdr, type]
        exact ⟨rfl, rfl, flow, rfl⟩
      pktBytes := count
      data := fun other => absurd type other }

theorem db_returns (type : fields.pktType = .pktDb) (fits : fields.MsFits)
    (composed : Composed fields after) (out : DarPktFields) : Returns SameMs fields after out := by
  have notRaw : fields.pktType ≠ .pktRaw := by rw [type]; decide
  have count : fields.pktBytes = 2 := by
    simpa only [DarPktFields.Accepted, type] using composed.accepted
  have dataLength : (fields.data 2).length = 2 := payload_length (by decide)
  have wire : fields.wireData.take 16 = fields.data 2 := by
    simp only [DarPktFields.wireData, type]
    exact List.take_of_length_le (dataLength.le.trans (by decide))
  have ahead := (composed.ahead notRaw).2
  rw [wire, DarPktFields.hdrLength, ← PktData.ahead_append] at ahead
  have parsed := darPktBytesToFields_front notRaw composed fits.toFrontFits out
  simp only [type, darUtilGetFtype, parseLogHdr, EStateM.run_bind] at parsed
  rw [parseDb_run type fits ahead] at parsed
  refine ⟨_, parsed, {
    front := ⟨rfl, rfl, rfl, rfl, rfl, rfl⟩
    pktType := type.symm
    logHdr := by simp only [SameLogHdr, type]
    pktBytes := count.symm
    data := fun _ => ?_ }⟩
  rw [count]
  exact payload_place out.pktData rfl dataLength (by decide)

theorem resp_returns (type : fields.pktType = .pktResp) (fits : fields.MsFits)
    (composed : Composed fields after) (out : DarPktFields) : Returns SameMs fields after out := by
  have notRaw : fields.pktType ≠ .pktRaw := by rw [type]; decide
  have empty : fields.pktBytes = 0 := by
    simpa only [DarPktFields.Accepted, type] using composed.accepted
  have ahead := (composed.ahead notRaw).2.1
  have parsed := darPktBytesToFields_front notRaw composed fits.toFrontFits out
  simp only [type, darUtilGetFtype, parseLogHdr, EStateM.run_bind] at parsed
  rw [parseResp_resp_run type fits ahead] at parsed
  exact ⟨_, parsed, {
    front := ⟨rfl, rfl, rfl, rfl, rfl, rfl⟩
    pktType := rfl
    logHdr := by
      simp only [SameLogHdr, type]
      exact ⟨rfl, rfl⟩
    pktBytes := empty.symm
    data := fun _ => by rw [empty]; simp [DarPktFields.payload] }⟩

theorem msgResp_returns (type : fields.pktType = .pktMsgResp) (fits : fields.MsFits)
    (several : fields.logMs.msgLen ≠ 0) (composed : Composed fields after)
    (out : DarPktFields) : Returns SameMs fields after out := by
  have notRaw : fields.pktType ≠ .pktRaw := by rw [type]; decide
  have empty : fields.pktBytes = 0 := by
    simpa only [DarPktFields.Accepted, type] using composed.accepted
  have ahead := (composed.ahead notRaw).2.1
  have parsed := darPktBytesToFields_front notRaw composed fits.toFrontFits out
  simp only [type, darUtilGetFtype, parseLogHdr, EStateM.run_bind] at parsed
  rw [parseResp_msg_run type fits several ahead] at parsed
  exact ⟨_, parsed, {
    front := ⟨rfl, rfl, rfl, rfl, rfl, rfl⟩
    pktType := type.symm
    logHdr := by simp [SameLogHdr, SameMailbox, type]
    pktBytes := empty.symm
    data := fun _ => by rw [empty]; simp [DarPktFields.payload] }⟩

theorem respData_returns_iff (type : fields.pktType = .pktRespData) (fits : fields.MsFits)
    (composed : Composed fields after) (out : DarPktFields) :
    Returns SameMs fields after out ↔
      fields.logRw.status ≠ .pktRetry ∧ fields.pktBytes ≤ 256 ∧
        ¬LooksPadded fields.wireBody := by
  have notRaw : fields.pktType ≠ .pktRaw := by rw [type]; decide
  have notDstm : fields.pktType ≠ .pktDstm := by rw [type]; decide
  have accepted := composed.accepted
  simp only [DarPktFields.Accepted, type] at accepted
  obtain ⟨nonempty, whole, -⟩ := accepted
  have wire : fields.wireData = fields.data fields.pktBytes := by
    simp only [DarPktFields.wireData, type]
  have wireLength : fields.wireData.length = min fields.pktBytes rioMaxPktBytes := by
    rw [wire, DarPktFields.data, DarPktFields.payload, List.length_take, List.drop_zero,
      Vector.length_toList]
  have hdr := hdrLength_bounds notRaw composed
  have bodyLength := wireBody_length fields
  have ahead := (composed.ahead notRaw).2.1
  have parsed := darPktBytesToFields_front notRaw composed fits.toFrontFits out
  simp only [type, darUtilGetFtype, parseLogHdr, EStateM.run_bind] at parsed
  rw [parseResp_data_run type fits ahead] at parsed
  by_cases retry : fields.logRw.status = .pktRetry
  · simp only [retry, ne_eq, not_true_eq_false, decide_false, if_true] at parsed
    rw [returns_iff_of_ok parsed]
    have count : fields.pktBytes ≠ 0 := by
      intro empty
      rw [nonempty empty] at retry
      cases retry
    refine iff_of_false (fun same => count same.pktBytes.symm) (fun both => both.1 retry)
  · simp only [retry, ne_eq, not_false_eq_true, decide_true, if_false] at parsed
    have even : fields.wireBody.length % 2 = 0 := by
      unfold rioMaxPktBytes at wireLength
      omega
    rw [parseData_long ((out.withFront fields).withResp fields 256) rfl
      (show 8 < 256 by decide) notDstm composed.framed (by omega) (by omega) even hdr.2.2]
      at parsed
    simp only [Bool.false_eq_true, and_false, or_false] at parsed
    by_cases carried : fields.pktBytes ≤ 256 ∧ ¬LooksPadded fields.wireBody
    · obtain ⟨bounded, honest⟩ := carried
      have length_eq : fields.wireData.length = fields.pktBytes := by
        unfold rioMaxPktBytes at wireLength
        omega
      have count_eq : recovered fields.wireBody fields.hdrLength = fields.pktBytes := by
        rw [recovered_eq honest]
        omega
      rw [count_eq, if_neg (show ¬fields.pktBytes >
        ((out.withFront fields).withResp fields 256).pktBytes from Nat.not_lt.mpr bounded)]
        at parsed
      refine iff_of_true ⟨_, parsed, {
        front := ⟨rfl, rfl, rfl, rfl, rfl, rfl⟩
        pktType := rfl
        logHdr := by
          simp only [SameLogHdr, type]
          exact ⟨rfl, rfl⟩
        pktBytes := count_eq
        data := fun _ => ?_ }⟩ ⟨retry, bounded, honest⟩
      rw [← wire, ← length_eq]
      exact withLongData_wireData composed _
    · refine iff_of_false (fun returned => ?_) (fun all => carried all.2)
      split at parsed
      next => exact not_returns_of_error parsed returned
      next accepted =>
        have count_eq : recovered fields.wireBody fields.hdrLength = fields.pktBytes :=
          ((returns_iff_of_ok parsed).mp returned).pktBytes
        have bounded : fields.pktBytes ≤ 256 := count_eq ▸ Nat.not_lt.mp accepted
        refine carried ⟨bounded, fun looks => ?_⟩
        unfold rioMaxPktBytes at wireLength
        by_cases empty : fields.pktBytes = 0
        · have wrapped := recovered_empty looks fields.hdrLength (by omega)
          omega
        · have lost := recovered_add_two composed.framed looks fields.hdrLength (by omega)
          omega

/-- The description when parsing has reached the payload of a message. -/
def DarPktFields.withMsg (out fields : DarPktFields) (count : Nat) : DarPktFields :=
  { out with
    pktType := .pktMsg
    pktBytes := count
    logMs := { out.logMs with
      msgLen := fields.logMs.msgLen
      letter := fields.logMs.letter
      mbid := fields.logMs.mbid
      msgseg := if fields.logMs.msgLen ≠ 0 then fields.logMs.msgseg else 0 } }

section

variable (type : fields.pktType = .pktMsg)
include type

theorem darPktBytesToFields_msg {ssize : Nat} (fits : fields.MsFits)
    (composed : Composed fields after) (sized : msgSsize fields.logMs fields.pktBytes = some ssize)
    (ssize_ge : 9 ≤ ssize) (ssize_lt : ssize < 16) (out : DarPktFields) :
    darPktBytesToFields after.bytesOut out =
      (parseData ⟨true,
          decide (fields.logMs.msgLen ≠ 0 ∧ fields.logMs.msgseg ≠ fields.logMs.msgLen), 1⟩).run
        ⟨after.bytesOut, (out.withFront fields).withMsg fields (8 <<< (ssize - 9)),
          fields.hdrLength⟩ := by
  have notRaw : fields.pktType ≠ .pktRaw := by rw [type]; decide
  have ahead := (composed.ahead notRaw).2.1
  rw [darPktBytesToFields_front notRaw composed fits.toFrontFits]
  simp only [type, darUtilGetFtype, parseLogHdr, EStateM.run_bind]
  rw [parseMsg_run type fits sized ssize_ge ssize_lt ahead]
  rfl

theorem sameMs_of_withMsg {result : DarPktFields} (front : SameFront fields result)
    (pktType : result.pktType = .pktMsg) (out : DarPktFields)
    (logMs : result.logMs = (out.withMsg fields 8).logMs)
    (pktBytes : result.pktBytes = fields.pktBytes)
    (data : result.data fields.pktBytes = fields.data fields.pktBytes) :
    SameMs fields result where
  front := front
  pktType := pktType.trans type.symm
  logHdr := by
    simp only [SameLogHdr, type, SameMailbox, logMs, DarPktFields.withMsg]
    exact ⟨⟨trivial, trivial, fun several => if_pos several⟩, trivial⟩
  pktBytes := pktBytes
  data := fun _ => data

theorem msg_returns_iff (fits : fields.MsFits) (least : 8 ≤ fields.pktBytes)
    (most : fields.pktBytes ≤ 256) (composed : Composed fields after) (out : DarPktFields) :
    Returns SameMs fields after out ↔ (8 < fields.pktBytes → ¬LooksPadded fields.wireBody) := by
  have notRaw : fields.pktType ≠ .pktRaw := by rw [type]; decide
  have accepted := composed.accepted
  simp only [DarPktFields.Accepted, type] at accepted
  obtain ⟨⟨ssize, sized⟩, -⟩ := accepted
  obtain ⟨ssize_ge, ssize_lt, whole, enough, long_iff, exactly⟩ :=
    msgSsize_bounds sized least most
  have wire : fields.wireData = fields.data fields.pktBytes := by
    simp only [DarPktFields.wireData, type]
  have dataLength : (fields.data fields.pktBytes).length = fields.pktBytes :=
    payload_length (by unfold rioMaxPktBytes; omega)
  have wireLength : fields.wireData.length = fields.pktBytes := wire ▸ dataLength
  have hdr := hdrLength_bounds notRaw composed
  have bodyLength := wireBody_length fields
  have parsed := darPktBytesToFields_msg type fits composed sized ssize_ge ssize_lt out
  by_cases long : 8 < fields.pktBytes
  · have count_eq := recovered_wireBody composed (by omega)
    rw [wireLength] at count_eq
    rw [parseData_long ((out.withFront fields).withMsg fields (8 <<< (ssize - 9))) rfl
      (long_iff.mp long) (show DarPktType.pktMsg ≠ .pktDstm by decide) composed.framed
      (by omega) (by omega) (by omega) hdr.2.2] at parsed
    by_cases looks : LooksPadded fields.wireBody
    · rw [if_pos looks] at count_eq
      refine iff_of_false (fun returned => ?_) (fun honest => honest long looks)
      split at parsed
      next => exact not_returns_of_error parsed returned
      next =>
        have same : recovered fields.wireBody fields.hdrLength = fields.pktBytes :=
          ((returns_iff_of_ok parsed).mp returned).pktBytes
        omega
    · rw [if_neg looks] at count_eq
      rw [if_neg] at parsed
      · refine iff_of_true ⟨_, parsed, ?_⟩ (fun _ => looks)
        refine sameMs_of_withMsg type ⟨rfl, rfl, rfl, rfl, rfl, rfl⟩ rfl (out.withFront fields)
          rfl count_eq ?_
        rw [← wire, ← wireLength]
        exact withLongData_wireData composed _
      · rw [count_eq]
        rintro (exceeds | ⟨inexact, required⟩)
        · exact Nat.not_lt.mpr enough exceeds
        · exact inexact (exactly (of_decide_eq_true required))
  · have eight : fields.pktBytes = 8 := by omega
    have count : 8 <<< (ssize - 9) = 8 := by omega
    have dataAhead := (composed.ahead notRaw).2.2
    rw [wire, List.take_of_length_le (by omega)] at dataAhead
    rw [count] at parsed
    rw [eight] at dataLength dataAhead
    have extracted :
        (getShortData 8 0 1).run
            ⟨after.bytesOut, (out.withFront fields).withMsg fields 8, fields.hdrLength⟩ =
          .ok () ⟨after.bytesOut, { (out.withFront fields).withMsg fields 8 with
            pktData := out.pktData.place 0 (fields.data 8) }, fields.hdrLength + 8⟩ := by
      rw [getShortData_unaligned rfl dataLength dataAhead (by decide)]
      rfl
    rw [parseData_short rfl (show 8 ≤ 8 by decide) extracted] at parsed
    refine iff_of_true ⟨_, parsed, ?_⟩ (fun more => absurd more long)
    refine sameMs_of_withMsg type ⟨rfl, rfl, rfl, rfl, rfl, rfl⟩ rfl (out.withFront fields) rfl
      eight.symm ?_
    rw [eight]
    exact payload_place out.pktData rfl dataLength (by decide)

end

end Kinds

/-! ## Other addresses -/

/-- The same description with another address. -/
def DarPktFields.withAddr (fields : DarPktFields) (addr : Nat × Nat × Nat) : DarPktFields :=
  { fields with
    logRw.addr0 := addr.1
    logRw.addr1 := addr.2.1
    logRw.addr2 := addr.2.2 }

/-- Two compositions that have produced the same bytes so far, from descriptions that
differ in the address. -/
structure SameBytes (fields : DarPktFields) (addr : Nat × Nat × Nat)
    (left right : ComposeState) : Prop where
  original : left.fieldsIn = fields
  readdressed : right.fieldsIn = fields.withAddr addr
  bytesOut : right.bytesOut = left.bytesOut

section Address

variable {fields : DarPktFields} {addr : Nat × Nat × Nat}

theorem SameBytes.states {left right : ComposeState} (same : SameBytes fields addr left right) :
    ∃ bytes, left = ⟨fields, bytes⟩ ∧ right = ⟨fields.withAddr addr, bytes⟩ :=
  ⟨left.bytesOut, by rw [← same.original], by rw [← same.readdressed, ← same.bytesOut]⟩

theorem emit_follows (bytes : List Byte) :
    Follows (SameBytes fields addr) (emit bytes) (emit bytes) := by
  intro left right result final same succeeds
  obtain ⟨room, rfl⟩ := emit_ok_iff.mp succeeds
  unfold ComposeState.Room at room
  rw [← same.bytesOut] at room
  refine ⟨right.append bytes, emit_ok_iff.mpr ⟨room, rfl⟩, same.original, same.readdressed, ?_⟩
  simp only [ComposeState.append, same.bytesOut]

theorem store_follows (value : Byte) :
    Follows (SameBytes fields addr) (store value) (store value) := by
  intro left right result final same succeeds
  obtain ⟨room, rfl⟩ := store_ok_iff.mp succeeds
  rw [← same.bytesOut] at room
  refine ⟨right.append [value], store_ok_iff.mpr ⟨room, rfl⟩, same.original,
    same.readdressed, ?_⟩
  simp only [ComposeState.append, same.bytesOut]

theorem storeData_follows (index count : Nat) :
    Follows (SameBytes fields addr) (storeData index count) (storeData index count) := by
  induction count generalizing index with
  | zero => exact Follows.pure ()
  | succ count ih =>
    intro left right result final same succeeds
    obtain ⟨_, _, got, rest⟩ := bind_ok_iff.mp succeeds
    obtain ⟨rfl, rfl⟩ := get_ok_iff.mp got
    have data_eq : right.fieldsIn.pktData = left.fieldsIn.pktData := by
      rw [same.readdressed, same.original]
      rfl
    have loop : Follows (SameBytes fields addr)
        (do
          let value ← orFail (left.fieldsIn.pktData.read index) .fault
          store value
          storeData (index + 1) count)
        (do
          let value ← orFail (left.fieldsIn.pktData.read index) .fault
          store value
          storeData (index + 1) count) :=
      Follows.bind (Follows.orFail _ _) fun value =>
        Follows.bind (store_follows value) fun _ => ih (index + 1)
    obtain ⟨other, otherRan, related⟩ := loop same rest
    rw [← data_eq] at otherRan
    exact ⟨other, bind_ok_iff.mpr ⟨right, right, get_ok_iff.mpr ⟨rfl, rfl⟩, otherRan⟩,
      related⟩

theorem composeLogHdr_follows (kind : fields.pktType.Unaddressed) :
    Follows (SameBytes fields addr) (composeLogHdr fields)
      (composeLogHdr (fields.withAddr addr)) := by
  have type_eq : (fields.withAddr addr).pktType = fields.pktType := rfl
  unfold composeLogHdr
  rw [type_eq]
  rcases kind with type | type | type | type | type | type <;> rw [type]
  · exact Follows.bind (Follows.orFail _ _) fun ssize =>
      Follows.bind (emit_follows _) fun _ => Follows.pure _
  · exact Follows.bind (emit_follows _) fun _ => Follows.bind (Follows.failIf _ _) fun _ =>
      Follows.bind (storeData_follows 0 2) fun _ => Follows.pure _
  · exact Follows.bind (emit_follows _) fun _ => Follows.pure _
  all_goals simp only [darUtilGetFtype, composeResp, type_eq, type]
  · exact Follows.bind (Follows.failIf _ _) fun _ => Follows.bind (emit_follows _) fun _ =>
      Follows.pure _
  · exact Follows.bind (Follows.failIf _ _) fun _ => Follows.bind (emit_follows _) fun _ =>
      Follows.pure _
  · exact Follows.bind (emit_follows _) fun _ => Follows.bind (Follows.failIf _ _) fun _ =>
      Follows.pure _

theorem composeLogHdr_addData {before after : ComposeState} {plan : DataPlan}
    (kind : fields.pktType.Unaddressed)
    (succeeds : (composeLogHdr fields).run before = .ok plan after)
    (addData : plan.addData = true) :
    fields.pktType = .pktMsg ∨ fields.pktType = .pktRespData := by
  unfold composeLogHdr at succeeds
  rcases kind with type | type | type | type | type | type
  · exact Or.inl type
  · simp only [type, darUtilGetFtype, composeDb, bind_ok_iff, pure_ok_iff] at succeeds
    obtain ⟨_, _, -, _, _, -, _, _, -, rfl, -⟩ := succeeds
    cases addData
  · simp only [type, darUtilGetFtype, composeFc, bind_ok_iff, pure_ok_iff] at succeeds
    obtain ⟨_, _, -, rfl, -⟩ := succeeds
    cases addData
  · simp only [type, darUtilGetFtype, composeResp, bind_ok_iff, pure_ok_iff] at succeeds
    obtain ⟨_, _, -, _, _, -, rfl, -⟩ := succeeds
    cases addData
  · exact Or.inr type
  · simp only [type, darUtilGetFtype, composeResp, bind_ok_iff, pure_ok_iff] at succeeds
    obtain ⟨_, _, -, _, _, -, rfl, -⟩ := succeeds
    cases addData

theorem composeData_follows {plan : DataPlan}
    (whole : plan.addData = true → fields.pktBytes ≠ 0 →
      8 ≤ fields.pktBytes ∧ addr.1 % 8 = 0) :
    Follows (SameBytes fields addr) (composeData plan) (composeData plan) := by
  intro left right result final same succeeds
  obtain ⟨bytes, rfl, rfl⟩ := same.states
  simp only [composeData, EStateM.run_bind, EStateM.run_get] at succeeds ⊢
  by_cases present : plan.addData = true ∧ fields.pktBytes ≠ 0
  · obtain ⟨long, aligned⟩ := whole present.1 present.2
    have short : ¬fields.pktBytes < 8 := Nat.not_lt.mpr long
    rw [if_pos present, if_neg short] at succeeds
    obtain ⟨_, _, checked, stored⟩ := bind_ok_iff.mp succeeds
    obtain ⟨passes, rfl⟩ := failIf_ok_iff.mp checked
    obtain ⟨other, otherStored, related⟩ :=
      storeData_follows 0 fields.pktBytes same stored
    refine ⟨other, ?_, related⟩
    have otherPasses : ¬(addr.1 &&& 7 ≠ 0 ∨ fields.pktBytes &&& 0x7 ≠ 0) := by
      rw [and_seven, and_seven] at passes ⊢
      omega
    rw [if_pos (show plan.addData = true ∧ (fields.withAddr addr).pktBytes ≠ 0 from present),
      if_neg (show ¬(fields.withAddr addr).pktBytes < 8 from short)]
    exact bind_ok_iff.mpr ⟨(), _, failIf_ok_iff.mpr ⟨otherPasses, rfl⟩, otherStored⟩
  · rw [if_neg present] at succeeds
    rw [if_neg (show ¬(plan.addData = true ∧ (fields.withAddr addr).pktBytes ≠ 0) from
      present)]
    exact Follows.pure () same succeeds

theorem composeTail_follows :
    Follows (SameBytes fields addr) composeTail composeTail := by
  intro left right result final same succeeds
  obtain ⟨bytes, rfl, rfl⟩ := same.states
  simp only [composeTail, bind_ok_iff, get_ok_iff, orFail_ok_iff, EStateM.run_set,
    modify_ok_iff] at succeeds ⊢
  obtain ⟨_, _, ⟨rfl, rfl⟩, closed, _, ⟨crc, rfl⟩, _, middle, set_eq, _, last, emitted,
    rfl⟩ := succeeds
  cases set_eq
  let withCrc : DarPktBytes := { bytes with
    pktData := closed.1, numChars := closed.2, pktHasCrc := true }
  have closedSame : SameBytes fields addr ⟨fields, withCrc⟩ ⟨fields.withAddr addr, withCrc⟩ :=
    ⟨rfl, rfl, rfl⟩
  obtain ⟨other, otherEmitted, related⟩ := emit_follows _ closedSame emitted
  refine ⟨{ other with bytesOut.pktPadded := closed.2 &&& 2 ≠ 0 },
    ⟨_, _, ⟨rfl, rfl⟩, closed, _, ⟨crc, rfl⟩, (), _, rfl, (), other, otherEmitted, rfl⟩,
    related.original, related.readdressed, ?_⟩
  rw [related.bytesOut]

theorem composeBody_follows (kind : fields.pktType.Unaddressed)
    (whole : fields.pktType = .pktMsg ∨ fields.pktType = .pktRespData → fields.pktBytes ≠ 0 →
      8 ≤ fields.pktBytes ∧ addr.1 % 8 = 0) :
    Follows (SameBytes fields addr) (composeBody fields)
      (composeBody (fields.withAddr addr)) := by
  have trans : Follows (SameBytes fields addr) (composeTransHdr fields.trans)
      (composeTransHdr fields.trans) := by
    unfold composeTransHdr
    cases fields.trans.ttCode with
    | ttSmall => exact emit_follows _
    | ttLarge => exact emit_follows _
    | undef2 => intro left right result final same succeeds; cases succeeds
    | undef3 => intro left right result final same succeeds; cases succeeds
  refine Follows.bind (emit_follows _) fun _ => Follows.bind trans fun _ =>
    Follows.bind (Follows.failIf _ _) fun _ =>
      Follows.bind_of_ok (composeLogHdr_follows kind) fun plan left middle ran => ?_
  exact composeData_follows fun addData => whole (composeLogHdr_addData kind ran addData)

/-- Composition for another address succeeds with the same bytes. -/
def SameOutcome (fields : DarPktFields) (after : ComposeState) (addr : Nat × Nat × Nat) :
    Prop :=
  ∃ other, darPktFieldsToBytes (fields.withAddr addr) = .ok () other ∧
    other.bytesOut = after.bytesOut

theorem payload_ge_eight (sized : fields.MsSized) (accepted : fields.Accepted)
    (data : fields.pktType = .pktMsg ∨ fields.pktType = .pktRespData)
    (nonempty : fields.pktBytes ≠ 0) : 8 ≤ fields.pktBytes := by
  rcases data with type | type
  · exact (sized.1 type).1
  · simp only [DarPktFields.Accepted, type] at accepted
    omega

theorem sameOutcome_iff {after : ComposeState} (kind : fields.pktType.Unaddressed)
    (sized : fields.MsSized) (succeeds : darPktFieldsToBytes fields = .ok () after) :
    SameOutcome fields after addr ↔
      (fields.pktType = .pktMsg ∨ fields.pktType = .pktRespData → fields.pktBytes ≠ 0 →
        addr.1 % 8 = 0) := by
  have notRaw : fields.pktType ≠ .pktRaw := by
    rcases kind with type | type | type | type | type | type <;> rw [type] <;> decide
  have composed := darPktFieldsToBytes_composed notRaw succeeds
  constructor
  · rintro ⟨other, otherSucceeds, -⟩ data nonempty
    have accepted :=
      (@darPktFieldsToBytes_composed other () (fields.withAddr addr) notRaw otherSucceeds).accepted
    have type_eq : (fields.withAddr addr).pktType = fields.pktType := rfl
    have long := payload_ge_eight sized composed.accepted data nonempty
    rcases data with type | type
    · simp only [DarPktFields.Accepted, type_eq, type] at accepted
      exact accepted.2 long
    · simp only [DarPktFields.Accepted, type_eq, type] at accepted
      exact accepted.2.2 long
  · intro aligned
    have head : Follows (SameBytes fields addr) (composeHead fields)
        (composeHead (fields.withAddr addr)) := by
      unfold composeHead
      rw [if_neg notRaw, if_neg (show (fields.withAddr addr).pktType ≠ .pktRaw from notRaw)]
      exact composeBody_follows kind fun data nonempty =>
        ⟨payload_ge_eight sized composed.accepted data nonempty, aligned data nonempty⟩
    have start : SameBytes fields addr ⟨fields, darUtilPktBytesInit⟩
        ⟨fields.withAddr addr, darUtilPktBytesInit⟩ := ⟨rfl, rfl, rfl⟩
    obtain ⟨other, otherSucceeds, same⟩ :=
      Follows.bind head (fun _ => composeTail_follows) start succeeds
    exact ⟨other, otherSucceeds, same.bytesOut⟩

end Address

/-! ## All kinds -/

/-- The packets without an address that come back, given what the caller's structure held
before. -/
def DarPktFields.MsSurvives (fields out : DarPktFields) : Prop :=
  match fields.pktType with
  | .pktMsg => 8 < fields.pktBytes → ¬LooksPadded fields.wireBody
  | .pktFc =>
    fields.logFc.fcFlow &&& 0x7B = fields.logFc.fcFlow ∧ out.pktBytes = fields.pktBytes
  | .pktRespData =>
    fields.logRw.status ≠ .pktRetry ∧ fields.pktBytes ≤ 256 ∧ ¬LooksPadded fields.wireBody
  | _ => True

/-- Another address for which the composer does the same. -/
def DarPktFields.AddrIgnored (fields : DarPktFields) (addr : Nat × Nat × Nat) : Prop :=
  fields.pktType = .pktMsg ∨ fields.pktType = .pktRespData → fields.pktBytes ≠ 0 →
    addr.1 % 8 = 0

/-- Exactly the packets described by `MsSurvives` come back as they were, and exactly the
addresses of `AddrIgnored` make no difference. -/
theorem ms_round_trip_iff {fields : DarPktFields} {after : ComposeState}
    (kind : fields.pktType.Unaddressed) (fits : fields.MsFits) (sized : fields.MsSized)
    (succeeds : darPktFieldsToBytes fields = .ok () after) (out : DarPktFields)
    (addr : Nat × Nat × Nat) :
    (Returns SameMs fields after out ∧ SameOutcome fields after addr) ↔
      (fields.MsSurvives out ∧ fields.AddrIgnored addr) := by
  have notRaw : fields.pktType ≠ .pktRaw := by
    rcases kind with type | type | type | type | type | type <;> rw [type] <;> decide
  have composed := darPktFieldsToBytes_composed notRaw succeeds
  refine and_congr ?_ (sameOutcome_iff kind sized succeeds)
  unfold DarPktFields.MsSurvives
  rcases kind with type | type | type | type | type | type
  · rw [msg_returns_iff type fits (sized.1 type).1 (sized.1 type).2 composed, type]
  · rw [type]
    exact iff_of_true (db_returns type fits composed out) trivial
  · rw [fc_returns_iff type fits composed, type]
  · rw [type]
    exact iff_of_true (resp_returns type fits composed out) trivial
  · rw [respData_returns_iff type fits composed, type]
  · rw [type]
    exact iff_of_true (msgResp_returns type fits (sized.2 type) composed out) trivial

/-- A flow control packet for the given flow. -/
def fcSample (flow : Nat) : DarPktFields :=
  { DarPktFields.cleared with
    pktType := .pktFc
    logRw.pktAddrSize := .rioAddr34
    logFc.fcFlow := flow }

theorem fcSample_fits {flow : Nat} (bounded : flow < 2 ^ 7) : (fcSample flow).MsFits where
  pktVc := Nat.zero_le 1
  pktPrio := Nat.zero_le 3
  destId := by simp [fcSample, DarPktFields.cleared]
  srcId := by simp [fcSample, DarPktFields.cleared]
  tid := by simp [fcSample, DarPktFields.cleared]
  msgLen := by simp [fcSample, DarPktFields.cleared]
  letter := by simp [fcSample, DarPktFields.cleared]
  mbid := by simp [fcSample, DarPktFields.cleared]
  msgseg := by simp [fcSample, DarPktFields.cleared]
  fcFam := by simp [fcSample, DarPktFields.cleared]
  fcFlow := bounded

theorem fcSample_sized (flow : Nat) : (fcSample flow).MsSized := by
  constructor <;> intro type <;> cases type

theorem ms_round_trip_fcSample :
    ∃ after, darPktFieldsToBytes (fcSample 3) = .ok () after ∧
      Returns SameMs (fcSample 3) after DarPktFields.cleared ∧
      SameOutcome (fcSample 3) after (5, 0, 0) := by
  obtain ⟨after, succeeds⟩ :=
    exists_ok_of_succeeded (show succeeded (darPktFieldsToBytes (fcSample 3)) = true by
      decide +kernel)
  refine ⟨after, succeeds, (ms_round_trip_iff (Or.inr (Or.inr (Or.inl rfl)))
    (fcSample_fits (by decide)) (fcSample_sized 3) succeeds _ _).mpr ⟨⟨rfl, rfl⟩, ?_⟩⟩
  rintro (type | type) <;> cases type

/-- Flow 4 (`fc_flow_0E`) is returned as flow 0. -/
theorem ms_round_trip_fails :
    ∃ after, darPktFieldsToBytes (fcSample 4) = .ok () after ∧
      (fcSample 4).MsFits ∧ (fcSample 4).MsSized ∧
      ¬Returns SameMs (fcSample 4) after DarPktFields.cleared := by
  obtain ⟨after, succeeds⟩ :=
    exists_ok_of_succeeded (show succeeded (darPktFieldsToBytes (fcSample 4)) = true by
      decide +kernel)
  have composed := darPktFieldsToBytes_composed (by decide) succeeds
  refine ⟨after, succeeds, fcSample_fits (by decide), fcSample_sized 4, fun returned => ?_⟩
  have flow := ((fc_returns_iff rfl (fcSample_fits (by decide)) composed _).mp returned).1
  revert flow
  decide

end RioFabric.Packet

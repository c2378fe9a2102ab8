import RioFabric.Packet.ReadWrite

/-!
# Maintenance packets

One wire format carries five packet kinds.  Requests and port-writes share the size codes
of reads and writes; responses put their status where requests have the size, and the
parser does not look at it there.  A read response has no byte count at all, so the parser
returns the whole doublewords it finds.
-/

namespace RioFabric.Packet

open Lib

/-- A maintenance packet whose header members fit their wire fields. -/
structure DarPktFields.MtcFits (fields : DarPktFields) : Prop extends fields.FrontFits where
  tid : fields.logRw.tid < 2 ^ 8
  offset : fields.logRw.addr0 < 2 ^ 24

/-- The two kinds of maintenance response. -/
def DarPktFields.IsMtcResp (fields : DarPktFields) : Prop :=
  fields.pktType = .pktMrr ∨ fields.pktType = .pktMwr

/-- The kinds of maintenance packet that have a payload. -/
def DarPktFields.HasMtcData (fields : DarPktFields) : Prop :=
  fields.pktType = .pktMw ∨ fields.pktType = .pktMrr ∨ fields.pktType = .pktPw

/-- What a maintenance packet is for: the configuration offset of requests, the status of
responses, and the payload. -/
structure SameMtc (fields result : DarPktFields) : Prop where
  front : SameFront fields result
  pktType : result.pktType = fields.pktType
  hopcount : result.trans.hopcount = fields.trans.hopcount
  tid : result.logRw.tid = fields.logRw.tid
  offset : ¬fields.IsMtcResp → result.logRw.addr0 = fields.logRw.addr0
  status : fields.IsMtcResp → result.logRw.status = fields.logRw.status
  pktBytes : result.pktBytes = fields.pktBytes
  data : fields.HasMtcData → result.data fields.pktBytes = fields.data fields.pktBytes

/-- The address part of a maintenance header. -/
def DarPktFields.mtcHdr (fields : DarPktFields) : DarPktLogRwHdr :=
  { fields.logRw with pktAddrSize := .rioAddr21, addr0 := fields.mtcAddr0 }

/-- A description after parsing a maintenance header with byte count `count` and alignment
`align`. -/
def DarPktFields.withMtc (out fields : DarPktFields) (count align : Nat) : DarPktFields :=
  { out with
    pktType := fields.pktType
    trans.hopcount := fields.trans.hopcount
    pktBytes := count
    logRw := { out.logRw with
      pktAddrSize := .rioAddr21
      addr0 := dwAddr fields.mtcAddr0 ||| align
      addr1 := 0
      addr2 := 0
      tid := fields.logRw.tid } }

theorem mtcTransOf_byte {pktType : DarPktType} (kind : darUtilGetFtype pktType = 8) {size : Nat}
    (size_lt : size < 16) :
    ¬((u8 ((mtcTransType pktType <<< 4) + (size &&& 0xF))).toNat &&& 0xF0) >>> 4 > 4 ∧
      mtcTransOf (((u8 ((mtcTransType pktType <<< 4) + (size &&& 0xF))).toNat &&& 0xF0) >>> 4) =
        pktType ∧
      (u8 ((mtcTransType pktType <<< 4) + (size &&& 0xF))).toNat &&& 0xF = size := by
  revert size
  cases pktType <;> first | (cases kind; done) | decide

section Header

variable {fields out : DarPktFields} {packet : DarPktBytes} {index : Nat} {state : ParseState}
  {plan : (Nat × Nat) × Bool}

theorem logHdrBytes_mtc (kind : darUtilGetFtype fields.pktType = 8) :
    fields.logHdrBytes =
      [u8 ((mtcTransType fields.pktType <<< 4) + (fields.mtcSizes.1 &&& 0xF)),
        u8 fields.logRw.tid, fields.trans.hopcount] ++
        fields.mtcHdr.wireAddr fields.mtcSizes.2 := by
  cases type : fields.pktType <;> rw [type] at kind <;> first
    | (cases kind; done)
    | simp only [DarPktFields.logHdrBytes, type, DarPktLogRwHdr.wireAddr, DarPktFields.mtcHdr]

/-- Byte count, alignment and presence of data that a maintenance header stands for. -/
def mtcSizeOf (pktType : DarPktType) (sizeRc wptr : Nat) : Option ((Nat × Nat) × Bool) :=
  match pktType with
  | .pktMr => (darUtilComputeRdBytesNAlign sizeRc wptr).map fun sizes => (sizes, false)
  | .pktMrr => some ((64, 0), true)
  | .pktMwr => some ((0, 0), false)
  | _ => (darUtilComputeWrBytesNAlign sizeRc wptr).map fun sizes => (sizes, true)

theorem sizesOrFail_run {sizes : Nat × Nat} :
    (sizesOrFail (some sizes)).run state = .ok sizes state := by
  simp [sizesOrFail]

theorem parseMtcPlan_run {sizeRc wptr : Nat} {pktType : DarPktType}
    (wptrRead : getWptr.run state = .ok wptr state)
    (sized : mtcSizeOf pktType sizeRc wptr = some plan) :
    (parseMtcPlan pktType sizeRc).run state = .ok plan state := by
  cases pktType
  case pktMr =>
    obtain ⟨sizes, decoded, rfl⟩ := Option.map_eq_some_iff.mp sized
    simp only [parseMtcPlan, EStateM.run_bind, wptrRead, decoded, sizesOrFail_run,
      EStateM.run_pure]
  case pktMrr =>
    cases sized
    rfl
  case pktMwr =>
    cases sized
    rfl
  all_goals
    obtain ⟨sizes, decoded, rfl⟩ := Option.map_eq_some_iff.mp sized
    simp only [parseMtcPlan, EStateM.run_bind, wptrRead, decoded, sizesOrFail_run,
      EStateM.run_pure]

/-- The header of a maintenance packet is parsed back. -/
theorem parseMtc_run (kind : darUtilGetFtype fields.pktType = 8) (fits : fields.MtcFits)
    (sameSize : packet.pktAddrSize = .rioAddr21) (size_lt : fields.mtcSizes.1 < 16)
    (wptr_lt : fields.mtcSizes.2 < 2)
    (sized : mtcSizeOf fields.pktType fields.mtcSizes.1 fields.mtcSizes.2 = some plan)
    (ahead : packet.pktData.Ahead index fields.logHdrBytes) :
    parseMtc.run ⟨packet, out, index⟩ =
      .ok ⟨plan.2, false, 1⟩
        ⟨packet, out.withMtc fields plan.1.1 plan.1.2,
          index + fields.logHdrBytes.length⟩ := by
  obtain ⟨known, trans, size⟩ := mtcTransOf_byte kind size_lt
  have addrFits : fields.mtcHdr.AddrFits := by
    have bound := fits.offset
    change fields.mtcAddr0 < 2 ^ 24
    unfold DarPktFields.mtcAddr0
    split <;> omega
  have samePacket : { packet with pktAddrSize := .rioAddr21 } = packet := by
    rw [← sameSize]
  rw [logHdrBytes_mtc kind, PktData.ahead_append] at ahead
  obtain ⟨⟨transAhead, tidAhead, hopAhead, -⟩, addrAhead⟩ := ahead
  simp only [List.length_cons, List.length_nil, Nat.zero_add] at addrAhead
  have tid_eq := toNat_u8 fits.tid
  have hop_eq : u8 fields.trans.hopcount.toNat = fields.trans.hopcount :=
    BitVec.ofNat_toNat 8 _
  simp only [parseMtc, EStateM.run_bind, peek_run, Nat.add_zero, transAhead, failIf_run,
    if_neg known, trans, size, skip_run, next_run, tidAhead, tid_eq, hopAhead, hop_eq,
    setFields_run, EStateM.run_modify, samePacket]
  rw [darGetRwAddr_run addrFits sameSize wptr_lt addrAhead]
  simp only [parseMtcPlan_run (getWptr_run_of_ahead wptr_lt addrAhead) sized]
  simp only [setBytesNAlign, setFields_run, EStateM.run_pure, DarPktFields.withMtc,
    logHdrBytes_mtc kind, DarPktLogRwHdr.upperAddr, DarPktFields.mtcHdr]
  simp only [List.length_append, List.length_cons, List.length_nil, Nat.add_assoc,
    Nat.zero_add]

end Header

section Kinds

variable {fields out : DarPktFields} {after : ComposeState}

theorem darPktBytesToFields_mtc {plan : (Nat × Nat) × Bool}
    (kind : darUtilGetFtype fields.pktType = 8) (fits : fields.MtcFits)
    (composed : Composed fields after) (size_lt : fields.mtcSizes.1 < 16)
    (wptr_lt : fields.mtcSizes.2 < 2)
    (sized : mtcSizeOf fields.pktType fields.mtcSizes.1 fields.mtcSizes.2 = some plan)
    (out : DarPktFields) :
    darPktBytesToFields after.bytesOut out =
      (parseData ⟨plan.2, false, 1⟩).run
        ⟨after.bytesOut, (out.withFront fields).withMtc fields plan.1.1 plan.1.2,
          fields.hdrLength⟩ := by
  have notRaw : fields.pktType ≠ .pktRaw := pktType_ne_raw (by rw [kind]; decide)
  have small := composed.mtcAddrSize.mp kind
  have sameSize : after.bytesOut.pktAddrSize = .rioAddr21 := by
    rw [composed.pktAddrSize, ← small]
    cases type : fields.pktType <;> rw [type] at kind <;> first
      | (cases kind; done)
      | simp only [DarPktFields.recordedAddrSize, type]
  have ahead := (composed.ahead notRaw).2.1
  rw [darPktBytesToFields_front notRaw composed fits.toFrontFits, kind]
  simp only [parseLogHdr, EStateM.run_bind]
  rw [parseMtc_run kind fits sameSize size_lt wptr_lt sized ahead]

theorem mtc_offset (notResp : ¬fields.IsMtcResp) :
    dwAddr fields.mtcAddr0 ||| fields.logRw.addr0 % 8 = fields.logRw.addr0 := by
  have offset_eq : fields.mtcAddr0 = fields.logRw.addr0 := by
    unfold DarPktFields.IsMtcResp at notResp
    unfold DarPktFields.mtcAddr0
    split
    · exact absurd (Or.inl ‹_›) notResp
    · exact absurd (Or.inr ‹_›) notResp
    · rfl
  rw [offset_eq, dwAddr_or_align]

theorem mr_returns (type : fields.pktType = .pktMr) (fits : fields.MtcFits)
    (composed : Composed fields after) : Returns SameMtc fields after out := by
  have accepted := composed.accepted
  simp only [DarPktFields.Accepted, type] at accepted
  obtain ⟨size_lt, wptr_lt, decoded⟩ := rd_bytes_n_align_of_encoded accepted.1
  have sizes_eq : fields.mtcSizes = fields.rdSizes := by
    simp only [DarPktFields.mtcSizes, type]
  have notResp : ¬fields.IsMtcResp := by simp [DarPktFields.IsMtcResp, type]
  have sized : mtcSizeOf fields.pktType fields.mtcSizes.1 fields.mtcSizes.2 =
      some ((fields.pktBytes, fields.logRw.addr0 % 8), false) := by
    rw [sizes_eq, type, mtcSizeOf, decoded]
    rfl
  rw [← sizes_eq] at size_lt wptr_lt
  have parsed := darPktBytesToFields_mtc (by rw [type]; rfl) fits composed size_lt wptr_lt sized
    out
  refine ⟨_, parsed, {
    front := ⟨rfl, rfl, rfl, rfl, rfl, rfl⟩
    pktType := rfl
    hopcount := rfl
    tid := rfl
    offset := fun _ => mtc_offset notResp
    status := fun resp => absurd resp notResp
    pktBytes := rfl
    data := fun data => ?_ }⟩
  simp [DarPktFields.HasMtcData, type] at data

theorem mtcResp_sizes (resp : fields.IsMtcResp) :
    fields.mtcSizes.1 < 16 ∧ fields.mtcSizes.2 < 2 := by
  have sizes_eq : fields.mtcSizes = (fields.logRw.status.code, 0) := by
    rcases resp with type | type <;> simp only [DarPktFields.mtcSizes, type]
  rw [sizes_eq]
  exact ⟨by cases fields.logRw.status <;> decide, Nat.zero_lt_two⟩

theorem mwr_returns_iff (type : fields.pktType = .pktMwr) (fits : fields.MtcFits)
    (composed : Composed fields after) :
    Returns SameMtc fields after out ↔
      out.logRw.status = fields.logRw.status ∧ fields.pktBytes = 0 := by
  have resp : fields.IsMtcResp := Or.inr type
  obtain ⟨size_lt, wptr_lt⟩ := mtcResp_sizes resp
  have sized : mtcSizeOf fields.pktType fields.mtcSizes.1 fields.mtcSizes.2 =
      some ((0, 0), false) := by
    rw [type, mtcSizeOf]
  have parsed := darPktBytesToFields_mtc (by rw [type]; rfl) fits composed size_lt wptr_lt sized
    out
  rw [returns_iff_of_ok parsed]
  constructor
  · intro same
    exact ⟨same.status resp, same.pktBytes.symm⟩
  · rintro ⟨status, empty⟩
    exact {
      front := ⟨rfl, rfl, rfl, rfl, rfl, rfl⟩
      pktType := rfl
      hopcount := rfl
      tid := rfl
      offset := fun request => absurd resp request
      status := fun _ => status
      pktBytes := empty.symm
      data := fun data => by simp [DarPktFields.HasMtcData, type] at data }

theorem mrr_wireData (type : fields.pktType = .pktMrr) (bounded : fields.pktBytes ≤ 64) :
    fields.wireData.length = max 8 fields.pktBytes ∧
      fields.wireData.take fields.pktBytes = fields.data fields.pktBytes := by
  have dataLength : (fields.payload 0 fields.pktBytes).length = fields.pktBytes :=
    payload_length (by unfold rioMaxPktBytes; omega)
  simp only [DarPktFields.wireData, type]
  split
  next short =>
    refine ⟨?_, ?_⟩
    · rw [doubleword_length (by omega) dataLength]
      omega
    · simp only [doubleword, List.replicate_zero, List.nil_append]
      exact List.take_left' dataLength
  next long => exact ⟨by omega, List.take_of_length_le (by omega)⟩

/-- A read response comes back only with the status already in place, and with the length
of whole doublewords: a shorter one is returned as eight bytes, or as six when its CRC is
taken for padding. -/
theorem mrr_returns_iff (type : fields.pktType = .pktMrr) (fits : fields.MtcFits)
    (composed : Composed fields after) :
    Returns SameMtc fields after out ↔
      out.logRw.status = fields.logRw.status ∧
        ((8 ≤ fields.pktBytes ∧ ¬LooksPadded fields.wireBody) ∨
          (fields.pktBytes = 6 ∧ LooksPadded fields.wireBody)) := by
  have resp : fields.IsMtcResp := Or.inl type
  have notRaw : fields.pktType ≠ .pktRaw := by rw [type]; decide
  have notDstm : fields.pktType ≠ .pktDstm := by rw [type]; decide
  obtain ⟨size_lt, wptr_lt⟩ := mtcResp_sizes resp
  have accepted := composed.accepted
  simp only [DarPktFields.Accepted, type] at accepted
  obtain ⟨wireLength, wireTake⟩ := mrr_wireData type accepted.2
  have even : fields.pktBytes < 8 ∨ fields.pktBytes % 2 = 0 := by
    have sizes := mem_rdSizes_of_some accepted.1
    simp only [rdSizes, List.mem_cons, List.not_mem_nil, or_false] at sizes
    omega
  have sized : mtcSizeOf fields.pktType fields.mtcSizes.1 fields.mtcSizes.2 =
      some ((64, 0), true) := by
    rw [type, mtcSizeOf]
  have parsed := darPktBytesToFields_mtc (by rw [type]; rfl) fits composed size_lt wptr_lt sized
    out
  have count_eq := recovered_wireBody composed (by omega)
  have fitsMax : recovered fields.wireBody fields.hdrLength ≤ 64 := by
    rw [count_eq]
    split <;> omega
  rw [parseData_counted notRaw composed ((out.withFront fields).withMtc fields 64 0) rfl
    (show 8 < 64 by decide) notDstm (by omega) fitsMax (fun inexact => by cases inexact)]
    at parsed
  rw [returns_iff_of_ok parsed]
  constructor
  · intro same
    refine ⟨same.status resp, ?_⟩
    have bytes : recovered fields.wireBody fields.hdrLength = fields.pktBytes := same.pktBytes
    rw [count_eq] at bytes
    split at bytes
    next looks => exact Or.inr ⟨by omega, looks⟩
    next honest => exact Or.inl ⟨by omega, honest⟩
  · rintro ⟨status, returned⟩
    exact {
      front := ⟨rfl, rfl, rfl, rfl, rfl, rfl⟩
      pktType := rfl
      hopcount := rfl
      tid := rfl
      offset := fun request => absurd resp request
      status := fun _ => status
      pktBytes := by
        refine count_eq.trans ?_
        rcases returned with ⟨long, honest⟩ | ⟨six, looks⟩
        · rw [if_neg honest]
          omega
        · rw [if_pos looks]
          omega
      data := fun _ => by
        rw [← wireTake, ← withLongData_wireData composed
          ((out.withFront fields).withMtc fields 64 0)]
        exact data_eq_take _ (by omega) }

section

variable (type : fields.pktType = .pktMw ∨ fields.pktType = .pktPw)
include type

theorem mtcWrite_accepted (composed : Composed fields after) :
    darUtilGetWrsizeWdptr fields.logRw.addr0 fields.pktBytes = some fields.wrSizes ∧
      fields.mtcSizes = fields.wrSizes ∧ fields.pktBytes ≤ 256 := by
  have accepted := composed.accepted
  rcases type with type | type <;> simp only [DarPktFields.Accepted, type] at accepted
  · exact ⟨accepted.1, by simp only [DarPktFields.mtcSizes, type], by omega⟩
  · refine ⟨accepted.1, by simp only [DarPktFields.mtcSizes, type], ?_⟩
    -- only packet memory bounds a port-write
    by_contra large
    have bounded := composed.framed.inMemory
    have notRaw : fields.pktType ≠ .pktRaw := by rw [type]; decide
    have hdr := hdrLength_bounds notRaw composed
    have wire : fields.wireData = fields.data fields.pktBytes := by
      simp only [DarPktFields.wireData, type, if_neg (show ¬fields.pktBytes < 8 by omega)]
    have wireLength : fields.wireData.length = min fields.pktBytes rioMaxPktBytes := by
      rw [wire, DarPktFields.data, DarPktFields.payload, List.length_take, List.drop_zero,
        Vector.length_toList]
    have front := frontBytes_length fields
    have header : fields.logHdrBytes.length = 6 := by
      rw [logHdrBytes_mtc (by rw [type]; rfl), List.length_append, wireAddr_length]
      rfl
    rw [composed.framed.numChars, framed_length, wireBody_length, DarPktFields.hdrLength,
      header, wireLength, front] at bounded
    unfold rioMaxPktBytes at bounded
    split at bounded <;> split at bounded <;> split at bounded <;> omega

theorem mtcWrite_wireData :
    fields.wireData =
      if fields.pktBytes < 8 then
        doubleword (fields.logRw.addr0 % 8) fields.pktBytes (fields.data fields.pktBytes)
      else fields.data fields.pktBytes := by
  rcases type with type | type <;> simp only [DarPktFields.wireData, type]

theorem mtcWrite_returns_short (fits : fields.MtcFits) (short : fields.pktBytes ≤ 8)
    (composed : Composed fields after) :
    Returns SameMtc fields after out := by
  have kind : darUtilGetFtype fields.pktType = 8 := by
    rcases type with type | type <;> rw [type] <;> rfl
  have notRaw : fields.pktType ≠ .pktRaw := pktType_ne_raw (by rw [kind]; decide)
  have notResp : ¬fields.IsMtcResp := by
    rcases type with type | type <;> simp [DarPktFields.IsMtcResp, type]
  have aligned : unaligned fields.pktType = false := by
    rcases type with type | type <;> rw [type] <;> rfl
  obtain ⟨encoded, sizes_eq, -⟩ := mtcWrite_accepted type composed
  obtain ⟨size_lt, wptr_lt, decoded⟩ := wr_bytes_n_align_of_le_eight short encoded
  have bounded := wr_short_bounded short encoded
  have dataLength : (fields.data fields.pktBytes).length = fields.pktBytes :=
    payload_length (by unfold rioMaxPktBytes; omega)
  have sized : mtcSizeOf fields.pktType fields.mtcSizes.1 fields.mtcSizes.2 =
      some ((fields.pktBytes, fields.logRw.addr0 % 8), true) := by
    rw [sizes_eq]
    rcases type with type | type <;> rw [type, mtcSizeOf, decoded] <;> first | rfl | simp
  have wire : fields.wireData =
      doubleword (fields.logRw.addr0 % 8) fields.pktBytes (fields.data fields.pktBytes) := by
    rw [mtcWrite_wireData type]
    split
    · rfl
    · rw [show fields.pktBytes = 8 by omega, show fields.logRw.addr0 % 8 = 0 by omega,
        doubleword_eight]
  have ahead := (composed.ahead notRaw).2.2
  rw [wire, List.take_of_length_le (by rw [doubleword_length bounded dataLength]; decide)]
    at ahead
  rw [← sizes_eq] at size_lt wptr_lt
  have align_eq : (dwAddr fields.mtcAddr0 ||| fields.logRw.addr0 % 8) % 8 =
      fields.logRw.addr0 % 8 := by rw [mtc_offset notResp]
  refine ⟨_, (darPktBytesToFields_mtc kind fits composed size_lt wptr_lt sized out).trans
    (parseData_single
      ((out.withFront fields).withMtc fields fields.pktBytes (fields.logRw.addr0 % 8)) rfl
      aligned align_eq bounded dataLength ahead), {
    front := ⟨rfl, rfl, rfl, rfl, rfl, rfl⟩
    pktType := rfl
    hopcount := rfl
    tid := rfl
    offset := fun _ => mtc_offset notResp
    status := fun resp => absurd resp notResp
    pktBytes := rfl
    data := fun _ => payload_place out.pktData rfl dataLength (by unfold rioMaxPktBytes; omega) }⟩

theorem mtcWrite_returns_long_iff (fits : fields.MtcFits) (long : 8 < fields.pktBytes)
    (composed : Composed fields after) :
    Returns SameMtc fields after out ↔ ¬LooksPadded fields.wireBody := by
  have kind : darUtilGetFtype fields.pktType = 8 := by
    rcases type with type | type <;> rw [type] <;> rfl
  have notRaw : fields.pktType ≠ .pktRaw := pktType_ne_raw (by rw [kind]; decide)
  have notDstm : fields.pktType ≠ .pktDstm := by
    rcases type with type | type <;> rw [type] <;> decide
  have notResp : ¬fields.IsMtcResp := by
    rcases type with type | type <;> simp [DarPktFields.IsMtcResp, type]
  obtain ⟨encoded, sizes_eq, bounded⟩ := mtcWrite_accepted type composed
  obtain ⟨size_lt, wptr_lt, count, decoded, enough, longCount⟩ :=
    wr_bytes_n_align_of_long long bounded encoded
  have whole := (wr_long_aligned long encoded).2
  have sized : mtcSizeOf fields.pktType fields.mtcSizes.1 fields.mtcSizes.2 =
      some ((count, fields.logRw.addr0 % 8), true) := by
    rw [sizes_eq]
    rcases type with type | type <;> rw [type, mtcSizeOf, decoded] <;> first | rfl | simp
  have wire : fields.wireData = fields.data fields.pktBytes := by
    rw [mtcWrite_wireData type, if_neg (by omega)]
  have dataLength : (fields.data fields.pktBytes).length = fields.pktBytes :=
    payload_length (by unfold rioMaxPktBytes; omega)
  have wireLength : fields.wireData.length = fields.pktBytes := wire ▸ dataLength
  have count_eq := recovered_wireBody composed (by omega)
  have fitsMax : recovered fields.wireBody fields.hdrLength ≤ count := by
    rw [count_eq]
    split <;> omega
  rw [← sizes_eq] at size_lt wptr_lt
  have parsed := darPktBytesToFields_mtc kind fits composed size_lt wptr_lt sized out
  rw [parseData_counted notRaw composed
    ((out.withFront fields).withMtc fields count (fields.logRw.addr0 % 8)) rfl longCount notDstm
    (by omega) fitsMax (fun inexact => by cases inexact)] at parsed
  rw [returns_iff_of_ok parsed]
  constructor
  · intro same looks
    have bytes : recovered fields.wireBody fields.hdrLength = fields.pktBytes := same.pktBytes
    rw [count_eq, if_pos looks] at bytes
    omega
  · intro honest
    exact {
      front := ⟨rfl, rfl, rfl, rfl, rfl, rfl⟩
      pktType := rfl
      hopcount := rfl
      tid := rfl
      offset := fun _ => mtc_offset notResp
      status := fun resp => absurd resp notResp
      pktBytes := (count_eq.trans (if_neg honest)).trans wireLength
      data := fun _ => by
        rw [← wire, ← dataLength, ← wire]
        exact withLongData_wireData composed _ }

end

/-- The maintenance packets that come back, given what the caller's structure held. -/
def DarPktFields.MtcSurvives (fields out : DarPktFields) : Prop :=
  match fields.pktType with
  | .pktMw | .pktPw => 8 < fields.pktBytes → ¬LooksPadded fields.wireBody
  | .pktMrr =>
    out.logRw.status = fields.logRw.status ∧
      ((8 ≤ fields.pktBytes ∧ ¬LooksPadded fields.wireBody) ∨
        (fields.pktBytes = 6 ∧ LooksPadded fields.wireBody))
  | .pktMwr => out.logRw.status = fields.logRw.status ∧ fields.pktBytes = 0
  | _ => True

/-- Exactly the maintenance packets described by `MtcSurvives` come back as they were. -/
theorem mtc_round_trip_iff (kind : darUtilGetFtype fields.pktType = 8) (fits : fields.MtcFits)
    (succeeds : darPktFieldsToBytes fields = .ok () after) (out : DarPktFields) :
    Returns SameMtc fields after out ↔ fields.MtcSurvives out := by
  have notRaw : fields.pktType ≠ .pktRaw := pktType_ne_raw (by rw [kind]; decide)
  have composed := darPktFieldsToBytes_composed notRaw succeeds
  have write_iff : fields.pktType = .pktMw ∨ fields.pktType = .pktPw →
      (Returns SameMtc fields after out ↔
        (8 < fields.pktBytes → ¬LooksPadded fields.wireBody)) := by
    intro type
    by_cases long : 8 < fields.pktBytes
    · rw [mtcWrite_returns_long_iff type fits long composed]
      simp [long]
    · have comesBack := @mtcWrite_returns_short _ out _ type fits (Nat.not_lt.mp long) composed
      simp [comesBack, long]
  unfold DarPktFields.MtcSurvives
  cases type : fields.pktType <;> rw [type] at kind <;> try (cases kind; done)
  case pktMr => exact iff_of_true (mr_returns type fits composed) trivial
  case pktMw => exact write_iff (Or.inl type)
  case pktMrr => exact mrr_returns_iff type fits composed
  case pktMwr => exact mwr_returns_iff type fits composed
  case pktPw => exact write_iff (Or.inr type)

end Kinds

/-- A maintenance write response that reports `status`. -/
def mwrSample (status : RioPktStatus) : DarPktFields :=
  { DarPktFields.cleared with
    trans.hopcount := 0xFF
    pktType := .pktMwr
    logRw.status := status }

theorem mwrSample_fits (status : RioPktStatus) : (mwrSample status).MtcFits where
  pktVc := Nat.zero_le 1
  pktPrio := Nat.zero_le 3
  destId := by simp [mwrSample, DarPktFields.cleared]
  srcId := by simp [mwrSample, DarPktFields.cleared]
  tid := by simp [mwrSample, DarPktFields.cleared]
  offset := by simp [mwrSample, DarPktFields.cleared]

theorem mtc_round_trip_mwrSample :
    ∃ after, darPktFieldsToBytes (mwrSample .pktDone) = .ok () after ∧
      Returns SameMtc (mwrSample .pktDone) after DarPktFields.cleared := by
  obtain ⟨after, succeeds⟩ :=
    exists_ok_of_succeeded (show succeeded (darPktFieldsToBytes (mwrSample .pktDone)) = true by
      decide +kernel)
  exact ⟨after, succeeds,
    (mtc_round_trip_iff rfl (mwrSample_fits _) succeeds _).mpr ⟨rfl, rfl⟩⟩

/-- An error response parsed into a cleared structure is returned with status "done". -/
theorem mtc_round_trip_fails :
    ∃ after, darPktFieldsToBytes (mwrSample .pktErr) = .ok () after ∧
      (mwrSample .pktErr).MtcFits ∧
      ¬Returns SameMtc (mwrSample .pktErr) after DarPktFields.cleared := by
  obtain ⟨after, succeeds⟩ :=
    exists_ok_of_succeeded (show succeeded (darPktFieldsToBytes (mwrSample .pktErr)) = true by
      decide +kernel)
  have composed := darPktFieldsToBytes_composed (by decide) succeeds
  refine ⟨after, succeeds, mwrSample_fits _, fun returned => ?_⟩
  have status := ((mwr_returns_iff rfl (mwrSample_fits _) composed).mp returned).1
  cases status

end RioFabric.Packet

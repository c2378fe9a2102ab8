import RioFabric.Packet.Parsed

/-!
# Read and write requests

Round trips of `ftype` 2, 5 and 6 packets.  Reads always come back.  Writes come back
unless the parser mistakes a zero CRC for padding, and except for the streaming writes
whose address or length the packet format has no room for.
-/

namespace RioFabric.Packet

open Lib

/-- A request whose header members fit their wire fields. -/
structure DarPktFields.RequestFits (fields : DarPktFields) : Prop extends
    fields.FrontFits where
  tid : fields.logRw.tid < 2 ^ 8
  addr : fields.logRw.AddrFits

/-- A description after parsing transaction, address and a byte count of `count`. -/
def DarPktFields.withRequest (out fields : DarPktFields) (count : Nat) : DarPktFields :=
  { out with
    pktType := fields.pktType
    pktBytes := count
    logRw := { out.logRw with
      pktAddrSize := fields.logRw.pktAddrSize
      addr0 := fields.logRw.addr0
      addr1 := fields.logRw.upperAddr.1
      addr2 := fields.logRw.upperAddr.2
      tid := fields.logRw.tid } }

theorem sameAddr_withRequest (fields out : DarPktFields) (count : Nat) :
    SameAddr fields (out.withRequest fields count) :=
  (sameAddr_iff fields (out.withRequest fields count) rfl rfl rfl).mpr rfl

theorem dwAddr_or_align (addr : Nat) : dwAddr addr ||| addr % 8 = addr := by
  rw [dwAddr, or_eq_add 3 (by omega) (by omega)]
  omega

variable {pktType : DarPktType} {fields : DarPktFields}

theorem rdTransOf_byte (kind : darUtilGetFtype pktType = 2) {size : Nat} (size_lt : size < 16) :
    rdTransOf (((u8 ((rdTransType pktType <<< 4) + (size &&& 0xF))).toNat &&& 0xF0) >>> 4) =
        some pktType ∧
      (u8 ((rdTransType pktType <<< 4) + (size &&& 0xF))).toNat &&& 0xF = size := by
  revert size
  cases pktType <;> first | (cases kind; done) | decide

theorem wrTransOf_byte (kind : darUtilGetFtype pktType = 5) {size : Nat} (size_lt : size < 16) :
    wrTransOf (((u8 (((wrTransType pktType).getD 0 <<< 4) + (size &&& 0xF))).toNat &&&
        0xF0) >>> 4) = some pktType ∧
      (u8 (((wrTransType pktType).getD 0 <<< 4) + (size &&& 0xF))).toNat &&& 0xF = size := by
  revert size
  cases pktType <;> first | (cases kind; done) | decide

section Requests

variable {fields out : DarPktFields} {packet : DarPktBytes} {index : Nat}

theorem logHdrBytes_read (kind : darUtilGetFtype fields.pktType = 2) :
    fields.logHdrBytes =
      [u8 ((rdTransType fields.pktType <<< 4) + (fields.rdSizes.1 &&& 0xF)),
        u8 fields.logRw.tid] ++ fields.logRw.wireAddr fields.rdSizes.2 := by
  cases type : fields.pktType <;> rw [type] at kind <;> first
    | (cases kind; done)
    | simp only [DarPktFields.logHdrBytes, type]

/-- The header of a read request is parsed back. -/
theorem parseNread_run (kind : darUtilGetFtype fields.pktType = 2) (fits : fields.RequestFits)
    (sameSize : packet.pktAddrSize = fields.logRw.pktAddrSize)
    (encoded : darUtilGetRdsizeWdptr fields.logRw.addr0 fields.pktBytes = some fields.rdSizes)
    (ahead : packet.pktData.Ahead index fields.logHdrBytes) :
    parseNread.run ⟨packet, out, index⟩ =
      .ok ⟨false, false, 1⟩ ⟨packet, out.withRequest fields fields.pktBytes,
        index + fields.logHdrBytes.length⟩ := by
  obtain ⟨size_lt, wptr_lt, decoded⟩ := rd_bytes_n_align_of_encoded encoded
  obtain ⟨trans, size⟩ := rdTransOf_byte kind size_lt
  rw [logHdrBytes_read kind] at ahead ⊢
  rw [PktData.ahead_append] at ahead
  obtain ⟨⟨transAhead, tidAhead, -⟩, addrAhead⟩ := ahead
  simp only [List.length_cons, List.length_nil, Nat.zero_add] at addrAhead
  have tid_eq := toNat_u8 fits.tid
  simp only [parseNread, EStateM.run_bind, next_run, transAhead, trans, orFail_some,
    EStateM.run_pure, tidAhead, tid_eq, setFields_run]
  rw [darGetRwAddr_run fits.addr sameSize wptr_lt addrAhead]
  simp only [getWptr_run_of_ahead wptr_lt addrAhead, sizesOrFail, size, decoded, reduceCtorEq,
    if_false, EStateM.run_pure, orFail_some, setBytesNAlign, setFields_run, dwAddr_or_align,
    DarPktFields.withRequest]
  simp only [List.length_append, List.length_cons, List.length_nil, Nat.add_assoc,
    Nat.zero_add]

theorem logHdrBytes_write (kind : darUtilGetFtype fields.pktType = 5) :
    fields.logHdrBytes =
      [u8 (((wrTransType fields.pktType).getD 0 <<< 4) + (fields.wrSizes.1 &&& 0xF)),
        u8 fields.logRw.tid] ++ fields.logRw.wireAddr fields.wrSizes.2 := by
  cases type : fields.pktType <;> rw [type] at kind <;> first
    | (cases kind; done)
    | simp only [DarPktFields.logHdrBytes, type]

/-- The header of a write request is parsed back. -/
theorem parseNwrite_run {count : Nat} (kind : darUtilGetFtype fields.pktType = 5)
    (fits : fields.RequestFits) (sameSize : packet.pktAddrSize = fields.logRw.pktAddrSize)
    (size_lt : fields.wrSizes.1 < 16) (wptr_lt : fields.wrSizes.2 < 2)
    (decoded : darUtilComputeWrBytesNAlign fields.wrSizes.1 fields.wrSizes.2 =
      some (count, fields.logRw.addr0 % 8))
    (ahead : packet.pktData.Ahead index fields.logHdrBytes) :
    parseNwrite.run ⟨packet, out, index⟩ =
      .ok ⟨true, false, if fields.pktType = .pktNwCmpSwap then 2 else 1⟩
        ⟨packet, out.withRequest fields count, index + fields.logHdrBytes.length⟩ := by
  obtain ⟨trans, size⟩ := wrTransOf_byte kind size_lt
  rw [logHdrBytes_write kind] at ahead ⊢
  rw [PktData.ahead_append] at ahead
  obtain ⟨⟨transAhead, tidAhead, -⟩, addrAhead⟩ := ahead
  simp only [List.length_cons, List.length_nil, Nat.zero_add] at addrAhead
  have tid_eq := toNat_u8 fits.tid
  simp only [parseNwrite, EStateM.run_bind, next_run, transAhead, trans, orFail_some,
    EStateM.run_pure, tidAhead, tid_eq, setFields_run]
  rw [darGetRwAddr_run fits.addr sameSize wptr_lt addrAhead]
  simp only [getWptr_run_of_ahead wptr_lt addrAhead, sizesOrFail, size, decoded, reduceCtorEq,
    if_false, EStateM.run_pure, orFail_some, setBytesNAlign, setFields_run, dwAddr_or_align,
    DarPktFields.withRequest]
  simp only [List.length_append, List.length_cons, List.length_nil, Nat.add_assoc,
    Nat.zero_add]

theorem parseSwrite_run (type : fields.pktType = .pktSw) (fits : fields.RequestFits)
    (sameSize : packet.pktAddrSize = fields.logRw.pktAddrSize)
    (ahead : packet.pktData.Ahead index fields.logHdrBytes) :
    parseSwrite.run ⟨packet, out, index⟩ =
      .ok ⟨true, false, 1⟩
        ⟨packet, { out.withRequest fields 256 with
          logRw.addr0 := dwAddr fields.logRw.addr0
          logRw.tid := out.logRw.tid }, index + fields.logHdrBytes.length⟩ := by
  have header : fields.logHdrBytes = fields.logRw.wireAddr 0 := by
    simp only [DarPktFields.logHdrBytes, type]
  rw [header] at ahead ⊢
  simp only [parseSwrite, EStateM.run_bind, setFields_run]
  rw [darGetRwAddr_run fits.addr sameSize (by decide) ahead]
  simp [DarPktFields.withRequest, type]

end Requests

theorem recordedAddrSize_request
    (kind : darUtilGetFtype fields.pktType = 2 ∨ darUtilGetFtype fields.pktType = 5 ∨
      darUtilGetFtype fields.pktType = 6) :
    fields.recordedAddrSize = fields.logRw.pktAddrSize := by
  cases type : fields.pktType <;> rw [type] at kind <;> first
    | (simp [darUtilGetFtype] at kind; done)
    | simp only [DarPktFields.recordedAddrSize, type]

/-- What a read request carries. -/
structure SameRead (fields result : DarPktFields) : Prop where
  front : SameFront fields result
  addr : SameAddr fields result
  pktType : result.pktType = fields.pktType
  tid : result.logRw.tid = fields.logRw.tid
  pktBytes : result.pktBytes = fields.pktBytes

theorem pktType_ne_raw (kind : darUtilGetFtype fields.pktType ≠ 16) :
    fields.pktType ≠ .pktRaw := by
  intro raw
  rw [raw] at kind
  exact kind rfl

/-- Every read request comes back as it was. -/
theorem read_round_trip {fields : DarPktFields} {after : ComposeState}
    (kind : darUtilGetFtype fields.pktType = 2) (fits : fields.RequestFits)
    (succeeds : darPktFieldsToBytes fields = .ok () after) :
    RoundTrip SameRead fields after := by
  intro out
  have notRaw : fields.pktType ≠ .pktRaw := pktType_ne_raw (by rw [kind]; decide)
  have composed := darPktFieldsToBytes_composed notRaw succeeds
  have encoded : darUtilGetRdsizeWdptr fields.logRw.addr0 fields.pktBytes =
      some fields.rdSizes := by
    have accepted := composed.accepted
    cases type : fields.pktType <;> rw [type] at kind <;> first
      | (cases kind; done)
      | simpa only [DarPktFields.Accepted, type] using accepted
  have sameSize := composed.pktAddrSize.trans (recordedAddrSize_request (Or.inl kind))
  have ahead := (composed.ahead notRaw).2.1
  refine ⟨⟨after.bytesOut, (out.withFront fields).withRequest fields fields.pktBytes,
    fields.hdrLength⟩, ?_, {
      front := ⟨rfl, rfl, rfl, rfl, rfl, rfl⟩
      addr := sameAddr_withRequest fields _ _
      pktType := rfl
      tid := rfl
      pktBytes := rfl }⟩
  rw [darPktBytesToFields_front notRaw composed fits.toFrontFits, kind]
  simp only [parseLogHdr, EStateM.run_bind]
  rw [parseNread_run kind fits sameSize encoded ahead]
  rfl

/-- An NREAD of four bytes at an address with all parts in use. -/
def nreadSample : DarPktFields :=
  { DarPktFields.cleared with
    phys := ⟨1, 2, true, 0⟩
    trans := ⟨.ttLarge, 0x1234, 0x5678, 0⟩
    pktType := .pktNr
    pktBytes := 4
    logRw := ⟨.rioAddr34, 0x89ABCDE4, 2, 0, 0x42, .pktDone⟩ }

theorem read_round_trip_nreadSample :
    ∃ after, darPktFieldsToBytes nreadSample = .ok () after ∧
      RoundTrip SameRead nreadSample after := by
  obtain ⟨after, succeeds⟩ :=
    exists_ok_of_succeeded (show succeeded (darPktFieldsToBytes nreadSample) = true by
      decide +kernel)
  have fits : nreadSample.RequestFits := {
    pktVc := by decide
    pktPrio := by decide
    destId := by decide
    srcId := by decide
    tid := by decide
    addr := ⟨by decide, by decide⟩ }
  exact ⟨after, succeeds, read_round_trip rfl fits succeeds⟩

/-- The number of payload bytes of a write: an atomic compare-and-swap has two operands. -/
def DarPktFields.writeCount (fields : DarPktFields) : Nat :=
  if fields.pktType = .pktNwCmpSwap then 2 * fields.pktBytes else fields.pktBytes

/-- What a write request carries; a streaming write has no transaction ID. -/
structure SameWrite (fields result : DarPktFields) : Prop where
  front : SameFront fields result
  addr : SameAddr fields result
  pktType : result.pktType = fields.pktType
  tid : fields.pktType ≠ .pktSw → result.logRw.tid = fields.logRw.tid
  pktBytes : result.pktBytes = fields.pktBytes
  data : result.data fields.writeCount = fields.data fields.writeCount

theorem doubleword_eight (data : List Byte) : doubleword 0 8 data = data := by
  simp [doubleword]

theorem doubleword_length {align count : Nat} {data : List Byte} (bounded : align + count ≤ 8)
    (length_eq : data.length = count) : (doubleword align count data).length = 8 := by
  simp only [doubleword, List.length_append, List.length_replicate, length_eq]
  omega

section Writes

variable {fields : DarPktFields} {after : ComposeState}

theorem accepted_write (kind : darUtilGetFtype fields.pktType = 5) (accepted : fields.Accepted) :
    darUtilGetWrsizeWdptr fields.logRw.addr0 fields.pktBytes = some fields.wrSizes ∧
      (8 < fields.pktBytes → fields.pktType = .pktNw ∨ fields.pktType = .pktNwr) := by
  cases type : fields.pktType <;> rw [type] at kind <;> try (cases kind; done)
  all_goals simp only [DarPktFields.Accepted, type] at accepted
  case pktNw => exact ⟨accepted, fun _ => Or.inl rfl⟩
  case pktNwr => exact ⟨accepted, fun _ => Or.inr rfl⟩
  all_goals exact ⟨accepted.1, fun long => by omega⟩

theorem wr_short_bounded {addr pktBytes : Nat} {sizes : Nat × Nat} (short : pktBytes ≤ 8)
    (encoded : darUtilGetWrsizeWdptr addr pktBytes = some sizes) : addr % 8 + pktBytes ≤ 8 := by
  rw [darUtilGetWrsizeWdptr_mod] at encoded
  have low : addr % 8 < 8 := Nat.mod_lt _ (by decide)
  generalize addr % 8 = align at encoded low
  have every : ∀ bytes < 9, ∀ align < 8,
      (darUtilGetWrsizeWdptr align bytes).isSome → align + bytes ≤ 8 := by decide
  exact every pktBytes (by omega) align low (by rw [encoded]; rfl)

section

variable (kind : darUtilGetFtype fields.pktType = 5)
include kind

theorem darPktBytesToFields_write {count : Nat}
    (fits : fields.RequestFits) (composed : Composed fields after)
    (size_lt : fields.wrSizes.1 < 16) (wptr_lt : fields.wrSizes.2 < 2)
    (decoded : darUtilComputeWrBytesNAlign fields.wrSizes.1 fields.wrSizes.2 =
      some (count, fields.logRw.addr0 % 8)) (out : DarPktFields) :
    darPktBytesToFields after.bytesOut out =
      (parseData ⟨true, false, if fields.pktType = .pktNwCmpSwap then 2 else 1⟩).run
        ⟨after.bytesOut, (out.withFront fields).withRequest fields count,
          fields.hdrLength⟩ := by
  have notRaw : fields.pktType ≠ .pktRaw := pktType_ne_raw (by rw [kind]; decide)
  have sameSize := composed.pktAddrSize.trans
    (recordedAddrSize_request (Or.inr (Or.inl kind)))
  have ahead := (composed.ahead notRaw).2.1
  rw [darPktBytesToFields_front notRaw composed fits.toFrontFits, kind]
  simp only [parseLogHdr, EStateM.run_bind]
  rw [parseNwrite_run kind fits sameSize size_lt wptr_lt decoded ahead]

theorem wireData_short (short : fields.pktBytes ≤ 8)
    (encoded : darUtilGetWrsizeWdptr fields.logRw.addr0 fields.pktBytes = some fields.wrSizes) :
    fields.wireData =
      doubleword (fields.logRw.addr0 % 8) fields.pktBytes (fields.data fields.pktBytes) ++
        if fields.pktType = .pktNwCmpSwap then
          doubleword (fields.logRw.addr0 % 8) fields.pktBytes
            (fields.payload fields.pktBytes fields.pktBytes)
        else [] := by
  have bounded := wr_short_bounded short encoded
  have single : (if fields.pktBytes < 8 then
        doubleword (fields.logRw.addr0 % 8) fields.pktBytes (fields.data fields.pktBytes)
      else fields.data fields.pktBytes) =
      doubleword (fields.logRw.addr0 % 8) fields.pktBytes (fields.data fields.pktBytes) := by
    split
    · rfl
    · have eight : fields.pktBytes = 8 := by omega
      have aligned : fields.logRw.addr0 % 8 = 0 := by omega
      rw [eight, aligned, doubleword_eight]
  cases type : fields.pktType <;> rw [type] at kind <;> try (cases kind; done)
  all_goals
    simp only [DarPktFields.wireData, type, reduceCtorEq, if_false, if_true, List.append_nil]
    try exact single

theorem parseData_write_short (short : fields.pktBytes ≤ 8) (composed : Composed fields after)
    (out : DarPktFields) :
    ∃ final, (parseData ⟨true, false, if fields.pktType = .pktNwCmpSwap then 2 else 1⟩).run
        ⟨after.bytesOut, out.withRequest fields fields.pktBytes, fields.hdrLength⟩ =
      .ok () ⟨after.bytesOut, { out.withRequest fields fields.pktBytes with
        pktData := out.pktData.place 0 (fields.data fields.writeCount) }, final⟩ := by
  have notRaw : fields.pktType ≠ .pktRaw := pktType_ne_raw (by rw [kind]; decide)
  have encoded := (accepted_write kind composed.accepted).1
  have bounded := wr_short_bounded short encoded
  have inArray : fields.pktBytes + fields.pktBytes ≤ rioMaxPktBytes := by
    unfold rioMaxPktBytes
    omega
  have firstLength : (fields.data fields.pktBytes).length = fields.pktBytes :=
    payload_length (by omega)
  have secondLength : (fields.payload fields.pktBytes fields.pktBytes).length = fields.pktBytes :=
    payload_length inArray
  have aligned : unaligned fields.pktType = false := by
    cases type : fields.pktType <;> rw [type] at kind <;> first | (cases kind; done) | rfl
  have ahead := (composed.ahead notRaw).2.2
  rw [wireData_short kind short encoded] at ahead
  have wordLength := doubleword_length bounded firstLength
  by_cases swap : fields.pktType = .pktNwCmpSwap
  · rw [if_pos swap, List.take_of_length_le (by
        rw [List.length_append, wordLength, doubleword_length bounded secondLength]),
      PktData.ahead_append, wordLength] at ahead
    have operands : fields.data fields.writeCount =
        fields.data fields.pktBytes ++ fields.payload fields.pktBytes fields.pktBytes := by
      rw [DarPktFields.writeCount, if_pos swap, Nat.two_mul, DarPktFields.data,
        payload_append, Nat.zero_add]
    rw [if_pos swap, operands]
    exact ⟨_, parseData_pair (out.withRequest fields fields.pktBytes) rfl aligned rfl bounded
      firstLength secondLength ahead.1 ahead.2⟩
  · rw [if_neg swap, List.append_nil, List.take_of_length_le (by omega)] at ahead
    have count_eq : fields.writeCount = fields.pktBytes := if_neg swap
    rw [if_neg swap, count_eq]
    exact ⟨_, parseData_single (out.withRequest fields fields.pktBytes) rfl aligned rfl bounded
      firstLength ahead⟩

theorem write_round_trip_short (fits : fields.RequestFits) (short : fields.pktBytes ≤ 8)
    (composed : Composed fields after) : RoundTrip SameWrite fields after := by
  intro out
  have encoded := (accepted_write kind composed.accepted).1
  obtain ⟨size_lt, wptr_lt, decoded⟩ := wr_bytes_n_align_of_le_eight short encoded
  obtain ⟨final, extracted⟩ := parseData_write_short kind short composed (out.withFront fields)
  have inArray : fields.writeCount ≤ rioMaxPktBytes := by
    unfold DarPktFields.writeCount rioMaxPktBytes
    split <;> omega
  have length_eq : (fields.data fields.writeCount).length = fields.writeCount :=
    payload_length (by omega)
  refine ⟨_, (darPktBytesToFields_write kind fits composed size_lt wptr_lt decoded out).trans
    extracted, {
      front := ⟨rfl, rfl, rfl, rfl, rfl, rfl⟩
      addr := sameAddr_withRequest fields (out.withFront fields) fields.pktBytes
      pktType := rfl
      tid := fun _ => rfl
      pktBytes := rfl
      data := ?_ }⟩
  exact payload_place out.pktData rfl length_eq inArray

theorem write_round_trip_long_iff (fits : fields.RequestFits) (long : 8 < fields.pktBytes)
    (bounded : fields.pktBytes ≤ 256) (composed : Composed fields after) :
    RoundTrip SameWrite fields after ↔ ¬LooksPadded fields.wireBody := by
  have notRaw : fields.pktType ≠ .pktRaw := pktType_ne_raw (by rw [kind]; decide)
  obtain ⟨encoded, plain⟩ := accepted_write kind composed.accepted
  obtain ⟨size_lt, wptr_lt, count, decoded, enough, longCount⟩ :=
    wr_bytes_n_align_of_long long bounded encoded
  have whole := (wr_long_aligned long encoded).2
  have wire : fields.wireData = fields.data fields.pktBytes := by
    rcases plain long with type | type <;>
      simp only [DarPktFields.wireData, type, if_neg (Nat.not_lt.mpr (Nat.le_of_lt long))]
  have dataLength : (fields.data fields.pktBytes).length = fields.pktBytes :=
    payload_length (by unfold rioMaxPktBytes; omega)
  have wireLength : fields.wireData.length = fields.pktBytes := wire ▸ dataLength
  have notSwap : fields.pktType ≠ .pktNwCmpSwap := by
    rcases plain long with type | type <;> rw [type] <;> decide
  have notDstm : fields.pktType ≠ .pktDstm := by
    rcases plain long with type | type <;> rw [type] <;> decide
  have writeCount : fields.writeCount = fields.pktBytes := if_neg notSwap
  have count_eq := recovered_wireBody composed (by omega)
  have fitsMax : recovered fields.wireBody fields.hdrLength ≤ count := by
    rw [count_eq]
    split <;> omega
  have parsed : ∀ out, darPktBytesToFields after.bytesOut out =
      .ok () ⟨after.bytesOut, ((out.withFront fields).withRequest fields count).withLongData
        fields.wireBody fields.hdrLength, fields.hdrLength⟩ := by
    intro out
    rw [darPktBytesToFields_write kind fits composed size_lt wptr_lt decoded,
      parseData_counted notRaw composed ((out.withFront fields).withRequest fields count) rfl
        longCount notDstm (by omega) fitsMax (fun inexact => by cases inexact)]
  constructor
  · intro roundTrip looks
    have same : recovered fields.wireBody fields.hdrLength = fields.pktBytes :=
      ((returns_iff_of_ok (parsed fields)).mp (roundTrip fields)).pktBytes
    rw [count_eq, if_pos looks] at same
    omega
  · intro honest out
    refine ⟨_, parsed out, {
      front := ⟨rfl, rfl, rfl, rfl, rfl, rfl⟩
      addr := sameAddr_withRequest fields (out.withFront fields) count
      pktType := rfl
      tid := fun _ => rfl
      pktBytes := (count_eq.trans (if_neg honest)).trans wireLength
      data := ?_ }⟩
    rw [writeCount, ← wire, ← dataLength, ← wire]
    exact withLongData_wireData composed _

end

/-- A streaming write that its packet format can carry: a doubleword address, and no
payload in part of a doubleword, of which the composer stores only the zeros around it. -/
def DarPktFields.SwriteCarries (fields : DarPktFields) : Prop :=
  fields.logRw.addr0 % 8 = 0 ∧
    (0 < fields.pktBytes → fields.pktBytes < 8 →
      fields.pktBytes = 4 ∧ fields.data 4 = [0, 0, 0, 0])

theorem swrite_wireData (type : fields.pktType = .pktSw) (accepted : fields.Accepted)
    (bounded : fields.pktBytes ≤ 256) :
    (0 < fields.pktBytes ∧ fields.pktBytes < 8 ∧
        fields.wireData = List.replicate (8 - fields.pktBytes) 0) ∨
      ((fields.pktBytes = 0 ∨ 8 ≤ fields.pktBytes) ∧ fields.pktBytes % 8 = 0 ∧
        fields.wireData = fields.data fields.pktBytes ∧
        fields.wireData.length = fields.pktBytes) := by
  have dataLength : (fields.data fields.pktBytes).length = fields.pktBytes :=
    payload_length (by unfold rioMaxPktBytes; omega)
  simp only [DarPktFields.Accepted, type] at accepted
  by_cases empty : fields.pktBytes = 0
  · have wire : fields.wireData = fields.data fields.pktBytes := by
      simp [DarPktFields.wireData, type, empty, DarPktFields.payload]
    exact Or.inr ⟨Or.inl empty, by omega, wire, wire ▸ dataLength⟩
  · by_cases short : fields.pktBytes < 8
    · refine Or.inl ⟨by omega, short, ?_⟩
      simp only [DarPktFields.wireData, type, if_neg empty, if_pos short, doubleword,
        List.append_nil, List.replicate_append_replicate]
      congr 1
      omega
    · have wire : fields.wireData = fields.data fields.pktBytes := by
        simp only [DarPktFields.wireData, type, if_neg empty, if_neg short]
      exact Or.inr ⟨Or.inr (by omega), by omega, wire, wire ▸ dataLength⟩

/-- A description after parsing the header of a streaming write, which has no byte count,
no transaction ID and a doubleword address. -/
def DarPktFields.withSwrite (out fields : DarPktFields) : DarPktFields :=
  { out.withRequest fields 256 with
    logRw.addr0 := dwAddr fields.logRw.addr0
    logRw.tid := out.logRw.tid }

theorem sameAddr_withSwrite_iff (fields out : DarPktFields) (body : List Byte) (index : Nat) :
    SameAddr fields ((out.withSwrite fields).withLongData body index) ↔
      fields.logRw.addr0 % 8 = 0 := by
  rw [sameAddr_iff fields ((out.withSwrite fields).withLongData body index) rfl rfl rfl]
  change dwAddr fields.logRw.addr0 = fields.logRw.addr0 ↔ _
  unfold dwAddr
  omega

section

variable (type : fields.pktType = .pktSw) (fits : fields.RequestFits)
include type fits

section

variable (composed : Composed fields after)
include composed

theorem darPktBytesToFields_swrite
    (out : DarPktFields) :
    darPktBytesToFields after.bytesOut out =
      (parseData ⟨true, false, 1⟩).run
        ⟨after.bytesOut, (out.withFront fields).withSwrite fields, fields.hdrLength⟩ := by
  have notRaw : fields.pktType ≠ .pktRaw := by rw [type]; decide
  have kind : darUtilGetFtype fields.pktType = 6 := by rw [type]; rfl
  have sameSize := composed.pktAddrSize.trans
    (recordedAddrSize_request (Or.inr (Or.inr kind)))
  have ahead := (composed.ahead notRaw).2.1
  rw [darPktBytesToFields_front notRaw composed fits.toFrontFits, kind]
  simp only [parseLogHdr, EStateM.run_bind]
  rw [parseSwrite_run type fits sameSize ahead]
  rfl

theorem swrite_parsed
    (out : DarPktFields) (even : fields.wireBody.length % 2 = 0) :
    darPktBytesToFields after.bytesOut out =
      if recovered fields.wireBody fields.hdrLength > 256 then
        .error (.rc .badDataSize) ⟨after.bytesOut,
          ((out.withFront fields).withSwrite fields).withLongData fields.wireBody
            fields.hdrLength, fields.hdrLength⟩
      else .ok () ⟨after.bytesOut,
        ((out.withFront fields).withSwrite fields).withLongData fields.wireBody
          fields.hdrLength, fields.hdrLength⟩ := by
  have notRaw : fields.pktType ≠ .pktRaw := by rw [type]; decide
  have notDstm : fields.pktType ≠ .pktDstm := by rw [type]; decide
  have hdr := hdrLength_bounds notRaw composed
  have bodyLength := wireBody_length fields
  rw [darPktBytesToFields_swrite type fits composed,
    parseData_long ((out.withFront fields).withSwrite fields) rfl (show 8 < 256 by decide)
      notDstm composed.framed (by omega) (by omega) even hdr.2.2]
  simp only [Bool.false_eq_true, and_false, or_false]
  rfl

theorem swrite_even_of_roundTrip
    (roundTrip : RoundTrip SameWrite fields after) :
    fields.wireBody.length % 2 = 0 := by
  by_contra odd
  have notRaw : fields.pktType ≠ .pktRaw := by rw [type]; decide
  have hdr := hdrLength_bounds notRaw composed
  have bodyLength := wireBody_length fields
  obtain ⟨final, refused⟩ :=
    @parseData_odd _ ⟨true, false, 1⟩ _ _ ((fields.withFront fields).withSwrite fields) rfl
      (show 8 < 256 by decide) composed.framed (by omega) (by omega) (by omega) hdr.2.2
  exact not_returns_of_error
    ((darPktBytesToFields_swrite type fits composed fields).trans refused) (roundTrip fields)

end

theorem swrite_round_trip_iff (bounded : fields.pktBytes ≤ 256)
    (composed : Composed fields after) :
    RoundTrip SameWrite fields after ↔
      fields.SwriteCarries ∧ ¬LooksPadded fields.wireBody := by
  have notRaw : fields.pktType ≠ .pktRaw := by rw [type]; decide
  have writeCount : fields.writeCount = fields.pktBytes := if_neg (by rw [type]; decide)
  have hdr := hdrLength_bounds notRaw composed
  have bodyLength := wireBody_length fields
  have rest : fields.wireBody.length - fields.hdrLength = fields.wireData.length := by omega
  have wire := swrite_wireData type composed.accepted bounded
  constructor
  · intro roundTrip
    have even := swrite_even_of_roundTrip type fits composed roundTrip
    have parsed := swrite_parsed type fits composed fields even
    split at parsed
    next => exact absurd (roundTrip fields) (not_returns_of_error parsed)
    next =>
      have same := (returns_iff_of_ok parsed).mp (roundTrip fields)
      have count_eq : recovered fields.wireBody fields.hdrLength = fields.pktBytes :=
        same.pktBytes
      have aligned := (sameAddr_withSwrite_iff fields _ _ _).mp same.addr
      have sameData := same.data
      have honest : ¬LooksPadded fields.wireBody := by
        intro looks
        by_cases none : fields.wireData.length = 0
        · have wrapped := recovered_empty looks fields.hdrLength (by omega)
          omega
        · have lost := recovered_add_two composed.framed looks fields.hdrLength (by omega)
          rcases wire with ⟨-, -, wire_eq⟩ | ⟨-, -, -, wireLength⟩
          · rw [wire_eq, List.length_replicate] at rest bodyLength
            omega
          · omega
      have length_eq : fields.wireData.length = fields.pktBytes := by
        rw [← count_eq, recovered_eq honest, rest]
      refine ⟨⟨aligned, fun _ short => ?_⟩, honest⟩
      rcases wire with ⟨_, _, wire_eq⟩ | ⟨long, -, -, -⟩
      · have four : fields.pktBytes = 4 := by
          rw [wire_eq, List.length_replicate] at length_eq
          omega
        refine ⟨four, ?_⟩
        have zeros := withLongData_wireData composed ((fields.withFront fields).withSwrite fields)
        rw [length_eq, ← writeCount, sameData, writeCount, wire_eq, four] at zeros
        exact zeros
      · omega
  · rintro ⟨⟨aligned, carried⟩, honest⟩ out
    have carries : fields.wireData.length = fields.pktBytes ∧
        fields.wireData = fields.data fields.pktBytes := by
      rcases wire with ⟨positive, short, wire_eq⟩ | ⟨-, -, wire_eq, wireLength⟩
      · obtain ⟨four, zeros⟩ := carried positive short
        rw [wire_eq, List.length_replicate, four, zeros]
        exact ⟨rfl, rfl⟩
      · exact ⟨wireLength, wire_eq⟩
    have even : fields.wireBody.length % 2 = 0 := by
      rcases wire with ⟨positive, short, -⟩ | ⟨-, whole, -, -⟩
      · have four := (carried positive short).1
        omega
      · omega
    have count_eq : recovered fields.wireBody fields.hdrLength = fields.pktBytes := by
      rw [recovered_eq honest, rest, carries.1]
    have parsed := swrite_parsed type fits composed out even
    rw [count_eq, if_neg (by omega)] at parsed
    refine ⟨_, parsed, {
      front := ⟨rfl, rfl, rfl, rfl, rfl, rfl⟩
      addr := (sameAddr_withSwrite_iff fields _ _ _).mpr aligned
      pktType := rfl
      tid := fun other => absurd type other
      pktBytes := count_eq
      data := ?_ }⟩
    rw [writeCount, ← carries.2, ← carries.1]
    exact withLongData_wireData composed _

end

/-- The writes that come back.  A streaming write must fit its packet format; where the
parser counts the payload bytes itself, a packet without padding must not end in a zero
CRC. -/
def DarPktFields.WriteSurvives (fields : DarPktFields) : Prop :=
  (fields.pktType = .pktSw → fields.SwriteCarries) ∧
    (fields.pktType = .pktSw ∨ 8 < fields.pktBytes → ¬LooksPadded fields.wireBody)

/-- Exactly the writes described by `WriteSurvives` come back as they were. -/
theorem write_round_trip_iff (kind : darUtilGetFtype fields.pktType = 5 ∨ fields.pktType = .pktSw)
    (fits : fields.RequestFits) (bounded : fields.pktBytes ≤ 256)
    (succeeds : darPktFieldsToBytes fields = .ok () after) :
    RoundTrip SameWrite fields after ↔ fields.WriteSurvives := by
  unfold DarPktFields.WriteSurvives
  rcases kind with kind | type
  · have notRaw : fields.pktType ≠ .pktRaw := pktType_ne_raw (by rw [kind]; decide)
    have notSw : fields.pktType ≠ .pktSw := by
      intro type
      rw [type] at kind
      cases kind
    have composed := darPktFieldsToBytes_composed notRaw succeeds
    by_cases long : 8 < fields.pktBytes
    · rw [write_round_trip_long_iff kind fits long bounded composed]
      simp [notSw, long]
    · have comesBack := write_round_trip_short kind fits (Nat.not_lt.mp long) composed
      simp [comesBack, notSw, long]
  · have notRaw : fields.pktType ≠ .pktRaw := by rw [type]; decide
    have composed := darPktFieldsToBytes_composed notRaw succeeds
    rw [swrite_round_trip_iff type fits bounded composed]
    simp [type]

end Writes

/-- An NWRITE of sixteen bytes, the last two of which are `last`. -/
def nwriteSample (last : Byte × Byte) : DarPktFields :=
  { DarPktFields.cleared with
    pktType := .pktNw
    pktBytes := 16
    pktData := (DarPktFields.cleared.pktData.set 14 last.1).set 15 last.2
    logRw.pktAddrSize := .rioAddr34 }

theorem nwriteSample_fits (last : Byte × Byte) : (nwriteSample last).RequestFits where
  pktVc := Nat.zero_le 1
  pktPrio := Nat.zero_le 3
  destId := by simp [nwriteSample, DarPktFields.cleared]
  srcId := by simp [nwriteSample, DarPktFields.cleared]
  tid := by simp [nwriteSample, DarPktFields.cleared]
  addr := by simp [DarPktLogRwHdr.AddrFits, nwriteSample, DarPktFields.cleared]

theorem write_round_trip_nwriteSample :
    ∃ after, darPktFieldsToBytes (nwriteSample (1, 2)) = .ok () after ∧
      RoundTrip SameWrite (nwriteSample (1, 2)) after := by
  obtain ⟨after, succeeds⟩ :=
    exists_ok_of_succeeded (show succeeded (darPktFieldsToBytes (nwriteSample (1, 2))) = true by
      decide +kernel)
  have honest : ¬LooksPadded (nwriteSample (1, 2)).wireBody := by decide +kernel
  refine ⟨after, succeeds, (write_round_trip_iff (Or.inl rfl) (nwriteSample_fits _) (by decide)
    succeeds).mpr ⟨?_, fun _ => honest⟩⟩
  intro type
  cases type

/-- With these last two bytes the final CRC is zero; the parser takes it for padding and
returns fourteen bytes. -/
theorem write_round_trip_fails :
    ∃ after, darPktFieldsToBytes (nwriteSample (203, 63)) = .ok () after ∧
      (nwriteSample (203, 63)).RequestFits ∧ (nwriteSample (203, 63)).pktBytes ≤ 256 ∧
      ¬RoundTrip SameWrite (nwriteSample (203, 63)) after := by
  obtain ⟨after, succeeds⟩ :=
    exists_ok_of_succeeded
      (show succeeded (darPktFieldsToBytes (nwriteSample (203, 63))) = true by decide +kernel)
  have composed := darPktFieldsToBytes_composed (by decide) succeeds
  have looks : LooksPadded (nwriteSample (203, 63)).wireBody := by decide +kernel
  refine ⟨after, succeeds, nwriteSample_fits _, by decide, fun roundTrip => ?_⟩
  exact (write_round_trip_long_iff rfl (nwriteSample_fits _) (by decide) (by decide)
    composed).mp roundTrip looks

end RioFabric.Packet

import RioFabric.Packet.Framing

/-!
# Parsing a composed packet

What the round trip theorems of all packet kinds share: the meaning of "the same fields",
the parse of everything in front of the logical header, and the two ways of getting the
payload back.
-/

namespace RioFabric.Packet

open Lib

/-- A description with all members zero, as `memset` leaves it. -/
def DarPktFields.cleared : DarPktFields where
  padBytes := 0
  phys := ⟨0, 0, false, 0⟩
  trans := ⟨.ttSmall, 0, 0, 0⟩
  pktType := .pktRaw
  pktBytes := 0
  pktData := Vector.replicate rioMaxPktBytes 0
  logRw := ⟨.rioAddr21, 0, 0, 0, 0, .pktDone⟩
  logFc := ⟨false, 0, 0, 0, false, 0⟩
  logDs := ⟨false, false, false, 0, 0, false, false, 0, 0, 0, 0, 0, 0, 0⟩
  logMs := ⟨0, 0, 0, 0, .pktDone⟩

/-- The members of the physical and transport header that a packet carries. -/
structure SameFront (fields result : DarPktFields) : Prop where
  pktVc : result.phys.pktVc = fields.phys.pktVc
  pktPrio : result.phys.pktPrio = fields.phys.pktPrio
  crf : result.phys.crf = fields.phys.crf
  ttCode : result.trans.ttCode = fields.trans.ttCode
  destId : result.trans.destId = fields.trans.destId
  srcId : result.trans.srcId = fields.trans.srcId

/-- The address words that an address size uses. -/
def DarPktLogRwHdr.addrWords (hdr : DarPktLogRwHdr) : List Nat :=
  match hdr.pktAddrSize with
  | .rioAddr21 | .rioAddr32 => [hdr.addr0]
  | .rioAddr34 | .rioAddr50 => [hdr.addr0, hdr.addr1]
  | .rioAddr66 => [hdr.addr0, hdr.addr1, hdr.addr2]

/-- Address size and address. -/
def SameAddr (fields result : DarPktFields) : Prop :=
  result.logRw.pktAddrSize = fields.logRw.pktAddrSize ∧
    result.logRw.addrWords = fields.logRw.addrWords

theorem sameAddr_iff (fields result : DarPktFields)
    (size : result.logRw.pktAddrSize = fields.logRw.pktAddrSize)
    (addr1 : result.logRw.addr1 = fields.logRw.upperAddr.1)
    (addr2 : result.logRw.addr2 = fields.logRw.upperAddr.2) :
    SameAddr fields result ↔ result.logRw.addr0 = fields.logRw.addr0 := by
  unfold SameAddr DarPktLogRwHdr.addrWords
  rw [addr1, addr2, size]
  unfold DarPktLogRwHdr.upperAddr
  cases fields.logRw.pktAddrSize <;> simp

/-- The payload of a description. -/
abbrev DarPktFields.data (fields : DarPktFields) (count : Nat) : List Byte :=
  fields.payload 0 count

variable {fields : DarPktFields} {count : Nat}

theorem payload_length {index : Nat} (inside : index + count ≤ rioMaxPktBytes) :
    (fields.payload index count).length = count := by
  rw [DarPktFields.payload, List.length_take, List.length_drop, Vector.length_toList]
  omega

theorem payload_append (fields : DarPktFields) (index first second : Nat) :
    fields.payload index (first + second) =
      fields.payload index first ++ fields.payload (index + first) second := by
  rw [DarPktFields.payload, DarPktFields.payload, DarPktFields.payload, List.take_add,
    List.drop_drop]

theorem data_eq_take (fields : DarPktFields) {total : Nat} (le : count ≤ total) :
    fields.data count = (fields.data total).take count := by
  rw [DarPktFields.data, DarPktFields.data, DarPktFields.payload, DarPktFields.payload,
    List.take_take, Nat.min_eq_left le]

theorem payload_place {bytes : List Byte} (pkt : PktData)
    (same : fields.pktData = pkt.place 0 bytes) (length_eq : bytes.length = count)
    (fits : count ≤ rioMaxPktBytes) : fields.data count = bytes := by
  subst length_eq
  have placed := @PktData.take_place pkt 0 bytes (by omega)
  rw [Nat.zero_add, List.take_zero, List.nil_append] at placed
  rw [DarPktFields.data, DarPktFields.payload, List.drop_zero, same, placed]

/-- The stream parses back to fields that are the same in the sense of `Same`, when the
caller's structure holds `out` before. -/
def Returns (Same : DarPktFields → DarPktFields → Prop) (fields : DarPktFields)
    (after : ComposeState) (out : DarPktFields) : Prop :=
  ∃ final, darPktBytesToFields after.bytesOut out = .ok () final ∧
    Same fields final.fieldsOut

/-- The same whatever the caller's structure holds before. -/
def RoundTrip (Same : DarPktFields → DarPktFields → Prop) (fields : DarPktFields)
    (after : ComposeState) : Prop :=
  ∀ out, Returns Same fields after out

section Returns

variable {Same : DarPktFields → DarPktFields → Prop} {fields out : DarPktFields}
  {after : ComposeState} {final : ParseState}

theorem not_returns_of_error {stop : DarStop}
    (refused : darPktBytesToFields after.bytesOut out = .error stop final) :
    ¬Returns Same fields after out := by
  rintro ⟨_, accepted, -⟩
  rw [refused] at accepted
  cases accepted

theorem returns_iff_of_ok (parsed : darPktBytesToFields after.bytesOut out = .ok () final) :
    Returns Same fields after out ↔ Same fields final.fieldsOut := by
  constructor
  · rintro ⟨_, accepted, same⟩
    rw [parsed] at accepted
    cases accepted
    exact same
  · intro same
    exact ⟨final, parsed, same⟩

end Returns

theorem frontBytes_length (fields : DarPktFields) :
    fields.frontBytes.length = if fields.trans.ttCode = .ttSmall then 4 else 6 := by
  unfold DarPktFields.frontBytes transHdrBytes physHdrBytes
  cases fields.trans.ttCode <;> rfl

theorem wireAddr_length (hdr : DarPktLogRwHdr) (wptr : Nat) :
    (hdr.wireAddr wptr).length =
      match hdr.pktAddrSize with
      | .rioAddr21 => 3
      | .rioAddr32 | .rioAddr34 => 4
      | .rioAddr50 => 6
      | .rioAddr66 => 8 := by
  unfold DarPktLogRwHdr.wireAddr rwAddrBytes
  cases hdr.pktAddrSize <;> rfl

theorem logHdrBytes_length (notRaw : fields.pktType ≠ .pktRaw)
    (mtcAddrSize : darUtilGetFtype fields.pktType = 8 ↔
      fields.logRw.pktAddrSize = .rioAddr21) :
    2 ≤ fields.logHdrBytes.length ∧ fields.logHdrBytes.length ≤ 10 ∧
      fields.logHdrBytes.length % 2 = 0 := by
  have addr : fields.logRw.pktAddrSize ≠ .rioAddr21 →
      ∀ wptr, 4 ≤ (fields.logRw.wireAddr wptr).length ∧
        (fields.logRw.wireAddr wptr).length ≤ 8 ∧
        (fields.logRw.wireAddr wptr).length % 2 = 0 := by
    intro large wptr
    rw [wireAddr_length]
    cases size : fields.logRw.pktAddrSize <;> simp_all
  cases type : fields.pktType <;> rw [type] at mtcAddrSize notRaw <;>
    simp only [DarPktFields.logHdrBytes, type]
  case pktRaw => exact absurd rfl notRaw
  case pktNr | pktNrInc | pktNrDec | pktNrSet | pktNrClr =>
    have bounds := addr (mt mtcAddrSize.mpr (by decide)) fields.rdSizes.2
    rw [List.length_append]
    simp only [List.length_cons, List.length_nil]
    omega
  case pktNw | pktNwr | pktNwSwap | pktNwCmpSwap | pktNwTstSwap =>
    have bounds := addr (mt mtcAddrSize.mpr (by decide)) fields.wrSizes.2
    rw [List.length_append]
    simp only [List.length_cons, List.length_nil]
    omega
  case pktSw =>
    have bounds := addr (mt mtcAddrSize.mpr (by decide)) 0
    omega
  case pktMr | pktMw | pktMrr | pktMwr | pktPw => simp [rwAddrBytes]
  case pktDstm =>
    unfold dstmXhBytes dstmSegBytes
    split
    · simp
    · cases fields.logDs.dstmStartSeg <;> cases fields.logDs.dstmEndSeg <;> simp
  all_goals simp

/-- Where the payload starts. -/
abbrev DarPktFields.hdrLength (fields : DarPktFields) : Nat :=
  fields.frontBytes.length + fields.logHdrBytes.length

section Front

variable {fields : DarPktFields} {after : ComposeState}

theorem hdrLength_bounds (notRaw : fields.pktType ≠ .pktRaw) (composed : Composed fields after) :
    6 ≤ fields.hdrLength ∧ fields.hdrLength ≤ 16 ∧ fields.hdrLength % 2 = 0 := by
  have hdr := logHdrBytes_length notRaw composed.mtcAddrSize
  have front := frontBytes_length fields
  unfold DarPktFields.hdrLength
  split at front <;> omega

theorem wireBody_length (fields : DarPktFields) :
    fields.wireBody.length = fields.hdrLength + fields.wireData.length := by
  rw [DarPktFields.wireBody, List.length_append, List.length_append, Nat.add_assoc]

theorem wireBody_drop (fields : DarPktFields) :
    fields.wireBody.drop fields.hdrLength = fields.wireData := by
  rw [DarPktFields.wireBody, ← List.append_assoc]
  exact List.drop_left' List.length_append

theorem Composed.ahead (notRaw : fields.pktType ≠ .pktRaw) (composed : Composed fields after) :
    after.bytesOut.pktData.Ahead 0 fields.frontBytes ∧
      after.bytesOut.pktData.Ahead fields.frontBytes.length fields.logHdrBytes ∧
      after.bytesOut.pktData.Ahead fields.hdrLength (fields.wireData.take 16) := by
  have bounds := hdrLength_bounds notRaw composed
  have split : fields.wireBody =
      (fields.frontBytes ++ (fields.logHdrBytes ++ fields.wireData.take 16)) ++
        fields.wireData.drop 16 := by
    rw [List.append_assoc, List.append_assoc, List.take_append_drop]
    rfl
  have short : (fields.frontBytes ++ (fields.logHdrBytes ++ fields.wireData.take 16)).length ≤
      80 := by
    rw [List.length_append, List.length_append, List.length_take]
    unfold DarPktFields.hdrLength at bounds
    omega
  have framed := composed.framed
  rw [split] at framed
  have ahead := framed.ahead_front short
  rw [PktData.ahead_append, PktData.ahead_append, Nat.zero_add] at ahead
  exact ahead

theorem darPktBytesToFields_front (notRaw : fields.pktType ≠ .pktRaw)
    (composed : Composed fields after) (fits : fields.FrontFits) (out : DarPktFields) :
    darPktBytesToFields after.bytesOut out =
      (do
        let plan ← parseLogHdr (darUtilGetFtype fields.pktType)
        parseData plan : ParseM Unit).run
        ⟨after.bytesOut, out.withFront fields, fields.frontBytes.length⟩ := by
  have bounds := hdrLength_bounds notRaw composed
  have ahead := (composed.ahead notRaw).1
  rw [DarPktFields.frontBytes, PktData.ahead_append, Nat.zero_add] at ahead
  have transAhead : after.bytesOut.pktData.Ahead 2 (transHdrBytes fields.trans) := ahead.2
  have enough : ¬after.bytesOut.numChars < 8 := by
    rw [composed.framed.numChars, framed_length, wireBody_length]
    split <;> omega
  have ftype_eq : darUtilGetFtype fields.pktType % 16 = darUtilGetFtype fields.pktType := by
    cases type : fields.pktType <;> first | exact absurd type notRaw | rfl
  have length_eq : fields.frontBytes.length = 2 + (transHdrBytes fields.trans).length := by
    rw [DarPktFields.frontBytes, List.length_append]
    rfl
  simp only [darPktBytesToFields, EStateM.run_bind, failIf_run, if_neg enough]
  rw [parsePhysHdr_run fits ahead.1]
  simp only [ftype_eq]
  rw [parseTransHdr_run fits composed.ttDefined ?_ transAhead, ← length_eq]
  · rfl
  · rfl

end Front

section Payload

variable {packet : DarPktBytes} {out : DarPktFields} {plan : GetPlan} {index : Nat}
  {align count dataRepeat : Nat} {data : List Byte} {exactData : Bool} {body : List Byte}
  {fields : DarPktFields} {after : ComposeState}

theorem getShortData_round {left : Nat} (out : DarPktFields) (kind : unaligned out.pktType = false)
    (align_eq : out.logRw.addr0 % 8 = align) (bounded : align + count ≤ 8)
    (length_eq : data.length = count)
    (ahead : packet.pktData.Ahead index (doubleword align count data))
    (fits : dataRepeat * count + count ≤ rioMaxPktBytes) :
    (getShortData count dataRepeat (left + 1)).run ⟨packet, out, index⟩ =
      (getShortData count (dataRepeat + 1) left).run
        ⟨packet, { out with pktData := out.pktData.place (dataRepeat * count) data },
          index + 8⟩ := by
  subst length_eq
  rw [doubleword, PktData.ahead_append, PktData.ahead_append, List.length_replicate] at ahead
  have dataAhead := ahead.1.2
  have position : index + align + data.length + 8 - align - data.length = index + 8 := by omega
  simp [getShortData, kind, and_seven, align_eq, getBytes_run dataAhead fits, position]

theorem getShortData_unaligned {left : Nat} (kind : unaligned out.pktType = true)
    (length_eq : data.length = count) (ahead : packet.pktData.Ahead index data)
    (fits : dataRepeat * count + count ≤ rioMaxPktBytes) :
    (getShortData count dataRepeat (left + 1)).run ⟨packet, out, index⟩ =
      (getShortData count (dataRepeat + 1) left).run
        ⟨packet, { out with pktData := out.pktData.place (dataRepeat * count) data },
          index + count⟩ := by
  subst length_eq
  simp [getShortData, kind, getBytes_run ahead fits]

theorem parseData_short {data : PktData} {final : Nat} (getData : plan.getData = true)
    (short : out.pktBytes ≤ 8)
    (extracts : (getShortData out.pktBytes 0 plan.repeatDataBytes).run ⟨packet, out, index⟩ =
      .ok () ⟨packet, { out with pktData := data }, final⟩) :
    (parseData plan).run ⟨packet, out, index⟩ =
      .ok () ⟨packet, { out with pktData := data }, final⟩ := by
  simp [parseData, getData, if_pos short, extracts, failIf_run]

theorem parseData_single (out : DarPktFields) (count_eq : out.pktBytes = count)
    (kind : unaligned out.pktType = false) (align_eq : out.logRw.addr0 % 8 = align)
    (bounded : align + count ≤ 8) (length_eq : data.length = count)
    (ahead : packet.pktData.Ahead index (doubleword align count data)) :
    (parseData ⟨true, exactData, 1⟩).run ⟨packet, out, index⟩ =
      .ok () ⟨packet, { out with pktData := out.pktData.place 0 data }, index + 8⟩ := by
  have fits : 0 * count + count ≤ rioMaxPktBytes := by
    unfold rioMaxPktBytes
    omega
  subst count_eq
  apply parseData_short rfl (by omega)
  rw [getShortData_round out kind align_eq bounded length_eq ahead fits, Nat.zero_mul]
  rfl

theorem parseData_pair {first second : List Byte} (out : DarPktFields)
    (count_eq : out.pktBytes = count) (kind : unaligned out.pktType = false)
    (align_eq : out.logRw.addr0 % 8 = align) (bounded : align + count ≤ 8)
    (firstLength : first.length = count) (secondLength : second.length = count)
    (firstAhead : packet.pktData.Ahead index (doubleword align count first))
    (secondAhead : packet.pktData.Ahead (index + 8) (doubleword align count second)) :
    (parseData ⟨true, exactData, 2⟩).run ⟨packet, out, index⟩ =
      .ok () ⟨packet, { out with pktData := out.pktData.place 0 (first ++ second) },
        index + 8 + 8⟩ := by
  have fits : ∀ dataRepeat < 2, dataRepeat * count + count ≤ rioMaxPktBytes := by
    intro dataRepeat bound
    unfold rioMaxPktBytes
    have : dataRepeat * count ≤ 1 * count := Nat.mul_le_mul_right count (by omega)
    omega
  subst count_eq
  apply parseData_short rfl (by omega)
  rw [getShortData_round out kind align_eq bounded firstLength firstAhead
      (fits 0 (by decide)),
    getShortData_round
      { out with pktData := out.pktData.place (0 * out.pktBytes) first } kind align_eq bounded
      secondLength secondAhead (fits 1 (by decide)),
    PktData.place_append, firstLength, Nat.zero_mul, Nat.zero_add, Nat.one_mul]
  rfl

/-- A description after the extraction of more than eight bytes from a framed body. -/
def DarPktFields.withLongData (out : DarPktFields) (body : List Byte) (index : Nat) :
    DarPktFields :=
  { out with
    pktData := out.pktData.place 0 (body.drop index ++ trailing body)
    padBytes := if GuessedPad body then 2 else 0
    pktBytes := recovered body index }

theorem withLongData_data (framed : Framed packet body) (out : DarPktFields) :
    (out.withLongData body index).data (body.length - index) = body.drop index := by
  rw [DarPktFields.data, DarPktFields.payload, List.drop_zero]
  exact framed.placed_payload out.pktData

theorem withLongData_wireData (composed : Composed fields after) (out : DarPktFields) :
    (out.withLongData fields.wireBody fields.hdrLength).data fields.wireData.length =
      fields.wireData := by
  have taken := @withLongData_data _ fields.hdrLength _ composed.framed out
  rwa [wireBody_drop, wireBody_length, Nat.add_sub_cancel_left] at taken

theorem recovered_eq (honest : ¬LooksPadded body) (index : Nat) :
    recovered body index = body.length - index := if_neg honest

theorem recovered_add_two (framed : Framed packet body) (looks : LooksPadded body) (index : Nat)
    (enough : 2 ≤ body.length - index) :
    recovered body index + 2 = body.length - index := by
  have bounded := framed.inMemory
  rw [framed.numChars, framed_length, rioMaxPktBytes] at bounded
  rw [recovered, if_pos looks]
  omega

theorem recovered_empty (looks : LooksPadded body) (index : Nat) (empty : body.length - index = 0) :
    recovered body index = 2 ^ 32 - 2 := by
  rw [recovered, if_pos looks, empty]
  rfl

theorem parseData_long (out : DarPktFields) (getData : plan.getData = true)
    (long : 8 < out.pktBytes) (kind : out.pktType ≠ .pktDstm) (framed : Framed packet body)
    (short : index ≤ 80) (inside : index ≤ body.length) (even : body.length % 2 = 0)
    (evenIndex : index % 2 = 0) :
    (parseData plan).run ⟨packet, out, index⟩ =
      if recovered body index > out.pktBytes ∨
          (recovered body index ≠ out.pktBytes ∧ plan.getExactData = true) then
        .error (.rc .badDataSize) ⟨packet, out.withLongData body index, index⟩
      else .ok () ⟨packet, out.withLongData body index, index⟩ := by
  simp only [parseData, getData, if_true, EStateM.run_bind, EStateM.run_get,
    if_neg (Nat.not_le.mpr long)]
  rw [framed.getLongData_run short inside even evenIndex]
  simp only [if_neg kind, EStateM.run_pure, failIf_run]
  by_cases exceeds : recovered body index > out.pktBytes
  · simp only [exceeds, if_true, true_or]
    rfl
  · by_cases inexact : recovered body index ≠ out.pktBytes ∧ plan.getExactData = true
    · simp only [exceeds, inexact.1, inexact.2, ne_eq, not_false_eq_true, and_self, if_false,
        if_true, or_true]
      rfl
    · simp only [exceeds, inexact, if_false, or_self]
      rfl

theorem parseData_odd (out : DarPktFields) (getData : plan.getData = true) (long : 8 < out.pktBytes)
    (framed : Framed packet body) (short : index ≤ 80) (inside : index ≤ body.length)
    (odd : body.length % 2 = 1) (evenIndex : index % 2 = 0) :
    ∃ final, (parseData plan).run ⟨packet, out, index⟩ =
      .error (.rc .badDataSize) final := by
  obtain ⟨final, refused⟩ :=
    @Framed.getLongData_odd packet body out index framed short inside odd evenIndex
  refine ⟨final, ?_⟩
  simp [parseData, getData, if_neg (Nat.not_le.mpr long), refused]

theorem recovered_wireBody (composed : Composed fields after)
    (enough : 2 ≤ fields.wireData.length) :
    recovered fields.wireBody fields.hdrLength =
      if LooksPadded fields.wireBody then fields.wireData.length - 2
      else fields.wireData.length := by
  have bodyLength := wireBody_length fields
  split
  next looks =>
    have lost := recovered_add_two composed.framed looks fields.hdrLength (by omega)
    omega
  next honest =>
    rw [recovered_eq honest]
    omega

theorem parseData_counted (notRaw : fields.pktType ≠ .pktRaw) (composed : Composed fields after)
    (out : DarPktFields) (getData : plan.getData = true) (long : 8 < out.pktBytes)
    (kind : out.pktType ≠ .pktDstm) (even : fields.wireData.length % 2 = 0)
    (fits : recovered fields.wireBody fields.hdrLength ≤ out.pktBytes)
    (exactly : plan.getExactData = true →
      recovered fields.wireBody fields.hdrLength = out.pktBytes) :
    (parseData plan).run ⟨after.bytesOut, out, fields.hdrLength⟩ =
      .ok () ⟨after.bytesOut, out.withLongData fields.wireBody fields.hdrLength,
        fields.hdrLength⟩ := by
  have hdr := hdrLength_bounds notRaw composed
  have bodyLength := wireBody_length fields
  rw [parseData_long out getData long kind composed.framed (by omega) (by omega) (by omega)
    hdr.2.2]
  refine if_neg ?_
  rintro (exceeds | ⟨inexact, required⟩)
  · omega
  · exact inexact (exactly required)

end Payload

end RioFabric.Packet

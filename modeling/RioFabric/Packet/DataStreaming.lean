import RioFabric.Packet.ReadWrite

/-!
# Data streaming packets

A data streaming packet has either an extended header and no payload, or a standard header
whose length depends on the position of the segment in its stream.  Start and continuation
segments carry whole doublewords; end segments any number of bytes, with the odd and pad
flags telling how the last ones are filled up.
-/

namespace RioFabric.Packet

open Lib

/-- A data streaming packet whose header members fit their wire fields. -/
structure DarPktFields.DstmFits (fields : DarPktFields) : Prop extends fields.FrontFits where
  cos : fields.logDs.dstmCos < 2 ^ 8
  streamid : fields.logDs.dstmStreamid < 2 ^ 16
  pduLen : fields.logDs.dstmPduLen < 2 ^ 16
  xhType : fields.logDs.dstmXhType < 2 ^ 3
  xhTmOp : fields.logDs.dstmXhTmOp < 2 ^ 4
  xhWildcard : fields.logDs.dstmXhWildcard < 2 ^ 3
  xhCosMask : fields.logDs.dstmXhCosMask < 2 ^ 8
  xhParm1 : fields.logDs.dstmXhParm1 < 2 ^ 8
  xhParm2 : fields.logDs.dstmXhParm2 < 2 ^ 8

/-- The payload lengths of the two header kinds. -/
def DarPktFields.DstmSized (fields : DarPktFields) : Prop :=
  if fields.logDs.dstmXhSeg then fields.pktBytes = 0
  else 1 ≤ fields.pktBytes ∧ fields.pktBytes ≤ 256

/-- The members that only an extended header has. -/
structure SameXh (ds result : DarPktLogDsHdr) : Prop where
  xhType : result.dstmXhType = ds.dstmXhType
  xhTmOp : result.dstmXhTmOp = ds.dstmXhTmOp
  xhWildcard : result.dstmXhWildcard = ds.dstmXhWildcard
  xhCosMask : result.dstmXhCosMask = ds.dstmXhCosMask
  xhParm1 : result.dstmXhParm1 = ds.dstmXhParm1
  xhParm2 : result.dstmXhParm2 = ds.dstmXhParm2

/-- What a data streaming packet carries. -/
structure SameDstm (fields result : DarPktFields) : Prop where
  front : SameFront fields result
  pktType : result.pktType = fields.pktType
  cos : result.logDs.dstmCos = fields.logDs.dstmCos
  startSeg : result.logDs.dstmStartSeg = fields.logDs.dstmStartSeg
  endSeg : result.logDs.dstmEndSeg = fields.logDs.dstmEndSeg
  xhSeg : result.logDs.dstmXhSeg = fields.logDs.dstmXhSeg
  oddDataAmt : result.logDs.dstmOddDataAmt = fields.logDs.dstmOddDataAmt
  padDataAmt : result.logDs.dstmPadDataAmt = fields.logDs.dstmPadDataAmt
  streamid : (fields.logDs.dstmStartSeg || fields.logDs.dstmXhSeg) = true →
    result.logDs.dstmStreamid = fields.logDs.dstmStreamid
  pduLen : fields.logDs.dstmStartSeg = false → fields.logDs.dstmEndSeg = true →
    result.logDs.dstmPduLen = fields.logDs.dstmPduLen
  extended : fields.logDs.dstmXhSeg = true → SameXh fields.logDs result.logDs
  pktBytes : result.pktBytes = fields.pktBytes
  data : result.data fields.pktBytes = fields.data fields.pktBytes

section

variable (ds : DarPktLogDsHdr)

/-- What parsing an extended header makes of the logical header. -/
def DarPktLogDsHdr.parsedXh : DarPktLogDsHdr :=
  { ds with
    dstmStartSeg := false
    dstmEndSeg := false
    dstmXhSeg := true
    dstmOddDataAmt := false
    dstmPadDataAmt := false
    dstmPduLen := 0 }

/-- What parsing a standard header makes of the logical header. -/
def DarPktLogDsHdr.parsedSeg : DarPktLogDsHdr where
  dstmStartSeg := ds.dstmStartSeg
  dstmEndSeg := ds.dstmEndSeg
  dstmXhSeg := false
  dstmCos := ds.dstmCos
  dstmStreamid := if ds.dstmStartSeg then ds.dstmStreamid else 0
  dstmOddDataAmt := ds.dstmEndSeg && ds.dstmOddDataAmt
  dstmPadDataAmt := ds.dstmEndSeg && ds.dstmPadDataAmt
  dstmPduLen := if !ds.dstmStartSeg && ds.dstmEndSeg then ds.dstmPduLen else 0
  dstmXhType := 0
  dstmXhTmOp := 0
  dstmXhWildcard := 0
  dstmXhCosMask := 0
  dstmXhParm1 := 0
  dstmXhParm2 := 0

/-- The segment byte of a standard header. -/
def DarPktLogDsHdr.segByte : Byte :=
  let temp := if ds.dstmStartSeg then 0x80 else 0
  u8 (if ds.dstmEndSeg then
      temp ||| 0x40 ||| (if ds.dstmOddDataAmt then 2 else 0) |||
        (if ds.dstmPadDataAmt then 1 else 0)
    else temp)

theorem segByte_flags :
    ds.segByte.toNat &&& 4 = 0 ∧ decide (ds.segByte.toNat &&& 0x80 ≠ 0) = ds.dstmStartSeg ∧
      decide (ds.segByte.toNat &&& 0x40 ≠ 0) = ds.dstmEndSeg ∧
      decide (ds.segByte.toNat &&& 0x02 ≠ 0) = (ds.dstmEndSeg && ds.dstmOddDataAmt) ∧
      decide (ds.segByte.toNat &&& 0x01 ≠ 0) = (ds.dstmEndSeg && ds.dstmPadDataAmt) := by
  unfold DarPktLogDsHdr.segByte
  cases ds.dstmStartSeg <;> cases ds.dstmEndSeg <;> cases ds.dstmOddDataAmt <;>
    cases ds.dstmPadDataAmt <;> decide

end

section Header

variable {fields out : DarPktFields} {packet : DarPktBytes} {index : Nat}

/-- The header of an extended packet is parsed back. -/
theorem parseDstm_xh_run (type : fields.pktType = .pktDstm) (fits : fields.DstmFits)
    (extended : fields.logDs.dstmXhSeg = true)
    (ahead : packet.pktData.Ahead index fields.logHdrBytes) :
    parseDstm.run ⟨packet, out, index⟩ =
      .ok ⟨false, false, 1⟩ ⟨packet, { out with
          pktType := .pktDstm
          pktBytes := 0
          logDs := fields.logDs.parsedXh }, index + fields.logHdrBytes.length⟩ := by
  have header : fields.logHdrBytes = u8 fields.logDs.dstmCos :: dstmXhBytes fields.logDs := by
    simp [DarPktFields.logHdrBytes, type, extended]
  have flags : ∀ xhType < 2 ^ 3,
      (u8 (0x04 ||| ((xhType &&& 0x7) <<< 3))).toNat &&& 4 ≠ 0 ∧
        ((u8 (0x04 ||| ((xhType &&& 0x7) <<< 3))).toNat &&& 0x38) >>> 3 = xhType := by decide
  have oper : ∀ tmOp < 2 ^ 4, ∀ wildcard < 2 ^ 3,
      ((u8 (((tmOp &&& 0xF) <<< 4) + (wildcard &&& 0x7))).toNat &&& 0xF0) >>> 4 = tmOp ∧
        (u8 (((tmOp &&& 0xF) <<< 4) + (wildcard &&& 0x7))).toNat &&& 0x07 = wildcard := by decide
  obtain ⟨xhBit, xhType⟩ := flags _ fits.xhType
  obtain ⟨tmOp, wildcard⟩ := oper _ fits.xhTmOp _ fits.xhWildcard
  rw [header, dstmXhBytes] at ahead
  simp only [PktData.ahead_cons, PktData.ahead_nil, and_true] at ahead
  have mask : (u8 (fields.logDs.dstmXhCosMask &&& 0xFF)).toNat = fields.logDs.dstmXhCosMask := by
    rw [BitVec.toNat_ofNat, low_byte, Nat.mod_eq_of_lt fits.xhCosMask]
  have stream : ((u8 ((fields.logDs.dstmStreamid &&& 0xFF00) >>> 8)).toNat <<< 8) +
      (u8 (fields.logDs.dstmStreamid &&& 0x00FF)).toNat = fields.logDs.dstmStreamid := by
    rw [BitVec.toNat_ofNat, BitVec.toNat_ofNat, masked_byte _ 0xFF00 8 rfl, low_byte,
      two_bytes fits.streamid]
  simp only [parseDstm, parseDstmXh, EStateM.run_bind, next_run, peek_run, Nat.add_zero, ahead,
    setFields_run, if_pos xhBit, EStateM.run_pure, xhType, stream, tmOp, wildcard, mask,
    toNat_u8 fits.cos, toNat_u8 fits.xhParm1, toNat_u8 fits.xhParm2, header, dstmXhBytes,
    DarPktLogDsHdr.parsedXh, List.length_cons, List.length_nil, Nat.add_assoc, Nat.zero_add]

theorem logHdrBytes_seg (type : fields.pktType = .pktDstm)
    (standard : fields.logDs.dstmXhSeg = false) :
    fields.logHdrBytes = [u8 fields.logDs.dstmCos, fields.logDs.segByte] ++
      (if fields.logDs.dstmStartSeg then
        [u8 ((fields.logDs.dstmStreamid >>> 8) &&& 0x00FF),
          u8 (fields.logDs.dstmStreamid &&& 0x00FF)]
      else if fields.logDs.dstmEndSeg then
        [u8 ((fields.logDs.dstmPduLen >>> 8) &&& 0x00FF),
          u8 (fields.logDs.dstmPduLen &&& 0x00FF)]
      else []) := by
  simp [DarPktFields.logHdrBytes, type, standard, dstmSegBytes, DarPktLogDsHdr.segByte]

theorem toNat_pair {value : Nat} (bounded : value < 2 ^ 16) :
    ((u8 ((value >>> 8) &&& 0x00FF)).toNat <<< 8) + (u8 (value &&& 0x00FF)).toNat = value := by
  rw [BitVec.toNat_ofNat, BitVec.toNat_ofNat, low_byte, low_byte, two_bytes bounded]

theorem parseDstmPair_run (fits : fields.DstmFits)
    (ahead : packet.pktData.Ahead index
      (if fields.logDs.dstmStartSeg then
        [u8 ((fields.logDs.dstmStreamid >>> 8) &&& 0x00FF),
          u8 (fields.logDs.dstmStreamid &&& 0x00FF)]
      else if fields.logDs.dstmEndSeg then
        [u8 ((fields.logDs.dstmPduLen >>> 8) &&& 0x00FF),
          u8 (fields.logDs.dstmPduLen &&& 0x00FF)]
      else [])) :
    (parseDstmPair fields.logDs.dstmStartSeg fields.logDs.dstmEndSeg).run
        ⟨packet, out, index⟩ =
      .ok (fields.logDs.parsedSeg.dstmStreamid, fields.logDs.parsedSeg.dstmPduLen)
        ⟨packet, out, index +
          if fields.logDs.dstmStartSeg || fields.logDs.dstmEndSeg then 2 else 0⟩ := by
  unfold parseDstmPair
  cases startSeg : fields.logDs.dstmStartSeg with
  | true =>
    simp only [startSeg, if_true, PktData.ahead_cons, PktData.ahead_nil, and_true] at ahead
    simp only [if_true, EStateM.run_bind, next_run, ahead, EStateM.run_pure,
      toNat_pair fits.streamid, DarPktLogDsHdr.parsedSeg, startSeg, Bool.true_or,
      Bool.not_true, Bool.false_and, Bool.false_eq_true, if_false, Nat.add_assoc]
  | false =>
    cases endSeg : fields.logDs.dstmEndSeg with
    | true =>
      simp only [startSeg, endSeg, Bool.false_eq_true, if_false, if_true,
        PktData.ahead_cons, PktData.ahead_nil, and_true] at ahead
      simp only [Bool.false_eq_true, if_false, if_true, EStateM.run_bind, next_run, ahead,
        EStateM.run_pure, toNat_pair fits.pduLen, DarPktLogDsHdr.parsedSeg, startSeg,
        endSeg, Bool.or_true, Bool.not_false, Bool.true_and, Nat.add_assoc]
    | false =>
      simp [DarPktLogDsHdr.parsedSeg, startSeg, endSeg]

/-- The header of a segment is parsed back. -/
theorem parseDstm_seg_run (type : fields.pktType = .pktDstm) (fits : fields.DstmFits)
    (standard : fields.logDs.dstmXhSeg = false)
    (ahead : packet.pktData.Ahead index fields.logHdrBytes) :
    parseDstm.run ⟨packet, out, index⟩ =
      .ok ⟨true, false, 1⟩ ⟨packet, { out with
          pktType := .pktDstm
          pktBytes := 256
          logDs := fields.logDs.parsedSeg }, index + fields.logHdrBytes.length⟩ := by
  have header := logHdrBytes_seg type standard
  have length_eq : fields.logHdrBytes.length =
      1 + (1 + if fields.logDs.dstmStartSeg || fields.logDs.dstmEndSeg then 2 else 0) := by
    rw [header]
    cases fields.logDs.dstmStartSeg <;> cases fields.logDs.dstmEndSeg <;> rfl
  obtain ⟨xhBit, startSeg, endSeg, odd, pad⟩ := segByte_flags fields.logDs
  rw [header, PktData.ahead_append] at ahead
  obtain ⟨⟨cosAhead, segAhead, -⟩, pairAhead⟩ := ahead
  simp only [List.length_cons, List.length_nil, Nat.zero_add] at pairAhead
  simp only [parseDstm, parseDstmSeg, EStateM.run_bind, next_run, peek_run, Nat.add_zero,
    cosAhead, segAhead, setFields_run, if_neg (not_not.mpr xhBit), startSeg, endSeg, odd, pad,
    toNat_u8 fits.cos]
  rw [parseDstmPair_run fits pairAhead]
  simp only [EStateM.run_pure, length_eq, DarPktLogDsHdr.parsedSeg, Nat.add_assoc]

end Header

theorem checkDstmSize_inner {packet : DarPktBytes} {index : Nat} (fields : DarPktFields)
    (inner : fields.logDs.dstmEndSeg = false) :
    checkDstmSize.run ⟨packet, fields, index⟩ =
      if fields.pktBytes % 8 = 0 then .ok () ⟨packet, fields, index⟩
      else .error (.rc .badDsDsize) ⟨packet, fields, index⟩ := by
  simp only [checkDstmSize, EStateM.run_bind, EStateM.run_get, inner, Bool.false_eq_true,
    if_false, failIf_run, and_seven]
  by_cases whole : fields.pktBytes % 8 = 0
  · rw [if_neg (not_not.mpr whole), if_pos whole]
  · rw [if_pos whole, if_neg whole]

theorem checkDstmSize_end {packet : DarPktBytes} {index : Nat} (fields : DarPktFields)
    (endSeg : fields.logDs.dstmEndSeg = true) (even : fields.pktBytes % 2 = 0) :
    checkDstmSize.run ⟨packet, fields, index⟩ =
      if fields.logDs.dstmOddDataAmt = decide (fields.pktBytes % 4 = 2) then
        .ok () ⟨packet, { fields with
          pktBytes := if fields.logDs.dstmPadDataAmt then
            (fields.pktBytes + 2 ^ 32 - 1) % 2 ^ 32 else fields.pktBytes }, index⟩
      else .error (.rc .badDsDsize) ⟨packet, fields, index⟩ := by
  have low : fields.pktBytes &&& 3 = fields.pktBytes % 4 :=
    Nat.and_two_pow_sub_one_eq_mod fields.pktBytes 2
  have residue : ¬(fields.pktBytes % 4 ≠ 0 ∧ fields.pktBytes % 4 ≠ 2) := by omega
  simp only [checkDstmSize, EStateM.run_bind, EStateM.run_get, endSeg, if_true, failIf_run, low,
    if_neg residue]
  by_cases odd : fields.logDs.dstmOddDataAmt = decide (fields.pktBytes % 4 = 2)
  · rw [if_neg (not_not.mpr odd), if_pos odd]
    cases fields.logDs.dstmPadDataAmt <;>
      simp only [Bool.false_eq_true, if_false, if_true, dropBytes, setFields_run,
        EStateM.run_pure]
  · rw [if_pos odd, if_neg odd]

theorem dstmSizeConsistent_iff (ds : DarPktLogDsHdr) (pktBytes : Nat) :
    dstmSizeConsistent ds pktBytes = true ↔
      ds.dstmPadDataAmt = decide (pktBytes % 2 = 1) ∧
        ds.dstmOddDataAmt = decide (pktBytes % 4 = 1 ∨ pktBytes % 4 = 2) := by
  have low : pktBytes &&& 3 = pktBytes % 4 := Nat.and_two_pow_sub_one_eq_mod pktBytes 2
  unfold dstmSizeConsistent
  rw [low]
  have cases4 : pktBytes % 4 = 0 ∨ pktBytes % 4 = 1 ∨ pktBytes % 4 = 2 ∨ pktBytes % 4 = 3 := by
    omega
  rcases cases4 with residue | residue | residue | residue
  all_goals
    have parity : pktBytes % 2 = pktBytes % 4 % 2 := by omega
    rw [parity, residue]
    cases ds.dstmPadDataAmt <;> cases ds.dstmOddDataAmt <;> decide

section Kinds

variable {fields out : DarPktFields} {after : ComposeState}

theorem xh_returns_iff (type : fields.pktType = .pktDstm) (fits : fields.DstmFits)
    (extended : fields.logDs.dstmXhSeg = true) (empty : fields.pktBytes = 0)
    (composed : Composed fields after) :
    Returns SameDstm fields after out ↔
      fields.logDs.dstmStartSeg = false ∧ fields.logDs.dstmEndSeg = false ∧
        fields.logDs.dstmOddDataAmt = false ∧ fields.logDs.dstmPadDataAmt = false := by
  have notRaw : fields.pktType ≠ .pktRaw := by rw [type]; decide
  have ahead := (composed.ahead notRaw).2.1
  have parsed := darPktBytesToFields_front notRaw composed fits.toFrontFits out
  simp only [type, darUtilGetFtype, parseLogHdr, EStateM.run_bind] at parsed
  rw [parseDstm_xh_run type fits extended ahead] at parsed
  rw [returns_iff_of_ok parsed]
  constructor
  · intro same
    exact ⟨same.startSeg.symm, same.endSeg.symm, same.oddDataAmt.symm, same.padDataAmt.symm⟩
  · rintro ⟨startSeg, endSeg, odd, pad⟩
    exact {
      front := ⟨rfl, rfl, rfl, rfl, rfl, rfl⟩
      pktType := type.symm
      cos := rfl
      startSeg := startSeg.symm
      endSeg := endSeg.symm
      xhSeg := extended.symm
      oddDataAmt := odd.symm
      padDataAmt := pad.symm
      streamid := fun _ => rfl
      pduLen := fun _ isEnd => by rw [endSeg] at isEnd; cases isEnd
      extended := fun _ => ⟨rfl, rfl, rfl, rfl, rfl, rfl⟩
      pktBytes := empty.symm
      data := by rw [empty]; simp [DarPktFields.payload] }

/-- The description when parsing has reached the payload of a segment. -/
def DarPktFields.withSeg (out fields : DarPktFields) : DarPktFields :=
  { out with
    pktType := .pktDstm
    pktBytes := 256
    logDs := fields.logDs.parsedSeg }

theorem darPktBytesToFields_seg (type : fields.pktType = .pktDstm) (fits : fields.DstmFits)
    (standard : fields.logDs.dstmXhSeg = false) (composed : Composed fields after)
    (out : DarPktFields) :
    darPktBytesToFields after.bytesOut out =
      (parseData ⟨true, false, 1⟩).run
        ⟨after.bytesOut, (out.withFront fields).withSeg fields, fields.hdrLength⟩ := by
  have notRaw : fields.pktType ≠ .pktRaw := by rw [type]; decide
  have ahead := (composed.ahead notRaw).2.1
  rw [darPktBytesToFields_front notRaw composed fits.toFrontFits]
  simp only [type, darUtilGetFtype, parseLogHdr, EStateM.run_bind]
  rw [parseDstm_seg_run type fits standard ahead]
  rfl

section Extraction

variable {body : List Byte} {packet : DarPktBytes} {index : Nat}

theorem parseData_seg_ok {final : DarPktFields} (out : DarPktFields)
    (type : out.pktType = .pktDstm) (size : out.pktBytes = 256) (framed : Framed packet body)
    (short : index ≤ 80) (inside : index ≤ body.length) (even : body.length % 2 = 0)
    (evenIndex : index % 2 = 0)
    (checked : checkDstmSize.run ⟨packet, out.withLongData body index, index⟩ =
      .ok () ⟨packet, final, index⟩) (fits : final.pktBytes ≤ 256) :
    (parseData ⟨true, false, 1⟩).run ⟨packet, out, index⟩ = .ok () ⟨packet, final, index⟩ := by
  have long : ¬out.pktBytes ≤ 8 := by omega
  have extracted : getLongData.run ⟨packet, out, index⟩ = .ok () ⟨packet, final, index⟩ := by
    rw [framed.getLongData_run short inside even evenIndex, if_pos type]
    exact checked
  rw [← size] at fits
  simp [parseData, if_neg long, extracted, failIf_run, if_neg (Nat.not_lt.mpr fits)]

theorem parseData_seg_error {stop : DarStop} {final : ParseState} (out : DarPktFields)
    (type : out.pktType = .pktDstm) (size : out.pktBytes = 256) (framed : Framed packet body)
    (short : index ≤ 80) (inside : index ≤ body.length) (even : body.length % 2 = 0)
    (evenIndex : index % 2 = 0)
    (checked : checkDstmSize.run ⟨packet, out.withLongData body index, index⟩ =
      .error stop final) :
    (parseData ⟨true, false, 1⟩).run ⟨packet, out, index⟩ = .error stop final := by
  have long : ¬out.pktBytes ≤ 8 := by omega
  have extracted : getLongData.run ⟨packet, out, index⟩ = .error stop final := by
    rw [framed.getLongData_run short inside even evenIndex, if_pos type]
    exact checked
  simp [parseData, if_neg long, extracted]

end Extraction

theorem seg_wireData (type : fields.pktType = .pktDstm) (standard : fields.logDs.dstmXhSeg = false)
    (bounded : fields.pktBytes ≤ 256) (composed : Composed fields after) :
    fields.logDs.dstmPadDataAmt = decide (fields.pktBytes % 2 = 1) ∧
      fields.logDs.dstmOddDataAmt =
        decide (fields.pktBytes % 4 = 1 ∨ fields.pktBytes % 4 = 2) ∧
      fields.wireData.length =
        (if fields.logDs.dstmEndSeg then fields.pktBytes + fields.pktBytes % 2
          else fields.pktBytes) ∧
      fields.wireData.take fields.pktBytes = fields.data fields.pktBytes := by
  have dataLength : (fields.data fields.pktBytes).length = fields.pktBytes :=
    payload_length (by unfold rioMaxPktBytes; omega)
  have accepted := composed.accepted
  simp only [DarPktFields.Accepted, type] at accepted
  obtain ⟨pad, odd⟩ := (dstmSizeConsistent_iff _ _).mp (accepted standard)
  have wire : fields.wireData = fields.data fields.pktBytes ++
      (if fields.logDs.dstmEndSeg && fields.logDs.dstmPadDataAmt then [0] else []) := by
    simp [DarPktFields.wireData, type, standard]
  refine ⟨pad, odd, ?_, ?_⟩
  · rw [wire, List.length_append, dataLength, pad]
    by_cases odds : fields.pktBytes % 2 = 1
    · rw [odds]
      cases fields.logDs.dstmEndSeg <;> rfl
    · rw [show fields.pktBytes % 2 = 0 by omega]
      cases fields.logDs.dstmEndSeg <;> rfl
  · rw [wire]
    exact List.take_left' dataLength

theorem sameDstm_of_parsedSeg {result : DarPktFields} (front : SameFront fields result)
    (pktType : result.pktType = fields.pktType)
    (parsed : result.logDs = fields.logDs.parsedSeg)
    (standard : fields.logDs.dstmXhSeg = false)
    (flags : fields.logDs.dstmEndSeg = false →
      fields.logDs.dstmOddDataAmt = false ∧ fields.logDs.dstmPadDataAmt = false)
    (pktBytes : result.pktBytes = fields.pktBytes)
    (data : result.data fields.pktBytes = fields.data fields.pktBytes) :
    SameDstm fields result where
  front := front
  pktType := pktType
  cos := by rw [parsed]; rfl
  startSeg := by rw [parsed]; rfl
  endSeg := by rw [parsed]; rfl
  xhSeg := by rw [parsed, standard]; rfl
  oddDataAmt := by
    rw [parsed]
    change (fields.logDs.dstmEndSeg && fields.logDs.dstmOddDataAmt) = _
    cases endSeg : fields.logDs.dstmEndSeg with
    | true => rfl
    | false => rw [(flags endSeg).1]; rfl
  padDataAmt := by
    rw [parsed]
    change (fields.logDs.dstmEndSeg && fields.logDs.dstmPadDataAmt) = _
    cases endSeg : fields.logDs.dstmEndSeg with
    | true => rfl
    | false => rw [(flags endSeg).2]; rfl
  streamid := by
    intro carried
    rw [standard, Bool.or_false] at carried
    rw [parsed]
    exact if_pos carried
  pduLen := by
    intro notStart isEnd
    rw [parsed]
    simp [DarPktLogDsHdr.parsedSeg, notStart, isEnd]
  extended := by
    intro extended
    rw [standard] at extended
    cases extended
  pktBytes := pktBytes
  data := data

theorem inner_returns_iff (type : fields.pktType = .pktDstm) (fits : fields.DstmFits)
    (standard : fields.logDs.dstmXhSeg = false) (inner : fields.logDs.dstmEndSeg = false)
    (positive : 1 ≤ fields.pktBytes) (bounded : fields.pktBytes ≤ 256)
    (composed : Composed fields after) :
    Returns SameDstm fields after out ↔
      fields.pktBytes % 8 = 0 ∧ ¬LooksPadded fields.wireBody := by
  have notRaw : fields.pktType ≠ .pktRaw := by rw [type]; decide
  have hdr := hdrLength_bounds notRaw composed
  have bodyLength := wireBody_length fields
  obtain ⟨pad, odd, wireLength, wireTake⟩ := seg_wireData type standard bounded composed
  simp only [inner, Bool.false_eq_true, if_false] at wireLength
  have parsed := darPktBytesToFields_seg type fits standard composed out
  by_cases even : fields.pktBytes % 2 = 0
  · have count_eq := recovered_wireBody composed (by omega)
    have checked := @checkDstmSize_inner after.bytesOut fields.hdrLength
      (((out.withFront fields).withSeg fields).withLongData fields.wireBody fields.hdrLength)
      inner
    change _ = if recovered fields.wireBody fields.hdrLength % 8 = 0 then _ else _ at checked
    by_cases whole : recovered fields.wireBody fields.hdrLength % 8 = 0
    · rw [if_pos whole] at checked
      have fitsMax : recovered fields.wireBody fields.hdrLength ≤ 256 := by
        rw [count_eq]
        split <;> omega
      rw [parseData_seg_ok ((out.withFront fields).withSeg fields) rfl rfl composed.framed
        (by omega) (by omega) (by omega) hdr.2.2 checked fitsMax] at parsed
      rw [returns_iff_of_ok parsed]
      constructor
      · intro same
        have bytes : recovered fields.wireBody fields.hdrLength = fields.pktBytes :=
          same.pktBytes
        refine ⟨by omega, fun looks => ?_⟩
        rw [count_eq, if_pos looks] at bytes
        omega
      · rintro ⟨eights, honest⟩
        have clear : fields.logDs.dstmOddDataAmt = false ∧
            fields.logDs.dstmPadDataAmt = false := by
          rw [odd, pad]
          exact ⟨decide_eq_false (by omega), decide_eq_false (by omega)⟩
        refine sameDstm_of_parsedSeg ⟨rfl, rfl, rfl, rfl, rfl, rfl⟩ type.symm rfl standard
          (fun _ => clear) ((count_eq.trans (if_neg honest)).trans wireLength) ?_
        rw [← wireTake, ← withLongData_wireData composed
          ((out.withFront fields).withSeg fields)]
        exact data_eq_take _ (by omega)
    · rw [if_neg whole] at checked
      rw [parseData_seg_error ((out.withFront fields).withSeg fields) rfl rfl composed.framed
        (by omega) (by omega) (by omega) hdr.2.2 checked] at parsed
      refine iff_of_false (not_returns_of_error parsed) ?_
      rintro ⟨eights, honest⟩
      rw [count_eq, if_neg honest, wireLength] at whole
      exact whole eights
  · obtain ⟨final, refused⟩ :=
      @parseData_odd _ ⟨true, false, 1⟩ _ _ ((out.withFront fields).withSeg fields) rfl
        (show 8 < 256 by decide) composed.framed (by omega) (by omega) (by omega) hdr.2.2
    exact iff_of_false (not_returns_of_error (parsed.trans refused)) (fun both => by omega)

theorem end_returns_iff (type : fields.pktType = .pktDstm) (fits : fields.DstmFits)
    (standard : fields.logDs.dstmXhSeg = false) (endSeg : fields.logDs.dstmEndSeg = true)
    (positive : 1 ≤ fields.pktBytes) (bounded : fields.pktBytes ≤ 256)
    (composed : Composed fields after) :
    Returns SameDstm fields after out ↔ ¬LooksPadded fields.wireBody := by
  have notRaw : fields.pktType ≠ .pktRaw := by rw [type]; decide
  have hdr := hdrLength_bounds notRaw composed
  have bodyLength := wireBody_length fields
  obtain ⟨pad, odd, wireLength, wireTake⟩ := seg_wireData type standard bounded composed
  simp only [endSeg, if_true] at wireLength
  have count_eq := recovered_wireBody composed (by omega)
  have even : recovered fields.wireBody fields.hdrLength % 2 = 0 := by
    rw [count_eq]
    split <;> omega
  have parsed := darPktBytesToFields_seg type fits standard composed out
  have checked := @checkDstmSize_end after.bytesOut fields.hdrLength
    (((out.withFront fields).withSeg fields).withLongData fields.wireBody fields.hdrLength)
    endSeg even
  change _ = if (fields.logDs.dstmEndSeg && fields.logDs.dstmOddDataAmt) =
    decide (recovered fields.wireBody fields.hdrLength % 4 = 2) then _ else _ at checked
  -- two bytes less contradict the odd flag
  have agrees : (fields.logDs.dstmEndSeg && fields.logDs.dstmOddDataAmt) =
      decide (recovered fields.wireBody fields.hdrLength % 4 = 2) ↔
      ¬LooksPadded fields.wireBody := by
    rw [endSeg, Bool.true_and, odd, decide_eq_decide, count_eq]
    by_cases looks : LooksPadded fields.wireBody
    · rw [if_pos looks]
      exact iff_of_false (by omega) (not_not.mpr looks)
    · rw [if_neg looks]
      exact iff_of_true (by omega) looks
  by_cases honest : LooksPadded fields.wireBody
  · rw [if_neg (mt agrees.mp (not_not.mpr honest))] at checked
    rw [parseData_seg_error ((out.withFront fields).withSeg fields) rfl rfl composed.framed
      (by omega) (by omega) (by omega) hdr.2.2 checked] at parsed
    exact iff_of_false (not_returns_of_error parsed) (not_not.mpr honest)
  · rw [if_pos (agrees.mpr honest)] at checked
    have length_eq : (if (fields.logDs.dstmEndSeg && fields.logDs.dstmPadDataAmt) = true then
          (recovered fields.wireBody fields.hdrLength + 2 ^ 32 - 1) % 2 ^ 32
        else recovered fields.wireBody fields.hdrLength) = fields.pktBytes := by
      rw [endSeg, Bool.true_and, pad, count_eq, if_neg honest, wireLength]
      by_cases odds : fields.pktBytes % 2 = 1
      · rw [if_pos (decide_eq_true odds)]
        omega
      · rw [if_neg (by simpa using odds)]
        omega
    rw [parseData_seg_ok ((out.withFront fields).withSeg fields) rfl rfl composed.framed
      (by omega) (by omega) (by omega) hdr.2.2 checked (length_eq.trans_le bounded)] at parsed
    rw [returns_iff_of_ok parsed]
    refine iff_of_true ?_ honest
    refine sameDstm_of_parsedSeg ⟨rfl, rfl, rfl, rfl, rfl, rfl⟩ type.symm rfl standard
      (fun inner => by rw [endSeg] at inner; cases inner) length_eq ?_
    rw [← wireTake, ← withLongData_wireData composed ((out.withFront fields).withSeg fields)]
    exact data_eq_take _ (by omega)

/-- The data streaming packets that come back. -/
def DarPktFields.DstmSurvives (fields : DarPktFields) : Prop :=
  if fields.logDs.dstmXhSeg then
    fields.logDs.dstmStartSeg = false ∧ fields.logDs.dstmEndSeg = false ∧
      fields.logDs.dstmOddDataAmt = false ∧ fields.logDs.dstmPadDataAmt = false
  else
    (fields.logDs.dstmEndSeg = true ∨ fields.pktBytes % 8 = 0) ∧
      ¬LooksPadded fields.wireBody

/-- Exactly the data streaming packets described by `DstmSurvives` come back as they
were. -/
theorem dstm_round_trip_iff (type : fields.pktType = .pktDstm) (fits : fields.DstmFits)
    (sized : fields.DstmSized) (succeeds : darPktFieldsToBytes fields = .ok () after)
    (out : DarPktFields) :
    Returns SameDstm fields after out ↔ fields.DstmSurvives := by
  have notRaw : fields.pktType ≠ .pktRaw := by rw [type]; decide
  have composed := darPktFieldsToBytes_composed notRaw succeeds
  unfold DarPktFields.DstmSized at sized
  unfold DarPktFields.DstmSurvives
  cases extended : fields.logDs.dstmXhSeg with
  | true =>
    rw [extended, if_pos rfl] at sized
    rw [if_pos rfl]
    exact xh_returns_iff type fits extended sized composed
  | false =>
    rw [extended, if_neg Bool.false_ne_true] at sized
    rw [if_neg Bool.false_ne_true]
    cases endSeg : fields.logDs.dstmEndSeg with
    | true =>
      rw [end_returns_iff type fits extended endSeg sized.1 sized.2 composed]
      simp
    | false =>
      rw [inner_returns_iff type fits extended endSeg sized.1 sized.2 composed]
      simp

end Kinds

/-- A start segment with a payload of `pktBytes` zeros. -/
def startSegSample (pktBytes : Nat) (odd pad : Bool) : DarPktFields :=
  { DarPktFields.cleared with
    pktType := .pktDstm
    pktBytes := pktBytes
    logRw.pktAddrSize := .rioAddr34
    logDs.dstmStartSeg := true
    logDs.dstmStreamid := 0x1234
    logDs.dstmOddDataAmt := odd
    logDs.dstmPadDataAmt := pad }

theorem startSegSample_fits (pktBytes : Nat) (odd pad : Bool) :
    (startSegSample pktBytes odd pad).DstmFits where
  pktVc := Nat.zero_le 1
  pktPrio := Nat.zero_le 3
  destId := by simp [startSegSample, DarPktFields.cleared]
  srcId := by simp [startSegSample, DarPktFields.cleared]
  cos := by simp [startSegSample, DarPktFields.cleared]
  streamid := by simp [startSegSample]
  pduLen := by simp [startSegSample, DarPktFields.cleared]
  xhType := by simp [startSegSample, DarPktFields.cleared]
  xhTmOp := by simp [startSegSample, DarPktFields.cleared]
  xhWildcard := by simp [startSegSample, DarPktFields.cleared]
  xhCosMask := by simp [startSegSample, DarPktFields.cleared]
  xhParm1 := by simp [startSegSample, DarPktFields.cleared]
  xhParm2 := by simp [startSegSample, DarPktFields.cleared]

theorem dstm_round_trip_startSegSample :
    ∃ after, darPktFieldsToBytes (startSegSample 16 false false) = .ok () after ∧
      Returns SameDstm (startSegSample 16 false false) after DarPktFields.cleared := by
  obtain ⟨after, succeeds⟩ := exists_ok_of_succeeded
    (show succeeded (darPktFieldsToBytes (startSegSample 16 false false)) = true by
      decide +kernel)
  have honest : ¬LooksPadded (startSegSample 16 false false).wireBody := by decide +kernel
  exact ⟨after, succeeds, (dstm_round_trip_iff rfl (startSegSample_fits _ _ _)
    ⟨by decide, by decide⟩ succeeds _).mpr ⟨Or.inr rfl, honest⟩⟩

/-- The composer accepts a start segment of four bytes, which the parser then refuses. -/
theorem dstm_round_trip_fails :
    ∃ after, darPktFieldsToBytes (startSegSample 4 false false) = .ok () after ∧
      (startSegSample 4 false false).DstmFits ∧ (startSegSample 4 false false).DstmSized ∧
      ¬Returns SameDstm (startSegSample 4 false false) after DarPktFields.cleared := by
  obtain ⟨after, succeeds⟩ := exists_ok_of_succeeded
    (show succeeded (darPktFieldsToBytes (startSegSample 4 false false)) = true by
      decide +kernel)
  have composed := darPktFieldsToBytes_composed (by decide) succeeds
  refine ⟨after, succeeds, startSegSample_fits _ _ _, ⟨by decide, by decide⟩,
    fun returned => ?_⟩
  have whole := ((inner_returns_iff rfl (startSegSample_fits _ _ _) rfl rfl (by decide)
    (by decide) composed).mp returned).1
  cases whole

end RioFabric.Packet

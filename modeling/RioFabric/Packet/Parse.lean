import RioFabric.Packet.Size

/-!
# Packet parsing

`DAR_pkt_bytes_to_fields` and its helpers.  The state holds the stream, of which the
maintenance arm overwrites the recorded address size, the field description being filled
in, which keeps whatever the caller left in it where the routine does not write, and the
routine's `pkt_index`.  Each arm of the source's switch over `ftype` is a definition of
its own.
-/

namespace RioFabric.Packet

open Lib

/-- The two structures `DAR_pkt_bytes_to_fields` works on, and its read position. -/
structure ParseState where
  bytesIn : DarPktBytes
  fieldsOut : DarPktFields
  pktIndex : Nat

abbrev ParseM := EStateM DarStop ParseState

/-- `bytes_in->pkt_data[pkt_index + offset]`. -/
def peek (offset : Nat) : ParseM Nat := do
  let state ← get
  let value ← orFail (state.bytesIn.pktData.read (state.pktIndex + offset)) .fault
  pure value.toNat

/-- `pkt_index += count`. -/
def skip (count : Nat) : ParseM Unit :=
  modify fun state => { state with pktIndex := state.pktIndex + count }

/-- `bytes_in->pkt_data[pkt_index++]`. -/
def next : ParseM Nat := do
  let value ← peek 0
  skip 1
  pure value

/-- Assignments to members of `fields_out`. -/
def setFields (change : DarPktFields → DarPktFields) : ParseM Unit :=
  modify fun state => { state with fieldsOut := change state.fieldsOut }

/-- What a switch arm leaves for the common code that extracts the payload. -/
structure GetPlan where
  getData : Bool
  getExactData : Bool
  repeatDataBytes : Nat
  deriving DecidableEq, Repr

/-- The physical header; the result is `ftype`. -/
def parsePhysHdr : ParseM Nat := do
  let byte0 ← next
  let byte1 ← next
  setFields fun fields => { fields with
    phys.pktAckId := (byte0 &&& 0xFC) >>> 2
    phys.pktVc := (byte0 &&& 2) >>> 1
    phys.crf := byte0 &&& 1 ≠ 0
    phys.pktPrio := (byte1 &&& 0xC0) >>> 6
    trans.ttCode := .ofCode ((byte1 &&& 0x30) >>> 4) }
  pure (byte1 &&& 0x0F)

/-- Source and destination ID. -/
def parseTransHdr : ParseM Unit := do
  let state ← get
  match state.fieldsOut.trans.ttCode with
  | .ttSmall => do
      let destId ← next
      let srcId ← next
      setFields fun fields => { fields with trans.destId := destId, trans.srcId := srcId }
  | .ttLarge => do
      let destHigh ← next
      let destLow ← next
      let srcHigh ← next
      let srcLow ← next
      setFields fun fields => { fields with
        trans.destId := (destHigh <<< 8) + destLow
        trans.srcId := (srcHigh <<< 8) + srcLow }
  | _ => throw (.rc .invalidTt)

/-- The cases of `DAR_get_rw_addr` for addresses with a second word, down to the point
where they fall through: the words `addr[1]` and `addr[2]`. -/
def getUpperAddr (size : RioAddrSize) : ParseM (Nat × Nat) :=
  match size with
  | .rioAddr66 => do
      let last ← peek 7
      let byte3 ← next
      let byte2 ← next
      let byte1 ← next
      let byte0 ← next
      pure ((byte3 <<< 24) ||| (byte2 <<< 16) ||| (byte1 <<< 8) ||| byte0, last &&& 3)
  | .rioAddr50 => do
      let last ← peek 5
      let byte1 ← next
      let byte0 ← next
      pure (((last &&& 3) <<< 16) ||| (byte1 <<< 8) ||| byte0, 0)
  | .rioAddr34 => do
      let last ← peek 3
      pure (last &&& 3, 0)
  | .rioAddr32 | .rioAddr21 => pure (0, 0)

/-- The cases of `DAR_get_rw_addr` that read the first address word. -/
def getLowerAddr (size : RioAddrSize) : ParseM Nat :=
  match size with
  | .rioAddr21 => do
      let byte2 ← next
      let byte1 ← next
      let byte0 ← next
      pure ((byte2 <<< 16) ||| (byte1 <<< 8) ||| (byte0 &&& 0xF8))
  | _ => do
      let byte3 ← next
      let byte2 ← next
      let byte1 ← next
      let byte0 ← next
      pure ((byte3 <<< 24) ||| (byte2 <<< 16) ||| (byte1 <<< 8) ||| (byte0 &&& 0xF8))

/-- `DAR_get_rw_addr`.  An address size outside the enumeration, which the source answers
with `DAR_UTIL_BAD_ADDRSIZE`, is not representable here. -/
def darGetRwAddr : ParseM Unit := do
  let state ← get
  let size := state.bytesIn.pktAddrSize
  let upper ← getUpperAddr size
  let lower ← getLowerAddr size
  setFields fun fields => { fields with
    logRw.pktAddrSize := size
    logRw.addr0 := lower
    logRw.addr1 := upper.1
    logRw.addr2 := upper.2 }

/-- `(bytes_in->pkt_data[pkt_index - 1] & 4) >> 2`, the word pointer in the last byte of
the address. -/
def getWptr : ParseM Nat := do
  let state ← get
  let value ← orFail (state.bytesIn.pktData.read (state.pktIndex - 1)) .fault
  pure ((value.toNat &&& 4) >>> 2)

/-- The outcome of a size decoder, which leaves a byte count of 0 when it fails. -/
def sizesOrFail (decoded : Option (Nat × Nat)) : ParseM (Nat × Nat) := do
  if decoded = none then setFields fun fields => { fields with pktBytes := 0 } else pure ()
  orFail decoded (.rc .invalidRdsize)

/-- Store a decoded byte count and merge the alignment into the address. -/
def setBytesNAlign (decoded : Nat × Nat) : ParseM Unit :=
  setFields fun fields => { fields with
    pktBytes := decoded.1
    logRw.addr0 := fields.logRw.addr0 ||| decoded.2 }

/-- Transaction of an `ftype` 2 packet. -/
def rdTransOf : Nat → Option DarPktType
  | 4 => some .pktNr
  | 0xC => some .pktNrInc
  | 0xD => some .pktNrDec
  | 0xE => some .pktNrSet
  | 0xF => some .pktNrClr
  | _ => none

/-- `case 2`: NREAD and the atomic reads. -/
def parseNread : ParseM GetPlan := do
  let byte ← next
  let pktType ← orFail (rdTransOf ((byte &&& 0xF0) >>> 4)) (.rc .unknownTrans)
  let tid ← next
  setFields fun fields => { fields with pktType := pktType, logRw.tid := tid }
  darGetRwAddr
  let wptr ← getWptr
  let decoded ← sizesOrFail (darUtilComputeRdBytesNAlign (byte &&& 0xF) wptr)
  setBytesNAlign decoded
  pure ⟨false, false, 1⟩

/-- Transaction of an `ftype` 5 packet. -/
def wrTransOf : Nat → Option DarPktType
  | 4 => some .pktNw
  | 5 => some .pktNwr
  | 0xC => some .pktNwSwap
  | 0xD => some .pktNwCmpSwap
  | 0xE => some .pktNwTstSwap
  | _ => none

/-- `case 5`: NWRITE, NWRITE_R and the atomic swaps. -/
def parseNwrite : ParseM GetPlan := do
  let byte ← next
  let pktType ← orFail (wrTransOf ((byte &&& 0xF0) >>> 4)) (.rc .unknownTrans)
  let tid ← next
  setFields fun fields => { fields with pktType := pktType, logRw.tid := tid }
  darGetRwAddr
  let wptr ← getWptr
  let decoded ← sizesOrFail (darUtilComputeWrBytesNAlign (byte &&& 0xF) wptr)
  setBytesNAlign decoded
  pure ⟨true, false, if pktType = .pktNwCmpSwap then 2 else 1⟩

/-- `case 6`: SWRITE. -/
def parseSwrite : ParseM GetPlan := do
  setFields fun fields => { fields with pktType := .pktSw }
  darGetRwAddr
  setFields fun fields => { fields with pktBytes := 256 }
  pure ⟨true, false, 1⟩

/-- `case 7`: flow control. -/
def parseFc : ParseM GetPlan := do
  let byte0 ← next
  let byte1 ← next
  setFields fun fields => { fields with
    pktType := .pktFc
    logFc.fcXon := byte0 &&& 0x80 ≠ 0
    logFc.fcFam := (byte0 &&& 0x70) >>> 4
    logFc.fcFlow := (byte1 &&& 0xF7) >>> 1
    logFc.fcSocIsEp := byte1 &&& 0x01 ≠ 0
    logFc.fcDestId := fields.trans.destId
    logFc.fcSrcId := fields.trans.srcId }
  pure ⟨false, false, 1⟩

/-- `(DAR_pkt_type)((int)(pkt_mr) + code)`. -/
def mtcTransOf : Nat → DarPktType
  | 0 => .pktMr
  | 1 => .pktMw
  | 2 => .pktMrr
  | 3 => .pktMwr
  | _ => .pktPw

/-- The inner switch of `case 8`: byte count, alignment, and whether to get data. -/
def parseMtcPlan (pktType : DarPktType) (sizeRc : Nat) : ParseM ((Nat × Nat) × Bool) :=
  match pktType with
  | .pktMr => do
      let wptr ← getWptr
      let decoded ← sizesOrFail (darUtilComputeRdBytesNAlign sizeRc wptr)
      pure (decoded, false)
  | .pktMrr => pure ((64, 0), true)
  | .pktMwr => pure ((0, 0), false)
  | _ => do
      let wptr ← getWptr
      let decoded ← sizesOrFail (darUtilComputeWrBytesNAlign sizeRc wptr)
      pure (decoded, true)

/-- `case 8`: maintenance.  The stream's recorded address size is overwritten. -/
def parseMtc : ParseM GetPlan := do
  let byte ← peek 0
  failIf ((byte &&& 0xF0) >>> 4 > 4) (.rc .unknownTrans)
  let pktType := mtcTransOf ((byte &&& 0xF0) >>> 4)
  skip 1
  let tid ← next
  let hopcount ← next
  setFields fun fields => { fields with
    pktType := pktType
    logRw.tid := tid
    trans.hopcount := u8 hopcount }
  modify fun state => { state with bytesIn.pktAddrSize := .rioAddr21 }
  darGetRwAddr
  let plan ← parseMtcPlan pktType (byte &&& 0xF)
  setBytesNAlign plan.1
  pure ⟨plan.2, false, 1⟩

/-- Extended header of a data streaming packet. -/
def parseDstmXh : ParseM GetPlan := do
  let flags ← next
  let streamHigh ← next
  let streamLow ← next
  let oper ← next
  let cosMask ← next
  let parm1 ← next
  let parm2 ← next
  setFields fun fields => { fields with
    pktBytes := 0
    logDs.dstmXhSeg := true
    logDs.dstmStartSeg := false
    logDs.dstmEndSeg := false
    logDs.dstmOddDataAmt := false
    logDs.dstmPadDataAmt := false
    logDs.dstmPduLen := 0
    logDs.dstmXhType := (flags &&& 0x38) >>> 3
    logDs.dstmStreamid := (streamHigh <<< 8) + streamLow
    logDs.dstmXhTmOp := (oper &&& 0xF0) >>> 4
    logDs.dstmXhWildcard := oper &&& 0x07
    logDs.dstmXhCosMask := cosMask
    logDs.dstmXhParm1 := parm1
    logDs.dstmXhParm2 := parm2 }
  pure ⟨false, false, 1⟩

/-- Stream ID of a start segment and PDU length of an end segment. -/
def parseDstmPair (startSeg endSeg : Bool) : ParseM (Nat × Nat) :=
  if startSeg then do
    let high ← next
    let low ← next
    pure ((high <<< 8) + low, 0)
  else if endSeg then do
    let high ← next
    let low ← next
    pure (0, (high <<< 8) + low)
  else pure (0, 0)

/-- Standard header of a data streaming packet. -/
def parseDstmSeg : ParseM GetPlan := do
  let flags ← next
  let startSeg : Bool := flags &&& 0x80 ≠ 0
  let endSeg : Bool := flags &&& 0x40 ≠ 0
  let pair ← parseDstmPair startSeg endSeg
  setFields fun fields => { fields with
    pktBytes := 256
    logDs.dstmXhSeg := false
    logDs.dstmXhType := 0
    logDs.dstmXhTmOp := 0
    logDs.dstmXhWildcard := 0
    logDs.dstmXhCosMask := 0
    logDs.dstmXhParm1 := 0
    logDs.dstmXhParm2 := 0
    logDs.dstmStartSeg := startSeg
    logDs.dstmEndSeg := endSeg
    logDs.dstmOddDataAmt := flags &&& 0x02 ≠ 0
    logDs.dstmPadDataAmt := flags &&& 0x01 ≠ 0
    logDs.dstmStreamid := pair.1
    logDs.dstmPduLen := pair.2 }
  pure ⟨true, false, 1⟩

/-- `case 9`: data streaming. -/
def parseDstm : ParseM GetPlan := do
  let cos ← next
  setFields fun fields => { fields with pktType := .pktDstm, logDs.dstmCos := cos }
  let flags ← peek 0
  if flags &&& 4 ≠ 0 then parseDstmXh else parseDstmSeg

/-- `case 10`: doorbell.  The reserved byte is skipped and the two data bytes are taken
here. -/
def parseDb : ParseM GetPlan := do
  skip 1
  let tid ← next
  let data0 ← next
  let data1 ← next
  setFields fun fields => { fields with
    pktType := .pktDb
    logRw.tid := tid
    pktBytes := 2
    pktData := (fields.pktData.set 0 (u8 data0)).set 1 (u8 data1) }
  pure ⟨false, false, 1⟩

/-- `case 11`: message. -/
def parseMsg : ParseM GetPlan := do
  let byte0 ← next
  let msgLen := (byte0 &&& 0xF0) >>> 4
  let rdsize := byte0 &&& 0xF
  setFields fun fields => { fields with pktType := .pktMsg, logMs.msgLen := msgLen }
  failIf (rdsize < 9) (.rc .badMsgDsize)
  let byte1 ← next
  let mbid := if msgLen ≠ 0 then (byte1 &&& 0x30) >>> 4 else byte1 &&& 0x3F
  let msgseg := if msgLen ≠ 0 then byte1 &&& 0x0F else 0
  setFields fun fields => { fields with
    pktBytes := 8 <<< (rdsize - 9)
    logMs.letter := (byte1 &&& 0xC0) >>> 6
    logMs.mbid := mbid
    logMs.msgseg := msgseg }
  pure ⟨true, msgLen ≠ 0 ∧ msgseg ≠ msgLen, 1⟩

/-- Transaction of an `ftype` 13 packet. -/
def respTransOf : Nat → Option DarPktType
  | 8 => some .pktRespData
  | 0 => some .pktResp
  | 1 => some .pktMsgResp
  | _ => none

/-- Status of a response. -/
def respStatusOf : Nat → Option RioPktStatus
  | 0 => some .pktDone
  | 7 => some .pktErr
  | 3 => some .pktRetry
  | _ => none

/-- The target information of a message response, or the transaction ID of the others. -/
def parseRespTid (pktType : DarPktType) : ParseM Unit := do
  let byte ← next
  setFields fun fields =>
    if pktType = .pktMsgResp then
      { fields with
        logMs.letter := (byte &&& 0xC0) >>> 6
        logMs.mbid := (byte &&& 0x30) >>> 4
        logMs.msgseg := byte &&& 0x0F }
    else { fields with logRw.tid := byte }

/-- `case 13`: responses.  A retry has no data. -/
def parseResp : ParseM GetPlan := do
  let byte ← next
  let pktType ← orFail (respTransOf ((byte &&& 0xF0) >>> 4)) (.rc .unknownTrans)
  setFields fun fields => { fields with
    pktType := pktType
    pktBytes := if pktType = .pktRespData then 256 else 0 }
  let status ← orFail (respStatusOf (byte &&& 0x0F)) (.rc .unknownStatus)
  setFields fun fields => { fields with
    logMs.status := status
    logRw.status := status
    pktBytes := if status = .pktRetry then 0 else fields.pktBytes }
  parseRespTid pktType
  pure ⟨pktType = .pktRespData ∧ status ≠ .pktRetry, false, 1⟩

/-- `default`: everything is payload. -/
def parseRaw : ParseM GetPlan := do
  setFields fun fields => { fields with pktType := .pktRaw, pktBytes := 276 }
  modify fun state => { state with pktIndex := 0 }
  pure ⟨true, false, 1⟩

/-- The switch over `ftype` that parses the logical layer header. -/
def parseLogHdr (ftype : Nat) : ParseM GetPlan :=
  match ftype with
  | 2 => parseNread
  | 5 => parseNwrite
  | 6 => parseSwrite
  | 7 => parseFc
  | 8 => parseMtc
  | 9 => parseDstm
  | 10 => parseDb
  | 11 => parseMsg
  | 13 => parseResp
  | _ => parseRaw

/-- `fields_out->pkt_data[index] = value`. -/
def putData (index : Nat) (value : Byte) : ParseM Unit := do
  let state ← get
  let data ← orFail (state.fieldsOut.pktData.write index value) .fault
  setFields fun fields => { fields with pktData := data }

/-- Copy `count` bytes from the read position to `fields_out->pkt_data`, from `index`
on. -/
def getBytes (index : Nat) : Nat → ParseM Unit
  | 0 => pure ()
  | count + 1 => do
      let value ← next
      putData index (u8 value)
      getBytes (index + 1) count

/-- Kinds whose payload is not placed inside a doubleword. -/
def unaligned (pktType : DarPktType) : Bool := pktType = .pktDstm ∨ pktType = .pktMsg

/-- The extraction loop for at most eight bytes: round `dataRepeat` of `left` more.  The
read position moves by `8 - align - pkt_bytes` after the data, which in C may wrap around
but never below the position reached, so the subtraction is made last. -/
def getShortData (pktBytes : Nat) (dataRepeat : Nat) : Nat → ParseM Unit
  | 0 => pure ()
  | left + 1 => do
      let state ← get
      let align :=
        if unaligned state.fieldsOut.pktType then 0 else state.fieldsOut.logRw.addr0 &&& 7
      skip align
      getBytes (dataRepeat * pktBytes) pktBytes
      if unaligned state.fieldsOut.pktType then pure ()
      else modify fun state => { state with pktIndex := state.pktIndex + 8 - align - pktBytes }
      getShortData pktBytes (dataRepeat + 1) left

/-- The extraction loop for more than eight bytes: bytes `i` to `i + count`, without the
place of the intermediate CRC. -/
def getLongBytes (i : Nat) : Nat → ParseM Unit
  | 0 => pure ()
  | count + 1 => do
      let state ← get
      if i ≠ 80 ∧ i ≠ 81 then do
        let value ← orFail (state.bytesIn.pktData.read i) .fault
        putData state.fieldsOut.pktBytes value
        setFields fun fields => { fields with pktBytes := fields.pktBytes + 1 }
      else pure ()
      getLongBytes (i + 1) count

/-- `fields_out->pkt_bytes -= count` on `uint32_t`. -/
def dropBytes (count : Nat) : ParseM Unit :=
  setFields fun fields => { fields with
    pktBytes := (fields.pktBytes + 2 ^ 32 - count) % 2 ^ 32 }

/-- Two trailing zero bytes are taken for padding, unless the packet has 84 bytes. -/
def stripPadding : ParseM Unit := do
  setFields fun fields => { fields with padBytes := 0 }
  let state ← get
  let numChars := state.bytesIn.numChars
  if state.bytesIn.pktHasCrc ∧ numChars ≠ 84 then do
    let last ← orFail (state.bytesIn.pktData.read (numChars - 1)) .fault
    let secondLast ← orFail (state.bytesIn.pktData.read (numChars - 2)) .fault
    if last = 0 ∧ secondLast = 0 then do
      setFields fun fields => { fields with padBytes := 2 }
      dropBytes 2
    else pure ()
  else pure ()

/-- Consistency of a data streaming segment with its size. -/
def checkDstmSize : ParseM Unit := do
  let state ← get
  let fields := state.fieldsOut
  let ds := fields.logDs
  if ds.dstmEndSeg then do
    failIf (fields.pktBytes &&& 3 ≠ 0 ∧ fields.pktBytes &&& 3 ≠ 2) (.rc .badDsDsize)
    failIf (ds.dstmOddDataAmt ≠ decide (fields.pktBytes &&& 3 = 2)) (.rc .badDsDsize)
    if ds.dstmPadDataAmt then dropBytes 1 else pure ()
  else failIf (fields.pktBytes &&& 7 ≠ 0) (.rc .badDsDsize)

/-- Extraction of more than eight bytes: all bytes up to the CRC. -/
def getLongData : ParseM Unit := do
  setFields fun fields => { fields with pktBytes := 0 }
  let state ← get
  let stop := state.bytesIn.numChars - (if state.bytesIn.pktHasCrc then 2 else 0)
  getLongBytes state.pktIndex (stop - state.pktIndex)
  let state ← get
  failIf (state.fieldsOut.pktBytes &&& 1 ≠ 0) (.rc .badDataSize)
  stripPadding
  if state.fieldsOut.pktType = .pktDstm then checkDstmSize else pure ()

/-- Get the data, skipping the CRC. -/
def parseData (plan : GetPlan) : ParseM Unit :=
  if plan.getData then do
    let state ← get
    let maxBytes := state.fieldsOut.pktBytes
    if maxBytes ≤ 8 then getShortData maxBytes 0 plan.repeatDataBytes else getLongData
    let state ← get
    failIf (state.fieldsOut.pktBytes > maxBytes) (.rc .badDataSize)
    failIf (state.fieldsOut.pktBytes ≠ maxBytes ∧ plan.getExactData) (.rc .badDataSize)
  else pure ()

/-- `DAR_pkt_bytes_to_fields`; `fieldsOut` is what the caller's structure holds before. -/
def darPktBytesToFields (bytesIn : DarPktBytes) (fieldsOut : DarPktFields) :
    EStateM.Result DarStop ParseState Unit :=
  let parse : ParseM Unit := do
    failIf (bytesIn.numChars < 8) (.rc .badDataSize)
    let ftype ← parsePhysHdr
    parseTransHdr
    let plan ← parseLogHdr ftype
    parseData plan
  parse.run ⟨bytesIn, fieldsOut, 0⟩

end RioFabric.Packet

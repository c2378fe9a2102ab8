import RioFabric.Packet.Size
import RioFabric.Packet.Crc

/-!
# Packet composition

`DAR_pkt_fields_to_bytes` and its helpers.  The state holds both structures the routine
works on: the byte stream it writes, and the field description, of which the maintenance
responses clear the address.  Each arm of the source's switch over `ftype` is a
definition of its own.
-/

namespace RioFabric.Packet

open Lib

/-- The two structures `DAR_pkt_fields_to_bytes` works on. -/
structure ComposeState where
  fieldsIn : DarPktFields
  bytesOut : DarPktBytes

abbrev ComposeM := EStateM DarStop ComposeState

/-- `bytes_out->pkt_data[bytes_out->num_chars++] = value`. -/
def store (value : Byte) : ComposeM Unit := do
  let state ← get
  let pkt ← orFail (state.bytesOut.pktData.write state.bytesOut.numChars value) .fault
  set { state with
    bytesOut.pktData := pkt
    bytesOut.numChars := state.bytesOut.numChars + 1 }

/-- A sequence of stores. -/
def emit : List Byte → ComposeM Unit
  | [] => pure ()
  | value :: rest => do
      store value
      emit rest

/-- Copy `count` bytes of `fields_in->pkt_data`, from `index` on, to the stream. -/
def storeData (index : Nat) : Nat → ComposeM Unit
  | 0 => pure ()
  | count + 1 => do
      let state ← get
      let value ← orFail (state.fieldsIn.pktData.read index) .fault
      store value
      storeData (index + 1) count

/-- What a switch arm leaves for the common code that adds the payload. -/
structure DataPlan where
  addData : Bool
  dataBytes : Nat
  repeatDataBytes : Nat

/-- The bytes `DAR_add_rw_addr` stores; the cases of its switch fall through from the
widest address to the narrowest. -/
def rwAddrBytes (size : RioAddrSize) (addr0 addr1 addr2 wptr : Nat) : List Byte :=
  let xaddrXamsbs :=
    match size with
    | .rioAddr66 => addr2 &&& 3
    | .rioAddr50 => (addr1 >>> 16) &&& 0x00000003
    | .rioAddr34 => addr1 &&& 0x00000003
    | .rioAddr32 | .rioAddr21 => 0
  let word1 :=
    match size with
    | .rioAddr66 =>
      [u8 ((addr1 >>> 24) &&& 0x000000FF), u8 ((addr1 >>> 16) &&& 0x000000FF),
       u8 ((addr1 >>> 8) &&& 0x000000FF), u8 (addr1 &&& 0x000000FF)]
    | .rioAddr50 => [u8 ((addr1 >>> 8) &&& 0x000000FF), u8 (addr1 &&& 0x000000FF)]
    | .rioAddr34 | .rioAddr32 | .rioAddr21 => []
  let top :=
    match size with
    | .rioAddr21 => []
    | _ => [u8 ((addr0 >>> 24) &&& 0x000000FF)]
  word1 ++ top ++
    [u8 ((addr0 &&& 0x00FF0000) >>> 16), u8 ((addr0 &&& 0x0000FF00) >>> 8),
     u8 ((addr0 &&& 0x000000F8) + ((wptr &&& 1) <<< 2) + xaddrXamsbs)]

def darAddRwAddr (hdr : DarPktLogRwHdr) (wptr : Nat) : ComposeM Unit := do
  failIf (wptr ≠ 0 ∧ wptr ≠ 1) (.rc .invalidWptr)
  emit (rwAddrBytes hdr.pktAddrSize hdr.addr0 hdr.addr1 hdr.addr2 wptr)
  modify fun state => { state with bytesOut.pktAddrSize := hdr.pktAddrSize }

/-- The physical layer header: two bytes, always with an ackID of 0. -/
def physHdrBytes (fieldsIn : DarPktFields) : List Byte :=
  [u8 (((if fieldsIn.phys.pktVc ≠ 0 then 1 else 0) <<< 1) |||
      (if fieldsIn.phys.crf then 1 else 0)),
   u8 (((fieldsIn.phys.pktPrio &&& 3) <<< 6) ||| (fieldsIn.trans.ttCode.code <<< 4) |||
      (darUtilGetFtype fieldsIn.pktType &&& 0xF))]

/-- The transport layer header: two or four bytes. -/
def composeTransHdr (trans : DarPktTransHdr) : ComposeM Unit :=
  match trans.ttCode with
  | .ttSmall => emit [u8 (trans.destId &&& 0xFF), u8 (trans.srcId &&& 0xFF)]
  | .ttLarge =>
    emit [u8 ((trans.destId >>> 8) &&& 0x00FF), u8 (trans.destId &&& 0x00FF),
          u8 ((trans.srcId >>> 8) &&& 0x00FF), u8 (trans.srcId &&& 0x00FF)]
  | .undef2 | .undef3 => throw (.rc .invalidTt)

/-- Transaction type nibble of an `ftype` 2 request. -/
def rdTransType : DarPktType → Nat
  | .pktNr => 4
  | .pktNrInc => 0xC
  | .pktNrDec => 0xD
  | .pktNrSet => 0xE
  | .pktNrClr => 0xF
  | _ => 0x0

/-- `case 2`: NREAD and the atomic reads.  They have no data. -/
def composeNread (fieldsIn : DarPktFields) : ComposeM DataPlan := do
  let transType := rdTransType fieldsIn.pktType
  let sizes ← orFail (darUtilGetRdsizeWdptr fieldsIn.logRw.addr0 fieldsIn.pktBytes)
    (.rc .invalidRdsize)
  failIf (transType > 4 ∧
      (fieldsIn.pktBytes = 0 ∨ fieldsIn.pktBytes > 4 ∨ fieldsIn.pktBytes = 3))
    (.rc .invalidRdsize)
  emit [u8 ((transType <<< 4) + (sizes.1 &&& 0xF)), u8 fieldsIn.logRw.tid]
  darAddRwAddr fieldsIn.logRw sizes.2
  pure ⟨false, 0, 1⟩

/-- Transaction type nibble of an `ftype` 5 request. -/
def wrTransType : DarPktType → Option Nat
  | .pktNw => some 4
  | .pktNwr => some 5
  | .pktNwSwap => some 0xC
  | .pktNwCmpSwap => some 0xD
  | .pktNwTstSwap => some 0xE
  | _ => none

/-- `case 5`: NWRITE, NWRITE_R and the atomic swaps. -/
def composeNwrite (fieldsIn : DarPktFields) : ComposeM DataPlan := do
  failIf ((fieldsIn.pktType = .pktNwSwap ∨ fieldsIn.pktType = .pktNwCmpSwap ∨
        fieldsIn.pktType = .pktNwTstSwap) ∧
      (fieldsIn.pktBytes = 3 ∨ fieldsIn.pktBytes > 4))
    (.rc .invalidRdsize)
  let transType ← orFail (wrTransType fieldsIn.pktType) (.rc .unknownTrans)
  let sizes ← orFail (darUtilGetWrsizeWdptr fieldsIn.logRw.addr0 fieldsIn.pktBytes)
    (.rc .invalidRdsize)
  emit [u8 ((transType <<< 4) + (sizes.1 &&& 0xF)), u8 fieldsIn.logRw.tid]
  darAddRwAddr fieldsIn.logRw sizes.2
  pure ⟨true, fieldsIn.pktBytes, if fieldsIn.pktType = .pktNwCmpSwap then 2 else 1⟩

/-- `case 6`: SWRITE.  The source leaves `data_bytes` at 0 here. -/
def composeSwrite (fieldsIn : DarPktFields) : ComposeM DataPlan := do
  darAddRwAddr fieldsIn.logRw 0
  pure ⟨true, 0, 1⟩

/-- `case 7`: flow control. -/
def composeFc (fieldsIn : DarPktFields) : ComposeM DataPlan := do
  let fc := fieldsIn.logFc
  emit [u8 ((if fc.fcXon then 0x80 else 0) ||| ((fc.fcFam &&& 7) <<< 4)),
        u8 (((fc.fcFlow &&& 0x7F) <<< 1) ||| (if fc.fcSocIsEp then 1 else 0))]
  pure ⟨false, 0, 1⟩

/-- What the inner switch of `case 8` decides: the size or status nibble, the word
pointer, and whether the packet has data. -/
structure MtcPlan where
  sizeRc : Nat
  wdptr : Nat
  addData : Bool

/-- Responses carry their status in place of a size and clear the address of the
caller's description. -/
def clearAddr : ComposeM Unit :=
  modify fun state => { state with fieldsIn.logRw.addr0 := 0 }

/-- The inner switch of `case 8`. -/
def composeMtcPlan (fieldsIn : DarPktFields) : ComposeM MtcPlan :=
  let pktBytes := fieldsIn.pktBytes
  match fieldsIn.pktType with
  | .pktMr => do
      let sizes ← orFail (darUtilGetRdsizeWdptr fieldsIn.logRw.addr0 pktBytes)
        (.rc .invalidRdsize)
      failIf (pktBytes > 64) (.rc .invalidRdsize)
      pure ⟨sizes.1, sizes.2, false⟩
  | .pktMw => do
      let sizes ← orFail (darUtilGetWrsizeWdptr fieldsIn.logRw.addr0 pktBytes)
        (.rc .invalidRdsize)
      failIf (pktBytes > 64) (.rc .invalidRdsize)
      pure ⟨sizes.1, sizes.2, true⟩
  | .pktMrr => do
      let _ ← orFail (darUtilGetRdsizeWdptr fieldsIn.logRw.addr0 pktBytes)
        (.rc .invalidRdsize)
      failIf (pktBytes = 0 ∨ pktBytes > 64) (.rc .invalidRdsize)
      clearAddr
      pure ⟨fieldsIn.logRw.status.code, 0, true⟩
  | .pktMwr => do
      clearAddr
      pure ⟨fieldsIn.logRw.status.code, 0, false⟩
  | .pktPw => do
      let sizes ← orFail (darUtilGetWrsizeWdptr fieldsIn.logRw.addr0 pktBytes)
        (.rc .invalidRdsize)
      failIf (pktBytes = 0 ∨ pktBytes &&& 7 ≠ 0) (.rc .invalidRdsize)
      pure ⟨sizes.1, sizes.2, true⟩
  | _ => throw (.rc .invalidMtc)

/-- `(int)(fields_in->pkt_type) - (pkt_mr)`. -/
def mtcTransType : DarPktType → Nat
  | .pktMw => 1
  | .pktMrr => 2
  | .pktMwr => 3
  | .pktPw => 4
  | _ => 0

/-- `case 8`: maintenance requests, responses and port-writes. -/
def composeMtc (fieldsIn : DarPktFields) : ComposeM DataPlan := do
  let plan ← composeMtcPlan fieldsIn
  emit [u8 ((mtcTransType fieldsIn.pktType <<< 4) + (plan.sizeRc &&& 0xF)),
        u8 fieldsIn.logRw.tid, fieldsIn.trans.hopcount]
  failIf (fieldsIn.logRw.pktAddrSize ≠ .rioAddr21) (.rc .badAddrsize)
  let state ← get
  darAddRwAddr state.fieldsIn.logRw plan.wdptr
  pure ⟨plan.addData, fieldsIn.pktBytes, 1⟩

/-- Extended header of a data streaming packet. -/
def dstmXhBytes (ds : DarPktLogDsHdr) : List Byte :=
  [u8 (0x04 ||| ((ds.dstmXhType &&& 0x7) <<< 3)),
   u8 ((ds.dstmStreamid &&& 0xFF00) >>> 8), u8 (ds.dstmStreamid &&& 0x00FF),
   u8 (((ds.dstmXhTmOp &&& 0xF) <<< 4) + (ds.dstmXhWildcard &&& 0x7)),
   u8 (ds.dstmXhCosMask &&& 0xFF), u8 ds.dstmXhParm1, u8 ds.dstmXhParm2]

/-- Standard header of a data streaming packet: the segment byte, then the stream ID of
a start segment or the PDU length of an end segment. -/
def dstmSegBytes (ds : DarPktLogDsHdr) : List Byte :=
  let temp := if ds.dstmStartSeg then 0x80 else 0
  let temp :=
    if ds.dstmEndSeg then
      temp ||| 0x40 ||| (if ds.dstmOddDataAmt then 2 else 0) |||
        (if ds.dstmPadDataAmt then 1 else 0)
    else temp
  let pair :=
    if ds.dstmStartSeg then
      [u8 ((ds.dstmStreamid >>> 8) &&& 0x00FF), u8 (ds.dstmStreamid &&& 0x00FF)]
    else if ds.dstmEndSeg then
      [u8 ((ds.dstmPduLen >>> 8) &&& 0x00FF), u8 (ds.dstmPduLen &&& 0x00FF)]
    else []
  u8 temp :: pair

/-- The pad and odd indications that go with a payload length. -/
def dstmSizeConsistent (ds : DarPktLogDsHdr) (pktBytes : Nat) : Bool :=
  match pktBytes &&& 3 with
  | 0 => !(ds.dstmPadDataAmt || ds.dstmOddDataAmt)
  | 1 => !(!ds.dstmPadDataAmt || !ds.dstmOddDataAmt)
  | 2 => !(ds.dstmPadDataAmt || !ds.dstmOddDataAmt)
  | _ => !(!ds.dstmPadDataAmt || ds.dstmOddDataAmt)

section

variable (fieldsIn : DarPktFields)

/-- The standard-header arm of `case 9`, which also adds the payload. -/
def composeDstmSeg : ComposeM Unit := do
  let ds := fieldsIn.logDs
  emit (dstmSegBytes ds)
  storeData 0 fieldsIn.pktBytes
  failIf (dstmSizeConsistent ds fieldsIn.pktBytes = false) (.rc .badDsDsize)
  emit (if ds.dstmEndSeg && ds.dstmPadDataAmt then [0] else [])

/-- The two header kinds of `case 9`. -/
def composeDstmHdr : ComposeM Unit :=
  if fieldsIn.logDs.dstmXhSeg then emit (dstmXhBytes fieldsIn.logDs)
  else composeDstmSeg fieldsIn

/-- `case 9`: data streaming. -/
def composeDstm : ComposeM DataPlan := do
  emit [u8 fieldsIn.logDs.dstmCos]
  composeDstmHdr fieldsIn
  pure ⟨false, 0, 1⟩

/-- `case 10`: doorbell.  Its two data bytes are added here. -/
def composeDb : ComposeM DataPlan := do
  emit [0, u8 fieldsIn.logRw.tid]
  failIf (fieldsIn.pktBytes ≠ 2) (.rc .badMsgDsize)
  storeData 0 2
  pure ⟨false, 0, 1⟩

end

/-- The `ssize` nibble of a message segment.  A single segment, or the last one of a
message, may have any multiple of eight bytes; the others a power of two. -/
def msgSsize (ms : DarPktLogMsHdr) (pktBytes : Nat) : Option Nat :=
  if ms.msgLen = 0 ∨ ms.msgseg = ms.msgLen then
    if pktBytes &&& 7 ≠ 0 then none
    else if pktBytes > 128 then some 14
    else if pktBytes > 64 then some 13
    else if pktBytes > 32 then some 12
    else if pktBytes > 16 then some 11
    else if pktBytes > 8 then some 10
    else some 9
  else
    match pktBytes with
    | 8 => some 9
    | 16 => some 10
    | 32 => some 11
    | 64 => some 12
    | 128 => some 13
    | 256 => some 14
    | _ => none

/-- `case 11`: message. -/
def composeMsg (fieldsIn : DarPktFields) : ComposeM DataPlan := do
  let ms := fieldsIn.logMs
  let ssize ← orFail (msgSsize ms fieldsIn.pktBytes) (.rc .badMsgDsize)
  emit [u8 (((ms.msgLen &&& 0xF) <<< 4) + ssize),
        if ms.msgLen ≠ 0 then
          u8 (((ms.letter &&& 3) <<< 6) + ((ms.mbid &&& 3) <<< 4) + (ms.msgseg &&& 0xF))
        else u8 (((ms.letter &&& 3) <<< 6) + (ms.mbid &&& 0x3F))]
  pure ⟨true, 0, 1⟩

/-- `case 13`: responses. -/
def composeResp (fieldsIn : DarPktFields) : ComposeM DataPlan :=
  let ms := fieldsIn.logMs
  let rw := fieldsIn.logRw
  match fieldsIn.pktType with
  | .pktMsgResp => do
      emit [u8 ((ms.status.code &&& 0xF) ||| 0x10),
            if ms.msgLen ≠ 0 then
              u8 ((ms.letter <<< 6) ||| (ms.mbid <<< 4) ||| (ms.msgseg &&& 0xF))
            else u8 ((ms.letter <<< 6) ||| (ms.mbid &&& 0x3F))]
      failIf (fieldsIn.pktBytes ≠ 0) (.rc .badRespDsize)
      pure ⟨false, 0, 1⟩
  | .pktResp => do
      failIf (fieldsIn.pktBytes ≠ 0) (.rc .badRespDsize)
      emit [u8 (rw.status.code &&& 0xF), u8 (rw.tid &&& 0xFF)]
      pure ⟨false, 0, 1⟩
  | .pktRespData => do
      failIf ((fieldsIn.pktBytes = 0 ∧ rw.status ≠ .pktErr) ∨ fieldsIn.pktBytes &&& 7 ≠ 0)
        (.rc .badRespDsize)
      emit [u8 ((rw.status.code &&& 0xF) ||| 0x80), u8 (rw.tid &&& 0xFF)]
      pure ⟨fieldsIn.pktBytes ≠ 0, 0, 1⟩
  | _ => throw (.rc .badRespDsize)

/-- The switch over `ftype` that composes the logical layer header. -/
def composeLogHdr (fieldsIn : DarPktFields) : ComposeM DataPlan :=
  match darUtilGetFtype fieldsIn.pktType with
  | 2 => composeNread fieldsIn
  | 5 => composeNwrite fieldsIn
  | 6 => composeSwrite fieldsIn
  | 7 => composeFc fieldsIn
  | 8 => composeMtc fieldsIn
  | 9 => composeDstm fieldsIn
  | 10 => composeDb fieldsIn
  | 11 => composeMsg fieldsIn
  | 13 => composeResp fieldsIn
  | _ => throw (.rc .unknownTrans)

/-- Store sub-doubleword data inside a doubleword of zeros, once for each repetition. -/
def storeDoublewords (dataAlign pktBytes dataBytes : Nat) (dataRepeat : Nat) :
    Nat → ComposeM Unit
  | 0 => pure ()
  | left + 1 => do
      emit (List.replicate dataAlign 0)
      storeData (dataRepeat * dataBytes) dataBytes
      emit (List.replicate (8 - (dataAlign + pktBytes)) 0)
      storeDoublewords dataAlign pktBytes dataBytes (dataRepeat + 1) left

/-- Add the data to the transaction. -/
def composeData (plan : DataPlan) : ComposeM Unit := do
  let state ← get
  let pktBytes := state.fieldsIn.pktBytes
  let dataAlign := state.fieldsIn.logRw.addr0 &&& 7
  if plan.addData ∧ pktBytes ≠ 0 then
    if pktBytes < 8 then do
      failIf (dataAlign + pktBytes > 8) (.rc .badDataSize)
      storeDoublewords dataAlign pktBytes plan.dataBytes 0 plan.repeatDataBytes
    else do
      failIf (dataAlign ≠ 0 ∨ pktBytes &&& 0x7 ≠ 0) (.rc .badDataSize)
      storeData 0 pktBytes
  else pure ()

/-- Everything before the CRC of a packet that is not raw. -/
def composeBody (fieldsIn : DarPktFields) : ComposeM Unit := do
  emit (physHdrBytes fieldsIn)
  composeTransHdr fieldsIn.trans
  failIf ((darUtilGetFtype fieldsIn.pktType = 8 ∧
        fieldsIn.logRw.pktAddrSize ≠ .rioAddr21) ∨
      (darUtilGetFtype fieldsIn.pktType ≠ 8 ∧ fieldsIn.logRw.pktAddrSize = .rioAddr21))
    (.rc .badAddrsize)
  let plan ← composeLogHdr fieldsIn
  composeData plan

/-- Tack on the CRC and pad the packet to a multiple of four bytes. -/
def composeTail : ComposeM Unit := do
  let state ← get
  let closed ← orFail (computePktCrc state.bytesOut.pktData state.bytesOut.numChars) .fault
  set { state with
    bytesOut.pktData := closed.1
    bytesOut.numChars := closed.2
    bytesOut.pktHasCrc := true }
  emit (if closed.2 &&& 2 ≠ 0 then [0, 0] else [])
  modify fun state => { state with bytesOut.pktPadded := closed.2 &&& 2 ≠ 0 }

/-- `DAR_util_pkt_bytes_init`.  The stream length, which the source sets to -1 here and
overwrites before the first use, starts at 0. -/
def darUtilPktBytesInit : DarPktBytes where
  pktAddrSize := .rioAddr34
  pktHasCrc := false
  pktPadded := false
  numChars := 0
  pktData := Vector.replicate rioMaxPktBytes 0

/-- Everything before the CRC: the copied bytes of a raw packet, or a composed body. -/
def composeHead (fieldsIn : DarPktFields) : ComposeM Unit :=
  if fieldsIn.pktType = .pktRaw then storeData 0 fieldsIn.pktBytes
  else composeBody fieldsIn

def darPktFieldsToBytes (fieldsIn : DarPktFields) : EStateM.Result DarStop ComposeState Unit :=
  let compose : ComposeM Unit := do
    composeHead fieldsIn
    composeTail
  compose.run ⟨fieldsIn, darUtilPktBytesInit⟩

end RioFabric.Packet

import RioFabric.Lib.Exec

/-!
# RapidIO packets: fields and byte streams

The data model of the packet composition and parsing routines
(`RapidIO_Utilities_API.h`).  Structures keep the layering of the source: physical,
transport and logical headers inside `DarPktFields`, and the flat byte stream
`DarPktBytes`.  `uint32_t` members are natural numbers; wherever the code can wrap
around, the wrap is explicit.
-/

namespace RioFabric.Packet

/-- `uint8_t`. -/
abbrev Byte := BitVec 8

/-- Conversion to `uint8_t`. -/
abbrev u8 (value : Nat) : Byte := BitVec.ofNat 8 value

/-- `count_bits`: the number of ones among the low sixteen bits. -/
def countBits (val : Nat) : Nat :=
  if val ≠ 0 then
    (List.range 16).foldl (fun rc i => if (1 <<< i) &&& val ≠ 0 then rc + 1 else rc) 0
  else 0

abbrev rioMaxPktBytes : Nat := 276

theorem one_lt_rioMaxPktBytes : 1 < rioMaxPktBytes := by decide

/-- `DAR_pkt_type`. -/
inductive DarPktType where
  | pktRaw
  | pktNr | pktNrInc | pktNrDec | pktNrSet | pktNrClr
  | pktNw | pktNwr | pktNwSwap | pktNwCmpSwap | pktNwTstSwap
  | pktSw
  | pktFc
  | pktMr | pktMw | pktMrr | pktMwr | pktPw
  | pktDstm
  | pktDb
  | pktMsg
  | pktResp | pktRespData | pktMsgResp
  deriving DecidableEq, Repr

/-- `rio_pkt_status`. -/
inductive RioPktStatus where
  | pktDone | pktRetry | pktErr
  deriving DecidableEq, Repr

/-- Wire value of a response status. -/
def RioPktStatus.code : RioPktStatus → Nat
  | .pktDone => 0
  | .pktRetry => 3
  | .pktErr => 7

/-- `rio_addr_size`. -/
inductive RioAddrSize where
  | rioAddr21 | rioAddr32 | rioAddr34 | rioAddr50 | rioAddr66
  deriving DecidableEq, Repr

/-- `rio_TT_code`. -/
inductive RioTtCode where
  | ttSmall | ttLarge | undef2 | undef3
  deriving DecidableEq, Repr

/-- Wire value of a transport type. -/
def RioTtCode.code : RioTtCode → Nat
  | .ttSmall => 0
  | .ttLarge => 1
  | .undef2 => 2
  | .undef3 => 3

/-- The cast `(rio_TT_code)` of a two-bit field. -/
def RioTtCode.ofCode : Nat → RioTtCode
  | 0 => .ttSmall
  | 1 => .ttLarge
  | 2 => .undef2
  | _ => .undef3

/-- `DAR_pkt_phy_hdr_t`. -/
structure DarPktPhyHdr where
  pktVc : Nat
  pktPrio : Nat
  crf : Bool
  pktAckId : Nat
  deriving DecidableEq, Repr

/-- `DAR_pkt_trans_hdr_t`. -/
structure DarPktTransHdr where
  ttCode : RioTtCode
  destId : Nat
  srcId : Nat
  hopcount : Byte
  deriving DecidableEq, Repr

/-- `DAR_pkt_log_rw_hdr_t`; `addr0`, `addr1` and `addr2` are `addr[0..2]`. -/
structure DarPktLogRwHdr where
  pktAddrSize : RioAddrSize
  addr0 : Nat
  addr1 : Nat
  addr2 : Nat
  tid : Nat
  status : RioPktStatus
  deriving DecidableEq, Repr

/-- `DAR_pkt_log_fc_hdr_t`.  `fc_flow` and `fc_fam` are kept as integers: the parser
casts any seven-bit and three-bit value to their enumerations. -/
structure DarPktLogFcHdr where
  fcXon : Bool
  fcFlow : Nat
  fcDestId : Nat
  fcSrcId : Nat
  fcSocIsEp : Bool
  fcFam : Nat
  deriving DecidableEq, Repr

/-- `DAR_pkt_log_ds_hdr_t`. -/
structure DarPktLogDsHdr where
  dstmStartSeg : Bool
  dstmEndSeg : Bool
  dstmXhSeg : Bool
  dstmCos : Nat
  dstmStreamid : Nat
  dstmOddDataAmt : Bool
  dstmPadDataAmt : Bool
  dstmPduLen : Nat
  dstmXhType : Nat
  dstmXhTmOp : Nat
  dstmXhWildcard : Nat
  dstmXhCosMask : Nat
  dstmXhParm1 : Nat
  dstmXhParm2 : Nat
  deriving DecidableEq, Repr

/-- `DAR_pkt_log_ms_hdr_t`. -/
structure DarPktLogMsHdr where
  msgLen : Nat
  mbid : Nat
  msgseg : Nat
  letter : Nat
  status : RioPktStatus
  deriving DecidableEq, Repr

/-- Packet memory: an array of `RIO_MAX_PKT_BYTES` bytes. -/
abbrev PktData := Vector Byte rioMaxPktBytes

/-- `DAR_pkt_fields_t`.  `pktData` is the array behind the `pkt_data` pointer, of the
276 bytes the header file asks for. -/
structure DarPktFields where
  padBytes : Nat
  phys : DarPktPhyHdr
  trans : DarPktTransHdr
  pktType : DarPktType
  pktBytes : Nat
  pktData : PktData
  logRw : DarPktLogRwHdr
  logFc : DarPktLogFcHdr
  logDs : DarPktLogDsHdr
  logMs : DarPktLogMsHdr

/-- `DAR_pkt_bytes_t`. -/
structure DarPktBytes where
  pktAddrSize : RioAddrSize
  pktHasCrc : Bool
  pktPadded : Bool
  numChars : Nat
  pktData : PktData

/-- The bytes of a stream that are valid: the first `num_chars`. -/
def DarPktBytes.stream (packet : DarPktBytes) : List Byte :=
  packet.pktData.toList.take packet.numChars

/-- The `DAR_UTIL_*` return codes. -/
inductive DarUtilRc where
  | invalidTt
  | badAddrsize
  | invalidRdsize
  | badDataSize
  | invalidMtc
  | badMsgDsize
  | badRespDsize
  | unknownTrans
  | badDsDsize
  | unknownStatus
  | invalidWptr
  deriving DecidableEq, Repr

/-- Why a routine stops before its end: a `DAR_UTIL_*` code is returned, or an array is
accessed outside its bounds and the C program has no defined behaviour. -/
inductive DarStop where
  | rc (code : DarUtilRc)
  | fault
  deriving DecidableEq, Repr

/-- Read one array element; `none` is an access outside the array. -/
def PktData.read (pkt : PktData) (index : Nat) : Option Byte := pkt[index]?

/-- Write one array element; `none` is an access outside the array. -/
def PktData.write (pkt : PktData) (index : Nat) (value : Byte) : Option PktData :=
  if inBounds : index < rioMaxPktBytes then some (pkt.set index value inBounds) else none

theorem PktData.write_eq_some {pkt after : PktData} {index : Nat} {value : Byte} :
    pkt.write index value = some after ↔
      ∃ inBounds : index < rioMaxPktBytes, after = pkt.set index value inBounds := by
  unfold PktData.write
  split <;> simp_all [eq_comm]

def darUtilGetFtype : DarPktType → Nat
  | .pktRaw => 16
  | .pktNr | .pktNrInc | .pktNrDec | .pktNrSet | .pktNrClr => 2
  | .pktNw | .pktNwr | .pktNwSwap | .pktNwCmpSwap | .pktNwTstSwap => 5
  | .pktSw => 6
  | .pktFc => 7
  | .pktMr | .pktMw | .pktMrr | .pktMwr | .pktPw => 8
  | .pktDstm => 9
  | .pktDb => 10
  | .pktMsg => 11
  | .pktResp | .pktRespData | .pktMsgResp => 13

end RioFabric.Packet

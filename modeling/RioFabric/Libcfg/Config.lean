import RioFabric.Libcfg.Text
import RioFabric.Libct.Allocator
import RioFabric.RouteTable.Edit

/-!
# The configuration

The structures of `cfg_private.h` that the parser fills in, and what the rest of the fabric
management software asks of them.  An array is a function on the indices it has; a pointer
into an array of the configuration is an index.
-/

namespace RioFabric.Libcfg

open Lib Libct Libdid RouteTable

/-- `rio_pc_pw_t`. -/
inductive RioPcPw where
  | pw1x | pw2x | pw4x | pw1xL0 | pw1xL1 | pw1xL2 | last
  deriving DecidableEq, Repr

/-- `rio_pc_ls_t`. -/
inductive RioPcLs where
  | ls1p25 | ls2p5 | ls3p125 | ls5p0 | ls6p25 | ls10p3 | ls12p5 | last
  deriving DecidableEq, Repr

/-- `enum rio_pc_idle_seq`. -/
inductive RioPcIdleSeq where
  | one | two | three | dflt | last
  deriving DecidableEq, Repr

/-- `struct int_cfg_rapidio`. -/
structure IntCfgRapidio where
  maxPw : RioPcPw
  opPw : RioPcPw
  ls : RioPcLs
  iseq : RioPcIdleSeq
  em : Bool
  deriving DecidableEq, Repr

/-- The settings before they are parsed. -/
def IntCfgRapidio.unset : IntCfgRapidio := ⟨.last, .last, .last, .last, false⟩

def hcMp : Nat := 0xFF

/-- `struct dev_id`. -/
structure DevId where
  valid : Bool
  hc : Nat
  didVal : Nat
  deriving DecidableEq, Repr

/-- The device IDs of a port before they are parsed, one for each of the `MAX_DEV_SZ_IDX`
sizes. -/
def unsetDevids : Fin 3 → DevId := fun _ => ⟨false, hcMp, 0⟩

/-- A port of an endpoint or of a switch of the configuration. -/
inductive Port where
  | ep (idx : Fin 70) (port : Fin 1)
  | sw (idx : Fin 20) (port : Fin 24)
  deriving DecidableEq, Repr

/-- The number of a port at its device. -/
def Port.number : Port → Nat
  | .ep _ port => port.val
  | .sw _ port => port.val

/-- One end of a connection: `conn` and `conn_end` of a port, which are written together. -/
abbrev ConnRef := Fin 480 × Fin 2

/-- `struct int_cfg_ep_port`. -/
structure IntCfgEpPort where
  valid : Bool
  port : Nat
  ct : Nat
  rio : IntCfgRapidio
  devids : Fin 3 → DevId
  conn : Option ConnRef

/-- `struct int_cfg_ep`, with `CFG_MAX_EP_PORT` = 1 port. -/
structure IntCfgEp where
  valid : Bool
  name : Token
  portCnt : Nat
  ports : Fin 1 → IntCfgEpPort

/-- `struct int_cfg_sw_port`. -/
structure IntCfgSwPort where
  valid : Bool
  port : Nat
  rio : IntCfgRapidio
  conn : Option ConnRef
  rtValid : Fin 3 → Bool
  rt : Fin 3 → RioRtState

/-- `struct int_cfg_sw`, with `CFG_MAX_SW_PORT` = 24 ports. -/
structure IntCfgSw where
  valid : Bool
  name : Token
  devType : Token
  didVal : Nat
  didSzIdx : Nat
  hc : Nat
  ct : Nat
  ports : Fin 24 → IntCfgSwPort
  rtValid : Fin 3 → Bool
  rt : Fin 3 → RioRtState

/-- `struct int_cfg_conn`.  The port number, the kind and the handle of an end are one
value, which is missing until the end is parsed. -/
structure IntCfgConn where
  valid : Bool
  ends : Fin 2 → Option Port

/-- `CFG_OP_MODE_SLAVE` and `CFG_OP_MODE_MASTER`. -/
inductive OpMode where
  | slave | master
  deriving DecidableEq, Repr

/-- `struct int_mport_info`. -/
structure IntMportInfo where
  num : Nat
  ct : Nat
  opMode : Option OpMode
  memSz : Nat
  devids : Fin 3 → DevId
  ep : Option (Fin 70)
  epPnum : Option (Fin 1)

/-- `struct int_cfg_parms`, with `CFG_MAX_MPORTS` = 4, `CFG_MAX_EP` = 70, `CFG_MAX_SW` = 20 and
`CFG_MAX_CONN` = 480.  A missing master index is `CFG_SLAVE`. -/
structure IntCfgParms where
  ddMtxFn : Option Token
  ddFn : Option Token
  initErr : Bool
  mastIdx : Option Nat
  maxMportInfoIdx : Nat
  mportInfo : Fin 4 → IntMportInfo
  mastDidVal : Nat
  mastDidSzIdx : Nat
  mastCmPort : Nat
  epCnt : Nat
  eps : Fin 70 → IntCfgEp
  swCnt : Nat
  sws : Fin 20 → IntCfgSw
  connCnt : Nat
  cons : Fin 480 → IntCfgConn
  autoConfig : Bool

def initRt : RioRtState where
  defaultRoute := rioRteDrop
  devTable _ := ⟨rioRteDrop, false⟩
  domTable idx := ⟨if idx = 0 then rioRteLvlG0 else rioRteDrop, false⟩
  mcMasks _ := ⟨rioRteBad.toNat, .ttDev8, 0, false, false, false⟩

def initCfgPtr : IntCfgParms where
  ddMtxFn := none
  ddFn := none
  initErr := false
  mastIdx := none
  maxMportInfoIdx := 0
  mportInfo _ := ⟨0xFFFFFFFF, 0, none, 34, unsetDevids, none, none⟩
  mastDidVal := 1
  mastDidSzIdx := 0
  mastCmPort := 3434
  epCnt := 0
  eps _ := ⟨false, [], 0, fun _ => ⟨false, 0, 0, .unset, unsetDevids, none⟩⟩
  swCnt := 0
  sws _ :=
    { valid := false, name := [], devType := [], didVal := 0, didSzIdx := 0, hc := 0, ct := 0
      ports := fun _ => ⟨false, 0, .unset, none, fun _ => false, fun _ => initRt⟩
      rtValid := fun _ => false
      rt := fun _ => initRt }
  connCnt := 0
  cons _ := ⟨false, fun _ => none⟩
  autoConfig := false

namespace IntCfgParms

variable (cfg : IntCfgParms)

/-- Change one mport. -/
def setMport (idx : Fin 4) (f : IntMportInfo → IntMportInfo) : IntCfgParms :=
  { cfg with mportInfo := Function.update cfg.mportInfo idx (f (cfg.mportInfo idx)) }

/-- Change one endpoint. -/
def setEp (idx : Fin 70) (f : IntCfgEp → IntCfgEp) : IntCfgParms :=
  { cfg with eps := Function.update cfg.eps idx (f (cfg.eps idx)) }

/-- Change one port of an endpoint. -/
def setEpPort (idx : Fin 70) (port : Fin 1) (f : IntCfgEpPort → IntCfgEpPort) : IntCfgParms :=
  cfg.setEp idx fun ep => { ep with ports := Function.update ep.ports port (f (ep.ports port)) }

/-- Change one switch. -/
def setSw (idx : Fin 20) (f : IntCfgSw → IntCfgSw) : IntCfgParms :=
  { cfg with sws := Function.update cfg.sws idx (f (cfg.sws idx)) }

/-- Change one port of a switch. -/
def setSwPort (idx : Fin 20) (port : Fin 24) (f : IntCfgSwPort → IntCfgSwPort) : IntCfgParms :=
  cfg.setSw idx fun sw => { sw with ports := Function.update sw.ports port (f (sw.ports port)) }

/-- `conn` and `conn_end` of a port. -/
def link : Port → Option ConnRef
  | .ep idx port => ((cfg.eps idx).ports port).conn
  | .sw idx port => ((cfg.sws idx).ports port).conn

/-- Set `conn` and `conn_end` of a port. -/
def setLink (port : Port) (ref : ConnRef) : IntCfgParms :=
  match port with
  | .ep idx port => cfg.setEpPort idx port fun port => { port with conn := some ref }
  | .sw idx port => cfg.setSwPort idx port fun port => { port with conn := some ref }

/-- Join one end of a connection to a port. -/
def connectEnd (conn : Fin 480) (idx : Fin 2) (port : Port) : IntCfgParms :=
  let cons := Function.update cfg.cons conn
    { cfg.cons conn with ends := Function.update (cfg.cons conn).ends idx (some port) }
  { cfg with cons := cons }.setLink port (conn, idx)

def otherEnd (idx : Fin 2) : Fin 2 := if idx = 1 then 0 else 1

def findCfgSwByCt (ct : Nat) : Option (Fin 20) :=
  (List.finRange 20).find? fun idx => idx.val < cfg.swCnt && (cfg.sws idx).ct == ct

/-- The loop of `find_cfg_ep_by_ct` over the endpoints. -/
def findEpByPortCt (ct : Nat) : Option (Fin 70) :=
  (List.finRange 70).find? fun idx =>
    idx.val < cfg.epCnt && (cfg.eps idx).valid &&
      (List.finRange 1).any fun port =>
        ((cfg.eps idx).ports port).valid && ((cfg.eps idx).ports port).ct == ct

/-- `find_cfg_ep_by_ct`, which looks through the mports if no endpoint has the tag. -/
def findCfgEpByCt (ct : Nat) : Option (Fin 70) :=
  (cfg.findEpByPortCt ct).orElse fun _ =>
    (List.finRange 4).findSome? fun idx =>
      if idx.val < cfg.maxMportInfoIdx ∧ (cfg.mportInfo idx).ct = ct then (cfg.mportInfo idx).ep
      else none

end IntCfgParms

/-- `struct cfg_ep_port`. -/
structure CfgEpPort where
  valid : Bool
  opPw : RioPcPw
  ls : RioPcLs
  iseq : RioPcIdleSeq
  devids : Fin 3 → DevId

/-- `struct cfg_sw_port`. -/
structure CfgSwPort where
  valid : Bool
  port : Nat
  opPw : RioPcPw
  ls : RioPcLs
  iseq : RioPcIdleSeq
  rt : Fin 3 → Option RioRtState

/-- `struct cfg_sw`. -/
structure CfgSw where
  numPorts : Nat
  swPt : Fin 24 → CfgSwPort
  rt : Fin 3 → Option RioRtState

/-- `struct cfg_dev`; `is_sw` says which of `ep_pt` and `sw_info` is filled in. -/
structure CfgDev where
  name : Token
  ct : Nat
  info : CfgEpPort ⊕ CfgSw

def fillInDevFromEp (ep : IntCfgEp) : Option CfgDev :=
  let port := ep.ports 0
  if port.valid then
    some ⟨ep.name, port.ct, .inl ⟨true, port.rio.opPw, port.rio.ls, port.rio.iseq, port.devids⟩⟩
  else none

/-- The routing tables that are valid. -/
def validTables (rtValid : Fin 3 → Bool) (rt : Fin 3 → RioRtState) : Fin 3 → Option RioRtState :=
  fun size => if rtValid size then some (rt size) else none

def fillInDevFromSw (sw : IntCfgSw) : CfgDev where
  name := sw.name
  ct := sw.ct
  info := .inr
    { numPorts := 24
      swPt := fun idx =>
        let port := sw.ports idx
        ⟨port.valid, port.port, port.rio.opPw, port.rio.ls, port.rio.iseq,
          validTables port.rtValid port.rt⟩
      rt := validTables sw.rtValid sw.rt }

namespace IntCfgParms

/-- `fill_in_dev_from_ep` or `fill_in_dev_from_sw`, for the device of a port. -/
def fillInDev (cfg : IntCfgParms) : Port → Option CfgDev
  | .ep idx _ => fillInDevFromEp (cfg.eps idx)
  | .sw idx _ => some (fillInDevFromSw (cfg.sws idx))

def cfgFindDevByCt (cfg : IntCfgParms) (ct : Nat) : Option CfgDev :=
  match cfg.findCfgEpByCt ct with
  | some idx => fillInDevFromEp (cfg.eps idx)
  | none => (cfg.findCfgSwByCt ct).map fun idx => fillInDevFromSw (cfg.sws idx)

/-- The port of the device with a component tag that `cfg_get_conn_dev` looks at, if it is one
that can be connected. -/
def connPort (cfg : IntCfgParms) (ct pt : Nat) : Option Port :=
  match cfg.findCfgEpByCt ct with
  | some idx => if pt = 0 then some (.ep idx 0) else none
  | none =>
    match cfg.findCfgSwByCt ct with
    | none => none
    | some idx =>
      if inRange : pt < 24 then
        let port := (cfg.sws idx).ports ⟨pt, inRange⟩
        if port.valid ∧ port.port = pt then some (.sw idx ⟨pt, inRange⟩) else none
      else none

/-- `cfg_get_conn_dev`: the device and the port number at the other end. -/
def cfgGetConnDev (cfg : IntCfgParms) (ct pt : Nat) : Option (CfgDev × Nat) :=
  match (cfg.connPort ct pt).bind cfg.link with
  | none => none
  | some (conn, connEnd) =>
    if (cfg.cons conn).valid then
      match (cfg.cons conn).ends (otherEnd connEnd) with
      | none => none
      | some port => (cfg.fillInDev port).map fun dev => (dev, port.number)
    else none

end IntCfgParms

end RioFabric.Libcfg

import RioFabric.Dar.PortList
import RioFabric.Lib.Registers

/-!
# Statistics counters of RXS switches

An RXS switch has eight counters of 32 bits at each port.  The driver keeps an entry for each of
them in memory: what is counted, a total of 64 bits and the last increment.  It enters a total
when it reads the counter.
-/

namespace RioFabric.StatCounters

open Lib Dar

/-- `rio_sc_ctr_t`. -/
inductive RioScCtr where
  | disabled | enabled
  | ucReqPkts | ucPkts | retries | allCs | uc4bData | mcPkts | mecs | mc4bData
  | pa | pkt | pna | pktDrop | pktDropTtl
  | fabPkt | rioPload | fabPload | rioBwidth
  | pcieMsgRx | pcieMsgTx | pcieDmaRx | pcieDmaTx | pcieBrgRx | pcieBrgTx
  | rioNwrTx | rioNwrOkRx | rioDbelTx | rioDbelOkRx | rioMsgTx | rioMsgRx | rioMsgTxRty
  | rioMsgRxRty | rioDmaTx | rioDmaRx | rioBrgTx | rioBrgRx | rioBrgRxErr | rioMwrTx | rioMwrOkRx
  deriving DecidableEq

/-- `rio_sc_ctr_val_t`. -/
structure RioScCtrVal where
  total : BitVec 64
  lastInc : BitVec 32
  sc : RioScCtr
  tx : Bool
  srio : Bool
  deriving DecidableEq

def initRioScCtrVal : RioScCtrVal := ⟨0, 0, .disabled, false, true⟩

def rioMaxSc : Nat := 40

def rxs2448MaxSc : Nat := 8

/-- `rio_sc_p_ctrs_val_t`; `ctrs` has `RIO_MAX_SC` elements. -/
structure RioScPCtrsVal where
  pnum : Nat
  ctrsCnt : Nat
  ctrs : Nat → RioScCtrVal

/-- `rio_sc_dev_ctrs_t`; `p_ctrs` has `num_p_ctrs` elements, if it is not `NULL`. -/
structure RioScDevCtrs where
  numPCtrs : Nat
  validPCtrs : Nat
  allocated : Bool
  pCtrs : Nat → RioScPCtrsVal

namespace RioScDevCtrs

variable (devCtrs : RioScDevCtrs)

/-- Change the element of `p_ctrs` with an index. -/
def setPCtrs (idx : Nat) (change : RioScPCtrsVal → RioScPCtrsVal) : RioScDevCtrs :=
  { devCtrs with pCtrs := Function.update devCtrs.pCtrs idx (change (devCtrs.pCtrs idx)) }

/-- Change an element of `ctrs`. -/
def setCtr (idx ctrIdx : Nat) (change : RioScCtrVal → RioScCtrVal) : RioScDevCtrs :=
  devCtrs.setPCtrs idx fun port =>
    { port with ctrs := Function.update port.ctrs ctrIdx (change (port.ctrs ctrIdx)) }

/-- The valid elements with a port number.  No loop that looks for them changes a number. -/
def entriesOf (pt : Nat) : List Nat :=
  (List.range devCtrs.validPCtrs).filter fun idx => (devCtrs.pCtrs idx).pnum = pt

end RioScDevCtrs

/-- The registers of the counters: `RXS_SPX_PCNTR_EN`, `RXS_SPX_PCNTR_CTL` and
`RXS_SPX_PCNTR_CNT`. -/
inductive RxsReg where
  | en (port : Nat)
  | ctl (port idx : Nat)
  | cnt (port idx : Nat)
  deriving DecidableEq

/-- A counter of the device: the events it has seen, and those up to the last time its register was
read or written.  The register holds the events modulo 2^32, from an offset on. -/
structure HwCounter where
  offset : BitVec 32
  events : Nat
  synced : Nat

namespace HwCounter

variable (counter : HwCounter)

/-- What the register holds. -/
def register : BitVec 32 := counter.offset + BitVec.ofNat 32 counter.events

/-- The counter after its register was read. -/
def afterRead : HwCounter := { counter with synced := counter.events }

/-- The counter after its register was written. -/
def written (value : BitVec 32) : HwCounter :=
  ⟨value - BitVec.ofNat 32 counter.events, counter.events, counter.events⟩

/-- The counter after some more events. -/
def advance (amount : Nat) : HwCounter := { counter with events := counter.events + amount }

end HwCounter

/-- The registers of a device, and the codes of the accesses that fail. -/
structure RxsHardware where
  en : Nat → BitVec 32
  ctl : Nat → Nat → BitVec 32
  cnt : Nat → Nat → HwCounter
  readFault : RxsReg → Option Nat
  writeFault : RxsReg → Option Nat

namespace RxsHardware

variable (hw : RxsHardware)

/-- What a register holds. -/
def value : RxsReg → BitVec 32
  | .en port => hw.en port
  | .ctl port idx => hw.ctl port idx
  | .cnt port idx => (hw.cnt port idx).register

def setCnt (port idx : Nat) (change : HwCounter → HwCounter) : RxsHardware :=
  { hw with
    cnt := Function.update hw.cnt port
      (Function.update (hw.cnt port) idx (change (hw.cnt port idx))) }

/-- The device after a register was read. -/
def afterRead : RxsReg → RxsHardware
  | .cnt port idx => hw.setCnt port idx HwCounter.afterRead
  | _ => hw

/-- The device after a register was written. -/
def written (value : BitVec 32) : RxsReg → RxsHardware
  | .en port => { hw with en := Function.update hw.en port value }
  | .ctl port idx =>
    { hw with ctl := Function.update hw.ctl port (Function.update (hw.ctl port) idx value) }
  | .cnt port idx => hw.setCnt port idx fun counter => counter.written value

end RxsHardware

/-- The accesses to the device. -/
def rxsDevice : RegDevice RxsReg RxsHardware where
  read reg hw :=
    match hw.readFault reg with
    | some code => (.error code, hw)
    | none => (.ok (hw.value reg), hw.afterRead reg)
  write reg value hw :=
    match hw.writeFault reg with
    | some code => (some code, hw)
    | none => (none, hw.written value reg)

/-- How a call ends early: with its result and `imp_rc`, or with an access outside `p_ctrs` or
`ctrs`, or outside the port list that is made. -/
inductive ScStop where
  | failed (rc impRc : Nat)
  | outOfBounds
  | ptlOutOfBounds
  deriving DecidableEq

/-- Programs over the entries and the device. -/
abbrev ScProgram := EStateM ScStop (Attached RioScDevCtrs RxsHardware)

def darFirstImpSpecError : Nat := 0x40000000

def scInitRxsCtrs (code : Nat) : Nat := darFirstImpSpecError + 0x600 + code

def scReadRxsCtrs (code : Nat) : Nat := darFirstImpSpecError + 0x700 + code

def scCfgRxsCtrs (code : Nat) : Nat := darFirstImpSpecError + 0x800 + code

/-- `RIO_ERR_INVALID_PARAMETER` with an `imp_rc`. -/
def invalid (impRc : Nat) : ScStop := .failed rioErrInvalidParameter impRc

/-- The entries as they are. -/
def getDevCtrs : ScProgram RioScDevCtrs := do
  let state ← get
  pure state.memory

/-- Change an element of `ctrs`. -/
def setCtr (idx ctrIdx : Nat) (change : RioScCtrVal → RioScCtrVal) : ScProgram Unit := do
  let devCtrs ← getDevCtrs
  failIf (devCtrs.numPCtrs ≤ idx ∨ rioMaxSc ≤ ctrIdx) .outOfBounds
  modifyMemory fun devCtrs => devCtrs.setCtr idx ctrIdx change

/-- The first checks of each call, with the codes 1, 2 and 3; `present` says that `dev_ctrs` is not
`NULL`. -/
def checkDevCtrs (present : Bool) (imp : Nat → Nat) : ScProgram Unit := do
  failIf (!present) (invalid (imp 0x01))
  let devCtrs ← getDevCtrs
  failIf (!devCtrs.allocated) (invalid (imp 0x02))
  failIf (devCtrs.numPCtrs = 0 ∨ devCtrs.numPCtrs > rioMaxPorts ∨
    devCtrs.numPCtrs < devCtrs.validPCtrs) (invalid (imp 0x03))

def numRxsPorts (numPorts : Nat) : Nat := if numPorts > 24 then 24 else numPorts

/-- `DARrioGetPortList` within a call. -/
def getPortList (numPorts : Nat) (ptl : DarPtl) (impRc : Nat) : ScProgram (List Nat) :=
  match darDbRioGetPortList numPorts ptl with
  | .ok ports => pure ports
  | .error (.code rc) => throw (.failed rc impRc)
  | .error .outOfBounds => throw .ptlOutOfBounds

variable (numPorts : Nat)

/-- `rio_sc_init_dev_ctrs_in_t`, and `rio_sc_read_ctrs_in_t`. -/
structure ScPortsIn where
  ptl : DarPtl
  present : Bool

/-- The entry of a port whose counters are disabled. -/
def initPCtrs (pnum : Nat) (port : RioScPCtrsVal) : RioScPCtrsVal where
  pnum := pnum
  ctrsCnt := rxs2448MaxSc
  ctrs idx := if idx < rxs2448MaxSc then initRioScCtrVal else port.ctrs idx

/-- A turn of the loop of `rxs_rio_sc_init_dev_ctrs`. -/
def initPort (pnum idx : Nat) : ScProgram Unit := do
  let devCtrs ← getDevCtrs
  failIf (devCtrs.numPCtrs ≤ idx) .outOfBounds
  modifyMemory fun devCtrs => devCtrs.setPCtrs idx (initPCtrs pnum)

def rxsRioScInitDevCtrs (inParms : ScPortsIn) : ScProgram Unit := do
  checkDevCtrs inParms.present scInitRxsCtrs
  let ports ← getPortList numPorts inParms.ptl (scInitRxsCtrs 0x10)
  modifyMemory fun devCtrs => { devCtrs with validPCtrs := ports.length }
  ports.zipIdx.forM fun (pnum, idx) => initPort pnum idx

/-- `rio_sc_cfg_rxs_ctr_in_t`; `ctr_idx` is one of 0 to 7. -/
structure ScCfgRxsCtrIn where
  ptl : DarPtl
  ctrIdx : Nat
  prioMask : BitVec 8
  ctrEn : Bool
  tx : Bool
  ctrType : RioScCtr
  present : Bool

namespace ScCfgRxsCtrIn

variable (inParms : ScCfgRxsCtrIn)

/-- The `RXS_SPX_PCNTR_CTL_SEL` value of what is to be counted, and whether it is counted at the
RapidIO interface; otherwise a code. -/
def select : Except Nat (BitVec 32 × Bool) :=
  match inParms.ctrType with
  | .pkt => .ok (0x00, true)
  | .fabPkt => if inParms.prioMask = 0 then .error 0x31 else .ok (0x01, false)
  | .rioPload => .ok (0x02, true)
  | .fabPload => if inParms.prioMask = 0 then .error 0x32 else .ok (0x03, false)
  | .rioBwidth => if !inParms.tx then .error 0x33 else .ok (0x07, true)
  | .retries => .ok (0x08, true)
  | .pna => .ok (0x09, true)
  | .pktDrop => if inParms.prioMask = 0 then .error 0x34 else .ok (0x0A, true)
  | .disabled => .ok (0x7F, true)
  | _ => .error 0x35

/-- The value of `new_ctl`, for a selection. -/
def newCtl (sel : BitVec 32) : BitVec 32 :=
  ((inParms.prioMask.setWidth 32 <<< 8) &&& 0xFF00) ||| (if inParms.tx then 0x80 else 0) ||| sel

/-- The entry of a counter whose control value has changed. -/
def newCtr (srio : Bool) : RioScCtrVal := ⟨0, 0, inParms.ctrType, inParms.tx, srio⟩

variable (newCtl : BitVec 32) (srio : Bool)

/-- A turn of the inner loop of `rio_sc_cfg_rxs_ctr`, for an element with the port's number. -/
def cfgEntry (pt idx : Nat) : ScProgram Unit := do
  let ctlReg ← regRead rxsDevice (.ctl pt inParms.ctrIdx) fun rc => .failed rc (scCfgRxsCtrs 0x41)
  regWrite rxsDevice (.ctl pt inParms.ctrIdx) newCtl fun rc => .failed rc (scCfgRxsCtrs 0x42)
  if ctlReg ≠ newCtl then do
    setCtr idx inParms.ctrIdx fun _ => inParms.newCtr srio
    regWrite rxsDevice (.cnt pt inParms.ctrIdx) 0 fun rc => .failed rc (scCfgRxsCtrs 0x43)
  else pure ()

/-- Disable the counters of a port.  The element that is reset is the one that the search index
was left at. -/
def disablePort (pt : Nat) : ScProgram Unit := do
  regWrite rxsDevice (.en pt) 0 fun rc => .failed rc (scCfgRxsCtrs 0x60)
  let devCtrs ← getDevCtrs
  (List.range rxs2448MaxSc).forM fun cntrIdx =>
    setCtr devCtrs.validPCtrs cntrIdx fun _ => initRioScCtrVal

/-- Enable the counters of a port, if they are to be. -/
def enablePort (pt : Nat) : ScProgram Unit :=
  if inParms.ctrEn then
    regWrite rxsDevice (.en pt) 0x80000000 fun rc => .failed rc (scCfgRxsCtrs 0x40)
  else pure ()

/-- A turn of the loop of `rio_sc_cfg_rxs_ctr`. -/
def cfgPort (pt : Nat) : ScProgram Unit := do
  inParms.enablePort pt
  let devCtrs ← getDevCtrs
  (devCtrs.entriesOf pt).forM (inParms.cfgEntry newCtl srio pt)
  failIf (devCtrs.entriesOf pt = []) (invalid (scCfgRxsCtrs 0x44))
  if inParms.ctrEn then pure () else disablePort pt

end ScCfgRxsCtrIn

/-- The checks of `rio_sc_cfg_rxs_ctr`, which result in a list of ports, a control value and an
interface. -/
def checkCfg (inParms : ScCfgRxsCtrIn) : ScProgram (List Nat × BitVec 32 × Bool) := do
  checkDevCtrs inParms.present scCfgRxsCtrs
  let devCtrs ← getDevCtrs
  failIf ((inParms.ptl.numPorts = rioAllPorts ∧ devCtrs.numPCtrs < numRxsPorts numPorts) ∨
      (inParms.ptl.numPorts ≠ rioAllPorts ∧ devCtrs.numPCtrs < inParms.ptl.numPorts))
    (invalid (scCfgRxsCtrs 0x04))
  let ports ← getPortList numPorts inParms.ptl (scCfgRxsCtrs 0x10)
  failIf (devCtrs.numPCtrs < ports.length ∨ devCtrs.validPCtrs < ports.length)
    (invalid (scCfgRxsCtrs 0x05))
  match inParms.select with
  | .error code => throw (invalid (scCfgRxsCtrs code))
  | .ok (sel, srio) => pure (ports, inParms.newCtl sel, srio)

def rioScCfgRxsCtr (inParms : ScCfgRxsCtrIn) : ScProgram Unit := do
  let (ports, newCtl, srio) ← checkCfg numPorts inParms
  ports.forM (inParms.cfgPort newCtl srio)

/-- What a value read from the counter makes of its entry. -/
def RioScCtrVal.accumulate (counter : RioScCtrVal) (count : BitVec 32) : RioScCtrVal :=
  let cC : BitVec 64 := count.setWidth 64
  let lC : BitVec 64 := counter.total &&& 0x00000000FFFFFFFF
  let tot : BitVec 64 := (counter.total &&& 0xFFFFFFFF00000000) ||| cC
  -- the counter has wrapped
  if lC > cC then
    { counter with
      total := tot + 0x0000000100000000
      lastInc := ((cC ||| 0x0000000100000000) - lC).setWidth 32 }
  else { counter with total := tot, lastInc := (cC - lC).setWidth 32 }

/-- A turn of the loop of `rxs_read_ctrs`. -/
def rxsReadCtr (srchI portNum cntr : Nat) : ScProgram Unit := do
  let devCtrs ← getDevCtrs
  if ((devCtrs.pCtrs srchI).ctrs cntr).sc = .disabled then pure ()
  else do
    let count ← regRead rxsDevice (.cnt portNum cntr) fun rc =>
      .failed rc (scReadRxsCtrs (0x71 + cntr))
    setCtr srchI cntr fun counter => counter.accumulate count

def rxsReadCtrs (portNum srchI : Nat) : ScProgram Unit :=
  (List.range rxs2448MaxSc).forM (rxsReadCtr srchI portNum)

/-- A turn of the loop of `rxs_rio_sc_read_ctrs`. -/
def readPort (portNum srchP : Nat) : ScProgram Unit := do
  let devCtrs ← getDevCtrs
  (devCtrs.entriesOf portNum).forM (rxsReadCtrs portNum)
  failIf (devCtrs.entriesOf portNum = []) (invalid (scReadRxsCtrs (0x90 + srchP)))

/-- The checks of `rxs_rio_sc_read_ctrs`, which result in a list of ports. -/
def checkRead (inParms : ScPortsIn) : ScProgram (List Nat) := do
  checkDevCtrs inParms.present scReadRxsCtrs
  let devCtrs ← getDevCtrs
  failIf ((inParms.ptl.numPorts = rioAllPorts ∧ devCtrs.numPCtrs ≠ numRxsPorts numPorts) ∨
      (inParms.ptl.numPorts ≠ rioAllPorts ∧ devCtrs.numPCtrs < inParms.ptl.numPorts))
    (invalid (scReadRxsCtrs 0x04))
  getPortList numPorts inParms.ptl (scReadRxsCtrs 0x10)

def rxsRioScReadCtrs (inParms : ScPortsIn) : ScProgram Unit := do
  let ports ← checkRead numPorts inParms
  ports.zipIdx.forM fun (portNum, srchP) => readPort portNum srchP

end RioFabric.StatCounters

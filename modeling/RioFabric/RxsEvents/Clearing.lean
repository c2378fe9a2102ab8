import RioFabric.RxsEvents.Contents

/-!
# Clearing events

The events that a caller lists are sorted by port.  A port that has a fatal event is reset, at
another port each event is cleared on its own; the port that sends port-writes comes last.  Then the
status is looked at again.
-/

namespace RioFabric.RxsEvents

open Lib Dar
open StatCounters (numRxsPorts darFirstImpSpecError)

/-- `rio_em_clr_events_in_t`; `events` may be `NULL`. -/
structure RioEmClrEventsIn where
  events : List RioEmEventNLoc
  hasEvents : Bool

/-- `rio_em_clr_events_out_t`. -/
structure RioEmClrEventsOut where
  impRc : Nat
  failureIdx : Nat
  pwEventsRemain : Bool
  intEventsRemain : Bool

def emClrEvents (code : Nat) : Nat := darFirstImpSpecError + 0x2700 + code

/-- `RXS_PLM_SPX_IMP_SPEC_CTL_SOFT_RST_PORT`. -/
def impSpecCtlSoftRstPort : BitVec 32 := 0x02000000

/-- `RXS_SPX_ERR_STAT_PORT_W_P`. -/
def errStatPortWP : BitVec 32 := 0x00000010

/-- The structures of `rxs_rio_em_clr_events_get_int_stat` and `rxs_rio_em_clr_events_get_pw_stat`
that are not set before they are used. -/
structure Stale where
  intPtl : DarPtl
  intOut : EventsOut 8
  pwPtl : DarPtl
  pwPortNum : Nat
  pwOut : EventsOut 16

/-- What `rxs_clr_events_sort_events` returns: `ptl.pnums[port]` is `RIO_ALL_PORTS` for a port that
must be reset, `NUM_RXS_PORTS` for another one with events, and the port itself for one without. -/
structure SortedEvents where
  ptl : DarPtl
  logErrIdx : Option Nat
  initErrIdx : Option Nat
  pwPt : Nat

namespace SortedEvents

/-- Set an element of `ptl.pnums`. -/
def mark (sorted : SortedEvents) (port pnum : Nat) : SortedEvents :=
  { sorted with ptl := { sorted.ptl with pnums := Function.update sorted.ptl.pnums port pnum } }

end SortedEvents

/-- A turn of the loop of `rxs_clr_events_sort_events`; it fails with the index of an event that is
not accepted. -/
def sortEvent (numPorts : Nat) (sorted : SortedEvents) (entry : RioEmEventNLoc × Nat) :
    Except Nat SortedEvents :=
  let event := entry.1
  match event.event with
  | .fLos | .fPortErr | .f2manyRetx | .f2manyPna | .fErrRate =>
    if numRxsPorts numPorts ≤ event.portNum then .error entry.2
    else .ok (sorted.mark event.portNum rioAllPorts)
  | .dLog => .ok { sorted with logErrIdx := some entry.2 }
  | .dTtl | .dRte | .iSigDet | .iRstReq =>
    if numRxsPorts numPorts ≤ event.portNum then .error entry.2
    else if sorted.ptl.pnums event.portNum ≠ rioAllPorts then
      .ok (sorted.mark event.portNum (numRxsPorts numPorts))
    else .ok sorted
  | .iInitFail => .ok { sorted with initErrIdx := some entry.2 }
  | .aClrPwpnd =>
    if rioAllPorts ≠ sorted.pwPt then .error entry.2
    else if numRxsPorts numPorts ≤ event.portNum then .error entry.2
    else .ok { sorted with pwPt := event.portNum }
  | .aNoEvent => .ok sorted
  | .last => .error entry.2

/-- `rxs_clr_events_sort_events`, for the list of all ports. -/
def sortEvents (numPorts : Nat) (ports : List Nat) (events : List RioEmEventNLoc) :
    Except Nat SortedEvents :=
  events.zipIdx.foldlM (sortEvent numPorts)
    ⟨⟨ports.length, fun idx => ports.getD idx 0⟩, none, none, rioAllPorts⟩

def copySortedPorts (newPtl sortedPtl : DarPtl) : DarPtl :=
  (List.range sortedPtl.numPorts).foldl (fun ptl idx =>
    if sortedPtl.pnums idx = idx then ptl
    else ⟨ptl.numPorts + 1, Function.update ptl.pnums ptl.numPorts idx⟩)
      { newPtl with numPorts := 0 }

/-- A function over its result and the device. -/
abbrev ClrProgram (δ : Type) := EmProgram RioEmClrEventsOut δ

section Programs

variable {δ α : Type}

def setClrImpRc (impRc : Nat) (out : RioEmClrEventsOut) : RioEmClrEventsOut := { out with impRc }

def setFailureIdx (failureIdx : Nat) : ClrProgram δ Unit :=
  modifyMemory fun out => { out with failureIdx }

/-- An access; if it fails, set `imp_rc` and leave. -/
def clrAccess (impRc : Nat) (access : ClrProgram δ α) : ClrProgram δ α :=
  onStop access fun state => { state with memory := setClrImpRc impRc state.memory }

/-- Run a program on structures of its own; if it stops, the code in them is passed on. -/
def onLocal {ν : Type} (start : ν) (impRcOf : ν → Nat) (program : EmProgram ν δ Unit) :
    ClrProgram δ ν := fun state =>
  match program ⟨start, state.device⟩ with
  | .ok _ after => .ok after.memory { state with device := after.device }
  | .error stop after =>
    .error stop ⟨setClrImpRc (impRcOf after.memory) state.memory, after.device⟩

variable (device : RegDevice Reg δ)

/-- `rxs_clr_events_soft_reset`. -/
def softReset (port : Nat) : ClrProgram δ Unit := do
  let plmCtl ← clrAccess (emClrEvents 0x20) (regRead device (.port .impSpecCtl port) .code)
  clrAccess (emClrEvents 0x22)
    (regWrite device (.port .impSpecCtl port) (plmCtl ||| impSpecCtlSoftRstPort) .code)
  clrAccess (emClrEvents 0x24) (regWrite device (.port .impSpecCtl port) plmCtl .code)
  clrAccess (emClrEvents 0x30) (regWrite device (.dev .emRstPortStat) (1 <<< port) .code)

/-- Clear an event of a port: the cases of `rxs_clr_events_clr_port` that write to registers. -/
def clearEvent (port : Nat) : RioEmEvents → ClrProgram δ Unit
  | .dTtl => clrAccess (emClrEvents 0x40)
      (regWrite device (.port .pbmStat port) pbmStatEgTtlExpired .code)
  | .dRte => clrAccess (emClrEvents 0x50)
      (regWrite device (.port .tlmStat port) tlmStatLutDiscard .code)
  | .iSigDet => clrAccess (emClrEvents 0x58)
      (regWrite device (.port .plmStat port) plmStatLinkInit .code)
  | .iRstReq => do
      clrAccess (emClrEvents 0x60) (regWrite device (.port .plmStat port) rstReqEventMask .code)
      clrAccess (emClrEvents 0x68) (regWrite device (.dev .emRstPortStat) (1 <<< port) .code)
  | .aClrPwpnd => do
      let temp ← clrAccess (emClrEvents 0x70) (regRead device (.port .errStat port) .code)
      clrAccess (emClrEvents 0x78)
        (regWrite device (.port .errStat port) (temp ||| errStatPortWP) .code)
  | _ => pure ()

/-- The events that `rxs_clr_events_clr_port` clears with writes. -/
def RioEmEvents.isCleared : RioEmEvents → Bool
  | .dTtl | .dRte | .iSigDet | .iRstReq | .aClrPwpnd => true
  | _ => false

/-- The loop of `rxs_clr_events_clr_port`, with the code that it would leave with: where it meets an
event that is not for a port, that is the code of the last access. -/
def clrPortFrom (port rc : Nat) : List (RioEmEventNLoc × Nat) → ClrProgram δ Unit
  | [] => setFailureIdx 0
  | (event, idx) :: rest =>
    if port ≠ event.portNum then clrPortFrom port rc rest
    else do
      setFailureIdx idx
      if event.event.isCleared then do
        clearEvent device port event.event
        clrPortFrom port 0 rest
      else if event.event = .aNoEvent then clrPortFrom port rc rest
      else if rc = 0 then setFailureIdx 0
      else throw (.code rc)

/-- `rxs_clr_events_clr_port`. -/
def clrPort (events : List RioEmEventNLoc) (port : Nat) : ClrProgram δ Unit :=
  clrPortFrom device port rioErrInvalidParameter events.zipIdx

/-- Clear the events of a port that has some. -/
def clearPort (events : List RioEmEventNLoc) (sorted : SortedEvents) (port : Nat) :
    ClrProgram δ Unit :=
  if rioAllPorts = sorted.ptl.pnums port then softReset device port
  else clrPort device events port

/-- A turn of the loop of `rxs_rio_em_clr_events`. -/
def clearTurn (events : List RioEmEventNLoc) (sorted : SortedEvents) (port : Nat) :
    ClrProgram δ Unit :=
  if sorted.pwPt = port then pure ()
  else if sorted.ptl.pnums port = port then pure ()
  else clearPort device events sorted port

section

variable (numPorts : Nat)

def clearListed (events : List RioEmEventNLoc) (sorted : SortedEvents) :
    ClrProgram δ Unit := do
  (List.range (numRxsPorts numPorts)).forM (clearTurn device events sorted)
  if rioAllPorts ≠ sorted.pwPt then clearPort device events sorted sorted.pwPt else pure ()
  if sorted.initErrIdx.isSome then
    clrAccess (emClrEvents 0x80) (regWrite device (.dev .i2cIntStat) i2cIntStatBlFail .code)
  else pure ()
  if sorted.logErrIdx.isSome then
    clrAccess (emClrEvents 0x90) (regWrite device (.dev .errDet) 0 .code)
  else pure ()

/-- `rxs_rio_em_clr_events_get_int_stat`. -/
def clrEventsGetIntStat (stale : Stale) (sortedPtl : DarPtl) :
    ClrProgram δ Unit := do
  let ptl := copySortedPorts stale.intPtl sortedPtl
  let outI ←
    if ptl.numPorts ≠ 0 then
      onLocal stale.intOut EventsOut.impRc (rxsRioEmGetIntStat device numPorts ⟨ptl, 1, true⟩)
    else
      onLocal ((outParms 8 1).clear stale.intOut) EventsOut.impRc
        (getDevIntStatus (outParms 8 1) device)
  if outI.numEvents ≠ 0 ∨ outI.otherEvents then
    modifyMemory fun out => { out with intEventsRemain := true }
  else pure ()

/-- `rxs_rio_em_clr_events_get_pw_stat`; `pw_port_num` is not set. -/
def clrEventsGetPwStat (stale : Stale) (sortedPtl : DarPtl) :
    ClrProgram δ Unit := do
  let ptl := copySortedPorts stale.pwPtl sortedPtl
  let outP ←
    if ptl.numPorts ≠ 0 then
      onLocal stale.pwOut EventsOut.impRc
        (rxsRioEmGetPwStat device numPorts ⟨ptl, stale.pwPortNum, 1, true⟩)
    else
      onLocal ((outParms 16 1).clear stale.pwOut) EventsOut.impRc
        (getDevPwStatus (outParms 16 1) device)
  if outP.numEvents ≠ 0 ∨ outP.otherEvents then
    modifyMemory fun out => { out with pwEventsRemain := true }
  else pure ()

/-- `DARrioGetPortList` for all ports, and `rxs_clr_events_sort_events`. -/
def getSortedEvents (events : List RioEmEventNLoc) :
    ClrProgram δ SortedEvents :=
  match darDbRioGetPortList numPorts ⟨rioAllPorts, fun _ => 0⟩ with
  | .error stop => clrAccess (emClrEvents 0x02) (throw stop)
  | .ok ports =>
    match sortEvents numPorts ports events with
    | .ok sorted => do
        setFailureIdx 0
        pure sorted
    | .error idx => do
        setFailureIdx idx
        clrAccess (emClrEvents 0x02) (throw (.code rioErrInvalidParameter))

def rxsRioEmClrEvents (stale : Stale) (inParms : RioEmClrEventsIn) :
    ClrProgram δ Unit := do
  if inParms.events = [] ∨ inParms.hasEvents = false then do
    modifyMemory (setClrImpRc (emClrEvents 0x01))
    throw (.code rioErrInvalidParameter)
  else do
    modifyMemory fun _ => ⟨0, 0, false, false⟩
    let sorted ← getSortedEvents numPorts inParms.events
    clearListed device numPorts inParms.events sorted
    clrEventsGetIntStat device numPorts stale sorted.ptl
    clrEventsGetPwStat device numPorts stale sorted.ptl

end

end Programs

end RioFabric.RxsEvents

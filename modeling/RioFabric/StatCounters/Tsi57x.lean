import RioFabric.Lib.RegLog
import RioFabric.StatCounters.RxsRules

/-!
# Statistics counters of Tsi57x switches

The driver of the Tsi57x switches has six counters at each port, and the entries in memory are
those of the other drivers.  A call that reads keeps a table of the entries it has handled, by port
number.
-/

namespace RioFabric.StatCounters

open Lib Dar

def tsi578MaxPorts : Nat := 16

def tsi578NumPerfCtrs : Nat := 6

def tsi57xNumPorts (numPorts : Nat) : Nat :=
  if numPorts > tsi578MaxPorts then tsi578MaxPorts else numPorts

def scInitDevCtrs (code : Nat) : Nat := darFirstImpSpecError + 0x100 + code

def scReadCtrs (code : Nat) : Nat := darFirstImpSpecError + 0x200 + code

/-- The register `TSI578_SPX_PSCY`. -/
structure Tsi578SpxPscy where
  port : Nat
  cntr : Nat
  deriving DecidableEq

/-- The entries, and the table `p_to_i` of a call that reads. -/
structure Tsi57xMemory where
  devCtrs : RioScDevCtrs
  pToI : Nat → Nat

/-- Programs over the entries and a device. -/
abbrev Tsi57xProgram (δ : Type) := EStateM ScStop (Attached Tsi57xMemory δ)

section Calls

variable {δ : Type} (device : RegDevice Tsi578SpxPscy δ) (numPorts : Nat)

/-- `DARrioGetPortList` within a call. -/
def tsi57xGetPortList (ptl : DarPtl) (impRc : Nat) : Tsi57xProgram δ (List Nat) :=
  match darDbRioGetPortList numPorts ptl with
  | .ok ports => pure ports
  | .error (.code rc) => throw (.failed rc impRc)
  | .error .outOfBounds => throw .ptlOutOfBounds

/-- Change the entries. -/
def modifyDevCtrs (change : RioScDevCtrs → RioScDevCtrs) : Tsi57xProgram δ Unit :=
  modifyMemory fun memory => { memory with devCtrs := change memory.devCtrs }

/-- The entry of a port whose counters are disabled. -/
def tsi57xInitPCtrs (pnum : Nat) (port : RioScPCtrsVal) : RioScPCtrsVal where
  pnum := pnum
  ctrsCnt := tsi578NumPerfCtrs
  ctrs idx := if idx < tsi578NumPerfCtrs then initRioScCtrVal else port.ctrs idx

/-- A turn of the loop of `tsi57x_rio_sc_init_dev_ctrs`. -/
def tsi57xInitPort (pnum idx : Nat) : Tsi57xProgram δ Unit := do
  let state ← get
  failIf (state.memory.devCtrs.numPCtrs ≤ idx) .outOfBounds
  modifyDevCtrs fun devCtrs => devCtrs.setPCtrs idx (tsi57xInitPCtrs pnum)

def tsi57xRioScInitDevCtrs (inParms : ScPortsIn) : Tsi57xProgram δ Unit := do
  failIf (!inParms.present) (invalid (scInitDevCtrs 1))
  let state ← get
  let devCtrs := state.memory.devCtrs
  failIf (!devCtrs.allocated) (invalid (scInitDevCtrs 2))
  failIf (devCtrs.numPCtrs = 0 ∨ devCtrs.numPCtrs > rioMaxPorts) (invalid (scInitDevCtrs 3))
  failIf ((inParms.ptl.numPorts = rioAllPorts ∧ devCtrs.numPCtrs < tsi57xNumPorts numPorts) ∨
      (inParms.ptl.numPorts ≠ rioAllPorts ∧ devCtrs.numPCtrs < inParms.ptl.numPorts))
    (invalid (scInitDevCtrs 4))
  let ports ← tsi57xGetPortList numPorts inParms.ptl (scInitDevCtrs 0x10)
  modifyDevCtrs fun devCtrs => { devCtrs with validPCtrs := ports.length }
  ports.zipIdx.forM fun (pnum, idx) => tsi57xInitPort pnum idx

/-- `uint8_t p_to_i[TSI578_MAX_PORTS] = {TSI578_MAX_PORTS}`: the other elements are zero. -/
def pToIInitializer (port : Nat) : Nat := if port = 0 then tsi578MaxPorts else 0

/-- Read an enabled counter into its entry. -/
def tsi57xReadCtr (portNum srchI cntr : Nat) : Tsi57xProgram δ Unit := do
  let state ← get
  if ((state.memory.devCtrs.pCtrs srchI).ctrs cntr).sc = .disabled then pure ()
  else do
    let lastInc ← regRead device ⟨portNum, cntr⟩ fun _ => invalid (scReadCtrs (0x70 + cntr))
    modifyDevCtrs fun devCtrs => devCtrs.setCtr srchI cntr fun counter =>
      { counter with total := counter.total + lastInc.setWidth 64, lastInc := lastInc }

/-- A turn of the inner loop of `tsi57x_rio_sc_read_ctrs`, for an entry with the port's number. -/
def tsi57xReadEntry (portNum srchI : Nat) : Tsi57xProgram δ Unit := do
  failIf (tsi578MaxPorts ≤ portNum) .outOfBounds
  let state ← get
  failIf (¬(tsi578MaxPorts = state.memory.pToI portNum ∧
      tsi578NumPerfCtrs = (state.memory.devCtrs.pCtrs srchI).ctrsCnt))
    (invalid (scReadCtrs (0x50 + portNum)))
  modifyMemory fun memory => { memory with pToI := Function.update memory.pToI portNum srchI }
  (List.range tsi578NumPerfCtrs).forM (tsi57xReadCtr device portNum srchI)

/-- A turn of the loop of `tsi57x_rio_sc_read_ctrs`. -/
def tsi57xReadPort (portNum srchP : Nat) : Tsi57xProgram δ Unit := do
  let state ← get
  (state.memory.devCtrs.entriesOf portNum).forM (tsi57xReadEntry device portNum)
  failIf (state.memory.devCtrs.entriesOf portNum = []) (invalid (scReadCtrs (0x90 + srchP)))

/-- The checks of `tsi57x_rio_sc_read_ctrs`, which result in a list of ports. -/
def tsi57xCheckRead (inParms : ScPortsIn) : Tsi57xProgram δ (List Nat) := do
  failIf (!inParms.present) (invalid (scReadCtrs 0x01))
  let state ← get
  let devCtrs := state.memory.devCtrs
  failIf (!devCtrs.allocated) (invalid (scReadCtrs 0x02))
  failIf (devCtrs.numPCtrs = 0 ∨ devCtrs.numPCtrs > tsi578MaxPorts ∨
    devCtrs.numPCtrs < devCtrs.validPCtrs) (invalid (scReadCtrs 0x03))
  let ports ← tsi57xGetPortList numPorts inParms.ptl (scReadCtrs 0x30)
  failIf (devCtrs.numPCtrs < ports.length ∨ devCtrs.validPCtrs < ports.length)
    (invalid (scReadCtrs 0x04))
  pure ports

def tsi57xRioScReadCtrs (inParms : ScPortsIn) : Tsi57xProgram δ Unit := do
  modifyMemory fun memory => { memory with pToI := pToIInitializer }
  let ports ← tsi57xCheckRead numPorts inParms
  ports.zipIdx.forM fun (portNum, srchP) => tsi57xReadPort device portNum srchP

end Calls

end RioFabric.StatCounters

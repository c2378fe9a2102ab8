import RioFabric.Dar.RegAccess
import RioFabric.Tsi57xPort.Status

/-!
# Resetting Tsi57x ports

A port is reset by taking its power away.  Registers that lose their contents then are saved before
and written back after, together with the scratchpad of the driver.
-/

namespace RioFabric.Tsi57xPort

open Lib Dar PortConfig
open StatCounters (darFirstImpSpecError)
open RxsPort (RioPcOnePortConfig)

def pcDetPorts2Skip (code : Nat) : Nat := darFirstImpSpecError + 0x1900 + code

def tsi57xLp (code : Nat) : Nat := darFirstImpSpecError + 0x1A00 + code

/-- `reg_offsets`, with the masks. -/
def regOffsets : List (PortReg × BitVec 32) :=
  [(.ctl, 0xFFFFFFFF), (.rateEn, 0xFFFFFFFF), (.errRate, ~~~0x000000ff), (.errThresh, 0xFFFFFFFF),
    (.discoveryTimer, 0xFFFFFFFF), (.mode, 0xFFFFFFFF), (.rioWm, 0xFFFFFFFF),
    (.routeCfgDestid, 0xFFFFFFFF), (.routeBase, 0xFFFFFFFF), (.ctlIndep, 0xFFFFFFFF),
    (.silenceTimer, 0xFFFFFFFF), (.mcLatLimit, 0xFFFFFFFF), (.psc0n1Ctrl, 0xFFFFFFFF),
    (.psc2n3Ctrl, 0xFFFFFFFF), (.psc4n5Ctrl, 0xFFFFFFFF), (.txQDThresh, 0xFFFFFFFF),
    (.txQStatus, 0x0000ffff), (.txQPeriod, 0xFFFFFFFF), (.rxQDThresh, 0xFFFFFFFF),
    (.rxQStatus, 0x0000ffff), (.rxQPeriod, 0xFFFFFFFF), (.reorderCtr, 0x0000ffff),
    (.isfWm, 0xFFFFFFFF), (.wrr0, 0xFFFFFFFF), (.wrr1, 0xFFFFFFFF), (.wrr2, 0xFFFFFFFF),
    (.wrr3, 0xFFFFFFFF)]

section Programs

variable {μ δ : Type} [HasImpRc μ] (dev : Tsi57xDevice) (device : RegDevice Reg δ)
  (scratchpad : δ → Nat → BitVec 32)

/-- The ports that are left alone if the port that registers are accessed through is in use. -/
def portsToSkip (connPort : Nat) (resetPort : Bool) : List Nat :=
  if resetPort then
    if (dev.pmr connPort).laneCount4x ≠ 0 then [connPort]
    else [dev.otherMacPort connPort, connPort]
  else [connPort, dev.otherMacPort connPort]

/-- `tsi57x_determine_ports_to_skip`; an element of `ports_to_skip` that is `RIO_ALL_PORTS` is left
out. -/
def determinePortsToSkip (oobRegAcc resetPort : Bool) : Call μ δ (List Nat) := do
  if oobRegAcc ∨ dev = .tsi577 then pure []
  else do
    let swPort ← readReg device (.dev rioSwPort) (pcDetPorts2Skip 1)
    let connPort := (swPort &&& 0x000000ff).toNat
    let status ← taking (tsi57xRioPcGetStatus dev device (onePort connPort))
    if status.map (·.portOk) ≠ [true] then do
      setImpRc (pcDetPorts2Skip 2)
      pure []
    else do
      setImpRc (pcDetPorts2Skip
        (if resetPort then if (dev.pmr connPort).laneCount4x ≠ 0 then 3 else 4 else 5))
      pure (portsToSkip dev connPort resetPort)

/-- `tsi57x_preserve_regs_for_powerup`, with `do_all_regs`. -/
def preserveRegsForPowerup (pnum : Nat) : EStateM Nat (Attached μ δ) (List (BitVec 32)) :=
  regOffsets.mapM fun (reg, mask) => do
    let value ← regRead device (.port reg pnum) id
    pure (value &&& mask)

/-- A turn of the loop over the scratchpad; `scratchpad` is the array of that name in the structure
of the device. -/
def restoreTurn (idx : Nat) : EStateM Nat (Attached μ δ) Unit :=
  if (scratchpadConst idx).offset ∈ scrpadCommands then pure ()
  else do
    let state ← get
    regWrite device (.dev (scratchpadConst idx).offset) (scratchpad state.device idx) id

/-- The loop over the scratchpad, which does not end at the last element that is given. -/
def restoreScratchpad : EStateM Nat (Attached μ δ) Unit :=
  (List.range maxDarScrpadIdx).forM (restoreTurn device scratchpad)

/-- `tsi57x_restore_regs_from_powerup`; without `do_all_regs` there are no saved registers. -/
def restoreRegsFromPowerup (pnum : Nat) (saved : Option (List (BitVec 32))) :
    EStateM Nat (Attached μ δ) Unit := do
  restoreScratchpad device scratchpad
  (regOffsets.zip (saved.getD [])).forM fun ((reg, mask), value) =>
    regWrite device (.port reg pnum) (value &&& mask) id

/-- `tsi57x_reset_lp`. -/
def resetLp (pnum : Nat) : Call μ δ Unit :=
  if pnum ≥ dev.numPorts then leave (tsi57xLp (0x10 + pnum)) rioErrInvalidParameter
  else writeReg device (.port .lmReq pnum) lreqCmdRstDev (tsi57xLp (0x20 + pnum))

/-- The ports whose configuration is read. -/
def resetPtl (portNum : Nat) : DarPtl :=
  if portNum = rioAllPorts then ⟨rioAllPorts, fun _ => 0⟩
  else if (dev.pmr portNum).laneCount4x ≠ 0 ∧ dev ≠ .tsi577 then
    ⟨2, fun idx => if idx = 0 then portNum else dev.otherMacPort portNum⟩
  else onePort portNum

/-- The saved registers of a port and, if there is one that is reset with it, those of
`dep_port_num`. -/
abbrev SavedRegs := List (BitVec 32) × Option (Nat × List (BitVec 32))

/-- Save the registers of the port and of `dep_port_num`, which is found among the ports whose
configuration was read. -/
def preserveForReset (pcs : List RioPcOnePortConfig) (pnum : Nat) : Call μ δ SavedRegs := do
  let saved ← orLeave (pcResetPort 4) (preserveRegsForPowerup device pnum)
  if (dev.pmr pnum).laneCount4x ≠ 0 ∧ dev ≠ .tsi577 then
    if pcs.any fun pc => pc.pnum = pnum + 1 then do
      let depSaved ← orThrow (preserveRegsForPowerup device (pnum + 1))
      pure (saved, some (pnum + 1, depSaved))
    else leave (pcResetPort 5) RxsPort.rioErrReturnNoResult
  else pure (saved, none)

/-- Reset the link partners of the port and of `dep_port_num`, if that is asked for. -/
def resetPartners (inParms : PcResetPortIn) (pnum : Nat) (saved : Option SavedRegs) :
    Call μ δ Unit :=
  if inParms.resetLp then do
    resetLp dev device pnum
    match saved.bind (·.2) with
    | some (depPort, _) => resetLp dev device depPort
    | none => pure ()
  else pure ()

/-- Take the power of a port away and give it back. -/
def powerCycle (pnum : Nat) : Call μ δ Unit := do
  let pmr := dev.pmr pnum
  let dloop ← readReg device (.dloop (pmr.pwrMacNum * 2)) (pcResetPort 6)
  writeReg device (.dloop (pmr.pwrMacNum * 2)) (dloop ||| pmr.pwrDownMask) (pcResetPort 7)
  writeReg device (.dloop (pmr.pwrMacNum * 2)) dloop (pcResetPort 8)

/-- Write the registers of `dep_port_num` back; a failure does not end the loop. -/
def restoreDep (saved : Option SavedRegs) : Call μ δ Nat :=
  match saved.bind (·.2) with
  | some (depPort, depSaved) => do
      let rc ← rcOf (restoreRegsFromPowerup device scratchpad depPort (some depSaved))
      if rc = 0 then pure 0
      else do
        setImpRc (pcResetPort 0xA)
        pure rc
  | none => pure 0

section

variable (inParms : PcResetPortIn)

/-- Save registers if the configuration is to be preserved. -/
def savedRegs (pcs : List RioPcOnePortConfig) (pnum : Nat) :
    Call μ δ (Option SavedRegs) :=
  if inParms.preserveConfig then do
    let saved ← preserveForReset dev device pcs pnum
    pure (some saved)
  else pure none

/-- A turn of the loop for a port that is reset, which returns `rc`. -/
def resetUpPort (pcs : List RioPcOnePortConfig) (pnum : Nat) :
    Call μ δ Nat := do
  let saved ← savedRegs dev device inParms pcs pnum
  resetPartners dev device inParms pnum saved
  powerCycle dev device pnum
  orLeave (pcResetPort 9) (restoreRegsFromPowerup device scratchpad pnum (saved.map (·.1)))
  restoreDep device scratchpad saved

/-- A turn of the loop of `tsi57x_rio_pc_reset_port`. -/
def resetTurn (skip : List Nat) (pcs : List RioPcOnePortConfig) (rc : Nat)
    (pc : RioPcOnePortConfig) : Call μ δ Nat :=
  if pc.pnum ∈ skip ∨ !pc.portAvailable ∨ !pc.poweredUp then pure rc
  else resetUpPort dev device scratchpad inParms pcs pc.pnum

def tsi57xRioPcResetPort : Call μ δ Unit := do
  setImpRc 0
  if inParms.portNum ≠ rioAllPorts ∧ inParms.portNum ≥ dev.numPorts then
    leave (pcResetPort 1) rioErrInvalidParameter
  else do
    let skip ← determinePortsToSkip dev device inParms.oobRegAcc true
    setImpRc 0
    let cfgOut ← taking (tsi57xRioPcGetConfig dev device (resetPtl dev inParms.portNum))
    let rc ← cfgOut.pc.foldlM (resetTurn dev device scratchpad inParms skip cfgOut.pc) 0
    if rc ≠ 0 then throw (.code rc)

end

end Programs

end RioFabric.Tsi57xPort

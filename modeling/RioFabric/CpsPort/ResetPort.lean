import RioFabric.CpsPort.Config

/-!
# Resetting CPS ports

A port is reset after its link partner was told to reset itself, whether that was asked for or not.
-/

namespace RioFabric.CpsPort

open Lib Dar PortConfig

/-- `CPS1848_DEVICE_SOFT_RESET_COMMAND`. -/
def deviceSoftResetCommand : BitVec 32 := 0x00030097

/-- `CPS1848_DEVICE_RESET_CTL_DO_RESET`. -/
def deviceResetCtlDoReset : BitVec 32 := 0x80000000

/-- `CPS1848_PORT_X_ERR_STAT_CSR_PORT_OK`. -/
def errStatPortOk : BitVec 32 := 0x00000002

def rioStubbed : Nat := 0xffff

/-- The bit of a port in `CPS1848_DEVICE_RESET_CTL`. -/
def resetCtlPort (pnum : Nat) : BitVec 32 := 1 <<< pnum

section Programs

variable {δ : Type} (dev : CpsDevice) (device : RegDevice Reg δ)

section

variable (inParms : PcResetPortIn)

/-- The ports from `start_port` to `end_port`. -/
def portsToReset : List Nat :=
  if inParms.portNum = rioAllPorts then List.range dev.numPorts else [inParms.portNum]

/-- Reset the link partners of all ports, then the device. -/
def resetDevice : Call Nat δ Unit := do
  (portsToReset dev inParms).forM fun pnum =>
    writeReg device (.port .linkMaintReq pnum) lreqCmdRstDev (pcResetPort 0x10)
  writeReg device (.dev .softReset) deviceSoftResetCommand (pcResetPort 0x11)

/-- Reset a port, but not the one that registers are accessed through: a turn of the loop that
resets one port at a time. -/
def resetPort (pnum : Nat) : Call Nat δ Unit :=
  if !inParms.oobRegAcc ∧ inParms.regAccPort = pnum then pure ()
  else do
    writeReg device (.port .linkMaintReq pnum) lreqCmdRstDev (pcResetPort 0x20)
    writeReg device (.dev .resetCtl) (resetCtlPort pnum ||| deviceResetCtlDoReset)
      (pcResetPort 0x21)

def cpsRioPcResetPort : Call Nat δ Unit := do
  setImpRc 0
  if inParms.portNum ≠ rioAllPorts ∧ inParms.portNum ≥ dev.numPorts then
    leave (pcResetPort 1) rioErrInvalidParameter
  else if !inParms.oobRegAcc ∧ inParms.regAccPort ≥ dev.numPorts then
    leave (pcResetPort 2) rioErrInvalidParameter
  else do
    let _ ← orLeave (pcResetPort 3) (initSwPi device)
    if inParms.wholeDevice then resetDevice dev device inParms
    else (portsToReset dev inParms).forM (resetPort device inParms)
    setImpRc 0

end

/-- The ports of the link partner. -/
def lpPorts (inParms : PcClrErrsIn) : List Nat :=
  (List.range inParms.numLpPorts).map inParms.lpPortList

def numCpsPorts (info : DarDevInfo) : Nat := min info.numPorts 18

/-- `RIO_DEVI_IDT_SPS1616` or `RIO_DEVI_IDT_CPS1616`. -/
def isDevi1616 (info : DarDevInfo) : Bool := info.deviceId = 0x0378 ∨ info.deviceId = 0x0379

section

variable (inParms : PcClrErrsIn)

/-- The checks for a link partner that is a 1616, which return `RIO_SUCCESS` if they fail, and then
`cps_sps1616_port_err_clear`, which is a stub. -/
def clearErrors1616 (info : DarDevInfo) : Call Nat δ Unit :=
  if numCpsPorts info < inParms.numLpPorts then leave (pcClrErrs 3) 0
  else
    match (lpPorts inParms).findIdx? fun pnum => numCpsPorts info ≤ pnum with
    | some idx => leave (pcClrErrs (0x10 + idx)) 0
    | none => leave (pcClrErrs (0x30 + inParms.portNum + 1)) rioStubbed

/-- The link partner is a device of the vendor, and may be told to reset itself. -/
def mayResetLp (errStat : BitVec 32) : Option DarDevInfo :=
  if errStat &&& errStatPortOk ≠ 0 ∧ inParms.clrLpPortErr then
    inParms.lpDevInfo.filter fun info => (info.devID &&& rioDevIdentVend).setWidth 16 = rioVendIdt
  else none

def rstPortIn (resetLp : Bool) : PcResetPortIn :=
  ⟨inParms.portNum, true, rioAllPorts, resetLp, true⟩

def cpsRioPcClrErrs : Call Nat δ Unit := do
  setImpRc 0
  if inParms.portNum ≥ dev.numPorts then leave (pcClrErrs 1) rioErrInvalidParameter
  else do
    let regVal ← readReg device (.port .errStat inParms.portNum) (pcClrErrs 2)
    match mayResetLp inParms regVal with
    | some info => do
        if isDevi1616 info then clearErrors1616 inParms info
        taking (cpsRioPcResetPort dev device (rstPortIn inParms true))
    | none => taking (cpsRioPcResetPort dev device (rstPortIn inParms false))

end

end Programs

end RioFabric.CpsPort

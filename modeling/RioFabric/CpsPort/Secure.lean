import RioFabric.CpsPort.Config

/-!
# Securing CPS ports

A port is secured by filtering out maintenance packets, by leaving the multicast event control
symbols aside and by how it handles requests to reset.
-/

namespace RioFabric.CpsPort

open Lib Dar PortConfig
open StatCounters (darFirstImpSpecError)
open RxsPort (RioPcOnePortConfig)

/-- `rio_pc_rst_handling`; `last` stands for all values from `rio_pc_rst_last` on. -/
inductive RioPcRstHandling where
  | device | port | int | pw | ignore | last
  deriving DecidableEq

/-- `rio_pc_secure_port_in_t`. -/
structure PcSecurePortIn where
  ptl : DarPtl
  mtcPktsAllowed : Bool
  mecsParticipant : Bool
  mecsAcceptance : Bool
  rst : RioPcRstHandling

/-- `rio_pc_secure_port_out_t`. -/
structure PcSecurePortOut where
  impRc : Nat
  bcMtcPktsAllowed : Bool
  mecsParticipant : Bool
  mecsAcceptance : Bool
  rst : RioPcRstHandling
  deriving DecidableEq

instance securePortOutImpRc : HasImpRc PcSecurePortOut := ⟨fun impRc out => { out with impRc }⟩

def pcSecurePort (code : Nat) : Nat := darFirstImpSpecError + 0x700 + code

/-- `CPS1616_PORT_X_STATUS_AND_CTL_IGNORE_MC_CS`. -/
def statusIgnoreMcCs : BitVec 32 := 0x00000008

/-- `CPS1616_PORT_X_STATUS_AND_CTL_IGNORE_RST_CS`. -/
def statusIgnoreRstCs : BitVec 32 := 0x00000010

/-- `CPS1848_PORT_X_CTL_1_CSR_MCAST_CS`. -/
def ctl1McastCs : BitVec 32 := 0x00080000

/-- `CPS1848_PORT_X_OPS_FILTER_0_EN`. -/
def opsFilter0En : BitVec 32 := 0x00002000

/-- `CPS1848_DEVICE_CTL_1_PORT_RST_CTL`. -/
def deviceCtl1PortRstCtl : BitVec 32 := 0x00000001

/-- Set the bits of a mask, or clear them. -/
def setBits (mask : BitVec 32) (isSet : Bool) (regVal : BitVec 32) : BitVec 32 :=
  if isSet then regVal ||| mask else regVal &&& ~~~mask

/-- `filt_n_trace_mask_n_val_t`. -/
structure FiltNTraceMaskNVal where
  mask : BitVec 32
  value : BitVec 32

def mtcFilterOn : List FiltNTraceMaskNVal :=
  [⟨0x000F0000, 0x00080000⟩, ⟨0, 0⟩, ⟨0, 0⟩, ⟨0, 0⟩, ⟨0, 0⟩]

def mtcFilterOff : List FiltNTraceMaskNVal := [⟨0, 0⟩, ⟨0, 0⟩, ⟨0, 0⟩, ⟨0, 0⟩, ⟨0, 0⟩]

namespace PcSecurePortIn

variable (inParms : PcSecurePortIn)

def filter : List FiltNTraceMaskNVal := if inParms.mtcPktsAllowed then mtcFilterOff else mtcFilterOn

/-- An element of `filter`. -/
def block (idx : Nat) : FiltNTraceMaskNVal := inParms.filter.getD idx ⟨0, 0⟩

end PcSecurePortIn

section Programs

variable {μ δ : Type} [HasImpRc μ] (dev : CpsDevice) (device : RegDevice Reg δ)

/-- Read a register and write it back with a change. -/
def changeReg (reg : Reg) (change : BitVec 32 → BitVec 32) (readRc writeRc : Nat) :
    Call μ δ Unit := do
  let regVal ← readReg device reg readRc
  writeReg device reg (change regVal) writeRc

/-- `cps_set_int_pw_ignore_reset`; `policy` stores into `*policy_out`, and `imp` makes the `imp_rc`
from `*fail_pt`. -/
def cpsSetIntPwIgnoreReset (portNum : Nat) (policy : RioPcRstHandling → μ → μ) (imp : Nat → Nat) :
    Call μ δ Unit := do
  if dev.is1616 then do
    modifyMemory (policy .ignore)
    (if portNum = rioAllPorts then List.range dev.numPorts else [portNum]).forM fun pnum =>
      changeReg device (.port .statusAndCtl pnum) (setBits statusIgnoreRstCs true) (imp 1) (imp 2)
  else do
    modifyMemory (policy .port)
    changeReg device (.dev .deviceCtl1) (setBits deviceCtl1PortRstCtl true) (imp 3) (imp 4)

/-- A call of `CPS_rio_pc_secure_port`. -/
abbrev SecureCall (δ : Type) := Call PcSecurePortOut δ

variable (inParms : PcSecurePortIn) (pnum : Nat)

/-- Only the 1616 devices can ignore multicast event control symbols. -/
def setMecsAcceptance : SecureCall δ Unit :=
  if dev.is1616 then
    changeReg device (.port .statusAndCtl pnum) (setBits statusIgnoreMcCs (!inParms.mecsAcceptance))
      (pcSecurePort 0x10) (pcSecurePort 0x11)
  else modifyMemory fun out => { out with mecsAcceptance := true }

/-- The switch over `rst`. -/
def setRstHandling : SecureCall δ Unit :=
  match inParms.rst with
  | .device | .port =>
    changeReg device (.dev .deviceCtl1) (setBits deviceCtl1PortRstCtl (inParms.rst = .port))
      (pcSecurePort 0x20) (pcSecurePort 0x21)
  | .int | .pw | .ignore =>
    cpsSetIntPwIgnoreReset dev device pnum (fun rst out => { out with rst }) fun failPt =>
      pcSecurePort (0x22 + failPt)
  | .last => leave (pcSecurePort 0x2F) rioErrInvalidParameter

/-- The loop over the trace registers, which writes both columns of the filter to the mask. -/
def writeFilter : SecureCall δ Unit :=
  (List.range portMaxTraceRegs).forM fun idx => do
    writeReg device (.traceMask pnum 0 idx) (inParms.block idx).value (pcSecurePort (0x30 + idx))
    writeReg device (.traceMask pnum 0 idx) (inParms.block idx).mask (pcSecurePort (0x38 + idx))

/-- A turn of the loop of `CPS_rio_pc_secure_port` for a port whose registers can be accessed. -/
def securePort : SecureCall δ Unit := do
  setMecsAcceptance dev device inParms pnum
  changeReg device (.port .ctl1 pnum) (setBits ctl1McastCs inParms.mecsParticipant)
    (pcSecurePort 0x12) (pcSecurePort 0x13)
  setRstHandling dev device inParms pnum
  writeFilter device inParms pnum
  changeReg device (.port .ops pnum) (setBits opsFilter0En (!inParms.mtcPktsAllowed))
    (pcSecurePort 0x40) (pcSecurePort 0x41)

def cpsRioPcSecurePort : SecureCall δ Unit := do
  let ports ← getPortList dev inParms.ptl (pcSecurePort 1)
  let cfgOut ← taking (cpsRioPcGetConfig dev device (goodPtl ports))
  if cfgOut.pc.length = 0 then leave (pcSecurePort 3) 0
  else do
    modifyMemory fun _ =>
      { impRc := 0
        bcMtcPktsAllowed := inParms.mtcPktsAllowed
        mecsParticipant := inParms.mecsParticipant
        mecsAcceptance := inParms.mecsAcceptance
        rst := inParms.rst }
    (ports.zip cfgOut.pc).forM fun (pnum, pc) =>
      if pc.portAvailable ∧ pc.poweredUp then securePort dev device inParms pnum else pure ()

end Programs

end RioFabric.CpsPort

import Mathlib.Data.Fintype.Pi
import RioFabric.Tsi57xPort.ResetPort

/-!
# Configuring Tsi57x ports

The new values of the registers of all MACs and ports are computed first.  A MAC whose register
changes is powered down, set, and powered up again; registers that lose their contents then are
saved before and written back after.
-/

namespace RioFabric.Tsi57xPort

open Lib Dar PortConfig
open StatCounters (darFirstImpSpecError)
open RxsPort (RioPcPw RioPcLs RioLaneSwap RioPcOnePortConfig PcGetConfigOut
  rioMaxPortLanes)

/-- `rio_pc_set_config_in_t`, as far as it is used. -/
structure PcSetConfigIn where
  lrto : Nat
  oobRegAcc : Bool
  numPorts : Nat
  pc : Nat → RioPcOnePortConfig

def pcSetConfig (code : Nat) : Nat := darFirstImpSpecError + 0x200 + code

/-- `in_parms_sorted`: the configuration that is asked for a port, if one is, which is what `valid`
says. -/
abbrev Sorted := Nat → Option RioPcOnePortConfig

/-- The lanes are not swapped. -/
def unswapped (pc : RioPcOnePortConfig) : Bool :=
  pc.txLswap = .none ∧ pc.rxLswap = .none

/-- The lane speed is one that the devices have. -/
def supportedLs (ls : RioPcLs) : Bool := ls = .ls1p25 ∨ ls = .ls2p5 ∨ ls = .ls3p125

/-- What a test says: the code and the `imp_rc` to leave with, or nothing. -/
abbrev Verdict := Option (Nat × Nat)

/-- `tsi57x_set_config_init_parms_check_conflicts_all_ports`, the tests. -/
def checkAllPorts (pc : RioPcOnePortConfig) : Verdict :=
  if pc.pw = .last ∨ pc.pw = .pw2x ∨ pc.pw = .pw1xL1 ∨ !supportedLs pc.ls then
    some (rioErrFeatureNotSupported, pcSetConfig 0x50)
  else if pc.pw = .pw1x ∧ (!unswapped pc ∨ pc.txLinvert 0 ∨ pc.rxLinvert 0) then
    some (rioErrFeatureNotSupported, pcSetConfig 0x51)
  else none

/-- A port that is made unavailable; the rest of its configuration is not set. -/
def unavailable (uninit : Nat → RioPcOnePortConfig) (pnum : Nat) : RioPcOnePortConfig :=
  { uninit pnum with pnum := pnum, portAvailable := false, poweredUp := false }

/-- `tsi57x_set_config_init_parms_check_conflicts_all_ports`, what is asked for each port. -/
def sortAllPorts (dev : Tsi57xDevice) (uninit : Nat → RioPcOnePortConfig)
    (pc : RioPcOnePortConfig) : Sorted := fun pnum =>
  if pnum ≥ dev.numPorts then none
  else if pc.pw = .pw1x then some pc
  else if pnum % 2 = 0 ∧ (dev.pmr pnum).laneCount4x ≠ 0 then some pc
  else some (unavailable uninit pnum)

/-- The loop that sorts the configurations that are asked for. -/
def sortPorts (dev : Tsi57xDevice) : List RioPcOnePortConfig → Sorted → Option Sorted
  | [], sorted => some sorted
  | pc :: rest, sorted =>
    if dev.numPorts ≤ pc.pnum ∨ (sorted pc.pnum).isSome then none
    else sortPorts dev rest (Function.update sorted pc.pnum (some pc))

/-- The tests of a 4x port and one that shares its MAC. -/
def checkOther (dev : Tsi57xDevice) (pc other : RioPcOnePortConfig) : Verdict :=
  if pc.portAvailable ∧ pc.pw ≠ .pw1x ∧ other.portAvailable then
    some (rioErrInvalidParameter, pcSetConfig 0x34)
  else if !pc.poweredUp ∧ other.portAvailable ∧ other.poweredUp ∧ dev ≠ .tsi577 then
    some (rioErrInvalidParameter, pcSetConfig 0x35)
  else if pc.portAvailable ∧ other.portAvailable ∧ pc.ls ≠ other.ls then
    some (rioErrFeatureNotSupported, pcSetConfig 0x36)
  else if (pc.pw = .pw1x ∨ pc.pw = .pw1xL0 ∨ pc.pw = .pw1xL2) ∧ !unswapped pc then
    some (rioErrFeatureNotSupported, pcSetConfig 0x37)
  else none

/-- The tests of a port. -/
def checkPort (dev : Tsi57xDevice) (sorted : Sorted) (pnum : Nat) : Verdict :=
  match sorted pnum with
  | none => none
  | some pc =>
    if !supportedLs pc.ls ∨ pc.pw = .pw2x ∨ pc.pw = .pw1xL1 then
      some (rioErrFeatureNotSupported, pcSetConfig 0x32)
    else if pc.pw = .last then some (rioErrInvalidParameter, pcSetConfig 0x33)
    else if (dev.pmr pnum).laneCount4x = 4 then
      (dev.pmr pnum).otherMacPorts.findSome? fun other =>
        (sorted other).bind (checkOther dev pc)
    else none

/-- What is asked for, unless a test says something. -/
def orVerdict (verdict : Verdict) (sorted : Sorted) : Except (Nat × Nat) Sorted :=
  match verdict with
  | some stop => .error stop
  | none => .ok sorted

/-- `tsi57x_set_config_init_parms_check_conflict`, after the registers of the lanes were read;
`uninit` is what `in_parms_sorted` holds before it is set. -/
def sortParms (dev : Tsi57xDevice) (uninit : Nat → RioPcOnePortConfig) (inParms : PcSetConfigIn) :
    Except (Nat × Nat) Sorted :=
  if inParms.numPorts = rioAllPorts then
    orVerdict (checkAllPorts (inParms.pc 0)) (sortAllPorts dev uninit (inParms.pc 0))
  else if inParms.numPorts ≥ dev.numPorts then .error (rioErrInvalidParameter, pcSetConfig 0x99)
  else
    match sortPorts dev ((List.range inParms.numPorts).map inParms.pc) fun _ => none with
    | none => .error (rioErrInvalidParameter, pcSetConfig 0x31)
    | some sorted => orVerdict ((List.range dev.numPorts).findSome? (checkPort dev sorted)) sorted

/-- The part of `port_cfg_chg_t` for MACs and ports. -/
structure CtlRegs where
  dloopCtl : Nat → BitVec 32
  spxCtl : Nat → BitVec 32

/-- The part of `port_cfg_chg_t` for lanes. -/
structure LaneRegs where
  regs : Nat → Nat → BitVec 32
  changed : Nat → Nat → Bool

/-- Set the bits of a mask, or clear them. -/
def setBits (on : Bool) (mask value : BitVec 32) : BitVec 32 :=
  if on then value ||| mask else value &&& ~~~mask

/-- The value of `rio_pc_ls_t` in `TSI578_SMACX_DLOOP_CLK_SEL_CLK_SEL`; the other speeds are not
supported. -/
def lsBits (ls : RioPcLs) : BitVec 32 :=
  match ls with
  | .ls1p25 => 0
  | .ls2p5 => 1
  | _ => 2

/-- The override of the width of a 4x port. -/
def overBits (pw : RioPcPw) : BitVec 32 :=
  match pw with
  | .pw4x | .pw1x => 0x00000000
  | .pw1xL0 => 0x02000000
  | _ => 0x03000000

/-- The register of the MAC of a 4x port that is powered up. -/
def macBits (pc : RioPcOnePortConfig) (dloop : BitVec 32) : BitVec 32 :=
  let moded := setBits (pc.pw = .pw1x) dloopMacMode dloop
  let swapped :=
    if pc.pw = .pw4x then
      setBits (pc.rxLswap ≠ .none) dloopSwapRx (setBits (pc.txLswap ≠ .none) dloopSwapTx moded)
    else moded &&& ~~~(dloopSwapRx ||| dloopSwapTx)
  swapped &&& ~~~dloopClkSel ||| lsBits pc.ls

/-- The control register of a port. -/
def ctlBits (pc : RioPcOnePortConfig) (spxCtl : BitVec 32) : BitVec 32 :=
  setBits pc.nmtcXferEnable (ctlInputEn ||| ctlOutputEn)
    (setBits pc.portLockout ctlPortLockout (setBits pc.xmitterDisable ctlPortDis spxCtl))

/-- The value that the control register of a port has when it is powered up. -/
def spxCtlPowerup : BitVec 32 := 0x00600001

section

variable (dev : Tsi57xDevice)

/-- The register of a MAC with the power-down bit of a port set or cleared. -/
def powerBits (pnum : Nat) (pc : RioPcOnePortConfig) (dloop : BitVec 32) :
    BitVec 32 :=
  setBits (!pc.poweredUp) (dev.pmr pnum).pwrDownMask dloop

/-- The register of the MAC of a port for the configuration that is asked for. -/
def newDloop (pnum : Nat) (pc : RioPcOnePortConfig) (dloop : BitVec 32) :
    BitVec 32 :=
  if (dev.pmr pnum).laneCount4x ≠ 0 ∧ pc.poweredUp then macBits pc (powerBits dev pnum pc dloop)
  else powerBits dev pnum pc dloop

/-- The control register of a port before its bits are set; that of a port that is powered up is not
the one that was read. -/
def startSpxCtl (pnum : Nat) (pc : RioPcOnePortConfig)
    (dloop spxCtl : BitVec 32) : BitVec 32 :=
  if powerBits dev pnum pc dloop ≠ dloop ∧ pc.poweredUp then spxCtlPowerup else spxCtl

/-- The control register of a port for the configuration that is asked for. -/
def newSpxCtl (pnum : Nat) (pc : RioPcOnePortConfig) (start : BitVec 32) :
    BitVec 32 :=
  if (dev.pmr pnum).laneCount4x ≠ 0 ∧ pc.poweredUp then
    ctlBits pc (start &&& ~~~ctlPtwOver ||| overBits pc.pw)
  else ctlBits pc start

/-- The registers of a port and its MAC for the configuration that is asked for. -/
def applyPort (pnum : Nat) (pc : RioPcOnePortConfig) (ctl : CtlRegs) :
    CtlRegs :=
  let mac := (dev.pmr pnum).macNum
  let dloop := ctl.dloopCtl mac
  { dloopCtl := Function.update ctl.dloopCtl mac (newDloop dev pnum pc dloop)
    spxCtl := Function.update ctl.spxCtl pnum
      (newSpxCtl dev pnum pc (startSpxCtl dev pnum pc dloop (ctl.spxCtl pnum))) }

end

/-- `change_requested`: something else is asked for than what is configured.  The structures are
compared byte by byte; `padding` says which differ in bytes that belong to no field. -/
def changeRequested (padding : Nat → Bool) (current : Nat → RioPcOnePortConfig) (pnum : Nat)
    (pc : RioPcOnePortConfig) : Prop :=
  current pnum ≠ pc ∨ padding pnum

deriving instance DecidableEq for RioPcOnePortConfig

instance (padding : Nat → Bool) (current : Nat → RioPcOnePortConfig) (pnum : Nat)
    (pc : RioPcOnePortConfig) : Decidable (changeRequested padding current pnum pc) :=
  inferInstanceAs (Decidable (_ ∨ _))

/-- A turn of the loop of `tsi57x_compute_port_config_changes`. -/
def changePort (dev : Tsi57xDevice) (padding : Nat → Bool) (current : Nat → RioPcOnePortConfig)
    (sorted : Sorted) (ctl : CtlRegs) (pnum : Nat) : CtlRegs :=
  match sorted pnum with
  | some pc => if changeRequested padding current pnum pc then applyPort dev pnum pc ctl else ctl
  | none => ctl

/-- `tsi57x_computer_lane_reg`. -/
def computerLaneReg (mac laneNum : Nat) (txLinvert rxLinvert : Bool) (lanes : LaneRegs) :
    LaneRegs :=
  let regVal :=
    setBits rxLinvert serdesRxInv (setBits txLinvert serdesTxInv (lanes.regs mac laneNum))
  if regVal ≠ lanes.regs mac laneNum then
    { regs := Function.update lanes.regs mac (Function.update (lanes.regs mac) laneNum regVal)
      changed := Function.update lanes.changed mac
        (Function.update (lanes.changed mac) laneNum true) }
  else lanes

/-- A turn of the loop over the lanes. -/
def changeLanes (dev : Tsi57xDevice) (sorted : Sorted) (lanes : LaneRegs) (pnum : Nat) : LaneRegs :=
  let pmr := dev.pmr pnum
  match sorted pnum with
  | some pc =>
    if !pc.portAvailable ∨ !pc.poweredUp then lanes
    else if pc.pw = .pw4x then
      (List.finRange rioMaxPortLanes).foldl (fun lanes lane =>
        computerLaneReg pmr.macNum lane.val (pc.txLinvert lane) (pc.rxLinvert lane) lanes) lanes
    else computerLaneReg pmr.macNum pmr.firstMacLane (pc.txLinvert 0) (pc.rxLinvert 0) lanes
  | none => lanes

def tsi578MaxMac : Nat := 8

section Programs

variable {μ δ : Type} [HasImpRc μ] (dev : Tsi57xDevice) (device : RegDevice Reg δ)
  (scratchpad : δ → Nat → BitVec 32)

/-- The registers of lanes that are read. -/
def laneCells : List (Nat × Nat) :=
  (List.range dev.numPorts).flatMap fun pnum =>
    if (dev.pmr pnum).laneCount4x ≠ 0 then
      (List.range rioMaxPortLanes).map fun lane => ((dev.pmr pnum).macNum, lane)
    else []

/-- `tsi57x_set_config_init_parms_check_conflict`, the loop that reads the lane registers. -/
def readLaneRegs : Call μ δ LaneRegs := do
  let values ← (laneCells dev).mapM fun (mac, lane) =>
    readReg device (.serdes mac lane) (pcSetConfig 0x30)
  let regs (mac lane : Nat) := (((laneCells dev).zip values).lookup (mac, lane)).getD 0
  pure { regs := regs, changed := fun _ _ => false }

/-- Make another call; if it fails, take its `imp_rc` over and leave with a code of the caller. -/
def takingWith {α : Type} (rc : Nat) (program : Call Nat δ α) : Call μ δ α := fun state =>
  match program ⟨0, state.device⟩ with
  | .ok value after => .ok value ⟨state.memory, after.device⟩
  | .error (.code _) after =>
    .error (.code rc) ⟨HasImpRc.setImpRc after.memory state.memory, after.device⟩
  | .error .outOfBounds after => .error .outOfBounds ⟨state.memory, after.device⟩

/-- Call a function that does not report; if it fails, put its code in `imp_rc` and leave with
another one. -/
def orSwap {α : Type} (rc : Nat) (program : EStateM Nat (Attached μ δ) α) :
    Call μ δ α := fun state =>
  match program state with
  | .ok value after => .ok value after
  | .error impRc after =>
    .error (.code rc) { after with memory := HasImpRc.setImpRc impRc after.memory }

/-- `curr_cfg_out`: the configuration of all ports. -/
def readConfigs : Call μ δ (Nat → RioPcOnePortConfig) := do
  let out ← takingWith (pcSetConfig 0x22)
    (tsi57xRioPcGetConfig dev device ⟨rioAllPorts, fun _ => 0⟩)
  pure fun pnum => out.pc.getD pnum (downConfig pnum)

/-- The loops of `tsi57x_compute_port_config_changes` that read the values of the registers. -/
def readCtlRegs : Call μ δ CtlRegs := do
  let dloops ← (List.range tsi578MaxMac).mapM fun mac =>
    readReg device (.dloop (mac * 2)) (pcSetConfig 0x23)
  let spxCtls ← (List.range dev.numPorts).mapM fun pnum =>
    orSwap (pcSetConfig 0x24) (regRead device (.port .ctl pnum) id)
  pure { dloopCtl := fun mac => dloops.getD mac 0, spxCtl := fun pnum => spxCtls.getD pnum 0 }

end Programs

/-- `port_cfg_chg_t`: what is to be written, and what the registers hold. -/
structure PortCfgChg where
  sorted : Sorted
  orig : CtlRegs
  ctl : CtlRegs
  lanes : LaneRegs

namespace PortCfgChg

variable (chg : PortCfgChg)

def lanesChanged (mac : Nat) : Bool := (List.range rioMaxPortLanes).any (chg.lanes.changed mac)

/-- The MAC is powered down and set. -/
def macChanged (mac : Nat) : Prop :=
  chg.orig.dloopCtl mac ≠ chg.ctl.dloopCtl mac ∨ chg.lanesChanged mac

instance (mac : Nat) : Decidable (chg.macChanged mac) := inferInstanceAs (Decidable (_ ∨ _))

def powerdownMask (mac : Nat) : BitVec 32 :=
  if (chg.orig.dloopCtl mac ^^^ chg.ctl.dloopCtl mac) &&& ~~~pwdnX1 ≠ 0 ∨ chg.lanesChanged mac then
    pwdnX4 ||| pwdnX1
  else pwdnX1

end PortCfgChg

/-- What `tsi57x_compute_port_config_changes` computes. -/
def computePortConfigChanges (dev : Tsi57xDevice) (padding : Nat → Bool)
    (current : Nat → RioPcOnePortConfig) (sorted : Sorted) (orig : CtlRegs) (lanes : LaneRegs) :
    PortCfgChg where
  sorted := sorted
  orig := orig
  ctl := (List.range dev.numPorts).foldl (changePort dev padding current sorted) orig
  lanes := (List.range dev.numPorts).foldl (changeLanes dev sorted) lanes

/-- `restore_all_4x` and `restore_all_1x`, which are never reset. -/
structure RestoreAll where
  all4x : Bool
  all1x : Bool

/-- What the locals that are not set hold: the configurations that are asked for, the bytes of
structures that belong to no field, and the registers that were not saved. -/
structure Uninit where
  config : Nat → RioPcOnePortConfig
  padding : Nat → Bool
  savedRegs : Nat → List (BitVec 32)

section Call

variable {μ δ : Type} [HasImpRc μ] (dev : Tsi57xDevice) (device : RegDevice Reg δ)
  (scratchpad : δ → Nat → BitVec 32) (uninit : Uninit) (chg : PortCfgChg)

/-- Save the registers of a port if it is powered up. -/
def preserveIf (up : Bool) (pnum impRc : Nat) : Call μ δ (List (BitVec 32)) :=
  if up then orLeave impRc (preserveRegsForPowerup device pnum)
  else pure (uninit.savedRegs pnum)

/-- Write the registers of a port back if it is powered up. -/
def restoreIf (up all : Bool) (pnum : Nat) (saved : List (BitVec 32)) (impRc : Nat) :
    Call μ δ Unit :=
  if up then
    orLeave impRc (restoreRegsFromPowerup device scratchpad pnum (if all then some saved else none))
  else pure ()

/-- `tsi57x_update_lane_inversions`. -/
def updateLaneInversions (mac : Nat) : EStateM Nat (Attached μ δ) Unit :=
  (List.range rioMaxPortLanes).forM fun lane =>
    if chg.lanes.changed mac lane then
      regWrite device (.serdes mac lane) (chg.lanes.regs mac lane) id
    else pure ()

/-- Power a MAC down, set it, and power it up again. -/
def setMac (restoreAll : RestoreAll) (portNum : Nat) : Call μ δ RestoreAll := do
  let mac := (dev.pmr portNum).macNum
  let orig := chg.orig.dloopCtl mac
  let dloop := chg.ctl.dloopCtl mac
  let mask := chg.powerdownMask mac
  let up4x : Bool := orig &&& pwdnX4 = 0
  let up1x : Bool := orig &&& pwdnX1 = 0
  let all : RestoreAll := ⟨restoreAll.all4x || up4x, restoreAll.all1x || up1x⟩
  let evenRegs ← preserveIf device uninit up4x portNum (pcSetConfig 0x43)
  let oddRegs ← preserveIf device uninit up1x (portNum + 1) (pcSetConfig 0x44)
  writeReg device (.dloop portNum) (orig ||| mask) (pcSetConfig 0x46)
  writeReg device (.dloop portNum) (dloop ||| mask) (pcSetConfig 0x47)
  writeReg device (.dloop portNum) dloop (pcSetConfig 0x49)
  restoreIf device scratchpad (dloop &&& pwdnX4 = 0) all.all4x portNum evenRegs (pcSetConfig 0x4A)
  orLeave (pcSetConfig 0x48) (updateLaneInversions device chg mac)
  restoreIf device scratchpad (dloop &&& pwdnX1 = 0) all.all1x (portNum + 1) oddRegs
    (pcSetConfig 0x4B)
  pure all

/-- Set `PORT_DIS`, `PORT_LOCKOUT`, and `INPUT/OUTPUT_ENABLE` as requested. -/
def writeSpxCtl (pnum : Nat) : Call μ δ Unit :=
  if (chg.sorted pnum).isSome ∧ chg.ctl.spxCtl pnum ≠ chg.orig.spxCtl pnum then
    writeReg device (.port .ctl pnum) (chg.ctl.spxCtl pnum) (pcSetConfig 0x4C)
  else pure ()

/-- Set a MAC if something changed. -/
def setMacIf (restoreAll : RestoreAll) (portNum : Nat) : Call μ δ RestoreAll :=
  if chg.macChanged (dev.pmr portNum).macNum then
    setMac dev device scratchpad uninit chg restoreAll portNum
  else pure restoreAll

/-- A turn of the loop that implements the changes. -/
def setPorts (restoreAll : RestoreAll) (portNum : Nat) : Call μ δ RestoreAll := do
  let restoreAll ← setMacIf dev device scratchpad uninit chg restoreAll portNum
  writeSpxCtl device chg portNum
  writeSpxCtl device chg (portNum + 1)
  pure restoreAll

/-- The ports that have an even number. -/
def evenPorts : List Nat := (List.range (dev.numPorts / 2)).map (· * 2)

def tsi57xSetLrto (lrto : Nat) : EStateM Nat (Attached μ δ) Unit :=
  regWrite device (.dev rioSwLtCtl)
    (BitVec.ofNat 32 (max 1 (min 0xFFFFFF (lrto * 10 % 2 ^ 32 / 32))) <<< 8) id

/-- The ports whose configuration is returned. -/
def configuredPtl (inParms : PcSetConfigIn) : DarPtl :=
  if inParms.numPorts = rioAllPorts then ⟨rioAllPorts, fun _ => 0⟩
  else
    let ports := (List.range dev.numPorts).filter fun pnum => (chg.sorted pnum).isSome
    ⟨ports.length, fun idx => ports.getD idx 0⟩

/-- The ports that are skipped are not configured. -/
def without (skip : List Nat) (sorted : Sorted) : Sorted := fun pnum =>
  if pnum ∈ skip then none else sorted pnum

/-- Leave if the request is not valid. -/
def orLeaveSort (sorted : Except (Nat × Nat) Sorted) : Call μ δ Sorted :=
  match sorted with
  | .ok sorted => pure sorted
  | .error (rc, impRc) => leave impRc rc

/-- What is to be written. -/
def computeChanges (inParms : PcSetConfigIn) : Call μ δ PortCfgChg := do
  let lanes ← readLaneRegs dev device
  let sorted ← orLeaveSort (sortParms dev uninit.config inParms)
  let skip ← determinePortsToSkip dev device inParms.oobRegAcc false
  let current ← readConfigs dev device
  let orig ← readCtlRegs dev device
  pure (computePortConfigChanges dev uninit.padding current (without skip sorted) orig lanes)

def tsi57xRioPcSetConfig (inParms : PcSetConfigIn) : Call μ δ PcGetConfigOut := do
  setImpRc 0
  if inParms.numPorts > dev.numPorts ∧ inParms.numPorts ≠ rioAllPorts then
    leave (pcSetConfig 0x40) rioErrInvalidParameter
  else do
    let chg ← computeChanges dev device uninit inParms
    let _ ← (evenPorts dev).foldlM (setPorts dev device scratchpad uninit chg) ⟨false, false⟩
    orLeave (pcSetConfig 0x42) (tsi57xSetLrto device inParms.lrto)
    tsi57xRioPcGetConfig dev device (configuredPtl dev chg inParms)

end Call

end RioFabric.Tsi57xPort

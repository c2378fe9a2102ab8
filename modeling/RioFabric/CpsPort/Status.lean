import RioFabric.CpsPort.ResetPort
import RioFabric.RxsPort.Status

/-!
# The status of CPS ports

A port that has lanes is asked whether its link is up; only if it is are the other registers of the
port read.
-/

namespace RioFabric.CpsPort

open Lib Dar PortConfig
open RxsPort (RioPcPw RioPcOnePortStatus pcGetStatus)

/-- `CPS1848_PORT_X_ERR_STAT_CSR_PORT_ERR`. -/
def errStatPortErr : BitVec 32 := 0x00000004

/-- `CPS1848_PORT_X_ERR_STAT_CSR_INPUT_ERR_STOP`. -/
def errStatInputErrStop : BitVec 32 := 0x00000100

/-- `CPS1848_PORT_X_ERR_STAT_CSR_OUTPUT_ERR_STOP`. -/
def errStatOutputErrStop : BitVec 32 := 0x00010000

/-- `CPS1848_PORT_X_ERR_STAT_CSR_OUTPUT_FAIL`. -/
def errStatOutputFail : BitVec 32 := 0x02000000

/-- `CPS1848_PORT_X_ERR_STAT_CSR_IDLE_SEQ`. -/
def errStatIdleSeq : BitVec 32 := 0x20000000

/-- `CPS1848_PORT_X_CTL_1_CSR_DROP_PKT_EN`. -/
def ctl1DropPktEn : BitVec 32 := 0x00000004

/-- `CPS1848_PORT_X_CTL_1_CSR_INIT_PWIDTH`. -/
def ctl1InitPwidth : BitVec 32 := 0x38000000

/-- `CPS1848_PORT_X_STATUS_AND_CTL_RX_FC`. -/
def statusAndCtlRxFc : BitVec 32 := 0x00000001

/-- `CPS1848_PORT_X_IMPL_SPEC_ERR_DET_MANY_RETRY`. -/
def implSpecErrDetManyRetry : BitVec 32 := 0x00100000

/-- `CPS1848_PORT_X_IMPL_SPEC_ERR_DET`. -/
def implSpecErrDet (pnum : Nat) : Reg := .other (0xf40008 + 0x100 * pnum)

def cpsMaxPorts : Nat := 18

/-- The width that a link was initialised with. -/
def initPwOf (numLanes : Nat) (ctl1 : BitVec 32) : RioPcPw :=
  let init := ctl1 &&& ctl1InitPwidth
  if init = RxsPort.ctlPtwInit1xL0 then if numLanes = 1 then .pw1x else .pw1xL0
  else if init = RxsPort.ctlPtwInit1xLr then if numLanes = 2 then .pw1xL1 else .pw1xL2
  else if init = RxsPort.ctlPtwInit2x then .pw2x
  else if init = RxsPort.ctlPtwInit4x then .pw4x
  else .last

/-- The status of a port whose link is not up. -/
def downStatus (pnum : Nat) (cfg : PQCfg) : RioPcOnePortStatus where
  pnum := pnum
  portOk := false
  pw := .last
  fc := .last
  iseq := .last
  portError := false
  inputStopped := false
  outputStopped := false
  numLanes := cfg.laneCount
  firstLane := cfg.firstLane ≠ 0

/-- The status of a port whose link is up. -/
def upStatus (pnum : Nat) (cfg : PQCfg) (errStat ctl1 statCtl errDet : BitVec 32) :
    RioPcOnePortStatus where
  pnum := pnum
  portOk := true
  pw := initPwOf cfg.laneCount ctl1
  fc := if statCtl &&& statusAndCtlRxFc ≠ 0 then .rx else .tx
  iseq := if errStat &&& errStatIdleSeq ≠ 0 then .two else .one
  portError := errStat &&& errStatPortErr ≠ 0 ∨
    (errStat &&& errStatOutputFail ≠ 0 ∧ ctl1 &&& ctl1DropPktEn ≠ 0) ∨
    errDet &&& implSpecErrDetManyRetry ≠ 0
  inputStopped := errStat &&& errStatInputErrStop ≠ 0
  outputStopped := errStat &&& errStatOutputErrStop ≠ 0
  numLanes := cfg.laneCount
  firstLane := cfg.firstLane ≠ 0

section GetStatus

variable {μ δ : Type} [HasImpRc μ] (dev : CpsDevice) (device : RegDevice Reg δ)

/-- A turn of the loop of `CPS_rio_pc_get_status`, for a configuration of the quadrants. -/
def getPortStatus (quadCfg : BitVec 32) (pnum : Nat) : Call μ δ RioPcOnePortStatus := do
  let cfg := dev.portCfg pnum (dev.quadCfgVal quadCfg (dev.quadrant pnum))
  if cfg.laneCount = 0 then pure (downStatus pnum cfg)
  else do
    let errStat ← readReg device (.port .errStat pnum) (pcGetStatus 4)
    if errStat &&& errStatPortOk = 0 then pure (downStatus pnum cfg)
    else do
      let ctl1 ← readReg device (.port .ctl1 pnum) (pcGetStatus 4)
      let statCtl ← readReg device (.port .statusAndCtl pnum) (pcGetStatus 5)
      let errDet ← readReg device (implSpecErrDet pnum) (pcGetStatus 4)
      pure (upStatus pnum cfg errStat ctl1 statCtl errDet)

def cpsRioPcGetStatus (ptl : DarPtl) : Call μ δ (List RioPcOnePortStatus) := do
  setImpRc 0
  let ports ← getPortList dev ptl (pcGetStatus 1)
  -- the code is that of the port list, which was made
  if ports.length > cpsMaxPorts then leave (pcGetStatus 1) 0
  else do
    let quadCfg ← orLeave (pcGetStatus 3) (initSwPi device)
    ports.mapM (getPortStatus dev device quadCfg)

end GetStatus

/-- The status of a port, from what the registers hold. -/
def statusAt (dev : CpsDevice) (values : Reg → BitVec 32) (pnum : Nat) : RioPcOnePortStatus :=
  let cfg := cfgAt dev values pnum
  let errStat := values (.port .errStat pnum)
  if cfg.laneCount = 0 then downStatus pnum cfg
  else if errStat &&& errStatPortOk = 0 then downStatus pnum cfg
  else upStatus pnum cfg errStat (values (.port .ctl1 pnum)) (values (.port .statusAndCtl pnum))
    (values (implSpecErrDet pnum))

@[simp] theorem pnum_statusAt {dev : CpsDevice} {values : Reg → BitVec 32} {pnum : Nat} :
    (statusAt dev values pnum).pnum = pnum := by
  simp only [statusAt]
  repeat' split
  all_goals rfl

section Reads

variable {μ δ : Type} [HasImpRc μ] {dev : CpsDevice} {device : RegDevice Reg δ}
  {Inv : δ → Prop} {fails : Prop} {values : Reg → BitVec 32}

theorem getPortList_meets {ptl : DarPtl} {impRc : Nat} :
    Meets (fun state => Inv state.device) (getPortList dev ptl impRc : Call μ δ (List Nat))
      (fun ports state => dev.getPortList ptl = .ok ports ∧ Inv state.device)
      fun _ state => Inv state.device := by
  unfold getPortList
  split
  next ports made => exact Meets.pure fun _ before => ⟨made, before⟩
  next => exact leave_meets fun _ before => before
  next => exact Meets.throw fun _ before => before

theorem getPortStatus_reads (tells : device.Tells Inv values fails) (pnum : Nat) :
    Reads Inv fails
      (getPortStatus dev device (values (.dev .quadCfg)) pnum : Call μ δ RioPcOnePortStatus)
      (statusAt dev values pnum) := by
  apply Reads.ite
  · exact fun _ => Reads.pure _
  · intro _
    apply (readReg_reads tells).bind
    apply Reads.ite
    · exact fun _ => Reads.pure _
    · intro _
      apply (readReg_reads tells).bind
      apply (readReg_reads tells).bind
      apply (readReg_reads tells).bind
      exact Reads.pure _

/-- A call that succeeds reports the status of each port of its list. -/
theorem cpsRioPcGetStatus_meets (tells : device.Tells Inv values fails) (ptl : DarPtl) :
    Meets (fun state => Inv state.device)
      (cpsRioPcGetStatus dev device ptl : Call μ δ (List RioPcOnePortStatus))
      (fun statuses state => Inv state.device ∧ ∃ ports,
        dev.getPortList ptl = .ok ports ∧ statuses = ports.map (statusAt dev values))
      fun _ state => Inv state.device := by
  apply Meets.bind setImpRc_preserves
  intro _
  apply Meets.bind getPortList_meets
  intro ports
  apply Meets.assume
  intro made
  apply Meets.ite
  · exact fun _ => leave_meets fun _ before => before
  · intro _
    apply (orLeave_reads tells.regRead).bindMeets (fun _ _ _ before => before)
    apply (Reads.mapM fun pnum _ => getPortStatus_reads tells pnum).weaken
    · exact fun _ before => before
    · exact fun statuses state each => ⟨each.2, ports, made, each.1⟩
    · exact fun _ _ failed => failed.2

end Reads

end RioFabric.CpsPort

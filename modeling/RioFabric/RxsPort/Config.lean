import RioFabric.RxsPort.Clock
import RioFabric.StatCounters.Rxs

/-!
# The configuration of RXS ports

What the registers of a port say about its configuration, and the call that reads it for a list of
ports.
-/

namespace RioFabric.RxsPort

open Lib Dar
open StatCounters (darFirstImpSpecError numRxsPorts)

/-- How a call ends early: with a code, which is 0 where the driver leaves with that of an access
that succeeded, or with an access outside of a port list. -/
inductive PcStop where
  | code (rc : Nat)
  | outOfBounds
  deriving DecidableEq

/-- A call that reports to `imp_rc` of its result, which is all the memory there is. -/
abbrev PcProgram (δ : Type) := EStateM PcStop (Attached Nat δ)

section Calls

variable {δ α : Type} {impRc : Nat} {Post : α → Attached Nat δ → Prop} {called : RcProgram Nat δ α}

def setImpRc (impRc : Nat) : PcProgram δ Unit := modifyMemory fun _ => impRc

/-- Set `imp_rc` and leave with a code. -/
def leave (impRc rc : Nat) : PcProgram δ α := do
  setImpRc impRc
  throw (.code rc)

/-- Call a function; if it fails, set `imp_rc` and leave with its code. -/
def orLeave (impRc : Nat) (program : RcProgram Nat δ α) : PcProgram δ α := fun state =>
  match program state with
  | .ok value after => .ok value after
  | .error rc after => .error (.code rc) { after with memory := impRc }

/-- Call a function and go on with the code that it returns. -/
def attempt (program : PcProgram δ Unit) : PcProgram δ Nat := fun state =>
  match program state with
  | .ok () after => .ok 0 after
  | .error (.code rc) after => .ok rc after
  | .error .outOfBounds after => .error .outOfBounds after

/-- `DARrioGetPortList` within a call. -/
def getPortList (numPorts : Nat) (ptl : DarPtl) (impRc : Nat) : PcProgram δ (List Nat) :=
  match darDbRioGetPortList numPorts ptl with
  | .ok ports => pure ports
  | .error (.code rc) => leave impRc rc
  | .error .outOfBounds => throw .outOfBounds

variable {program : PcProgram δ Unit} {Pre : Attached Nat δ → Prop}
  {Fail : PcStop → Attached Nat δ → Prop}

theorem leave_meets {rc : Nat}
    (holds : ∀ state, Pre state → Fail (.code rc) { state with memory := impRc }) :
    Meets Pre (leave impRc rc) Post Fail := by
  have set : Meets Pre (setImpRc impRc) (fun _ => Fail (.code rc)) Fail := Meets.modify holds
  exact Meets.bind set fun _ => Meets.throw fun _ fails => fails

theorem orLeave_meets {FailRc : Nat → Attached Nat δ → Prop} (meets : Meets Pre called Post FailRc)
    (leaves : ∀ rc state, FailRc rc state → Fail (.code rc) { state with memory := impRc }) :
    Meets Pre (orLeave impRc called) Post Fail := by
  apply meets.called (fun state => state) fun _ before => before
  intro state
  unfold orLeave
  cases called state with
  | ok value after => exact fun ends => ends
  | error rc after => exact leaves rc after

theorem orLeave_succeeds (meets : Meets Pre called Post fun _ _ => False) :
    Meets Pre (orLeave impRc called) Post Fail :=
  orLeave_meets meets fun _ _ never => never.elim

theorem attempt_meets {Post : Nat → Attached Nat δ → Prop}
    (meets : Meets Pre program (fun _ => Post 0) fun stop state =>
      (∀ rc, stop = .code rc → Post rc state) ∧ (stop = .outOfBounds → Fail .outOfBounds state)) :
    Meets Pre (attempt program) Post Fail := by
  apply meets.called (fun state => state) fun _ before => before
  intro state
  unfold attempt
  cases program state with
  | ok value after => exact fun ends => ends
  | error stop after =>
    cases stop with
    | code rc => exact fun ends => ends.1 rc rfl
    | outOfBounds => exact fun ends => ends.2 rfl

theorem getPortList_meets {numPorts : Nat} {ptl : DarPtl}
    (fails : ∀ rc state, Pre state → darDbRioGetPortList numPorts ptl = .error (.code rc) →
      Fail (.code rc) { state with memory := impRc })
    (outside : ∀ state, Pre state → Fail .outOfBounds state) :
    Meets Pre (getPortList numPorts ptl impRc)
      (fun ports state => darDbRioGetPortList numPorts ptl = .ok ports ∧ Pre state) Fail := by
  unfold getPortList
  split
  next ports made => exact Meets.pure fun _ before => ⟨made, before⟩
  next rc stopped => exact leave_meets fun state before => fails rc state before stopped
  next => exact Meets.throw outside

end Calls

/-- `rio_pc_pw_t`; `last` stands for all values from `rio_pc_pw_last` on. -/
inductive RioPcPw where
  | pw1x | pw2x | pw4x | pw1xL0 | pw1xL1 | pw1xL2 | last
  deriving DecidableEq

/-- `rio_pc_ls_t`, in order; `last` stands for all values from `rio_pc_ls_last` on. -/
inductive RioPcLs where
  | ls1p25 | ls2p5 | ls3p125 | ls5p0 | ls6p25 | ls10p3 | ls12p5 | last
  deriving DecidableEq

/-- `enum rio_pc_fc`. -/
inductive RioPcFc where
  | rx | tx | last
  deriving DecidableEq

/-- `enum rio_pc_idle_seq`. -/
inductive RioPcIdleSeq where
  | one | two | three | dflt | last
  deriving DecidableEq

/-- `enum rio_lane_swap_t`. -/
inductive RioLaneSwap where
  | none | abcdBadc | abcdDcba | abcdCdab | last
  deriving DecidableEq

abbrev rioMaxPortLanes : Nat := 4

/-- `rio_pc_one_port_config_t`. -/
structure RioPcOnePortConfig where
  pnum : Nat
  portAvailable : Bool
  poweredUp : Bool
  pw : RioPcPw
  ls : RioPcLs
  fc : RioPcFc
  iseq : RioPcIdleSeq
  xmitterDisable : Bool
  portLockout : Bool
  nmtcXferEnable : Bool
  txLswap : RioLaneSwap
  txLinvert : Fin rioMaxPortLanes → Bool
  rxLswap : RioLaneSwap
  rxLinvert : Fin rioMaxPortLanes → Bool

/-- `RXS_SPX_ERR_STAT_PORT_UNAVL`. -/
def errStatPortUnavl : BitVec 32 := 0x00000008

/-- `RXS_PLM_SPX_PWDN_CTL_PWDN_PORT`. -/
def pwdnCtlPwdnPort : BitVec 32 := 0x00000001

/-- `RXS_SPX_CTL_PORT_LOCKOUT`. -/
def ctlPortLockout : BitVec 32 := 0x00000002

/-- `RXS_SPX_CTL_PORT_DIS`. -/
def ctlPortDis : BitVec 32 := 0x00800000

/-- `RXS_SPX_CTL_INP_EN` and `RXS_SPX_CTL_OTP_EN`. -/
def ctlNmtcEn : BitVec 32 := 0x00200000 ||| 0x00400000

/-- `RIO_SPX_CTL_PTW_OVER`, which is `RXS_SPX_CTL_OVER_PWIDTH`, with the values of the field. -/
def ctlPtwOver : BitVec 32 := 0x07000000

def ctlPtwOverNone : BitVec 32 := 0x00000000

def ctlPtwOver1xL0 : BitVec 32 := 0x02000000

def ctlPtwOver1xLr : BitVec 32 := 0x03000000

def ctlPtwOver2xNo4x : BitVec 32 := 0x05000000

def ctlPtwOver4xNo2x : BitVec 32 := 0x06000000

def ctlPtwOverNone2 : BitVec 32 := 0x07000000

/-- `RIO_SPX_CTL_PTW_MAX_2X`. -/
def ctlPtwMax2x : BitVec 32 := 0x80000000

/-- `RIO_SPX_CTL_PTW_MAX_4X`. -/
def ctlPtwMax4x : BitVec 32 := 0x40000000

/-- The port width that `RXS_SPX_CTL` says. -/
def pwOfCtl (ctl : BitVec 32) : RioPcPw :=
  let ptwOver := ctl &&& ctlPtwOver
  if ptwOver = ctlPtwOver4xNo2x ∨ ptwOver = ctlPtwOverNone2 ∨ ptwOver = ctlPtwOverNone then
    if ctl &&& ctlPtwMax4x ≠ 0 then .pw4x
    else if ctl &&& ctlPtwMax2x ≠ 0 then .pw2x
    else .pw1x
  else if ptwOver = ctlPtwOver1xL0 then .pw1xL0
  else if ptwOver = ctlPtwOver1xLr then
    if ctl &&& ctlPtwMax4x ≠ 0 then .pw1xL2
    else if ctl &&& ctlPtwMax2x ≠ 0 then .pw1xL1
    else .pw1x
  else if ptwOver = ctlPtwOver2xNo4x then .pw2x
  else .last

/-- `spx_ctl2_ls_check_info_t`. -/
structure SpxCtl2LsCheckInfo where
  lsEn : BitVec 32
  lsSup : BitVec 32
  ls : RioPcLs

/-- `rxs_ls_check`, without its last element. -/
def rxsLsCheck : List SpxCtl2LsCheckInfo :=
  [⟨0x01000000, 0x02000000, .ls1p25⟩, ⟨0x00400000, 0x00800000, .ls2p5⟩,
    ⟨0x00100000, 0x00200000, .ls3p125⟩, ⟨0x00040000, 0x00080000, .ls5p0⟩,
    ⟨0x00010000, 0x00020000, .ls6p25⟩, ⟨0x00004000, 0x00008000, .ls10p3⟩,
    ⟨0x00001000, 0x00002000, .ls12p5⟩]

/-- `determine_ls`: the speed that is supported and enabled, if there is only one. -/
def determineLs (ctl2 : BitVec 32) : RioPcLs :=
  match rxsLsCheck.filter fun check => check.lsSup &&& ctl2 ≠ 0 ∧ check.lsEn &&& ctl2 ≠ 0 with
  | [check] => check.ls
  | _ => .last

/-- `RXS_PLM_SPX_IMP_SPEC_CTL_USE_IDLE1`. -/
def impSpecUseIdle1 : BitVec 32 := 0x20000000

/-- `RXS_PLM_SPX_IMP_SPEC_CTL_USE_IDLE2`. -/
def impSpecUseIdle2 : BitVec 32 := 0x40000000

/-- `RXS_PLM_SPX_IMP_SPEC_CTL_USE_IDLE3`. -/
def impSpecUseIdle3 : BitVec 32 := 0x80000000

/-- The three of them. -/
def idleOverrides : BitVec 32 := impSpecUseIdle1 ||| impSpecUseIdle2 ||| impSpecUseIdle3

/-- The sequence that a port is set to use, if it is set to use one at most: the first switch of
`determine_iseq`. -/
def iseqOverride (plmCtl : BitVec 32) : Option RioPcIdleSeq :=
  let override := plmCtl &&& idleOverrides
  if override = 0 then some .dflt
  else if override = impSpecUseIdle1 then some .one
  else if override = impSpecUseIdle2 then some .two
  else if override = impSpecUseIdle3 then some .three
  else none

/-- The sequence in use and whether that is an error: the second switch of `determine_iseq`. -/
def iseqAt (iseq : RioPcIdleSeq) : RioPcLs → RioPcIdleSeq × Bool
  | .ls1p25 | .ls2p5 | .ls3p125 | .ls5p0 => (if iseq = .dflt then .one else iseq, false)
  | .ls6p25 =>
    let iseq := if iseq = .dflt then .two else iseq
    if iseq = .one then (.last, true) else (iseq, false)
  | .ls10p3 | .ls12p5 =>
    match iseq with
    | .one | .two => (.last, true)
    | .three => (.three, false)
    | .dflt => (.three, false)
    | .last => (.last, true)
  | .last => (iseq, true)

def determineIseq (ls : RioPcLs) (plmCtl : BitVec 32) : RioPcIdleSeq × Bool :=
  match iseqOverride plmCtl with
  | some iseq => iseqAt iseq ls
  | none => (.dflt, true)

/-- `RXS_PLM_SPX_IMP_SPEC_CTL_SWAP_RX`. -/
def impSpecSwapRx : BitVec 32 := 0x00030000

/-- `RXS_PLM_SPX_IMP_SPEC_CTL_SWAP_TX`. -/
def impSpecSwapTx : BitVec 32 := 0x000c0000

/-- `lswap`, of a field with two bits. -/
def lswap (regVal : BitVec 32) : RioLaneSwap :=
  if regVal = 1 then .abcdBadc
  else if regVal = 2 then .abcdDcba
  else if regVal = 3 then .abcdCdab
  else .none

/-- `RXS_PLM_SPX_POL_CTL_RX0_POL`. -/
def polCtlRx0Pol : BitVec 32 := 0x00000001

/-- `RXS_PLM_SPX_POL_CTL_TX0_POL`. -/
def polCtlTx0Pol : BitVec 32 := 0x00010000

def pcGetConfig (code : Nat) : Nat := darFirstImpSpecError + 0x100 + code

/-- The configuration of a port before anything is read. -/
def unknownConfig (pnum : Nat) : RioPcOnePortConfig where
  pnum := pnum
  portAvailable := false
  poweredUp := false
  pw := .last
  ls := .last
  fc := .last
  iseq := .last
  xmitterDisable := false
  portLockout := false
  nmtcXferEnable := false
  txLswap := .none
  txLinvert _ := false
  rxLswap := .none
  rxLinvert _ := false

/-- The configuration of a port that is available and powered up. -/
def configOf (pnum : Nat) (iseq : RioPcIdleSeq) (ctl ctl2 pCtl pol : BitVec 32) :
    RioPcOnePortConfig where
  pnum := pnum
  portAvailable := true
  poweredUp := true
  pw := pwOfCtl ctl
  ls := determineLs ctl2
  fc := .rx
  iseq := iseq
  xmitterDisable := ctl &&& ctlPortDis ≠ 0
  portLockout := ctl &&& ctlPortLockout ≠ 0
  nmtcXferEnable := ctl &&& ctlNmtcEn = ctlNmtcEn
  txLswap := lswap ((pCtl &&& impSpecSwapTx) >>> 18)
  txLinvert lane := pol &&& (polCtlTx0Pol <<< lane.val) ≠ 0
  rxLswap := lswap ((pCtl &&& impSpecSwapRx) >>> 16)
  rxLinvert lane := pol &&& (polCtlRx0Pol <<< lane.val) ≠ 0

section GetConfig

variable {δ : Type} (device : RegDevice Reg δ)

/-- Read a register; if that fails, set `imp_rc` and leave. -/
def readReg (reg : Reg) (impRc : Nat) : PcProgram δ (BitVec 32) :=
  orLeave impRc (regRead device reg id)

/-- Write a register; if that fails, set `imp_rc` and leave. -/
def writeReg (reg : Reg) (value : BitVec 32) (impRc : Nat) : PcProgram δ Unit :=
  orLeave impRc (regWrite device reg value id)

/-- A turn of the loop of `rxs_rio_pc_get_config` for a port that is available and powered up. -/
def getUpPortConfig (pnum : Nat) : PcProgram δ RioPcOnePortConfig := do
  let ctl ← readReg device (.port .ctl pnum) (pcGetConfig 0x30)
  let ctl2 ← readReg device (.port .ctl2 pnum) (pcGetConfig 0x50)
  let pCtl ← readReg device (.port .impSpecCtl pnum) (pcGetConfig 0x60)
  if (determineIseq (determineLs ctl2) pCtl).2 then
    leave (pcGetConfig 0x68) rioErrReadRegReturnInvalidVal
  else
    let pol ← readReg device (.port .polCtl pnum) (pcGetConfig 0x70)
    pure (configOf pnum (determineIseq (determineLs ctl2) pCtl).1 ctl ctl2 pCtl pol)

/-- A turn of the loop of `rxs_rio_pc_get_config`. -/
def getPortConfig (pnum : Nat) : PcProgram δ RioPcOnePortConfig := do
  let errStat ← readReg device (.port .errStat pnum) (pcGetConfig 0x10)
  if errStat &&& errStatPortUnavl ≠ 0 then pure (unknownConfig pnum)
  else
    let pwrDn ← readReg device (.port .pwdnCtl pnum) (pcGetConfig 0x20)
    if pwrDn &&& pwdnCtlPwdnPort ≠ 0 then pure { unknownConfig pnum with portAvailable := true }
    else getUpPortConfig device pnum

/-- `rio_pc_get_config_out_t` of a call that succeeds; `pc` has `num_ports` elements. -/
structure PcGetConfigOut where
  lrto : Nat
  pc : List RioPcOnePortConfig

def rxsRioPcGetConfig (numPorts : Nat) (ptl : DarPtl) : PcProgram δ PcGetConfigOut := do
  setImpRc 0
  let ports ← getPortList numPorts ptl (pcGetConfig 0x1)
  let lrto ← orLeave (pcGetConfig 0x2) (rxsGetLrto device)
  let pc ← ports.mapM (getPortConfig device)
  pure ⟨lrto, pc⟩

end GetConfig

section Answers

variable {δ : Type} {device : RegDevice Reg δ} {Inv : δ → Prop} {values : Reg → BitVec 32}
  (answers : device.Answers Inv values) {reg : Reg} {impRc : Nat}

theorem setImpRc_keeps {Fail : PcStop → Attached Nat δ → Prop} :
    Meets (fun state => Inv state.device) (setImpRc impRc) (fun _ state => Inv state.device) Fail :=
  Meets.modify fun _ before => before

theorem getPortList_keeps {numPorts : Nat} {ptl : DarPtl} :
    Meets (fun state => Inv state.device) (getPortList (δ := δ) numPorts ptl impRc)
      (fun ports state => darDbRioGetPortList numPorts ptl = .ok ports ∧ Inv state.device)
      fun _ state => Inv state.device := by
  apply getPortList_meets
  · exact fun _ _ before _ => before
  · exact fun _ before => before

include answers

theorem readReg_bind {α : Type} {next : BitVec 32 → PcProgram δ α}
    {Post : α → Attached Nat δ → Prop}
    (tail : Meets (fun state => Inv state.device) (next (values reg)) Post
      fun _ state => Inv state.device) :
    Meets (fun state => Inv state.device) (readReg device reg impRc >>= next) Post
      fun _ state => Inv state.device := by
  apply Meets.bind (orLeave_meets answers.regRead fun _ _ before => before)
  intro value
  apply Meets.assume
  rintro rfl
  exact tail

/-- The configuration of a port, from what the registers hold. -/
def configAt (values : Reg → BitVec 32) (pnum : Nat) : RioPcOnePortConfig :=
  if values (.port .errStat pnum) &&& errStatPortUnavl ≠ 0 then unknownConfig pnum
  else if values (.port .pwdnCtl pnum) &&& pwdnCtlPwdnPort ≠ 0 then
    { unknownConfig pnum with portAvailable := true }
  else
    configOf pnum
      (determineIseq (determineLs (values (.port .ctl2 pnum)))
        (values (.port .impSpecCtl pnum))).1
      (values (.port .ctl pnum)) (values (.port .ctl2 pnum)) (values (.port .impSpecCtl pnum))
      (values (.port .polCtl pnum))

theorem getPortConfig_answers (pnum : Nat) :
    Meets (fun state => Inv state.device) (getPortConfig device pnum)
      (fun pc state => pc = configAt values pnum ∧ Inv state.device)
      fun _ state => Inv state.device := by
  apply readReg_bind answers
  apply Meets.ite
  · intro unavailable
    exact Meets.pure fun _ before => ⟨by rw [configAt, if_pos unavailable], before⟩
  · intro available
    apply readReg_bind answers
    apply Meets.ite
    · intro down
      exact Meets.pure fun _ before => ⟨by rw [configAt, if_neg available, if_pos down], before⟩
    · intro up
      apply readReg_bind answers
      apply readReg_bind answers
      apply readReg_bind answers
      apply Meets.ite
      · exact fun _ => leave_meets fun _ before => before
      · intro _
        apply readReg_bind answers
        exact Meets.pure fun _ before => ⟨by rw [configAt, if_neg available, if_neg up], before⟩

theorem rxsRioPcGetConfig_answers (numPorts : Nat) (ptl : DarPtl) :
    Meets (fun state => Inv state.device) (rxsRioPcGetConfig device numPorts ptl)
      (fun out state => Inv state.device ∧ ∃ ports,
        darDbRioGetPortList numPorts ptl = .ok ports ∧ out.pc = ports.map (configAt values))
      fun _ state => Inv state.device := by
  apply Meets.bind setImpRc_keeps
  intro _
  apply Meets.bind getPortList_keeps
  intro ports
  apply Meets.assume
  intro made
  apply Meets.bind (orLeave_meets (rxsGetLrto_keeps answers) fun _ _ before => before)
  intro lrto
  apply Meets.bind (Meets.mapM fun pnum _ => getPortConfig_answers answers pnum)
  intro pc
  apply Meets.pure
  rintro state ⟨rfl, before⟩
  exact ⟨before, ports, made, rfl⟩

end Answers

end RioFabric.RxsPort

import RioFabric.Dar.PortControl
import RioFabric.PortConfig.Calls
import RioFabric.RxsPort.Status

/-!
# The status of the ports of an unknown device

The generic driver answers from what it assumes of registers that do not exist.  It writes this to
the registers that do exist, where it was to be read from them.
-/

namespace RioFabric.DsfPort

open Lib Dar PortConfig
open RxsPort (RioPcPw RioPcFc RioPcIdleSeq RioPcOnePortStatus pcGetStatus ctlPtwOver
  ctlPtwOverNone ctlPtwOver1xL0 ctlPtwOver1xLr ctlPtwOver2xNo4x ctlPtwOver4xNo2x ctlPtwOverNone2
  ctlPtwMax2x ctlPtwMax4x ctlInitPwidth ctlPtwInit1xL0 ctlPtwInit1xLr ctlPtwInit2x ctlPtwInit4x
  ctlStopFailEn)

/-- `RIO_SPX_ERR_STAT_OK`. -/
def errStatOk : BitVec 32 := 0x00000002

/-- `RIO_SPX_ERR_STAT_ERR`. -/
def errStatErr : BitVec 32 := 0x00000004

/-- `RIO_SPX_ERR_STAT_UNAVL`. -/
def errStatUnavl : BitVec 32 := 0x00000008

/-- `RIO_SPX_ERR_STAT_IES`. -/
def errStatIes : BitVec 32 := 0x00000100

/-- `RIO_SPX_ERR_STAT_OES`. -/
def errStatOes : BitVec 32 := 0x00010000

/-- `RIO_SPX_ERR_STAT_FAIL`. -/
def errStatFail : BitVec 32 := 0x02000000

/-- `RIO_SPX_ERR_STAT_TXFC`. -/
def errStatTxfc : BitVec 32 := 0x08000000

/-- `RIO_SPX_ERR_STAT_IDLE_SEQ`. -/
def errStatIdleSeq : BitVec 32 := 0x30000000

def rioSpxErrStat (b t : BitVec 32) (p : Nat) : BitVec 32 :=
  if rioSpVld t then b + 0x58 + rioSpStep t * BitVec.ofNat 32 p else 0

/-- The error and status register of a port; there is none at address 0. -/
def errStatAddr (dev : DarDevInfo) (pnum : Nat) : BitVec 32 :=
  rioSpxErrStat dev.extFPtrForPort dev.extFPtrPortType pnum

def pwToLanes : RioPcPw → Nat
  | .pw1x => 1
  | .pw2x => 2
  | .pw4x => 4
  | .pw1xL0 => 1
  | .pw1xL1 => 2
  | .pw1xL2 => 4
  | .last => 0

def rioDetermineOpFc (errStat : BitVec 32) : RioPcFc :=
  if errStat &&& errStatOk ≠ 0 then if errStat &&& errStatTxfc ≠ 0 then .tx else .rx else .last

def rioDetermineOpIseq (errStat : BitVec 32) : RioPcIdleSeq :=
  let seq := errStat &&& errStatIdleSeq
  if errStat &&& errStatOk = 0 then .last
  else if seq = 0x00000000 then .one
  else if seq = 0x20000000 then .two
  else if seq = 0x30000000 then .three
  else .last

def rioDetermineCfgPw (ctl : BitVec 32) : RioPcPw :=
  let ovrd := ctl &&& ctlPtwOver
  let max4x := ctl &&& ctlPtwMax4x ≠ 0
  let max2x := ctl &&& ctlPtwMax2x ≠ 0
  if ovrd = ctlPtwOver4xNo2x then if max4x then .pw4x else .pw1x
  else if ovrd = ctlPtwOverNone2 ∨ ovrd = ctlPtwOverNone then
    if max4x then .pw4x else if max2x then .pw2x else .pw1x
  else if ovrd = ctlPtwOver1xL0 then if max4x ∨ max2x then .pw1xL0 else .pw1x
  else if ovrd = ctlPtwOver1xLr then if max4x then .pw1xL2 else if max2x then .pw1xL1 else .last
  else if ovrd = ctlPtwOver2xNo4x then if max2x then .pw2x else .pw1x
  else .last

def rioDetermineOpPw (ctl errStat : BitVec 32) : RioPcPw :=
  let init := ctl &&& ctlInitPwidth
  let max4x := ctl &&& ctlPtwMax4x ≠ 0
  let max2x := ctl &&& ctlPtwMax2x ≠ 0
  if errStat &&& errStatOk = 0 then .last
  else if init = ctlPtwInit4x then if rioDetermineCfgPw ctl = .pw4x then .pw4x else .last
  else if init = ctlPtwInit2x then
    match rioDetermineCfgPw ctl with
    | .pw2x | .pw4x =>
      if max2x then if ctl &&& ctlPtwOver = ctlPtwOver4xNo2x then .last else .pw2x else .last
    | _ => .last
  else if init = ctlPtwInit1xL0 then
    match rioDetermineCfgPw ctl with
    | .pw1x => .pw1x
    | .pw1xL0 => if max2x ∨ max4x then .pw1xL0 else .pw1x
    | .pw2x | .pw4x | .pw1xL1 | .pw1xL2 => .pw1xL0
    | .last => .last
  else if init = ctlPtwInit1xLr then
    match rioDetermineCfgPw ctl with
    | .pw2x | .pw1xL1 => .pw1xL1
    | .pw4x | .pw1xL2 => .pw1xL2
    | .pw1xL0 => if max4x then .pw1xL2 else if max2x then .pw1xL1 else .last
    | .pw1x | .last => .last
  else .last

/-- The status of a port, from its registers. -/
def statusOf (pnum : Nat) (ctl errStat : BitVec 32) : RioPcOnePortStatus :=
  let unknown : RioPcOnePortStatus :=
    ⟨pnum, false, .last, .last, .last, false, false, false, 0, false⟩
  -- `port_ok` is left as it was
  if errStat &&& errStatUnavl ≠ 0 then unknown
  else
    let portOk := errStat &&& errStatOk ≠ 0
    let pw := if portOk then rioDetermineOpPw ctl errStat else rioDetermineCfgPw ctl
    { unknown with
      portOk
      pw
      fc := rioDetermineOpFc errStat
      iseq := rioDetermineOpIseq errStat
      portError := errStat &&& errStatErr ≠ 0 ∨
        (ctl &&& ctlStopFailEn ≠ 0 ∧ errStat &&& errStatFail ≠ 0)
      inputStopped := errStat &&& errStatIes ≠ 0
      outputStopped := errStat &&& errStatOes ≠ 0
      numLanes := pwToLanes pw }

/-- What a control register is assumed to hold. -/
def assumedCtl : BitVec 32 := rioSpxCtlInpEn ||| rioSpxCtlOtpEn ||| ctlPtwInit1xL0

/-- What an error and status register is assumed to hold. -/
def assumedErrStat : BitVec 32 := errStatOk

section GetStatus

variable {δ : Type} (dev : DarDevInfo) (device : RegDevice (BitVec 32) δ)

/-- Write a register, unless it does not exist. -/
def writeIfValid (addr value : BitVec 32) (impRc : Nat) : Call Nat δ Unit :=
  if addr ≠ 0 then writeReg device addr value impRc else pure ()

/-- A turn of the loop of `DSF_rio_pc_get_status`. -/
def getPortStatus (pnum : Nat) : Call Nat δ RioPcOnePortStatus := do
  writeIfValid device (dev.ctl pnum) assumedCtl (pcGetStatus 0x10)
  writeIfValid device (errStatAddr dev pnum) assumedErrStat (pcGetStatus 0x12)
  pure (statusOf pnum assumedCtl assumedErrStat)

/-- `DARrioGetPortList` within the call. -/
def getPortList (ptl : DarPtl) (impRc : Nat) : Call Nat δ (List Nat) :=
  match darDbRioGetPortList dev.numPorts ptl with
  | .ok ports => pure ports
  | .error (.code rc) => leave impRc rc
  | .error .outOfBounds => throw .outOfBounds

def dsfRioPcGetStatus (ptl : DarPtl) : Call Nat δ (List RioPcOnePortStatus) := do
  setImpRc 0
  let ports ← getPortList dev ptl (pcGetStatus 1)
  ports.mapM (getPortStatus dev device)

end GetStatus

/-- The registers of a port that exist hold what is assumed of them. -/
def HoldsAssumed (dev : DarDevInfo) (values : BitVec 32 → BitVec 32) (pnum : Nat) : Prop :=
  (dev.ctl pnum ≠ 0 → values (dev.ctl pnum) = assumedCtl) ∧
    (errStatAddr dev pnum ≠ 0 → values (errStatAddr dev pnum) = assumedErrStat)

/-- The registers of these ports hold what is assumed of them. -/
def AllHoldAssumed (dev : DarDevInfo) (ports : List Nat) (values : BitVec 32 → BitVec 32) : Prop :=
  ∀ pnum ∈ ports, HoldsAssumed dev values pnum

theorem ctl_ne_errStatAddr {dev : DarDevInfo} {pnum other : Nat} (exist : dev.ctl pnum ≠ 0) :
    dev.ctl pnum ≠ errStatAddr dev other := by
  intro same
  rw [DarDevInfo.ctl, rioSpxCtl] at exist same
  rw [errStatAddr, rioSpxErrStat] at same
  split at exist
  next isValid =>
    rw [if_pos isValid, if_pos isValid, rioSpStep] at same
    split at same
    · bv_omega
    · bv_omega
  next => exact exist rfl

section Store

variable {dev : DarDevInfo} {values : BitVec 32 → BitVec 32} {pnum other : Nat}

theorem HoldsAssumed.storeCtl (held : HoldsAssumed dev values other) (exist : dev.ctl pnum ≠ 0) :
    HoldsAssumed dev (store (dev.ctl pnum) assumedCtl values) other := by
  constructor
  · intro otherExists
    by_cases same : dev.ctl other = dev.ctl pnum
    · rw [same, store, Function.update_self]
    · rw [store, Function.update_of_ne same]
      exact held.1 otherExists
  · intro otherExists
    rw [store, Function.update_of_ne (ctl_ne_errStatAddr exist).symm]
    exact held.2 otherExists

theorem HoldsAssumed.storeErrStat (held : HoldsAssumed dev values other) :
    HoldsAssumed dev (store (errStatAddr dev pnum) assumedErrStat values) other := by
  constructor
  · intro otherExists
    rw [store, Function.update_of_ne (ctl_ne_errStatAddr otherExists)]
    exact held.1 otherExists
  · intro otherExists
    by_cases same : errStatAddr dev other = errStatAddr dev pnum
    · rw [same, store, Function.update_self]
    · rw [store, Function.update_of_ne same]
      exact held.2 otherExists

end Store

section Writes

variable {values : BitVec 32 → BitVec 32} {impRc : Nat} {addr value : BitVec 32}

theorem writeIfValid_preserves {δ : Type} {device : RegDevice (BitVec 32) δ} {Inv : δ → Prop}
    {allowed : BitVec 32 → BitVec 32 → Prop} (keeps : device.Keeps Inv allowed)
    (isAllowed : addr ≠ 0 → allowed addr value) :
    Preserves Inv (writeIfValid device addr value impRc) := by
  apply Preserves.ite
  · exact fun exist => writeReg_preserves keeps (isAllowed exist)
  · exact fun _ => Preserves.pure _

theorem writeIfValid_meets {P Q : (BitVec 32 → BitVec 32) → Prop}
    (written : ∀ values, P values → addr ≠ 0 → Q (store addr value values))
    (missing : ∀ values, P values → addr = 0 → Q values) :
    Meets (fun state : Attached Nat (RegisterFile (BitVec 32)) =>
        state.device.Reliable ∧ P state.device.value)
      (writeIfValid (registerFile store) addr value impRc)
      (fun _ state => state.device.Reliable ∧ Q state.device.value) fun _ _ => False := by
  apply Meets.ite
  · intro exist
    apply orLeave_meets (F := fun _ => False)
    apply regWrite_file_meets
    · exact fun state before _ => ⟨before.1.pass _, written _ before.2 exist⟩
    · exact fun state failure before isFault fails =>
        fails (isFault.symm.trans (before.1.fault_eq _))
  · intro isZero
    exact Meets.pure fun state before => ⟨before.1, missing _ before.2 (not_not.mp isZero)⟩

end Writes

section Runs

variable {dev : DarDevInfo} {ptl : DarPtl}

theorem getPortList_meets {δ : Type} {Inv : δ → Prop} {impRc : Nat} :
    Meets (fun state => Inv state.device) (getPortList dev ptl impRc)
      (fun ports state => darDbRioGetPortList dev.numPorts ptl = .ok ports ∧ Inv state.device)
      fun _ state => Inv state.device := by
  unfold getPortList
  split
  next ports made => exact Meets.pure fun _ before => ⟨made, before⟩
  next => exact leave_meets fun _ before => before
  next => exact Meets.throw fun _ before => before

/-- A call that succeeds reports each port of its list as it was left. -/
theorem dsfRioPcGetStatus_meets {δ : Type} {device : RegDevice (BitVec 32) δ} {Inv : δ → Prop}
    {allowed : BitVec 32 → BitVec 32 → Prop} (keeps : device.Keeps Inv allowed)
    (isAllowed : ∀ ports, darDbRioGetPortList dev.numPorts ptl = .ok ports → ∀ pnum ∈ ports,
      (dev.ctl pnum ≠ 0 → allowed (dev.ctl pnum) assumedCtl) ∧
        (errStatAddr dev pnum ≠ 0 → allowed (errStatAddr dev pnum) assumedErrStat)) :
    Meets (fun state => Inv state.device) (dsfRioPcGetStatus dev device ptl)
      (fun statuses state => Inv state.device ∧ ∃ ports,
        darDbRioGetPortList dev.numPorts ptl = .ok ports ∧
          statuses = ports.map fun pnum => statusOf pnum assumedCtl assumedErrStat)
      fun _ state => Inv state.device := by
  apply Meets.bind setImpRc_preserves
  intro _
  apply Meets.bind getPortList_meets
  intro ports
  apply Meets.assume
  intro made
  have turn : ∀ pnum ∈ ports, Meets (fun state => Inv state.device) (getPortStatus dev device pnum)
      (fun status state => status = statusOf pnum assumedCtl assumedErrStat ∧ Inv state.device)
      fun _ state => Inv state.device := by
    intro pnum isPort
    obtain ⟨ctl, errStat⟩ := isAllowed ports made pnum isPort
    apply Meets.bind (writeIfValid_preserves keeps ctl)
    intro _
    apply Meets.bind (writeIfValid_preserves keeps errStat)
    intro _
    exact Meets.pure fun _ before => ⟨rfl, before⟩
  exact (Meets.mapM turn).weakenPost fun statuses state each => ⟨each.2, ports, made, each.1⟩

theorem writeCtl_holdsAssumed {done : List Nat} {pnum impRc : Nat} :
    Meets (fun state => state.device.Reliable ∧ AllHoldAssumed dev done state.device.value)
      (writeIfValid (registerFile store) (dev.ctl pnum) assumedCtl impRc)
      (fun _ state => state.device.Reliable ∧ AllHoldAssumed dev done state.device.value ∧
        (dev.ctl pnum ≠ 0 → state.device.value (dev.ctl pnum) = assumedCtl))
      fun _ _ => False := by
  apply writeIfValid_meets (P := AllHoldAssumed dev done) (Q := fun values =>
    AllHoldAssumed dev done values ∧ (dev.ctl pnum ≠ 0 → values (dev.ctl pnum) = assumedCtl))
  · intro values held exist
    refine ⟨fun other isDone => (held other isDone).storeCtl exist, fun _ => ?_⟩
    exact Function.update_self _ _ _
  · exact fun values held isZero => ⟨held, fun exist => absurd isZero exist⟩

theorem writeErrStat_holdsAssumed {done : List Nat} {pnum impRc : Nat} :
    Meets (fun state => state.device.Reliable ∧ AllHoldAssumed dev done state.device.value ∧
        (dev.ctl pnum ≠ 0 → state.device.value (dev.ctl pnum) = assumedCtl))
      (writeIfValid (registerFile store) (errStatAddr dev pnum) assumedErrStat impRc)
      (fun _ state => state.device.Reliable ∧ AllHoldAssumed dev done state.device.value ∧
        HoldsAssumed dev state.device.value pnum)
      fun _ _ => False := by
  apply writeIfValid_meets
    (P := fun values => AllHoldAssumed dev done values ∧
      (dev.ctl pnum ≠ 0 → values (dev.ctl pnum) = assumedCtl))
    (Q := fun values => AllHoldAssumed dev done values ∧ HoldsAssumed dev values pnum)
  · rintro values ⟨held, ctlHeld⟩ exist
    refine ⟨fun other isDone => (held other isDone).storeErrStat, fun ctlExists => ?_, fun _ => ?_⟩
    · rw [store, Function.update_of_ne (ctl_ne_errStatAddr ctlExists)]
      exact ctlHeld ctlExists
    · exact Function.update_self _ _ _
  · rintro values ⟨held, ctlHeld⟩ isZero
    exact ⟨held, ctlHeld, fun exist => absurd isZero exist⟩

theorem getPortStatus_holdsAssumed {done : List Nat} (pnum : Nat) :
    Meets (fun state => state.device.Reliable ∧ AllHoldAssumed dev done state.device.value)
      (getPortStatus dev (registerFile store) pnum)
      (fun _ state =>
        state.device.Reliable ∧ AllHoldAssumed dev (done ++ [pnum]) state.device.value)
      fun _ _ => False := by
  apply Meets.bind writeCtl_holdsAssumed
  intro _
  apply Meets.bind writeErrStat_holdsAssumed
  intro _
  apply Meets.pure
  rintro state ⟨reliable, held, lastHeld⟩
  refine ⟨reliable, fun other isOne => ?_⟩
  rcases List.mem_append.mp isOne with isDone | isLast
  · exact held other isDone
  · exact (List.mem_singleton.mp isLast) ▸ lastHeld

theorem getPortStatuses_holdsAssumed (ports done : List Nat) :
    Meets (fun state => state.device.Reliable ∧ AllHoldAssumed dev done state.device.value)
      (ports.mapM (getPortStatus dev (registerFile store)))
      (fun _ state => AllHoldAssumed dev (done ++ ports) state.device.value)
      fun _ _ => False := by
  induction ports generalizing done with
  | nil => exact Meets.pure fun state held => by simpa using held.2
  | cons pnum ports ih =>
    rw [List.mapM_cons]
    apply Meets.bind (getPortStatus_holdsAssumed pnum)
    intro status
    apply Meets.bind (ih (done ++ [pnum]))
    intro statuses
    exact Meets.pure fun state held => by simpa using held

theorem dsfRioPcGetStatus_holdsAssumed {ports : List Nat}
    (made : darDbRioGetPortList dev.numPorts ptl = .ok ports) :
    Meets (fun state => state.device.Reliable) (dsfRioPcGetStatus dev (registerFile store) ptl)
      (fun _ state => AllHoldAssumed dev ports state.device.value)
      fun _ _ => False := by
  apply setImpRc_bind
  rw [getPortList, made]
  apply (getPortStatuses_holdsAssumed ports []).weakenPre
  exact fun state reliable => ⟨reliable, List.forall_mem_nil _⟩

end Runs

end RioFabric.DsfPort

import RioFabric.RxsPort.Config

/-!
# The status of RXS ports

The status of a port that is up says which lanes it uses.  The number of its first lane is kept in
a field of a type that has two values.
-/

namespace RioFabric.RxsPort

open Lib Dar
open StatCounters (darFirstImpSpecError)

/-- `rio_pc_one_port_status_t`; `first_lane` is a `bool`. -/
structure RioPcOnePortStatus where
  pnum : Nat
  portOk : Bool
  pw : RioPcPw
  fc : RioPcFc
  iseq : RioPcIdleSeq
  portError : Bool
  inputStopped : Bool
  outputStopped : Bool
  numLanes : Nat
  firstLane : Bool

def pcGetStatus (code : Nat) : Nat := darFirstImpSpecError + 0x300 + code

def rxsFirstPortLane (port : Nat) : Nat := port / 2 * 4 + (port &&& 1) * 2

/-- `RXS_SPX_ERR_STAT_PORT_OK`. -/
def errStatPortOk : BitVec 32 := 0x00000002

/-- `RXS_SPX_ERR_STAT_PORT_ERR`. -/
def errStatPortErr : BitVec 32 := 0x00000004

/-- `RXS_SPX_ERR_STAT_INPUT_ERR_STOP`. -/
def errStatInputErrStop : BitVec 32 := 0x00000100

/-- `RXS_SPX_ERR_STAT_OUTPUT_ERR_STOP`. -/
def errStatOutputErrStop : BitVec 32 := 0x00010000

/-- `RXS_SPX_ERR_STAT_OUTPUT_FAIL`. -/
def errStatOutputFail : BitVec 32 := 0x02000000

/-- `RXS_SPX_CTL_STOP_FAIL_EN`. -/
def ctlStopFailEn : BitVec 32 := 0x00000008

/-- `RXS_SPX_CTL_INIT_PWIDTH`, with the values of the field. -/
def ctlInitPwidth : BitVec 32 := 0x38000000

def ctlPtwInit1xL0 : BitVec 32 := 0x00000000

def ctlPtwInit1xLr : BitVec 32 := 0x08000000

def ctlPtwInit4x : BitVec 32 := 0x10000000

def ctlPtwInit2x : BitVec 32 := 0x18000000

/-- `RIO_SPX_CTL_PTW_MAX_LANES`. -/
def ctlPtwMaxLanes (ctl : BitVec 32) : Nat :=
  if ctl &&& ctlPtwMax4x ≠ 0 then 4
  else if ctl &&& ctlPtwMax2x ≠ 0 then 2
  else 1

/-- The status of a port as far as it depends on the first two registers. -/
def linkStatus (pnum : Nat) (errStat ctl : BitVec 32) : RioPcOnePortStatus where
  pnum := pnum
  portOk := errStat &&& errStatPortOk ≠ 0
  pw := .last
  fc := .last
  iseq := .last
  portError := errStat &&& errStatPortErr ≠ 0 ∨
    (ctl &&& ctlStopFailEn ≠ 0 ∧ errStat &&& errStatOutputFail ≠ 0)
  inputStopped := errStat &&& errStatInputErrStop ≠ 0
  outputStopped := errStat &&& errStatOutputErrStop ≠ 0
  numLanes := 0
  firstLane := false

namespace RioPcOnePortStatus

/-- A width that the lanes of the port do not allow. -/
def widthError (status : RioPcOnePortStatus) : RioPcOnePortStatus :=
  { status with pw := .last, firstLane := false, numLanes := 0 }

/-- Enter the width and the lanes: the end of a turn of the loop of `rxs_rio_pc_get_status`. -/
def withLanes (status : RioPcOnePortStatus) (ctl : BitVec 32) : RioPcOnePortStatus :=
  let status :=
    { status with
      firstLane := rxsFirstPortLane status.pnum ≠ 0
      numLanes := ctlPtwMaxLanes ctl }
  let init := ctl &&& ctlInitPwidth
  if init = ctlPtwInit1xL0 then { status with pw := .pw1xL0, numLanes := 1 }
  else if init = ctlPtwInit1xLr then
    match status.numLanes with
    | 4 => { status with pw := .pw1xL2, firstLane := status.firstLane.toNat + 2 ≠ 0, numLanes := 1 }
    | 2 => { status with pw := .pw1xL1, firstLane := status.firstLane.toNat + 2 ≠ 0, numLanes := 1 }
    | _ => status.widthError
  else if init = ctlPtwInit2x then
    match status.numLanes with
    | 4 | 2 => { status with pw := .pw2x, numLanes := 2 }
    | _ => status.widthError
  else if init = ctlPtwInit4x then
    if status.numLanes ≠ 4 then status.widthError else { status with pw := .pw4x }
  else status

end RioPcOnePortStatus

section GetStatus

variable {δ : Type} (device : RegDevice Reg δ)

/-- A turn of the loop of `rxs_rio_pc_get_status`. -/
def getPortStatus (pnum : Nat) : PcProgram δ RioPcOnePortStatus := do
  let errStat ← readReg device (.port .errStat pnum) (pcGetStatus 0x30)
  let ctl ← readReg device (.port .ctl pnum) (pcGetStatus 0x40)
  if errStat &&& errStatPortOk = 0 then pure (linkStatus pnum errStat ctl)
  else
    let ctl2 ← readReg device (.port .ctl2 pnum) (pcGetStatus 0x50)
    let pCtl ← readReg device (.port .impSpecCtl pnum) (pcGetStatus 0x60)
    let idle := determineIseq (determineLs ctl2) pCtl
    if idle.2 then pure { linkStatus pnum errStat ctl with fc := .rx, iseq := idle.1 }
    else pure ({ linkStatus pnum errStat ctl with fc := .rx, iseq := idle.1 }.withLanes ctl)

/-- `rxs_rio_pc_get_status`; `ps` has `num_ports` elements. -/
def rxsRioPcGetStatus (numPorts : Nat) (ptl : DarPtl) : PcProgram δ (List RioPcOnePortStatus) := do
  setImpRc 0
  let ports ← getPortList numPorts ptl (pcGetStatus 1)
  ports.mapM (getPortStatus device)

end GetStatus

/-- The status of a port, from what the registers hold. -/
def statusOf (values : Reg → BitVec 32) (pnum : Nat) : RioPcOnePortStatus :=
  let errStat := values (.port .errStat pnum)
  let ctl := values (.port .ctl pnum)
  let idle := determineIseq (determineLs (values (.port .ctl2 pnum)))
    (values (.port .impSpecCtl pnum))
  if errStat &&& errStatPortOk = 0 then linkStatus pnum errStat ctl
  else if idle.2 then { linkStatus pnum errStat ctl with fc := .rx, iseq := idle.1 }
  else { linkStatus pnum errStat ctl with fc := .rx, iseq := idle.1 }.withLanes ctl

/-- The width that the link was initialised with is one that the lanes of the port allow. -/
def WidthFits (ctl : BitVec 32) : Prop :=
  let init := ctl &&& ctlInitPwidth
  init = ctlPtwInit1xL0 ∨
    ((init = ctlPtwInit1xLr ∨ init = ctlPtwInit2x) ∧ ctlPtwMaxLanes ctl ≠ 1) ∨
    (init = ctlPtwInit4x ∧ ctlPtwMaxLanes ctl = 4)

/-- A port that is up, with an idle sequence that goes with its speed and a width that fits. -/
def LinkUp (values : Reg → BitVec 32) (pnum : Nat) : Prop :=
  values (.port .errStat pnum) &&& errStatPortOk ≠ 0 ∧
    (determineIseq (determineLs (values (.port .ctl2 pnum)))
      (values (.port .impSpecCtl pnum))).2 = false ∧
    WidthFits (values (.port .ctl pnum))

section Answers

variable {δ : Type} {device : RegDevice Reg δ} {Inv : δ → Prop} {values : Reg → BitVec 32}
  (answers : device.Answers Inv values)

include answers

theorem getPortStatus_answers (pnum : Nat) :
    Meets (fun state => Inv state.device) (getPortStatus device pnum)
      (fun status state => status = statusOf values pnum ∧ Inv state.device)
      fun _ state => Inv state.device := by
  apply readReg_bind answers
  apply readReg_bind answers
  apply Meets.ite
  · intro down
    exact Meets.pure fun _ same => ⟨by rw [statusOf, if_pos down], same⟩
  · intro up
    apply readReg_bind answers
    apply readReg_bind answers
    apply Meets.ite
    · intro idleError
      exact Meets.pure fun _ same => ⟨by rw [statusOf, if_neg up, if_pos idleError], same⟩
    · intro idle
      exact Meets.pure fun _ same => ⟨by rw [statusOf, if_neg up, if_neg idle], same⟩

theorem rxsRioPcGetStatus_answers (numPorts : Nat) (ptl : DarPtl) :
    Meets (fun state => Inv state.device) (rxsRioPcGetStatus device numPorts ptl)
      (fun statuses state => Inv state.device ∧ ∃ ports,
        darDbRioGetPortList numPorts ptl = .ok ports ∧ statuses = ports.map (statusOf values))
      fun _ state => Inv state.device := by
  apply Meets.bind setImpRc_keeps
  intro _
  apply Meets.bind getPortList_keeps
  intro ports
  apply Meets.assume
  intro made
  apply (Meets.mapM fun pnum _ => getPortStatus_answers answers pnum).weakenPost
  exact fun statuses state each => ⟨each.2, ports, made, each.1⟩

end Answers

/-- The interval of the lanes that are reported lies within the lanes of the port. -/
def OwnLanes (values : Reg → BitVec 32) (status : RioPcOnePortStatus) : Prop :=
  rxsFirstPortLane status.pnum ≤ status.firstLane.toNat ∧
    status.firstLane.toNat + status.numLanes ≤
      rxsFirstPortLane status.pnum + ctlPtwMaxLanes (values (.port .ctl status.pnum))

/-- No lane is in the intervals of both ports. -/
def LanesDisjoint (status other : RioPcOnePortStatus) : Prop :=
  status.firstLane.toNat + status.numLanes ≤ other.firstLane.toNat ∨
    other.firstLane.toNat + other.numLanes ≤ status.firstLane.toNat

/-- A status that says which lanes are used. -/
def RioPcOnePortStatus.HasLanes (status : RioPcOnePortStatus) : Prop :=
  status.portOk = true ∧ status.pw ≠ .last

/-- What is expected of a list of statuses: the lanes of each port are its own, and those of two
ports that do not share lanes are different. -/
structure LanesReported (values : Reg → BitVec 32) (statuses : List RioPcOnePortStatus) : Prop where
  own : ∀ status ∈ statuses, status.HasLanes → OwnLanes values status
  apart : ∀ status ∈ statuses, ∀ other ∈ statuses, status.HasLanes → other.HasLanes →
    (status.pnum / 2 ≠ other.pnum / 2 ∨ (status.pnum ≠ other.pnum ∧
      ctlPtwMaxLanes (values (.port .ctl status.pnum)) ≤ 2 ∧
      ctlPtwMaxLanes (values (.port .ctl other.pnum)) ≤ 2)) →
    LanesDisjoint status other

section Lanes

variable {ctl : BitVec 32} {status : RioPcOnePortStatus} {values : Reg → BitVec 32} {pnum : Nat}

theorem ctlPtwMaxLanes_cases (ctl : BitVec 32) :
    ctlPtwMaxLanes ctl = 4 ∨ ctlPtwMaxLanes ctl = 2 ∨ ctlPtwMaxLanes ctl = 1 := by
  rw [ctlPtwMaxLanes]
  split
  next => exact .inl rfl
  next =>
    split
    next => exact .inr (.inl rfl)
    next => exact .inr (.inr rfl)

@[simp] theorem pnum_withLanes : (status.withLanes ctl).pnum = status.pnum := by
  simp only [RioPcOnePortStatus.withLanes]
  repeat' split
  all_goals rfl

@[simp] theorem portOk_withLanes : (status.withLanes ctl).portOk = status.portOk := by
  simp only [RioPcOnePortStatus.withLanes]
  repeat' split
  all_goals rfl

@[simp] theorem inputStopped_withLanes :
    (status.withLanes ctl).inputStopped = status.inputStopped := by
  simp only [RioPcOnePortStatus.withLanes]
  repeat' split
  all_goals rfl

@[simp] theorem outputStopped_withLanes :
    (status.withLanes ctl).outputStopped = status.outputStopped := by
  simp only [RioPcOnePortStatus.withLanes]
  repeat' split
  all_goals rfl

theorem ctlInitPwidth_cases (ctl : BitVec 32) :
    ctl &&& ctlInitPwidth = ctlPtwInit1xL0 ∨ ctl &&& ctlInitPwidth = ctlPtwInit1xLr ∨
      ctl &&& ctlInitPwidth = ctlPtwInit2x ∨ ctl &&& ctlInitPwidth = ctlPtwInit4x ∨
      (ctl &&& ctlInitPwidth ≠ ctlPtwInit1xL0 ∧ ctl &&& ctlInitPwidth ≠ ctlPtwInit1xLr ∧
        ctl &&& ctlInitPwidth ≠ ctlPtwInit2x ∧ ctl &&& ctlInitPwidth ≠ ctlPtwInit4x) := by
  tauto

theorem pw_withLanes_iff (unknown : status.pw = .last) :
    (status.withLanes ctl).pw ≠ .last ↔ WidthFits ctl := by
  have init := ctlInitPwidth_cases ctl
  simp only [RioPcOnePortStatus.withLanes, RioPcOnePortStatus.widthError, WidthFits,
    ctlPtwInit1xL0, ctlPtwInit1xLr, ctlPtwInit2x, ctlPtwInit4x] at init ⊢
  rcases ctlPtwMaxLanes_cases ctl with lanes | lanes | lanes
  all_goals
    rcases init with init | init | init | init | ⟨notL0, notLr, not2x, not4x⟩
    all_goals simp_all

theorem lanes_withLanes_le (fits : WidthFits ctl) (isFirst : status.pnum = 0) :
    (status.withLanes ctl).firstLane.toNat + (status.withLanes ctl).numLanes ≤
      ctlPtwMaxLanes ctl := by
  have init := ctlInitPwidth_cases ctl
  have first : rxsFirstPortLane status.pnum = 0 := by
    rw [isFirst]
    rfl
  simp only [RioPcOnePortStatus.withLanes, RioPcOnePortStatus.widthError, WidthFits, first,
    ctlPtwInit1xL0, ctlPtwInit1xLr, ctlPtwInit2x, ctlPtwInit4x] at fits init ⊢
  rcases ctlPtwMaxLanes_cases ctl with lanes | lanes | lanes
  all_goals
    rcases init with init | init | init | init | ⟨notL0, notLr, not2x, not4x⟩
    all_goals simp_all

@[simp] theorem pnum_statusOf : (statusOf values pnum).pnum = pnum := by
  simp only [statusOf]
  repeat' split
  all_goals simp [linkStatus]

theorem hasLanes_statusOf_iff : (statusOf values pnum).HasLanes ↔ LinkUp values pnum := by
  simp only [statusOf, RioPcOnePortStatus.HasLanes, LinkUp]
  split
  next down => simp [linkStatus, down]
  next up =>
    split
    next idleError => simp [linkStatus, idleError]
    next idle =>
      rw [portOk_withLanes, pw_withLanes_iff rfl]
      simp [linkStatus, idle]

theorem ownLanes_statusOf_zero (up : LinkUp values 0) : OwnLanes values (statusOf values 0) := by
  obtain ⟨ok, idle, fits⟩ := up
  rw [OwnLanes, pnum_statusOf]
  refine ⟨Nat.zero_le _, ?_⟩
  rw [statusOf, if_neg ok, if_neg (Bool.eq_false_iff.mp idle), rxsFirstPortLane]
  simpa using lanes_withLanes_le fits rfl

theorem not_ownLanes_statusOf (other : pnum ≠ 0) : ¬OwnLanes values (statusOf values pnum) := by
  rintro ⟨first, -⟩
  have isBool := Bool.toNat_le (statusOf values pnum).firstLane
  rw [pnum_statusOf, rxsFirstPortLane, Nat.and_one_is_mod] at first
  omega

end Lanes

section Reports

variable {effect : WriteEffect Reg} {start final : Attached Nat (RegisterFile Reg)}
  {numPorts : Nat} {ptl : DarPtl} {ports : List Nat} {statuses : List RioPcOnePortStatus}

/-- The lanes are reported as expected if no port but the first is up. -/
theorem rxsRioPcGetStatus_lanesReported_iff (made : darDbRioGetPortList numPorts ptl = .ok ports)
    (ran : (rxsRioPcGetStatus (registerFile effect) numPorts ptl).run start = .ok statuses final) :
    LanesReported start.device.value statuses ↔
      ∀ pnum ∈ ports, pnum ≠ 0 → ¬LinkUp start.device.value pnum := by
  obtain ⟨-, others, madeOthers, rfl⟩ :=
    (rxsRioPcGetStatus_answers value_answers numPorts ptl (@rfl _ start.device.value)).1 ran
  rw [made] at madeOthers
  cases madeOthers
  constructor
  · intro reported pnum isPort other up
    have own := reported.own (statusOf start.device.value pnum) (List.mem_map_of_mem isPort)
      (hasLanes_statusOf_iff.mpr up)
    exact not_ownLanes_statusOf other own
  · intro onlyFirst
    have first : ∀ status ∈ ports.map (statusOf start.device.value), status.HasLanes →
        status = statusOf start.device.value 0 := by
      intro status isStatus lanes
      obtain ⟨pnum, isPort, rfl⟩ := List.mem_map.mp isStatus
      have up := hasLanes_statusOf_iff.mp lanes
      by_contra different
      exact onlyFirst pnum isPort (fun isZero => different (by rw [isZero])) up
    constructor
    · intro status isStatus lanes
      have isFirst := first status isStatus lanes
      rw [isFirst] at lanes ⊢
      exact ownLanes_statusOf_zero (hasLanes_statusOf_iff.mp lanes)
    · intro status isStatus other isOther lanes otherLanes apart
      rw [first status isStatus lanes, first other isOther otherLanes] at apart
      simp at apart

/-- A device whose ports are all up, with four lanes each. -/
def allUp : Attached Nat (RegisterFile Reg) where
  memory := 0
  device :=
    { value := fun reg =>
        match reg with
        | .port .errStat _ => 0x00000002
        | .port .ctl _ => 0x50000000
        | .port .ctl2 _ => 0x00030000
        | _ => 0
      faults := fun _ _ => 0 }

/-- The first of its ports uses its four lanes. -/
theorem rxsRioPcGetStatus_lanesReported_first : ∃ statuses final,
    (rxsRioPcGetStatus (registerFile store) 2 ⟨1, fun _ => 0⟩).run allUp = .ok statuses final ∧
      LanesReported allUp.device.value statuses := by
  obtain ⟨statuses, final, ran⟩ : ∃ statuses final, (rxsRioPcGetStatus (registerFile store) 2
      ⟨1, fun _ => 0⟩).run allUp = .ok statuses final := ⟨_, _, rfl⟩
  have made : darDbRioGetPortList 2 ⟨1, fun _ => 0⟩ = .ok [0] := rfl
  refine ⟨statuses, final, ran, (rxsRioPcGetStatus_lanesReported_iff made ran).mpr ?_⟩
  intro pnum isPort other
  exact absurd (List.mem_singleton.mp isPort) other

/-- The third port uses the lanes from 4 on, and is reported to use those from 1 on. -/
theorem rxsRioPcGetStatus_third_port : ∃ status final,
    (rxsRioPcGetStatus (registerFile store) 4 ⟨1, fun _ => 2⟩).run allUp = .ok [status] final ∧
      status.firstLane.toNat = 1 ∧ status.numLanes = 4 ∧ rxsFirstPortLane 2 = 4 ∧
      ¬LanesReported allUp.device.value [status] := by
  refine ⟨_, _, rfl, rfl, rfl, rfl, fun reported => ?_⟩
  have own := reported.own _ List.mem_cons_self ⟨rfl, by decide⟩
  exact absurd own.1 (by decide)

end Reports

end RioFabric.RxsPort

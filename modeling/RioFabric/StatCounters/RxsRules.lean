import RioFabric.StatCounters.Rxs
import RioFabric.Lib.Runs

/-!
# Following the calls for RXS counters

Rules for the statements of the calls, and what all of them leave as it is: which entries there
are and of which ports.
-/

namespace RioFabric.StatCounters

open Lib Dar

section Statements

variable {α : Type} {Pre : Attached RioScDevCtrs RxsHardware → Prop}
  {Fail : ScStop → Attached RioScDevCtrs RxsHardware → Prop}
  {Post : Unit → Attached RioScDevCtrs RxsHardware → Prop}

theorem read_meets {reg : RxsReg} {impRc : Nat}
    {Post : BitVec 32 → Attached RioScDevCtrs RxsHardware → Prop}
    (ok : ∀ state, Pre state → state.device.readFault reg = none →
      Post (state.device.value reg) ⟨state.memory, state.device.afterRead reg⟩)
    (fault : ∀ state rc, Pre state → state.device.readFault reg = some rc →
      Fail (.failed rc impRc) state) :
    Meets Pre (regRead rxsDevice reg fun rc => .failed rc impRc) Post Fail := by
  rw [meets_iff_ends]
  intro state before
  cases access : state.device.readFault reg with
  | some rc =>
    simp only [regRead, rxsDevice, access]
    exact fault state rc before access
  | none =>
    simp only [regRead, rxsDevice, access]
    exact ok state before access

theorem write_meets {reg : RxsReg} {value : BitVec 32} {impRc : Nat}
    (ok : ∀ state, Pre state → state.device.writeFault reg = none →
      Post () ⟨state.memory, state.device.written value reg⟩)
    (fault : ∀ state rc, Pre state → state.device.writeFault reg = some rc →
      Fail (.failed rc impRc) state) :
    Meets Pre (regWrite rxsDevice reg value fun rc => .failed rc impRc) Post Fail := by
  rw [meets_iff_ends]
  intro state before
  cases access : state.device.writeFault reg with
  | some rc =>
    simp only [regWrite, rxsDevice, access]
    exact fault state rc before access
  | none =>
    simp only [regWrite, rxsDevice, access]
    exact ok state before access

theorem getDevCtrs_bind {Post : α → Attached RioScDevCtrs RxsHardware → Prop}
    {next : RioScDevCtrs → ScProgram α}
    (tail : ∀ devCtrs, Meets (fun state => Pre state ∧ state.memory = devCtrs) (next devCtrs)
      Post Fail) :
    Meets Pre (getDevCtrs >>= next) Post Fail :=
  fun state before => tail state.memory ⟨before, rfl⟩

theorem setCtr_meets {idx ctrIdx : Nat} {change : RioScCtrVal → RioScCtrVal}
    (inside : ∀ state, Pre state → idx < state.memory.numPCtrs → ctrIdx < rioMaxSc →
      Post () ⟨state.memory.setCtr idx ctrIdx change, state.device⟩)
    (outside : ∀ state, Pre state → state.memory.numPCtrs ≤ idx ∨ rioMaxSc ≤ ctrIdx →
      Fail .outOfBounds state) :
    Meets Pre (setCtr idx ctrIdx change) Post Fail := by
  apply getDevCtrs_bind
  intro devCtrs
  apply Meets.failIfBind
  · intro state before out
    exact outside state before.1 (before.2 ▸ out)
  · intro within
    apply Meets.modify
    intro state before
    rw [← before.2, not_or, Nat.not_le, Nat.not_le] at within
    exact inside state before.1 within.1 within.2

end Statements

namespace RioScDevCtrs

/-- The entries without what they count. -/
def shape (devCtrs : RioScDevCtrs) : RioScDevCtrs :=
  { devCtrs with
    pCtrs := fun idx => { devCtrs.pCtrs idx with ctrs := fun _ => initRioScCtrVal } }

/-- The entries are of different ports. -/
def Distinct (devCtrs : RioScDevCtrs) : Prop :=
  ∀ idx < devCtrs.validPCtrs, ∀ other < devCtrs.validPCtrs,
    (devCtrs.pCtrs idx).pnum = (devCtrs.pCtrs other).pnum → idx = other

/-- The entries are of different ports, and they are allocated. -/
structure SetUp (devCtrs : RioScDevCtrs) : Prop where
  allocated : devCtrs.validPCtrs ≤ devCtrs.numPCtrs
  distinct : devCtrs.Distinct

variable {devCtrs other : RioScDevCtrs} {idx ctrIdx pt : Nat} {change : RioScCtrVal → RioScCtrVal}
  {set : RioScPCtrsVal → RioScPCtrsVal} {place : Nat}

@[simp] theorem shape_setCtr : (devCtrs.setCtr idx ctrIdx change).shape = devCtrs.shape := by
  simp only [shape, setCtr, setPCtrs, RioScDevCtrs.mk.injEq, true_and]
  funext place
  by_cases same : place = idx
  · subst same
    simp
  · simp only [Function.update_of_ne same]

section

variable (same : devCtrs.shape = other.shape)
include same

theorem numPCtrs_eq : devCtrs.numPCtrs = other.numPCtrs := by
  have sameNum := congrArg numPCtrs same
  exact sameNum

theorem validPCtrs_eq :
    devCtrs.validPCtrs = other.validPCtrs := by
  have sameNum := congrArg validPCtrs same
  exact sameNum

theorem pnum_eq (idx : Nat) :
    (devCtrs.pCtrs idx).pnum = (other.pCtrs idx).pnum := by
  have samePort := congrArg (fun entries => (pCtrs entries idx).pnum) same
  exact samePort

theorem entriesOf_eq :
    devCtrs.entriesOf pt = other.entriesOf pt := by
  simp only [entriesOf, validPCtrs_eq same, pnum_eq same]

end

theorem SetUp.of_shape (setUp : other.SetUp) (same : devCtrs.shape = other.shape) :
    devCtrs.SetUp := by
  constructor
  · rw [validPCtrs_eq same, numPCtrs_eq same]
    exact setUp.allocated
  · rw [Distinct, validPCtrs_eq same]
    intro idx valid place validPlace samePort
    rw [pnum_eq same, pnum_eq same] at samePort
    exact setUp.distinct idx valid place validPlace samePort

theorem mem_entriesOf :
    idx ∈ devCtrs.entriesOf pt ↔ idx < devCtrs.validPCtrs ∧ (devCtrs.pCtrs idx).pnum = pt := by
  rw [entriesOf, List.mem_filter, List.mem_range, decide_eq_true_iff]

theorem entriesOf_nodup : (devCtrs.entriesOf pt).Nodup := List.nodup_range.filter _

theorem SetUp.entriesOf_of_mem (setUp : devCtrs.SetUp) (isEntry : idx ∈ devCtrs.entriesOf pt) :
    devCtrs.entriesOf pt = [idx] := by
  have only : ∀ place ∈ devCtrs.entriesOf pt, place = idx := by
    intro place isOther
    obtain ⟨valid, samePort⟩ := mem_entriesOf.mp isEntry
    obtain ⟨validPlace, otherPort⟩ := mem_entriesOf.mp isOther
    exact setUp.distinct place validPlace idx valid (otherPort.trans samePort.symm)
  have nodup := @entriesOf_nodup devCtrs pt
  cases entries : devCtrs.entriesOf pt with
  | nil =>
    rw [entries] at isEntry
    cases isEntry
  | cons first rest =>
    rw [entries] at only nodup
    obtain rfl := only first List.mem_cons_self
    cases rest with
    | nil => rfl
    | cons second rest =>
      have same := only second (List.mem_cons_of_mem _ List.mem_cons_self)
      rw [same] at nodup
      cases (List.nodup_cons.mp nodup).1 List.mem_cons_self

theorem pCtrs_setPCtrs_of_ne (different : place ≠ idx) :
    (devCtrs.setPCtrs idx set).pCtrs place = devCtrs.pCtrs place :=
  Function.update_of_ne different _ _

theorem pCtrs_setPCtrs_self :
    (devCtrs.setPCtrs idx set).pCtrs idx = set (devCtrs.pCtrs idx) :=
  Function.update_self _ _ _

theorem pCtrs_setCtr_of_ne (different : place ≠ idx) :
    (devCtrs.setCtr idx ctrIdx change).pCtrs place = devCtrs.pCtrs place :=
  pCtrs_setPCtrs_of_ne different

@[simp] theorem pCtrs_setCtr_self :
    (devCtrs.setCtr idx ctrIdx change).pCtrs idx =
      { devCtrs.pCtrs idx with
        ctrs := Function.update (devCtrs.pCtrs idx).ctrs ctrIdx
          (change ((devCtrs.pCtrs idx).ctrs ctrIdx)) } :=
  pCtrs_setPCtrs_self

theorem ctrs_setCtr_self :
    ((devCtrs.setCtr idx ctrIdx change).pCtrs idx).ctrs ctrIdx =
      change ((devCtrs.pCtrs idx).ctrs ctrIdx) := by
  rw [pCtrs_setCtr_self]
  exact Function.update_self _ _ _

theorem ctrs_setCtr_of_or {ctr : Nat} (different : idx ≠ place ∨ ctrIdx ≠ ctr) :
    ((devCtrs.setCtr idx ctrIdx change).pCtrs place).ctrs ctr =
      (devCtrs.pCtrs place).ctrs ctr := by
  by_cases same : place = idx
  · have differentCtr := different.resolve_left fun isOther => isOther same.symm
    rw [same, pCtrs_setCtr_self]
    exact Function.update_of_ne differentCtr.symm _ _
  · rw [pCtrs_setCtr_of_ne same]

end RioScDevCtrs

namespace RxsHardware

variable {hw : RxsHardware} {port other idx : Nat} {value : BitVec 32}
  {change : HwCounter → HwCounter}

@[simp] theorem ctl_written_self : (hw.written value (.ctl port idx)).ctl port idx = value := by
  simp [written]

theorem ctl_written_of_ne (different : other ≠ port) :
    (hw.written value (.ctl port idx)).ctl other idx = hw.ctl other idx := by
  simp only [written, Function.update_of_ne different]

@[simp] theorem cnt_setCnt_self :
    (hw.setCnt port idx change).cnt port idx = change (hw.cnt port idx) := by
  simp [setCnt]

theorem cnt_setCnt_of_ne (different : other ≠ port) :
    (hw.setCnt port idx change).cnt other = hw.cnt other := by
  simp only [setCnt, Function.update_of_ne different]

theorem cnt_setCnt_of_or {otherIdx : Nat} (different : port ≠ other ∨ idx ≠ otherIdx) :
    (hw.setCnt port idx change).cnt other otherIdx = hw.cnt other otherIdx := by
  by_cases same : other = port
  · have differentIdx := different.resolve_left fun isOther => isOther same.symm
    simp [same, setCnt, Function.update_of_ne differentIdx.symm]
  · rw [cnt_setCnt_of_ne same]

@[simp] theorem cnt_written_self :
    (hw.written value (.cnt port idx)).cnt port idx = (hw.cnt port idx).written value := by
  rw [written, cnt_setCnt_self]

theorem cnt_written_of_ne (different : other ≠ port) :
    (hw.written value (.cnt port idx)).cnt other = hw.cnt other := by
  rw [written, cnt_setCnt_of_ne different]

end RxsHardware

/-- What the first checks of each call accept. -/
def RioScDevCtrs.Acceptable (devCtrs : RioScDevCtrs) (present : Bool) : Prop :=
  present = true ∧ devCtrs.allocated = true ∧
    ¬(devCtrs.numPCtrs = 0 ∨ devCtrs.numPCtrs > rioMaxPorts ∨
      devCtrs.numPCtrs < devCtrs.validPCtrs)

section Checks

variable {Pre : Attached RioScDevCtrs RxsHardware → Prop}
  {Fail : ScStop → Attached RioScDevCtrs RxsHardware → Prop} {numPorts : Nat}

theorem checkDevCtrs_meets {present : Bool} {imp : Nat → Nat}
    (fails : ∀ state rc impRc, Pre state → ¬state.memory.Acceptable present →
      Fail (.failed rc impRc) state) :
    Meets Pre (checkDevCtrs present imp)
      (fun _ state => state.memory.Acceptable present ∧ Pre state) Fail := by
  apply Meets.failIfBind
  · intro state before absent
    apply fails state _ _ before
    intro acceptable
    rw [acceptable.1] at absent
    cases absent
  intro isPresent
  apply getDevCtrs_bind
  intro devCtrs
  apply Meets.failIfBind
  · intro state before missing
    apply fails state _ _ before.1
    intro acceptable
    rw [← before.2, acceptable.2.1] at missing
    cases missing
  intro isAllocated
  rw [Bool.not_eq_true', Bool.not_eq_false] at isPresent isAllocated
  apply Meets.failIf
  · intro state before counts
    rw [← before.2] at isAllocated counts
    exact ⟨⟨isPresent, isAllocated, counts⟩, before.1⟩
  · intro state before counts
    rw [← before.2] at counts
    exact fails state _ _ before.1 fun acceptable => acceptable.2.2 counts

theorem getPortList_meets {impRc : Nat} {ptl : DarPtl}
    (fails : ∀ state rc, Pre state → darDbRioGetPortList numPorts ptl = .error (.code rc) →
      Fail (.failed rc impRc) state)
    (overflow : ∀ state, Pre state → darDbRioGetPortList numPorts ptl = .error .outOfBounds →
      Fail .ptlOutOfBounds state) :
    Meets Pre (getPortList numPorts ptl impRc)
      (fun ports state => darDbRioGetPortList numPorts ptl = .ok ports ∧ Pre state) Fail := by
  unfold getPortList
  split
  next ports made => exact Meets.pure fun _ before => ⟨made, before⟩
  next rc stopped => exact Meets.throw fun state before => fails state rc before stopped
  next stopped => exact Meets.throw fun state before => overflow state before stopped

theorem checkRead_meets {inParms : ScPortsIn} (fails : ∀ code state, Pre state → Fail code state) :
    Meets Pre (checkRead numPorts inParms)
      (fun ports state => darDbRioGetPortList numPorts inParms.ptl = .ok ports ∧ Pre state)
      Fail := by
  apply Meets.bind ((checkDevCtrs_meets fun state _ _ before _ =>
    fails _ state before).weakenPost fun _ _ after => after.2)
  intro _
  apply getDevCtrs_bind
  intro devCtrs
  apply Meets.failIfBind
  · exact fun state before _ => fails _ state before.1
  · intro _
    apply (getPortList_meets ?_ ?_).weaken fun _ before => before.1
    · exact fun _ _ after => after
    · exact fun _ _ stopped => stopped
    · exact fun state _ before _ => fails _ state before
    · exact fun state before _ => fails _ state before

end Checks

/-- What is known of the entries does not depend on what the counters of the device have counted. -/
def Stable (Inv : RioScDevCtrs → Prop) : Prop :=
  ∀ devCtrs idx ctrIdx change, ctrIdx < rxs2448MaxSc → Inv devCtrs →
    Inv (devCtrs.setCtr idx ctrIdx change)

/-- The program keeps what is known of the entries, also when it stops early. -/
def Keeps {α : Type} (Inv : RioScDevCtrs → Prop) (program : ScProgram α) : Prop :=
  Meets (fun state => Inv state.memory) program (fun _ state => Inv state.memory)
    fun _ state => Inv state.memory

namespace Keeps

variable {Inv : RioScDevCtrs → Prop} {code : Nat → ScStop} {numPorts : Nat}

theorem bind {α β : Type} {program : ScProgram α} {next : α → ScProgram β}
    (head : Keeps Inv program) (tail : ∀ value, Keeps Inv (next value)) :
    Keeps Inv (program >>= next) :=
  Meets.bind head tail

theorem read {reg : RxsReg} : Keeps Inv (regRead rxsDevice reg code) :=
  meets_regRead fun _ _ holds => holds

theorem write {reg : RxsReg} {value : BitVec 32} :
    Keeps Inv (regWrite rxsDevice reg value code) :=
  meets_regWrite fun _ _ holds => holds

theorem failIf {condition : Prop} [Decidable condition] {code : ScStop} :
    Keeps Inv (Lib.failIf condition code) :=
  Meets.failIf (fun _ holds _ => holds) fun _ holds _ => holds

theorem done {α : Type} {value : α} : Keeps Inv (pure value) :=
  Meets.pure fun _ holds => holds

theorem getDevCtrs : Keeps Inv getDevCtrs :=
  getDevCtrs_bind fun _ => Meets.pure fun _ holds => holds.1

theorem checkDevCtrs {present : Bool} {imp : Nat → Nat} : Keeps Inv (checkDevCtrs present imp) :=
  (checkDevCtrs_meets fun _ _ _ holds _ => holds).weakenPost fun _ _ after => after.2

theorem getPortList {impRc : Nat} {ptl : DarPtl} :
    Keeps Inv (getPortList numPorts ptl impRc) := by
  have made := @getPortList_meets (fun state => Inv state.memory)
    (fun _ state => Inv state.memory) numPorts impRc ptl (fun _ _ holds _ => holds)
    fun _ holds _ => holds
  exact made.weakenPost fun _ _ after => after.2

theorem checkCfg {inParms : ScCfgRxsCtrIn} :
    Keeps Inv (checkCfg numPorts inParms) := by
  apply checkDevCtrs.bind
  intro _
  apply getDevCtrs.bind
  intro devCtrs
  apply failIf.bind
  intro _
  apply getPortList.bind
  intro ports
  apply failIf.bind
  intro _
  split
  · exact Meets.throw fun _ holds => holds
  · exact done

theorem checkRead {inParms : ScPortsIn} : Keeps Inv (checkRead numPorts inParms) :=
  (checkRead_meets fun _ _ holds => holds).weakenPost fun _ _ after => after.2

section Stable

variable (stable : Stable Inv) {numPorts : Nat}
include stable

theorem setCtr {idx ctrIdx : Nat} (used : ctrIdx < rxs2448MaxSc)
    {change : RioScCtrVal → RioScCtrVal} : Keeps Inv (setCtr idx ctrIdx change) :=
  setCtr_meets (fun state holds _ _ => stable state.memory idx ctrIdx change used holds)
    fun _ holds _ => holds

variable {inParms : ScCfgRxsCtrIn} {newCtl : BitVec 32} {srio : Bool} {pt : Nat}

theorem cfgEntry (used : inParms.ctrIdx < rxs2448MaxSc) (idx : Nat) :
    Keeps Inv (inParms.cfgEntry newCtl srio pt idx) := by
  apply read.bind
  intro ctlReg
  apply write.bind
  intro _
  apply Meets.ite
  · intro _
    exact (setCtr stable used).bind fun _ => write
  · exact fun _ => done

theorem disablePort : Keeps Inv (ScCfgRxsCtrIn.disablePort pt) := by
  apply write.bind
  intro _
  apply getDevCtrs.bind
  intro devCtrs
  apply Meets.forM
  exact fun cntrIdx isCounter => setCtr stable (List.mem_range.mp isCounter)

theorem cfgPort (used : inParms.ctrIdx < rxs2448MaxSc) :
    Keeps Inv (inParms.cfgPort newCtl srio pt) := by
  apply Keeps.bind (Meets.ite (fun _ => write) fun _ => done)
  intro _
  apply getDevCtrs.bind
  intro devCtrs
  apply Keeps.bind (Meets.forM fun idx _ => cfgEntry stable used idx)
  intro _
  apply failIf.bind
  intro _
  exact Meets.ite (fun _ => done) fun _ => disablePort stable

theorem rioScCfgRxsCtr (used : inParms.ctrIdx < rxs2448MaxSc) :
    Keeps Inv (rioScCfgRxsCtr numPorts inParms) := by
  apply checkCfg.bind
  intro checked
  apply Meets.forM
  exact fun pt _ => cfgPort stable used

theorem rxsReadCtr {srchI portNum cntr : Nat} (used : cntr < rxs2448MaxSc) :
    Keeps Inv (rxsReadCtr srchI portNum cntr) := by
  apply getDevCtrs.bind
  intro devCtrs
  apply Meets.ite
  · exact fun _ => done
  · exact fun _ => read.bind fun count => setCtr stable used

theorem readPort {portNum srchP : Nat} : Keeps Inv (readPort portNum srchP) := by
  apply getDevCtrs.bind
  intro devCtrs
  apply Keeps.bind
  · apply Meets.forM
    intro srchI _
    apply Meets.forM
    exact fun cntr isCounter => rxsReadCtr stable (List.mem_range.mp isCounter)
  · exact fun _ => failIf

theorem rxsRioScReadCtrs {inParms : ScPortsIn} :
    Keeps Inv (rxsRioScReadCtrs numPorts inParms) := by
  apply checkRead.bind
  intro ports
  apply Meets.forM
  exact fun cell _ => readPort stable

end Stable

end Keeps

theorem RioScDevCtrs.setUp_stable : Stable RioScDevCtrs.SetUp :=
  fun _ _ _ _ _ setUp => setUp.of_shape RioScDevCtrs.shape_setCtr

section Init

/-- The elements that have been set up. -/
def InitDone (ports : List Nat) (done : Set (Nat × Nat))
    (state : Attached RioScDevCtrs RxsHardware) : Prop :=
  state.memory.validPCtrs = ports.length ∧
    ∀ cell ∈ done, cell ∈ ports.zipIdx →
      (state.memory.pCtrs cell.2).pnum = cell.1 ∧ cell.2 < state.memory.numPCtrs

variable {ports : List Nat}

/-- One turn of the initialization sets up one entry. -/
theorem initPort_meets {cell : Nat × Nat} (isCell : cell ∈ ports.zipIdx) (done : Set (Nat × Nat)) :
    Meets (InitDone ports done) (initPort cell.1 cell.2)
      (fun _ => InitDone ports (insert cell done)) fun _ _ => True := by
  apply getDevCtrs_bind
  intro devCtrs
  apply Meets.failIfBind fun _ _ _ => trivial
  intro within
  apply Meets.modify
  intro state before
  obtain ⟨⟨valid, entries⟩, same⟩ := before
  rw [← same, Nat.not_le] at within
  refine ⟨valid, ?_⟩
  intro other isDone isOther
  change ((state.memory.setPCtrs cell.2 (initPCtrs cell.1)).pCtrs other.2).pnum = other.1 ∧
    other.2 < state.memory.numPCtrs
  by_cases sameIdx : other.2 = cell.2
  · have sameCell : other.1 = cell.1 := by
      rw [List.mem_zipIdx_iff_getElem?] at isCell isOther
      rw [sameIdx, isCell] at isOther
      exact (Option.some.inj isOther).symm
    refine ⟨?_, sameIdx ▸ within⟩
    rw [sameIdx, sameCell, RioScDevCtrs.pCtrs_setPCtrs_self]
    rfl
  · have wasDone : other ∈ done := isDone.resolve_left fun same => sameIdx (congrArg Prod.snd same)
    refine ⟨?_, (entries other wasDone isOther).2⟩
    rw [RioScDevCtrs.pCtrs_setPCtrs_of_ne sameIdx]
    exact (entries other wasDone isOther).1

theorem setUp_of_initDone (nodup : ports.Nodup) {state : Attached RioScDevCtrs RxsHardware}
    (all : InitDone ports (∅ ∪ {cell | cell ∈ ports.zipIdx}) state) : state.memory.SetUp := by
  obtain ⟨valid, entries⟩ := all
  have entry : ∀ idx (inRange : idx < ports.length),
      (state.memory.pCtrs idx).pnum = ports[idx] ∧ idx < state.memory.numPCtrs := by
    intro idx inRange
    have isCell : (ports[idx], idx) ∈ ports.zipIdx := by
      rw [List.mem_zipIdx_iff_getElem?]
      exact List.getElem?_eq_getElem inRange
    exact entries (ports[idx], idx) (.inr isCell) isCell
  constructor
  · rw [valid]
    cases count : ports.length with
    | zero => exact Nat.zero_le _
    | succ last => exact (entry last (by omega)).2
  · rw [RioScDevCtrs.Distinct, valid]
    intro idx inRange other otherInRange samePort
    rw [(entry idx inRange).1, (entry other otherInRange).1] at samePort
    exact (nodup.getElem_inj_iff).mp samePort

theorem rxsRioScInitDevCtrs_setUp (numPorts : Nat) (inParms : ScPortsIn) :
    Meets (fun _ => True) (rxsRioScInitDevCtrs numPorts inParms)
      (fun _ state => state.memory.SetUp) fun _ _ => True := by
  apply Meets.bind (checkDevCtrs_meets fun _ _ _ _ _ => trivial)
  intro _
  apply Meets.bind (getPortList_meets (fun _ _ _ _ => trivial) fun _ _ _ => trivial)
  intro ports
  apply Meets.assume
  intro made
  apply Meets.bind
  · exact @Meets.modify _ _ _ _ _ (fun _ => InitDone ports ∅) fun _ _ =>
      ⟨rfl, fun _ isDone => isDone.elim⟩
  · intro _
    apply (Meets.forM_cells (fun done cell isCell => initPort_meets isCell done) ∅).weakenPost
    intro _ state all
    exact setUp_of_initDone (darDbRioGetPortList_ok made).1 all

end Init

/-- A call for counters that have been set up. -/
inductive ScRequest where
  | cfg (inParms : ScCfgRxsCtrIn)
  | read (inParms : ScPortsIn)

/-- A call, and the device as it finds it. -/
structure ScCall where
  request : ScRequest
  device : RxsHardware

/-- How the call of a request ends. -/
def ScRequest.exec (numPorts : Nat) : ScRequest → Attached RioScDevCtrs RxsHardware →
    EStateM.Result ScStop (Attached RioScDevCtrs RxsHardware) Unit
  | .cfg inParms => (rioScCfgRxsCtr numPorts inParms).run
  | .read inParms => (rxsRioScReadCtrs numPorts inParms).run

/-- A call returns: it has not gone outside `p_ctrs` or the port list. -/
def Returns : EStateM.Result ScStop (Attached RioScDevCtrs RxsHardware) Unit → Prop
  | .ok _ _ | .error (.failed _ _) _ => True
  | .error _ _ => False

/-- The counter of a request is one of the device. -/
def ScRequest.InDevice : ScRequest → Prop
  | .cfg inParms => inParms.ctrIdx < rxs2448MaxSc
  | .read _ => True

/-- A call for a counter of the device that returns. -/
structure ScCall.Valid (numPorts : Nat) (state : Attached RioScDevCtrs RxsHardware)
    (call : ScCall) : Prop where
  inDevice : call.request.InDevice
  returns : Returns (call.request.exec numPorts ⟨state.memory, call.device⟩)

/-- What a call that returns leaves, also one that fails. -/
def scStep (numPorts : Nat) (state : Attached RioScDevCtrs RxsHardware) (call : ScCall) :
    Attached RioScDevCtrs RxsHardware :=
  finalState (call.request.exec numPorts ⟨state.memory, call.device⟩)

theorem Keeps.finalState {α : Type} {Inv : RioScDevCtrs → Prop} {program : ScProgram α}
    (keeps : Keeps Inv program) {state : Attached RioScDevCtrs RxsHardware}
    (holds : Inv state.memory) : Inv (finalState (program.run state)).memory := by
  obtain ⟨normal, early⟩ := keeps holds
  cases ran : program.run state with
  | ok value final => exact normal ran
  | error code final => exact early ran

/-- Whatever is configured and read, and whatever the device does, entries that have been set up
stay so, as long as every call returns. -/
theorem setUp_of_run {numPorts : Nat} {inParms : ScPortsIn}
    {before start : Attached RioScDevCtrs RxsHardware} {calls : List ScCall}
    (init : (rxsRioScInitDevCtrs numPorts inParms).run before = .ok () start)
    (valid : Guarded (scStep numPorts) (ScCall.Valid numPorts) start calls) :
    (run (scStep numPorts) start calls).memory.SetUp := by
  apply run_invariant (fun state => state.memory.SetUp) _ _ valid
  · rintro state ⟨request, device⟩ setUp isValid
    cases request with
    | cfg inParms =>
      exact (Keeps.rioScCfgRxsCtr RioScDevCtrs.setUp_stable isValid.inDevice).finalState setUp
    | read inParms =>
      exact (Keeps.rxsRioScReadCtrs RioScDevCtrs.setUp_stable).finalState setUp
  · exact (rxsRioScInitDevCtrs_setUp numPorts inParms trivial).1 init

end RioFabric.StatCounters

import RioFabric.StatCounters.RxsRules

/-!
# Configuring RXS counters

What the loop of `rio_sc_cfg_rxs_ctr` does to the entries and registers of its ports, and how it
ends early: because an access fails, because a port has no entry, or because there is no element
behind the valid ones.
-/

namespace RioFabric.StatCounters

open Lib

namespace ScCfgRxsCtrIn

variable (inParms : ScCfgRxsCtrIn) (newCtl : BitVec 32) (srio : Bool)
  (start : Attached RioScDevCtrs RxsHardware)

/-- The control register of a port does not hold the requested value yet. -/
def Changed (pt : Nat) : Prop := start.device.ctl pt inParms.ctrIdx ≠ newCtl

/-- The accesses for an entry do not fail. -/
structure EntryPasses (pt : Nat) : Prop where
  ctlRead : start.device.readFault (.ctl pt inParms.ctrIdx) = none
  ctlWrite : start.device.writeFault (.ctl pt inParms.ctrIdx) = none
  cntWrite : inParms.Changed newCtl start pt →
    start.device.writeFault (.cnt pt inParms.ctrIdx) = none

/-- The port has an entry, and no access for it fails. -/
structure Passes (pt : Nat) : Prop extends inParms.EntryPasses newCtl start pt where
  enWrite : start.device.writeFault (.en pt) = none
  hasEntry : start.memory.entriesOf pt ≠ []

instance (pt : Nat) : Decidable (inParms.Changed newCtl start pt) :=
  inferInstanceAs (Decidable (_ ≠ _))

/-- What is left of a port's entry and registers. -/
def entryDone (pt idx : Nat) : Attached RioScDevCtrs RxsHardware :=
  if inParms.Changed newCtl start pt then
    ⟨start.memory.setCtr idx inParms.ctrIdx fun _ => inParms.newCtr srio,
      (start.device.written newCtl (.ctl pt inParms.ctrIdx)).written 0 (.cnt pt inParms.ctrIdx)⟩
  else ⟨start.memory, start.device.written newCtl (.ctl pt inParms.ctrIdx)⟩

variable {inParms newCtl srio start} {pt idx : Nat}

/-- One entry is configured, or refused. -/
theorem cfgEntry_meets (allocated : idx < start.memory.numPCtrs)
    (inRange : inParms.ctrIdx < rioMaxSc) :
    Meets (fun state => state = start) (inParms.cfgEntry newCtl srio pt idx)
      (fun _ state => state = inParms.entryDone newCtl srio start pt idx ∧
        inParms.EntryPasses newCtl start pt)
      fun code _ => (∃ rc impRc, code = .failed rc impRc) ∧
        ¬inParms.EntryPasses newCtl start pt := by
  apply Meets.bind (@read_meets _ _ _ _ (fun ctlReg state =>
    (start.device.readFault (.ctl pt inParms.ctrIdx) = none ∧
      ctlReg = start.device.ctl pt inParms.ctrIdx) ∧ state = start) ?_ ?_)
  · intro ctlReg
    apply Meets.assume
    intro ⟨ctlRead, isReg⟩
    apply Meets.bind (@write_meets _ _ (fun _ state =>
      start.device.writeFault (.ctl pt inParms.ctrIdx) = none ∧
        state = ⟨start.memory, start.device.written newCtl (.ctl pt inParms.ctrIdx)⟩) _ _ _ ?_ ?_)
    · intro _
      apply Meets.assume
      intro ctlWrite
      rw [isReg]
      apply Meets.ite
      · intro (changed : inParms.Changed newCtl start pt)
        apply Meets.bind (@setCtr_meets _ _ (fun _ state =>
          state = ⟨start.memory.setCtr idx inParms.ctrIdx fun _ => inParms.newCtr srio,
            start.device.written newCtl (.ctl pt inParms.ctrIdx)⟩) _ _ _ ?_ ?_)
        · intro _
          apply write_meets
          · intro state same cntWrite
            rw [same] at cntWrite ⊢
            rw [entryDone, if_pos changed]
            exact ⟨rfl, ctlRead, ctlWrite, fun _ => cntWrite⟩
          · intro state rc same fault
            rw [same] at fault
            refine ⟨⟨rc, _, rfl⟩, fun passes => ?_⟩
            have cntWrite : start.device.writeFault (.cnt pt inParms.ctrIdx) = some rc := fault
            rw [passes.cntWrite changed] at cntWrite
            cases cntWrite
        · intro state same _ _
          rw [same]
        · intro state same outside
          rw [same] at outside
          have inside := And.intro (Nat.not_le.mpr allocated) (Nat.not_le.mpr inRange)
          exact absurd outside (not_or.mpr inside)
      · intro (same : ¬inParms.Changed newCtl start pt)
        apply Meets.pure
        intro state isState
        rw [entryDone, if_neg same]
        exact ⟨isState, ctlRead, ctlWrite, fun changed => absurd changed same⟩
    · intro state same ctlWrite
      rw [same] at ctlWrite ⊢
      exact ⟨ctlWrite, rfl⟩
    · intro state rc same fault
      rw [same] at fault
      refine ⟨⟨rc, _, rfl⟩, fun passes => ?_⟩
      rw [passes.ctlWrite] at fault
      cases fault
  · intro state same ctlRead
    rw [same] at ctlRead ⊢
    exact ⟨⟨ctlRead, rfl⟩, rfl⟩
  · intro state rc same fault
    rw [same] at fault
    refine ⟨⟨rc, _, rfl⟩, fun passes => ?_⟩
    rw [passes.ctlRead] at fault
    cases fault

variable (inParms newCtl srio start) in
/-- What is there once the ports in a set have been configured. -/
structure Processed (done : Set Nat) (state : Attached RioScDevCtrs RxsHardware) : Prop where
  shape : state.memory.shape = start.memory.shape
  readFault : state.device.readFault = start.device.readFault
  writeFault : state.device.writeFault = start.device.writeFault
  changed : ∀ idx < start.memory.validPCtrs, (start.memory.pCtrs idx).pnum ∈ done →
    inParms.Changed newCtl start (start.memory.pCtrs idx).pnum →
      state.memory.pCtrs idx =
        (start.memory.setCtr idx inParms.ctrIdx fun _ => inParms.newCtr srio).pCtrs idx
  same : ∀ idx < start.memory.validPCtrs, ¬((start.memory.pCtrs idx).pnum ∈ done ∧
    inParms.Changed newCtl start (start.memory.pCtrs idx).pnum) →
      state.memory.pCtrs idx = start.memory.pCtrs idx
  ctlDone : ∀ pt ∈ done, state.device.ctl pt inParms.ctrIdx = newCtl
  ctlSame : ∀ pt ∉ done, state.device.ctl pt inParms.ctrIdx = start.device.ctl pt inParms.ctrIdx
  cntChanged : ∀ pt ∈ done, inParms.Changed newCtl start pt →
    state.device.cnt pt inParms.ctrIdx = (start.device.cnt pt inParms.ctrIdx).written 0
  cntSame : ∀ pt, ¬(pt ∈ done ∧ inParms.Changed newCtl start pt) →
    state.device.cnt pt inParms.ctrIdx = start.device.cnt pt inParms.ctrIdx

namespace Processed

variable {done : Set Nat} {state : Attached RioScDevCtrs RxsHardware}

theorem init : inParms.Processed newCtl srio start ∅ start where
  shape := rfl
  readFault := rfl
  writeFault := rfl
  changed _ _ isDone := isDone.elim
  same _ _ _ := rfl
  ctlDone _ isDone := isDone.elim
  ctlSame _ _ := rfl
  cntChanged _ isDone := isDone.elim
  cntSame _ _ := rfl

section

variable (processed : inParms.Processed newCtl srio start done state)
include processed

theorem enWritten (value : BitVec 32) :
    inParms.Processed newCtl srio start done
      ⟨state.memory, state.device.written value (.en pt)⟩ :=
  { processed with }

theorem setCtr {ctrIdx : Nat} {change : RioScCtrVal → RioScCtrVal}
    (spare : start.memory.validPCtrs ≤ idx) :
    inParms.Processed newCtl srio start done
      ⟨state.memory.setCtr idx ctrIdx change, state.device⟩ := by
  have different : ∀ place < start.memory.validPCtrs, place ≠ idx := fun place valid same =>
    Nat.not_lt.mpr spare (same ▸ valid)
  refine { processed with shape := ?_, changed := ?_, same := ?_ }
  · exact RioScDevCtrs.shape_setCtr.trans processed.shape
  · intro place valid isDone changed
    rw [RioScDevCtrs.pCtrs_setCtr_of_ne (different place valid)]
    exact processed.changed place valid isDone changed
  · intro place valid unchanged
    rw [RioScDevCtrs.pCtrs_setCtr_of_ne (different place valid)]
    exact processed.same place valid unchanged

theorem changed_iff :
    inParms.Changed newCtl state pt ↔ pt ∉ done ∧ inParms.Changed newCtl start pt := by
  by_cases isDone : pt ∈ done
  · simp [Changed, processed.ctlDone pt isDone, isDone]
  · simp [Changed, processed.ctlSame pt isDone, isDone]

end

section Entry

variable (processed : inParms.Processed newCtl srio start done state)
include processed

theorem ctlDone_insert (other : Nat) (isDone : other ∈ insert pt done) :
    (state.device.written newCtl (.ctl pt inParms.ctrIdx)).ctl other inParms.ctrIdx = newCtl := by
  by_cases same : other = pt
  · rw [same]
    exact RxsHardware.ctl_written_self
  · rw [RxsHardware.ctl_written_of_ne same]
    exact processed.ctlDone other (isDone.resolve_left same)

theorem ctlSame_insert (other : Nat) (notDone : other ∉ insert pt done) :
    (state.device.written newCtl (.ctl pt inParms.ctrIdx)).ctl other inParms.ctrIdx =
      start.device.ctl other inParms.ctrIdx := by
  rw [RxsHardware.ctl_written_of_ne fun same => notDone (.inl same)]
  exact processed.ctlSame other fun isDone => notDone (.inr isDone)

theorem insert_unchanged (unchanged : ¬inParms.Changed newCtl state pt) :
    inParms.Processed newCtl srio start (insert pt done)
      ⟨state.memory, state.device.written newCtl (.ctl pt inParms.ctrIdx)⟩ := by
  have wasDone : ∀ other ∈ insert pt done, inParms.Changed newCtl start other → other ∈ done := by
    intro other isDone changed
    by_contra notDone
    have same := isDone.resolve_right notDone
    rw [same] at notDone changed
    exact unchanged (processed.changed_iff.mpr ⟨notDone, changed⟩)
  exact
    { shape := processed.shape
      readFault := processed.readFault
      writeFault := processed.writeFault
      changed := fun place valid isDone changed =>
        processed.changed place valid (wasDone _ isDone changed) changed
      same := fun place valid notDone =>
        processed.same place valid fun both => notDone ⟨.inr both.1, both.2⟩
      ctlDone := processed.ctlDone_insert
      ctlSame := processed.ctlSame_insert
      cntChanged := fun other isDone changed =>
        processed.cntChanged other (wasDone other isDone changed) changed
      cntSame := fun other notDone =>
        processed.cntSame other fun both => notDone ⟨.inr both.1, both.2⟩ }

theorem insert_changed (setUp : start.memory.SetUp) (isEntry : idx ∈ start.memory.entriesOf pt)
    (isChanged : inParms.Changed newCtl state pt) :
    inParms.Processed newCtl srio start (insert pt done)
      ⟨state.memory.setCtr idx inParms.ctrIdx fun _ => inParms.newCtr srio,
        (state.device.written newCtl (.ctl pt inParms.ctrIdx)).written 0
          (.cnt pt inParms.ctrIdx)⟩ := by
  obtain ⟨notDone, changed⟩ := processed.changed_iff.mp isChanged
  obtain ⟨valid, samePort⟩ := RioScDevCtrs.mem_entriesOf.mp isEntry
  have isNew : ¬((start.memory.pCtrs idx).pnum ∈ done ∧
      inParms.Changed newCtl start (start.memory.pCtrs idx).pnum) := by
    rw [samePort]
    exact fun both => notDone both.1
  constructor
  · exact RioScDevCtrs.shape_setCtr.trans processed.shape
  · exact processed.readFault
  · exact processed.writeFault
  · intro place validPlace isDone changedPlace
    by_cases same : place = idx
    · rw [same, RioScDevCtrs.pCtrs_setCtr_self, RioScDevCtrs.pCtrs_setCtr_self,
        processed.same idx valid isNew]
    · have otherPort : (start.memory.pCtrs place).pnum ≠ pt := fun isPort =>
        same (setUp.distinct place validPlace idx valid (isPort.trans samePort.symm))
      rw [RioScDevCtrs.pCtrs_setCtr_of_ne same]
      exact processed.changed place validPlace (isDone.resolve_left otherPort) changedPlace
  · intro place validPlace unchanged
    have different : place ≠ idx := by
      intro same
      rw [same, samePort] at unchanged
      exact unchanged ⟨Set.mem_insert pt done, changed⟩
    rw [RioScDevCtrs.pCtrs_setCtr_of_ne different]
    exact processed.same place validPlace fun both => unchanged ⟨.inr both.1, both.2⟩
  · exact processed.ctlDone_insert
  · exact processed.ctlSame_insert
  · intro other isDone changedOther
    by_cases same : other = pt
    · rw [same, RxsHardware.cnt_written_self]
      exact congrArg (HwCounter.written · 0) (processed.cntSame pt fun both => notDone both.1)
    · rw [RxsHardware.cnt_written_of_ne same]
      exact processed.cntChanged other (isDone.resolve_left same) changedOther
  · intro other unchanged
    have different : other ≠ pt := by
      intro same
      rw [same] at unchanged
      exact unchanged ⟨Set.mem_insert pt done, changed⟩
    rw [RxsHardware.cnt_written_of_ne different]
    exact processed.cntSame other fun both => unchanged ⟨.inr both.1, both.2⟩

theorem entryDone (setUp : start.memory.SetUp) (isEntry : idx ∈ start.memory.entriesOf pt) :
    inParms.Processed newCtl srio start (insert pt done)
      (inParms.entryDone newCtl srio state pt idx) := by
  unfold ScCfgRxsCtrIn.entryDone
  split
  next changed => exact processed.insert_changed setUp isEntry changed
  next unchanged => exact processed.insert_unchanged unchanged

end Entry

end Processed

section Ports

variable {done : Set Nat}

variable (inParms newCtl start) in
/-- How the turn for a port ends early. -/
def PortFails (pt : Nat) : ScStop → Prop
  | .failed _ _ => ¬inParms.Passes newCtl start pt
  | .outOfBounds => inParms.Passes newCtl start pt ∧ inParms.ctrEn = false ∧
      start.memory.numPCtrs ≤ start.memory.validPCtrs
  | .ptlOutOfBounds => False

variable (inParms newCtl start) in
/-- What is known of a port whose turn has not ended early. -/
def PortDone (pt : Nat) : Prop :=
  inParms.Passes newCtl start pt ∧
    (inParms.ctrEn = false → start.memory.validPCtrs < start.memory.numPCtrs)

theorem resetSpare_meets {spare : Nat} (isSpare : spare = start.memory.validPCtrs)
    (passes : inParms.Passes newCtl start pt) (disabled : inParms.ctrEn = false) :
    Meets (inParms.Processed newCtl srio start done)
      ((List.range rxs2448MaxSc).forM fun cntrIdx => setCtr spare cntrIdx fun _ => initRioScCtrVal)
      (fun _ state => inParms.Processed newCtl srio start done state ∧
        inParms.PortDone newCtl start pt)
      fun code _ => inParms.PortFails newCtl start pt code := by
  have turn : ∀ cntrIdx, Meets (inParms.Processed newCtl srio start done)
      (setCtr spare cntrIdx fun _ => initRioScCtrVal)
      (fun _ state => inParms.Processed newCtl srio start done state ∧
        start.memory.validPCtrs < start.memory.numPCtrs)
      fun code _ => code = .outOfBounds ∧
        (start.memory.numPCtrs ≤ start.memory.validPCtrs ∨ rioMaxSc ≤ cntrIdx) := by
    intro cntrIdx
    apply setCtr_meets
    · intro state processed allocated _
      rw [RioScDevCtrs.numPCtrs_eq processed.shape, isSpare] at allocated
      exact ⟨processed.setCtr (Nat.le_of_eq isSpare.symm), allocated⟩
    · intro state processed outside
      rw [RioScDevCtrs.numPCtrs_eq processed.shape, isSpare] at outside
      exact ⟨rfl, outside⟩
  have fails : ∀ cntrIdx < rxs2448MaxSc, ∀ code : ScStop, code = .outOfBounds ∧
      (start.memory.numPCtrs ≤ start.memory.validPCtrs ∨ rioMaxSc ≤ cntrIdx) →
        inParms.PortFails newCtl start pt code := by
    intro cntrIdx small code stopped
    rw [stopped.1]
    apply And.intro passes
    apply And.intro disabled
    exact stopped.2.resolve_right (Nat.not_le.mpr (Nat.lt_trans small (by decide)))
  -- the first turn shows that there is such an element
  rw [show List.range rxs2448MaxSc = 0 :: List.range' 1 7 from rfl]
  apply Meets.bind ((turn 0).weakenFail fun code _ => fails 0 (by decide) code)
  intro _
  have rest : Meets (fun state => inParms.Processed newCtl srio start done state ∧
      start.memory.validPCtrs < start.memory.numPCtrs)
      ((List.range' 1 7).forM fun cntrIdx => setCtr spare cntrIdx fun _ => initRioScCtrVal)
      (fun _ state => inParms.Processed newCtl srio start done state ∧
        start.memory.validPCtrs < start.memory.numPCtrs)
      fun code _ => inParms.PortFails newCtl start pt code := by
    apply Meets.forM
    intro cntrIdx isRest
    have small : cntrIdx < rxs2448MaxSc := (List.mem_range'_1.mp isRest).2
    exact (turn cntrIdx).weaken (fun _ before => before.1) (fun _ _ after => after)
      fun code _ => fails cntrIdx small code
  exact rest.weakenPost fun _ _ after => ⟨after.1, passes, fun _ => after.2⟩

theorem disablePort_meets (entryPasses : inParms.EntryPasses newCtl start pt)
    (hasEntry : start.memory.entriesOf pt ≠ []) (disabled : inParms.ctrEn = false) :
    Meets (inParms.Processed newCtl srio start done) (disablePort pt)
      (fun _ state => inParms.Processed newCtl srio start done state ∧
        inParms.PortDone newCtl start pt)
      fun code _ => inParms.PortFails newCtl start pt code := by
  apply Meets.bind (@write_meets _ _ (fun _ state =>
    start.device.writeFault (.en pt) = none ∧ inParms.Processed newCtl srio start done state)
    _ _ _ ?_ ?_)
  · intro _
    apply Meets.assume
    intro enWrite
    apply getDevCtrs_bind
    intro devCtrs
    apply Meets.startingAt
    intro now before
    have isSpare : devCtrs.validPCtrs = start.memory.validPCtrs := by
      rw [← before.2, RioScDevCtrs.validPCtrs_eq before.1.shape]
    exact (resetSpare_meets isSpare ⟨entryPasses, enWrite, hasEntry⟩ disabled).weakenPre
      fun state same => same ▸ before.1
  · intro state processed enWrite
    rw [processed.writeFault] at enWrite
    exact ⟨enWrite, processed.enWritten 0⟩
  · intro state rc processed fault passes
    rw [processed.writeFault, passes.enWrite] at fault
    cases fault

theorem enablePort_meets :
    Meets (inParms.Processed newCtl srio start done) (inParms.enablePort pt)
      (fun _ state => (inParms.ctrEn = true → start.device.writeFault (.en pt) = none) ∧
        inParms.Processed newCtl srio start done state)
      fun code _ => inParms.PortFails newCtl start pt code := by
  apply Meets.ite
  · intro enabled
    apply write_meets
    · intro state processed enWrite
      rw [processed.writeFault] at enWrite
      exact ⟨fun _ => enWrite, processed.enWritten _⟩
    · intro state rc processed fault passes
      rw [processed.writeFault, passes.enWrite] at fault
      cases fault
  · intro disabled
    exact Meets.pure fun state processed => ⟨fun enabled => absurd enabled disabled, processed⟩

theorem entries_meets (setUp : start.memory.SetUp) (inRange : inParms.ctrIdx < rioMaxSc)
    (donePasses : ∀ other ∈ done, inParms.Passes newCtl start other)
    (isEntry : idx ∈ start.memory.entriesOf pt) :
    Meets (inParms.Processed newCtl srio start done) (inParms.cfgEntry newCtl srio pt idx)
      (fun _ state => inParms.EntryPasses newCtl start pt ∧
        inParms.Processed newCtl srio start (insert pt done) state)
      fun code _ => inParms.PortFails newCtl start pt code := by
  apply Meets.startingAt
  intro now processed
  have valid := (RioScDevCtrs.mem_entriesOf.mp isEntry).1
  have allocated : idx < now.memory.numPCtrs := by
    rw [RioScDevCtrs.numPCtrs_eq processed.shape]
    exact Nat.lt_of_lt_of_le valid setUp.allocated
  apply (cfgEntry_meets allocated inRange).weaken (fun _ same => same)
  · intro _ state after
    refine ⟨?_, after.1 ▸ processed.entryDone setUp isEntry⟩
    by_cases isDone : pt ∈ done
    · exact (donePasses pt isDone).toEntryPasses
    · constructor
      · exact processed.readFault ▸ after.2.ctlRead
      · exact processed.writeFault ▸ after.2.ctlWrite
      · intro changed
        exact processed.writeFault ▸ after.2.cntWrite (processed.changed_iff.mpr ⟨isDone, changed⟩)
  · intro code state stopped
    obtain ⟨⟨rc, impRc, failed⟩, notPasses⟩ := stopped
    rw [failed]
    intro passes
    apply notPasses
    constructor
    · exact processed.readFault ▸ passes.ctlRead
    · exact processed.writeFault ▸ passes.ctlWrite
    · intro changed
      exact processed.writeFault ▸ passes.cntWrite (processed.changed_iff.mp changed).2

/-- One port is configured, or the call fails there. -/
theorem cfgPort_meets (setUp : start.memory.SetUp) (inRange : inParms.ctrIdx < rioMaxSc)
    (donePasses : ∀ other ∈ done, inParms.Passes newCtl start other) (pt : Nat) :
    Meets (inParms.Processed newCtl srio start done) (inParms.cfgPort newCtl srio pt)
      (fun _ state => inParms.Processed newCtl srio start (insert pt done) state ∧
        inParms.PortDone newCtl start pt)
      fun code _ => inParms.PortFails newCtl start pt code := by
  apply Meets.bind enablePort_meets
  intro _
  apply Meets.assume
  intro enWrite
  apply getDevCtrs_bind
  intro devCtrs
  apply Meets.startingAt
  intro now before
  have sameEntries : devCtrs.entriesOf pt = start.memory.entriesOf pt := by
    rw [← before.2, RioScDevCtrs.entriesOf_eq before.1.shape]
  rw [sameEntries]
  cases entries : start.memory.entriesOf pt with
  | nil =>
    have noEntry : Meets (fun state => state = now)
        (([] : List Nat).forM (inParms.cfgEntry newCtl srio pt)) (fun _ state => state = now)
        fun code _ => inParms.PortFails newCtl start pt code := Meets.pure fun _ same => same
    apply Meets.bind noEntry
    intro _
    apply Meets.failIfBind
    · exact fun _ _ _ passes => passes.hasEntry entries
    · exact fun present => absurd rfl present
  | cons idx rest =>
    have isEntry : idx ∈ start.memory.entriesOf pt := entries ▸ List.mem_cons_self
    have only := setUp.entriesOf_of_mem isEntry
    rw [← entries, only]
    have entry : Meets (fun state => state = now) ([idx].forM (inParms.cfgEntry newCtl srio pt))
        (fun _ state => inParms.EntryPasses newCtl start pt ∧
          inParms.Processed newCtl srio start (insert pt done) state)
        fun code _ => inParms.PortFails newCtl start pt code := by
      apply Meets.bind ((entries_meets setUp inRange donePasses isEntry).weakenPre
        fun state same => same ▸ before.1)
      exact fun _ => Meets.pure fun _ after => after
    apply Meets.bind entry
    intro _
    apply Meets.assume
    intro entryPasses
    have hasEntry : start.memory.entriesOf pt ≠ [] := only ▸ List.cons_ne_nil idx []
    apply Meets.failIfBind
    · exact fun _ _ absent => absurd absent (List.cons_ne_nil idx [])
    · intro _
      apply Meets.ite
      · intro enabled
        apply Meets.pure
        intro state processed
        refine ⟨processed, ⟨entryPasses, enWrite enabled, hasEntry⟩, ?_⟩
        intro disabled
        rw [enabled] at disabled
        cases disabled
      · intro disabled
        exact disablePort_meets entryPasses hasEntry (Bool.not_eq_true _ ▸ disabled)

variable {ports : List Nat}

section

variable (setUp : start.memory.SetUp) (inRange : inParms.ctrIdx < rioMaxSc)
include setUp inRange

/-- All ports of the list are configured, or the call fails at one. -/
theorem cfgPorts_meets :
    Meets (fun state => state = start) (ports.forM (inParms.cfgPort newCtl srio))
      (fun _ state => inParms.Processed newCtl srio start {pt | pt ∈ ports} state ∧
        ∀ pt ∈ ports, inParms.PortDone newCtl start pt)
      fun code _ => ∃ pt ∈ ports, inParms.PortFails newCtl start pt code := by
  have turn : ∀ done : Set Nat, ∀ pt ∈ ports,
      Meets (fun state => inParms.Processed newCtl srio start done state ∧
          ∀ other ∈ done, inParms.PortDone newCtl start other)
        (inParms.cfgPort newCtl srio pt)
        (fun _ state => inParms.Processed newCtl srio start (insert pt done) state ∧
          ∀ other ∈ insert pt done, inParms.PortDone newCtl start other)
        fun code _ => ∃ pt ∈ ports, inParms.PortFails newCtl start pt code := by
    intro done pt isPort
    apply Meets.startingAt
    intro now before
    apply (@cfgPort_meets inParms newCtl srio start done setUp inRange
      (fun other isDone => (before.2 other isDone).1) pt).weaken
    · exact fun state same => same ▸ before.1
    · intro _ state after
      refine ⟨after.1, ?_⟩
      intro other isDone
      cases isDone with
      | inl same => exact same ▸ after.2
      | inr wasDone => exact before.2 other wasDone
    · exact fun code _ fails => ⟨pt, isPort, fails⟩
  have all := (Meets.forM_cells turn ∅).weakenPre fun state (same : state = start) =>
    same ▸ ⟨Processed.init, fun _ isDone => isDone.elim⟩
  rw [Set.empty_union] at all
  exact all

theorem first_meets
    {rest : List Nat} (never : ¬inParms.PortDone newCtl start pt) :
    Meets (fun state => state = start) ((pt :: rest).forM (inParms.cfgPort newCtl srio))
      (fun _ _ => False) fun code _ => inParms.PortFails newCtl start pt code := by
  have first : Meets (fun state => state = start) (inParms.cfgPort newCtl srio pt)
      (fun _ _ => False) fun code _ => inParms.PortFails newCtl start pt code := by
    apply (@cfgPort_meets inParms newCtl srio start ∅ setUp inRange
      (fun _ isDone => isDone.elim) pt).weaken
    · exact fun state same => same ▸ Processed.init
    · exact fun _ _ after => never after.2
    · exact fun _ _ fails => fails
  exact Meets.bind first fun _ => fun _ impossible => impossible.elim

theorem first_fails
    {rest : List Nat} (notPasses : ¬inParms.Passes newCtl start pt) :
    Meets (fun state => state = start) ((pt :: rest).forM (inParms.cfgPort newCtl srio))
      (fun _ _ => False) fun code _ => code ≠ .outOfBounds := by
  apply (first_meets setUp inRange fun portDone => notPasses portDone.1).weakenFail
  intro code _ fails outside
  rw [outside] at fails
  exact notPasses fails.1

theorem first_outside
    {rest : List Nat} (passes : inParms.Passes newCtl start pt) (disabled : inParms.ctrEn = false)
    (full : start.memory.numPCtrs ≤ start.memory.validPCtrs) :
    Meets (fun state => state = start) ((pt :: rest).forM (inParms.cfgPort newCtl srio))
      (fun _ _ => False) fun code _ => code = .outOfBounds := by
  have never : ¬inParms.PortDone newCtl start pt :=
    fun portDone => Nat.not_lt.mpr full (portDone.2 disabled)
  apply (first_meets setUp inRange never).weakenFail
  intro code _ fails
  cases code with
  | failed rc impRc => exact absurd passes fails
  | outOfBounds => rfl
  | ptlOutOfBounds => exact fails.elim

end

end Ports

end ScCfgRxsCtrIn

end RioFabric.StatCounters

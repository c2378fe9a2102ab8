import RioFabric.StatCounters.Tsi57x

/-!
# Reading counters of Tsi57x switches

Only the first element of the table of a call that reads says that its port has not been read.  The
call gets past no other port.
-/

namespace RioFabric.StatCounters

open Lib Dar

namespace RioScDevCtrs

variable {devCtrs other : RioScDevCtrs}

theorem ctrsCnt_eq (same : devCtrs.shape = other.shape) (idx : Nat) :
    (devCtrs.pCtrs idx).ctrsCnt = (other.pCtrs idx).ctrsCnt := by
  have sameCnt := congrArg (fun entries => (pCtrs entries idx).ctrsCnt) same
  exact sameCnt

theorem allocated_eq (same : devCtrs.shape = other.shape) :
    devCtrs.allocated = other.allocated := by
  have sameAllocated := congrArg allocated same
  exact sameAllocated

/-- The entries are those of some ports, with all counters of a Tsi57x port. -/
structure SetUpFor (ports : List Nat) (devCtrs : RioScDevCtrs) : Prop where
  allocated : devCtrs.allocated = true
  positive : devCtrs.numPCtrs ≠ 0
  valid : devCtrs.validPCtrs = ports.length
  room : ports.length ≤ devCtrs.numPCtrs
  pnum : ∀ idx port, ports[idx]? = some port → (devCtrs.pCtrs idx).pnum = port
  ctrsCnt : ∀ idx < ports.length, (devCtrs.pCtrs idx).ctrsCnt = tsi578NumPerfCtrs

variable {ports : List Nat}

theorem SetUpFor.of_shape (setUp : SetUpFor ports other) (same : devCtrs.shape = other.shape) :
    SetUpFor ports devCtrs where
  allocated := (allocated_eq same).trans setUp.allocated
  positive := numPCtrs_eq same ▸ setUp.positive
  valid := (validPCtrs_eq same).trans setUp.valid
  room := numPCtrs_eq same ▸ setUp.room
  pnum idx port isPort := (pnum_eq same idx).trans (setUp.pnum idx port isPort)
  ctrsCnt idx inRange := (ctrsCnt_eq same idx).trans (setUp.ctrsCnt idx inRange)

end RioScDevCtrs

section Init

variable {δ : Type} {ports : List Nat} {numPCtrs numPorts : Nat}

/-- The elements up to an index have been set up. -/
structure Tsi57xInitDone (numPCtrs : Nat) (ports : List Nat) (done : Set (Nat × Nat))
    (state : Attached Tsi57xMemory δ) : Prop where
  allocated : state.memory.devCtrs.allocated = true
  count : state.memory.devCtrs.numPCtrs = numPCtrs
  valid : state.memory.devCtrs.validPCtrs = ports.length
  entry : ∀ cell ∈ done, cell ∈ ports.zipIdx →
    (state.memory.devCtrs.pCtrs cell.2).pnum = cell.1 ∧
      (state.memory.devCtrs.pCtrs cell.2).ctrsCnt = tsi578NumPerfCtrs ∧ cell.2 < numPCtrs

theorem tsi57xInitPort_meets {cell : Nat × Nat} (isCell : cell ∈ ports.zipIdx)
    (done : Set (Nat × Nat)) :
    Meets (Tsi57xInitDone (δ := δ) numPCtrs ports done) (tsi57xInitPort cell.1 cell.2)
      (fun _ => Tsi57xInitDone numPCtrs ports (insert cell done)) fun _ _ => True := by
  apply Meets.getBindAt
  intro start before
  apply Meets.failIfBind fun _ _ _ => trivial
  intro within
  apply Meets.modify
  intro state same
  rw [same]
  rw [before.count, Nat.not_le] at within
  refine ⟨before.allocated, before.count, before.valid, ?_⟩
  intro other isDone isOther
  by_cases sameIdx : other.2 = cell.2
  · have sameCell : other.1 = cell.1 := by
      rw [List.mem_zipIdx_iff_getElem?] at isCell isOther
      rw [sameIdx, isCell] at isOther
      exact (Option.some.inj isOther).symm
    rw [sameIdx, sameCell]
    change ((start.memory.devCtrs.setPCtrs cell.2 (tsi57xInitPCtrs cell.1)).pCtrs cell.2).pnum = _ ∧
      ((start.memory.devCtrs.setPCtrs cell.2 (tsi57xInitPCtrs cell.1)).pCtrs cell.2).ctrsCnt = _ ∧ _
    rw [RioScDevCtrs.pCtrs_setPCtrs_self]
    exact ⟨rfl, rfl, within⟩
  · have wasDone : other ∈ done := isDone.resolve_left fun same => sameIdx (congrArg Prod.snd same)
    change
      ((start.memory.devCtrs.setPCtrs cell.2 (tsi57xInitPCtrs cell.1)).pCtrs other.2).pnum = _ ∧
      ((start.memory.devCtrs.setPCtrs cell.2 (tsi57xInitPCtrs cell.1)).pCtrs other.2).ctrsCnt =
        _ ∧ _
    rw [RioScDevCtrs.pCtrs_setPCtrs_of_ne sameIdx]
    exact before.entry other wasDone isOther

theorem tsi57xGetPortList_meets {impRc : Nat} {ptl : DarPtl} {Pre : Attached Tsi57xMemory δ → Prop}
    {Fail : ScStop → Attached Tsi57xMemory δ → Prop}
    (fails : ∀ state stop, Pre state → (∀ ports, darDbRioGetPortList numPorts ptl ≠ .ok ports) →
      Fail stop state) :
    Meets Pre (tsi57xGetPortList numPorts ptl impRc)
      (fun ports state => darDbRioGetPortList numPorts ptl = .ok ports ∧ Pre state) Fail := by
  unfold tsi57xGetPortList
  split
  next ports made => exact Meets.pure fun _ before => ⟨made, before⟩
  next rc stopped =>
    exact Meets.throw fun state before => fails state _ before fun ports => by simp [stopped]
  next stopped =>
    exact Meets.throw fun state before => fails state _ before fun ports => by simp [stopped]

theorem setUpFor_of_initDone (positive : numPCtrs ≠ 0) {state : Attached Tsi57xMemory δ}
    (all : Tsi57xInitDone numPCtrs ports (∅ ∪ {cell | cell ∈ ports.zipIdx}) state) :
    state.memory.devCtrs.SetUpFor ports := by
  have entry : ∀ idx port, ports[idx]? = some port →
      (state.memory.devCtrs.pCtrs idx).pnum = port ∧
        (state.memory.devCtrs.pCtrs idx).ctrsCnt = tsi578NumPerfCtrs ∧ idx < numPCtrs := by
    intro idx port isPort
    have isCell : (port, idx) ∈ ports.zipIdx := List.mem_zipIdx_iff_getElem?.mpr isPort
    exact all.entry (port, idx) (.inr isCell) isCell
  have inRange : ∀ idx < ports.length,
      (state.memory.devCtrs.pCtrs idx).ctrsCnt = tsi578NumPerfCtrs ∧ idx < numPCtrs :=
    fun idx smaller => (entry idx _ (List.getElem?_eq_getElem smaller)).2
  refine ⟨all.allocated, all.count ▸ positive, all.valid, ?_, ?_, ?_⟩
  · rw [all.count]
    cases count : ports.length with
    | zero => exact Nat.zero_le _
    | succ last => exact (inRange last (by omega)).2
  · exact fun idx port isPort => (entry idx port isPort).1
  · exact fun idx smaller => (inRange idx smaller).1

theorem tsi57xRioScInitDevCtrs_setUpFor {inParms : ScPortsIn} :
    Meets (fun _ => True) (tsi57xRioScInitDevCtrs (δ := δ) numPorts inParms)
      (fun _ state => inParms.present = true ∧
        ∃ ports, darDbRioGetPortList numPorts inParms.ptl = .ok ports ∧
          state.memory.devCtrs.SetUpFor ports) fun _ _ => True := by
  apply Meets.failIfBind fun _ _ _ => trivial
  intro isPresent
  rw [Bool.not_eq_true', Bool.not_eq_false] at isPresent
  apply Meets.getBindAt
  intro start _
  apply Meets.failIfBind fun _ _ _ => trivial
  intro isAllocated
  rw [Bool.not_eq_true', Bool.not_eq_false] at isAllocated
  apply Meets.failIfBind fun _ _ _ => trivial
  intro counts
  apply Meets.failIfBind fun _ _ _ => trivial
  intro _
  apply Meets.bind (tsi57xGetPortList_meets fun _ _ _ _ => trivial)
  intro ports
  apply Meets.assume
  intro made
  rw [not_or] at counts
  apply Meets.bind
  · exact @Meets.modify _ _ _ _ _
      (fun _ => Tsi57xInitDone start.memory.devCtrs.numPCtrs ports ∅) fun state same => by
        rw [same]
        exact ⟨isAllocated, rfl, rfl, fun _ isDone => isDone.elim⟩
  · intro _
    apply (Meets.forM_cells (fun done cell isCell =>
      tsi57xInitPort_meets isCell done) ∅).weakenPost
    exact fun _ state all => ⟨isPresent, ports, made, setUpFor_of_initDone counts.1 all⟩

end Init

section Unread

variable {δ : Type} {device : RegDevice Tsi578SpxPscy δ} {portNum : Nat}

/-- The table says of no port but the first that it has not been read. -/
structure OnlyPortZero (start : RioScDevCtrs) (state : Attached Tsi57xMemory δ) : Prop where
  shape : state.memory.devCtrs.shape = start.shape
  read : ∀ port ≠ 0, state.memory.pToI port ≠ tsi578MaxPorts

variable {start : RioScDevCtrs} {Fail : ScStop → Attached Tsi57xMemory δ → Prop}

theorem tsi57xReadCtr_onlyPortZero (portNum srchI cntr : Nat) :
    Meets (OnlyPortZero start) (tsi57xReadCtr device portNum srchI cntr)
      (fun _ => OnlyPortZero start) fun _ _ => True := by
  apply Meets.getBindAt
  intro now holds
  apply Meets.ite
  · exact fun _ => Meets.pure fun _ same => same ▸ holds
  · intro _
    apply Meets.bind (@regRead_meets _ _ _ _ _ _ _ _ _ (fun _ => OnlyPortZero start) ?_ ?_)
    · intro lastInc
      apply Meets.modify
      intro state before
      exact ⟨RioScDevCtrs.shape_setCtr.trans before.shape, before.read⟩
    · intro state value after same _
      rw [same]
      exact ⟨holds.shape, holds.read⟩
    · exact fun _ _ _ _ _ => trivial

theorem tsi57xReadEntry_stops (other : portNum ≠ 0) (srchI : Nat) :
    Meets (OnlyPortZero start) (tsi57xReadEntry device portNum srchI) (fun _ _ => False)
      fun _ _ => True := by
  apply Meets.failIfBind fun _ _ _ => trivial
  intro _
  apply Meets.getBindAt
  intro now holds
  apply Meets.failIfBind fun _ _ _ => trivial
  intro goesOn
  exact absurd (not_not.mp goesOn).1.symm (holds.read portNum other)

theorem tsi57xReadEntry_onlyPortZero (srchI : Nat) :
    Meets (OnlyPortZero start) (tsi57xReadEntry device 0 srchI) (fun _ => OnlyPortZero start)
      fun _ _ => True := by
  apply Meets.failIfBind fun _ _ _ => trivial
  intro _
  apply Meets.getBindAt
  intro now holds
  apply Meets.failIfBind fun _ _ _ => trivial
  intro _
  apply Meets.bind (@Meets.modify _ _ _ _ _ (fun _ => OnlyPortZero start) ?_)
  · intro _
    apply Meets.forM
    exact fun cntr _ => tsi57xReadCtr_onlyPortZero 0 srchI cntr
  · intro state same
    rw [same]
    refine ⟨holds.shape, fun port other => ?_⟩
    change Function.update now.memory.pToI 0 srchI port ≠ tsi578MaxPorts
    rw [Function.update_of_ne other]
    exact holds.read port other

theorem tsi57xReadPort_stops (other : portNum ≠ 0) (srchP : Nat) :
    Meets (OnlyPortZero start) (tsi57xReadPort device portNum srchP) (fun _ _ => False)
      fun _ _ => True := by
  apply Meets.getBindAt
  intro now holds
  cases entries : now.memory.devCtrs.entriesOf portNum with
  | nil =>
    have nothing := Meets.anything (fun state => state = now)
      (([] : List Nat).forM (tsi57xReadEntry device portNum))
    exact Meets.bind nothing fun _ =>
      Meets.failIf (fun _ _ found => found rfl) fun _ _ _ => trivial
  | cons entry rest =>
    have stops : Meets (fun state => state = now) (tsi57xReadEntry device portNum entry)
        (fun _ _ => False) fun _ _ => True :=
      (tsi57xReadEntry_stops other entry).weakenPre fun state same => same ▸ holds
    exact Meets.bind (Meets.bind stops fun _ => Meets.unreached) fun _ => Meets.unreached

theorem tsi57xReadPort_onlyPortZero (portNum srchP : Nat) :
    Meets (OnlyPortZero start) (tsi57xReadPort device portNum srchP) (fun _ => OnlyPortZero start)
      fun _ _ => True := by
  by_cases zero : portNum = 0
  · subst zero
    apply Meets.getBindAt
    intro now holds
    have entries : Meets (OnlyPortZero start)
        ((now.memory.devCtrs.entriesOf 0).forM (tsi57xReadEntry device 0))
        (fun _ => OnlyPortZero start) fun _ _ => True :=
      Meets.forM fun srchI _ => tsi57xReadEntry_onlyPortZero srchI
    have fromNow := entries.weakenPre fun state (same : state = now) => same ▸ holds
    exact Meets.bind fromNow fun _ => Meets.failIf (fun _ after _ => after) fun _ _ _ => trivial
  · exact (tsi57xReadPort_stops zero srchP).weakenPost fun _ _ ended => ended.elim

theorem tsi57xReadPorts_stop {ports : List Nat} (isPort : portNum ∈ ports) (other : portNum ≠ 0) :
    Meets (OnlyPortZero start)
      (ports.zipIdx.forM fun cell => tsi57xReadPort device cell.1 cell.2)
      (fun _ _ => False) fun _ _ => True := by
  obtain ⟨idx, inRange, isElem⟩ := List.mem_iff_getElem.mp isPort
  have isCell : (portNum, idx) ∈ ports.zipIdx := by
    rw [List.mem_zipIdx_iff_getElem?, ← isElem]
    exact List.getElem?_eq_getElem inRange
  apply Meets.forM_stops isCell
  · exact fun cell _ => tsi57xReadPort_onlyPortZero cell.1 cell.2
  · exact tsi57xReadPort_stops other idx

end Unread

section PortZero

variable {δ : Type} {device : RegDevice Tsi578SpxPscy δ}

/-- What a call that reads makes of an entry and a counter: an enabled counter is read once, and
what was read is entered. -/
def EnteredOnce (before after : RioScCtrVal) (values : List (BitVec 32)) : Prop :=
  ∃ value, values = [value] ∧
    after = { before with total := before.total + value.setWidth 64, lastInc := value }

/-- The counters of the first port that are below a number have been read. -/
structure ReadUpTo (before : RioScDevCtrs) (count : Nat)
    (state : Attached Tsi57xMemory (δ × List (RegEvent Tsi578SpxPscy))) : Prop where
  shape : state.memory.devCtrs.shape = before.shape
  others : ∀ idx ctr, idx ≠ 0 ∨ count ≤ ctr ∨ ((before.pCtrs idx).ctrs ctr).sc = .disabled →
    (state.memory.devCtrs.pCtrs idx).ctrs ctr = (before.pCtrs idx).ctrs ctr
  unread : ∀ ctr, count ≤ ctr → valuesRead ⟨0, ctr⟩ state.device.2 = []
  entered : ∀ ctr < count, ((before.pCtrs 0).ctrs ctr).sc ≠ .disabled →
    EnteredOnce ((before.pCtrs 0).ctrs ctr) ((state.memory.devCtrs.pCtrs 0).ctrs ctr)
      (valuesRead ⟨0, ctr⟩ state.device.2)

variable {before : RioScDevCtrs}

theorem ReadUpTo.skip {cntr : Nat}
    {state : Attached Tsi57xMemory (δ × List (RegEvent Tsi578SpxPscy))}
    (holds : ReadUpTo before cntr state) (disabled : ((before.pCtrs 0).ctrs cntr).sc = .disabled) :
    ReadUpTo before (cntr + 1) state where
  shape := holds.shape
  others idx ctr stays :=
    holds.others idx ctr (stays.imp_right (Or.imp_left Nat.le_of_succ_le))
  unread ctr above := holds.unread ctr (by omega)
  entered ctr below enabled := by
    apply holds.entered ctr _ enabled
    apply Nat.lt_of_le_of_ne (Nat.le_of_lt_succ below)
    intro same
    exact enabled (same ▸ disabled)

theorem ReadUpTo.next {cntr : Nat} {value : BitVec 32} {table : Nat → Nat} {after : δ}
    {state : Attached Tsi57xMemory (δ × List (RegEvent Tsi578SpxPscy))}
    (holds : ReadUpTo before cntr state) (enabled : ((before.pCtrs 0).ctrs cntr).sc ≠ .disabled) :
    ReadUpTo before (cntr + 1)
      ⟨⟨state.memory.devCtrs.setCtr 0 cntr fun counter =>
          { counter with total := counter.total + value.setWidth 64, lastInc := value }, table⟩,
        (after, state.device.2 ++ [.read ⟨0, cntr⟩ value])⟩ where
  shape := RioScDevCtrs.shape_setCtr.trans holds.shape
  others idx ctr stays := by
    rw [RioScDevCtrs.ctrs_setCtr_of_or (by
      by_contra same
      rw [not_or, not_not, not_not] at same
      obtain ⟨rfl, rfl⟩ := same
      rcases stays with other | above | disabled
      · exact other rfl
      · omega
      · exact enabled disabled)]
    exact holds.others idx ctr (stays.imp_right (Or.imp_left Nat.le_of_succ_le))
  unread ctr above := by
    rw [valuesRead_append_of_ne (by
      intro same
      have := (Tsi578SpxPscy.mk.inj same).2
      omega)]
    exact holds.unread ctr (by omega)
  entered ctr below isEnabled := by
    by_cases same : ctr = cntr
    · subst same
      refine ⟨value, ?_, ?_⟩
      · rw [valuesRead_append_self, holds.unread ctr (Nat.le_refl ctr), List.nil_append]
      · rw [RioScDevCtrs.ctrs_setCtr_self, holds.others 0 ctr (.inr (.inl (Nat.le_refl ctr)))]
    · have earlier := holds.entered ctr (by omega) isEnabled
      rw [RioScDevCtrs.ctrs_setCtr_of_or (.inr (Ne.symm same)), valuesRead_append_of_ne (by
        intro sameReg
        exact same (Tsi578SpxPscy.mk.inj sameReg).2.symm)]
      exact earlier

theorem tsi57xReadCtr_readUpTo (succeed : device.ReadsSucceed) (cntr : Nat) :
    Meets (ReadUpTo before cntr) (tsi57xReadCtr (logged device) 0 0 cntr)
      (fun _ => ReadUpTo before (cntr + 1)) fun _ _ => False := by
  apply Meets.getBindAt
  intro now holds
  have isEntry : (now.memory.devCtrs.pCtrs 0).ctrs cntr = (before.pCtrs 0).ctrs cntr :=
    holds.others 0 cntr (.inr (.inl (Nat.le_refl cntr)))
  rw [isEntry]
  apply Meets.ite
  · exact fun disabled => Meets.pure fun state same => same ▸ holds.skip disabled
  · intro enabled
    apply Meets.bind (@regRead_logged_meets _ _ _ _ _ _ _ _ _ (fun value state =>
      state.memory = now.memory ∧
        state.device.2 = now.device.2 ++ [.read ⟨0, cntr⟩ value]) ?_ ?_)
    · intro value
      apply Meets.modify
      intro state same
      have next := @ReadUpTo.next _ _ cntr value state.memory.pToI state.device.1 now holds enabled
      rw [← same.2, ← same.1] at next
      exact next
    · intro state value after same
      rw [same]
      exact ⟨rfl, rfl⟩
    · intro state failure after _ failed
      obtain ⟨value, other, ok⟩ := succeed ⟨0, cntr⟩ state.device.1
      rw [ok] at failed
      cases failed

theorem tsi57xReadPort_readUpTo (succeed : device.ReadsSucceed) (setUp : before.SetUpFor [0])
    {start : Attached Tsi57xMemory (δ × List (RegEvent Tsi578SpxPscy))}
    (unread : start.device.2 = []) (isBefore : start.memory.devCtrs = before)
    (table : start.memory.pToI = pToIInitializer) :
    Meets (fun state => state = start) (tsi57xReadPort (logged device) 0 0)
      (fun _ => ReadUpTo before tsi578NumPerfCtrs) fun _ _ => False := by
  apply Meets.getBindAt
  intro now same
  have entries : now.memory.devCtrs.entriesOf 0 = [0] := by
    have isPort := setUp.pnum 0 0 rfl
    rw [same, isBefore, RioScDevCtrs.entriesOf, setUp.valid]
    exact List.filter_cons_of_pos (decide_eq_true isPort)
  rw [entries]
  have entry : Meets (fun state => state = now) (tsi57xReadEntry (logged device) 0 0)
      (fun _ => ReadUpTo before tsi578NumPerfCtrs) fun _ _ => False := by
    apply Meets.failIfBind (fun _ _ outside => absurd outside (by decide))
    intro _
    apply Meets.getBindAt
    intro again isNow
    apply Meets.failIfBind
    · intro state isAgain stops
      apply stops
      rw [isNow, same, table, isBefore]
      exact ⟨rfl, (setUp.ctrsCnt 0 Nat.one_pos).symm⟩
    · intro _
      apply Meets.bind (@Meets.modify _ _ _ _ _ (fun _ => ReadUpTo before 0) ?_)
      · exact fun _ => Meets.forM_range fun cntr _ => tsi57xReadCtr_readUpTo succeed cntr
      · intro state isAgain
        rw [isAgain, isNow, same]
        refine ⟨congrArg RioScDevCtrs.shape isBefore, fun idx ctr _ => ?_, fun ctr _ => ?_, ?_⟩
        · exact congrArg (fun entries => (RioScDevCtrs.pCtrs entries idx).ctrs ctr) isBefore
        · rw [unread]
          rfl
        · exact fun ctr below => absurd below (Nat.not_lt_zero ctr)
  have entries : Meets (fun state => state = now) ([0].forM (tsi57xReadEntry (logged device) 0))
      (fun _ => ReadUpTo before tsi578NumPerfCtrs) fun _ _ => False :=
    Meets.bind entry fun _ => Meets.pure fun _ after => after
  apply Meets.bind entries
  exact fun _ => Meets.failIf (fun _ after _ => after) fun _ _ none => List.cons_ne_nil _ _ none

end PortZero

section Call

variable {δ : Type} {device : RegDevice Tsi578SpxPscy δ} {state : Attached Tsi57xMemory δ}

/-- An entry of a port of the list has an enabled counter. -/
def Enabled (devCtrs : RioScDevCtrs) (ports : List Nat) (idx ctr : Nat) : Prop :=
  idx < devCtrs.validPCtrs ∧ (devCtrs.pCtrs idx).pnum ∈ ports ∧ ctr < tsi578NumPerfCtrs ∧
    ((devCtrs.pCtrs idx).ctrs ctr).sc ≠ .disabled

/-- What is expected of a call that reads: it succeeds, each enabled counter of each port of the
list is read once and entered, and the other entries stay. -/
def ReadsListed (device : RegDevice Tsi578SpxPscy δ) (numPorts : Nat) (inParms : ScPortsIn)
    (ports : List Nat) (memory : Tsi57xMemory) (hw : δ) : Prop :=
  ∃ final, (tsi57xRioScReadCtrs (logged device) numPorts inParms).run ⟨memory, (hw, [])⟩ =
      .ok () final ∧
    (∀ idx ctr, Enabled memory.devCtrs ports idx ctr →
      EnteredOnce ((memory.devCtrs.pCtrs idx).ctrs ctr)
        ((final.memory.devCtrs.pCtrs idx).ctrs ctr)
        (valuesRead ⟨(memory.devCtrs.pCtrs idx).pnum, ctr⟩ final.device.2)) ∧
    ∀ idx ctr, ¬Enabled memory.devCtrs ports idx ctr →
      (final.memory.devCtrs.pCtrs idx).ctrs ctr = (memory.devCtrs.pCtrs idx).ctrs ctr

variable {numPorts : Nat} {inParms : ScPortsIn} {ports : List Nat}

theorem tsi57xCheckRead_run (present : inParms.present = true)
    (made : darDbRioGetPortList numPorts inParms.ptl = .ok ports)
    (setUp : state.memory.devCtrs.SetUpFor ports)
    (few : state.memory.devCtrs.numPCtrs ≤ tsi578MaxPorts) :
    (tsi57xCheckRead numPorts inParms).run state = .ok ports state := by
  have counts : ¬(state.memory.devCtrs.numPCtrs = 0 ∨
      state.memory.devCtrs.numPCtrs > tsi578MaxPorts ∨
      state.memory.devCtrs.numPCtrs < state.memory.devCtrs.validPCtrs) := by
    rw [setUp.valid]
    have := setUp.positive
    have := setUp.room
    omega
  have enough : ¬(state.memory.devCtrs.numPCtrs < ports.length ∨
      state.memory.devCtrs.validPCtrs < ports.length) := by
    rw [setUp.valid]
    have := setUp.room
    omega
  have notMissing : ¬(!inParms.present) = true := by
    rw [present]
    exact Bool.false_ne_true
  apply bind_ok_iff.mpr ⟨(), state, failIf_ok_iff.mpr ⟨notMissing, rfl⟩, ?_⟩
  rw [get_bind_run]
  apply bind_ok_iff.mpr
    ⟨(), state, failIf_ok_iff.mpr ⟨by rw [setUp.allocated]; exact Bool.false_ne_true, rfl⟩, ?_⟩
  apply bind_ok_iff.mpr ⟨(), state, failIf_ok_iff.mpr ⟨counts, rfl⟩, ?_⟩
  apply bind_ok_iff.mpr ⟨ports, state, by rw [tsi57xGetPortList, made]; rfl, ?_⟩
  exact bind_ok_iff.mpr ⟨(), state, failIf_ok_iff.mpr ⟨enough, rfl⟩, rfl⟩

theorem few_of_checkRead_ok {final : Attached Tsi57xMemory δ}
    (ran : (tsi57xCheckRead numPorts inParms).run state = .ok ports final) :
    state.memory.devCtrs.numPCtrs ≤ tsi578MaxPorts ∧ final = state ∧
      darDbRioGetPortList numPorts inParms.ptl = .ok ports := by
  obtain ⟨_, _, first, rest⟩ := bind_ok_iff.mp ran
  obtain ⟨-, rfl⟩ := failIf_ok_iff.mp first
  rw [get_bind_run] at rest
  obtain ⟨_, _, second, rest⟩ := bind_ok_iff.mp rest
  obtain ⟨-, rfl⟩ := failIf_ok_iff.mp second
  obtain ⟨_, _, third, rest⟩ := bind_ok_iff.mp rest
  obtain ⟨counts, rfl⟩ := failIf_ok_iff.mp third
  obtain ⟨made, _, fourth, rest⟩ := bind_ok_iff.mp rest
  have isMade : darDbRioGetPortList numPorts inParms.ptl = .ok made ∧ _ :=
    (tsi57xGetPortList_meets (fun _ _ _ _ => trivial) (rfl : _ = state)).1 fourth
  obtain ⟨_, _, fifth, rest⟩ := bind_ok_iff.mp rest
  obtain ⟨-, rfl⟩ := failIf_ok_iff.mp fifth
  obtain ⟨rfl, rfl⟩ := pure_ok_iff.mp rest
  rw [not_or, not_or, Nat.not_lt] at counts
  exact ⟨counts.2.1, isMade.2.symm, isMade.1⟩

theorem eq_nil_or_singleton {list : List Nat} (nodup : list.Nodup)
    (onlyZero : ∀ elem ∈ list, elem = 0) : list = [] ∨ list = [0] := by
  cases list with
  | nil => exact .inl rfl
  | cons first rest =>
    cases rest with
    | nil => exact .inr (congrArg (fun elem => [elem]) (onlyZero first List.mem_cons_self))
    | cons second rest =>
      have same : first = second :=
        (onlyZero first (by simp)).trans (onlyZero second (by simp)).symm
      rw [same] at nodup
      exact absurd List.mem_cons_self (List.nodup_cons.mp nodup).1

/-- Of the entries that were set up for a list of ports, the call reads those counters that it
should if there are sixteen entries at most and the list has no port but the first. -/
theorem tsi57xRioScReadCtrs_readsListed_iff {ι : Type} {before start : Attached Tsi57xMemory ι}
    (init : (tsi57xRioScInitDevCtrs numPorts inParms).run before = .ok () start)
    (made : darDbRioGetPortList numPorts inParms.ptl = .ok ports) {memory : Tsi57xMemory}
    (configured : memory.devCtrs.shape = start.memory.devCtrs.shape) (succeed : device.ReadsSucceed)
    (hw : δ) :
    ReadsListed device numPorts inParms ports memory hw ↔
      memory.devCtrs.numPCtrs ≤ tsi578MaxPorts ∧ ∀ port ∈ ports, port = 0 := by
  obtain ⟨present, others, madeOthers, setUpFor⟩ :=
    (tsi57xRioScInitDevCtrs_setUpFor trivial).1 init
  rw [made] at madeOthers
  cases madeOthers
  have setUp := setUpFor.of_shape configured
  constructor
  · rintro ⟨final, ran, -⟩
    obtain ⟨_, filled, isFilled, ran⟩ := bind_ok_iff.mp ran
    rw [modify_ok_iff.mp isFilled] at ran
    obtain ⟨found, middle, checked, ran⟩ := bind_ok_iff.mp ran
    obtain ⟨few, isMiddle, isMade⟩ := few_of_checkRead_ok checked
    rw [made] at isMade
    cases isMade
    refine ⟨few, fun port isPort => ?_⟩
    by_contra other
    have notRead : OnlyPortZero memory.devCtrs middle := by
      rw [isMiddle]
      refine ⟨rfl, fun portNum isOther => ?_⟩
      change pToIInitializer portNum ≠ tsi578MaxPorts
      rw [pToIInitializer, if_neg isOther]
      decide
    exact (tsi57xReadPorts_stop isPort other notRead).1 ran
  · rintro ⟨few, onlyZero⟩
    have passes : ∀ state : Attached Tsi57xMemory (δ × List (RegEvent Tsi578SpxPscy)),
        state.memory.devCtrs = memory.devCtrs →
          (tsi57xCheckRead numPorts inParms).run state = .ok ports state := fun state same =>
      tsi57xCheckRead_run present made (same ▸ setUp) (same ▸ few)
    rcases eq_nil_or_singleton (darDbRioGetPortList_ok made).1 onlyZero with rfl | rfl
    · refine ⟨⟨⟨memory.devCtrs, pToIInitializer⟩, (hw, [])⟩, ?_, ?_, fun idx ctr _ => rfl⟩
      · exact bind_ok_iff.mpr ⟨⟨⟩, _, rfl, bind_ok_iff.mpr ⟨[], _, passes _ rfl, rfl⟩⟩
      · exact fun idx ctr enabled => absurd enabled.2.1 List.not_mem_nil
    · let filled : Attached Tsi57xMemory (δ × List (RegEvent Tsi578SpxPscy)) :=
        ⟨⟨memory.devCtrs, pToIInitializer⟩, (hw, [])⟩
      have reads :=
        @tsi57xReadPort_readUpTo δ device memory.devCtrs succeed setUp filled rfl rfl rfl
      obtain ⟨_, final, ran, after⟩ := reads.ends rfl
      refine ⟨final, ?_, fun idx ctr enabled => ?_, fun idx ctr notEnabled => ?_⟩
      · refine bind_ok_iff.mpr ⟨⟨⟩, filled, rfl, bind_ok_iff.mpr ⟨[0], filled, passes _ rfl, ?_⟩⟩
        exact bind_ok_iff.mpr ⟨(), final, ran, rfl⟩
      · obtain ⟨isEntry, _, isCtr, counting⟩ := enabled
        rw [setUp.valid] at isEntry
        have first : idx = 0 := Nat.lt_one_iff.mp isEntry
        subst first
        rw [setUp.pnum 0 0 rfl]
        exact after.entered ctr isCtr counting
      · apply after.others
        by_contra changed
        simp only [not_or, not_not, Nat.not_le] at changed
        obtain ⟨rfl, isCtr, counting⟩ := changed
        apply notEnabled
        refine ⟨setUp.valid ▸ Nat.one_pos, ?_, isCtr, counting⟩
        rw [setUp.pnum 0 0 rfl]
        exact List.mem_cons_self

/-- A device all of whose counters hold 5. -/
def fiveDevice : RegDevice Tsi578SpxPscy Unit where
  read _ _ := (.ok 5, ())
  write _ _ _ := (none, ())

/-- A list of one port. -/
def onePort (pnum : Nat) : ScPortsIn := ⟨⟨1, fun _ => pnum⟩, true⟩

/-- Room for the entries of two ports, and nothing in it. -/
def roomForTwo : Attached Tsi57xMemory Unit :=
  ⟨⟨⟨2, 0, true, fun _ => ⟨0, 0, fun _ => initRioScCtrVal⟩⟩, fun _ => 0⟩, ()⟩

/-- The entries that are set up for a port of a device with two. -/
def setUpForPort (pnum : Nat) : Attached Tsi57xMemory Unit :=
  finalState ((tsi57xRioScInitDevCtrs 2 (onePort pnum)).run roomForTwo)

theorem setUpForPort_init (pnum : Nat) (isPort : pnum < 2) :
    (tsi57xRioScInitDevCtrs 2 (onePort pnum)).run roomForTwo = .ok () (setUpForPort pnum) := by
  interval_cases pnum
  · rfl
  · rfl

theorem fiveDevice_readsSucceed : fiveDevice.ReadsSucceed := fun _ _ => ⟨5, (), rfl⟩

theorem tsi57xRioScReadCtrs_readsListed_iff_zero :
    ReadsListed fiveDevice 2 (onePort 0) [0] (setUpForPort 0).memory () :=
  (tsi57xRioScReadCtrs_readsListed_iff (setUpForPort_init 0 (by decide)) rfl rfl
    fiveDevice_readsSucceed ()).mpr ⟨by decide, by decide⟩

/-- The second port is not read, although it is listed and its entry was set up. -/
theorem tsi57xRioScReadCtrs_second_port :
    (tsi57xRioScInitDevCtrs 2 (onePort 1)).run roomForTwo = .ok () (setUpForPort 1) ∧
      darDbRioGetPortList 2 (onePort 1).ptl = .ok [1] ∧
      ¬ReadsListed fiveDevice 2 (onePort 1) [1] (setUpForPort 1).memory () := by
  refine ⟨setUpForPort_init 1 (by decide), rfl, ?_⟩
  rintro ⟨final, ran, -⟩
  have stops : succeeded ((tsi57xRioScReadCtrs (logged fiveDevice) 2 (onePort 1)).run
      ⟨(setUpForPort 1).memory, ((), [])⟩) = false := by decide
  rw [ran] at stops
  cases stops

end Call

end RioFabric.StatCounters

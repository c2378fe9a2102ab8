import RioFabric.Lib.Hoare
import RioFabric.RouteTable.Programmed

/-!
# Incremental programming

`rxs_rio_rt_set_changed` writes the marked entries and masks only.  That is as good as
`rxs_rio_rt_set_all` while unmarked entries have the values of the device.  Every edit keeps
it so, except one: deallocation takes the mark from a mask that was allocated again but
never put to use.
-/

namespace RioFabric.RouteTable

open Lib

/-- Unmarked entries and masks have the values of the ports that are programmed. -/
structure Synced (setOnPort : Nat) (hw : RxsHw) (rt : RioRtState) : Prop where
  domRtes : ∀ port idx, Reaches setOnPort port →
    rteMarking.InStep (rt.domTable idx) (hw.domRte port idx)
  devRtes : ∀ port idx, Reaches setOnPort port →
    rteMarking.InStep (rt.devTable idx) (hw.devRte port idx)
  masks : ∀ port idx, Reaches setOnPort port →
    mcMarking.InStep (rt.mcMasks idx) (hw.mcMask port idx)

/-- Every edited routing table entry has been marked. -/
structure EntriesNoted (before after : RioRtState) : Prop where
  domRtes : ∀ idx, rteMarking.Noted (before.domTable idx) (after.domTable idx)
  devRtes : ∀ idx, rteMarking.Noted (before.devTable idx) (after.devTable idx)

theorem EntriesNoted.trans {first second third : RioRtState} (early : EntriesNoted first second)
    (late : EntriesNoted second third) : EntriesNoted first third where
  domRtes idx := (early.domRtes idx).trans (late.domRtes idx)
  devRtes idx := (early.devRtes idx).trans (late.devRtes idx)

theorem EntriesNoted.refl (rt : RioRtState) : EntriesNoted rt rt where
  domRtes _ := .refl _
  devRtes _ := .refl _

theorem noted_update {table : RtIdx → RioRtUcInfo} {idx : RtIdx} {rte : RioRtUcInfo}
    (noted : rteMarking.Noted (table idx) rte) (other : RtIdx) :
    rteMarking.Noted (table other) (Function.update table idx rte other) := by
  by_cases here : other = idx
  · subst here
    rwa [Function.update_self]
  · rw [Function.update_of_ne here]
    exact .refl _

theorem noted_dropValue (mcMaskRte : PeRtVal) (rte : RioRtUcInfo) :
    rteMarking.Noted rte (dropValue mcMaskRte rte) := by
  unfold dropValue
  split
  · exact Marking.noted_of_marked rfl
  · exact .refl _

theorem noted_pointTo (mcMaskRte : PeRtVal) (rte : RioRtUcInfo) :
    rteMarking.Noted rte (pointTo mcMaskRte rte) := by
  unfold pointTo
  split
  · exact Marking.noted_of_marked rfl
  · exact .refl _

theorem entriesNoted_deallocMask (rt : RioRtState) (mcMaskRte : PeRtVal) (mcIdx : RtIdx) :
    EntriesNoted rt (deallocMask rt mcMaskRte mcIdx) where
  domRtes idx := noted_dropValue mcMaskRte (rt.domTable idx)
  devRtes idx := by
    have dropped := noted_dropValue mcMaskRte (rt.devTable idx)
    simp only [deallocMask]
    split
    · refine dropped.trans (noted_update (Marking.noted_of_marked rfl) idx)
    · exact dropped

theorem entriesNoted_setTarget (rt : RioRtState) (domEntry : Bool) (idx : RtIdx)
    (rteValue : PeRtVal) : EntriesNoted rt (rt.setTarget domEntry idx ⟨rteValue, true⟩) := by
  cases domEntry with
  | false => exact ⟨fun _ => .refl _, noted_update (Marking.noted_of_marked rfl)⟩
  | true => exact ⟨noted_update (Marking.noted_of_marked rfl), fun _ => .refl _⟩

theorem entriesNoted_pointEntry (rt : RioRtState) (mcMaskRte : PeRtVal) (mcInfo : RioRtMcInfo) :
    EntriesNoted rt (pointEntry rt mcMaskRte mcInfo) := by
  simp only [pointEntry]
  split
  · exact ⟨noted_update (noted_pointTo _ _), fun _ => .refl _⟩
  · exact ⟨fun _ => .refl _, noted_update (noted_pointTo _ _)⟩

theorem entriesNoted_exec (devInfo : DarDevInfo) (rt : RioRtState) (call : RtCall) :
    EntriesNoted rt (call.exec devInfo rt) := by
  have effect := exec_effect devInfo rt call
  generalize call.deallocates devInfo rt = freed, call.exec devInfo rt = after at effect
  cases effect with
  | kept => exact .refl rt
  | allocated => exact ⟨fun _ => .refl _, fun _ => .refl _⟩
  | deallocated => exact entriesNoted_deallocMask rt _ _
  | changed domEntry idx => exact entriesNoted_setTarget rt domEntry idx _
  | replaced domEntry idx =>
    exact (entriesNoted_deallocMask rt _ _).trans (entriesNoted_setTarget _ domEntry idx _)
  | pointed mcInfo =>
    obtain ⟨domRtes, devRtes⟩ := entriesNoted_pointEntry rt _ mcInfo
    exact ⟨domRtes, devRtes⟩

theorem noted_changeMask (mask mcInfo : RioRtMcInfo) :
    mcMarking.Noted mask (changeMask mask mcInfo) := by
  simp only [changeMask]
  -- new ports or not, and a destination ID to record or not
  split <;> split
  · exact Marking.noted_of_marked rfl
  · exact Marking.noted_of_marked rfl
  · exact .refl _
  · exact Marking.noted_of_marked rfl

variable {mask : RioRtMcInfo} {held : BitVec 32} {devInfo : DarDevInfo} {setOnPort : Nat}
  {hw : RxsHw} {rt : RioRtState}

theorem inStep_clearMask (inStep : mcMarking.InStep mask held)
    (unused : mask.allocd = true → mask.inUse = false → held = 0) :
    mcMarking.InStep (clearMask mask) held := by
  cases used : mask.inUse with
  | true =>
    intro unmarked
    simp [clearMask, used, mcMarking] at unmarked
  | false =>
    cases alloc : mask.allocd with
    | false => simpa [clearMask, used, alloc] using inStep
    | true =>
      intro _
      simp [clearMask, used, alloc, mcMarking, unused alloc used]

/-- The call does not deallocate a mask that is allocated but not in use while the device
holds ports for it. -/
def KeepsMark (devInfo : DarDevInfo) (setOnPort : Nat) (hw : RxsHw) (rt : RioRtState)
    (call : RtCall) : Prop :=
  ∀ mcMaskRte ∈ call.deallocates devInfo rt,
    (rt.mcMasks (rioRteIdx mcMaskRte)).allocd = true →
      (rt.mcMasks (rioRteIdx mcMaskRte)).inUse = false →
        ∀ port, Reaches setOnPort port → hw.mcMask port (rioRteIdx mcMaskRte) = 0

theorem inStep_update {masks : RtIdx → RioRtMcInfo} {mcIdx idx : RtIdx} {held : RtIdx → BitVec 32}
    (inStep : ∀ idx, mcMarking.InStep (masks idx) (held idx))
    (here : mcMarking.InStep mask (held mcIdx)) :
    mcMarking.InStep (Function.update masks mcIdx mask idx) (held idx) := by
  by_cases same : idx = mcIdx
  · subst same
    rwa [Function.update_self]
  · rw [Function.update_of_ne same]
    exact inStep idx

theorem masks_inStep_exec {call : RtCall} (synced : Synced setOnPort hw rt)
    (keeps : KeepsMark devInfo setOnPort hw rt call) {port : Nat} (reached : Reaches setOnPort port)
    (idx : RtIdx) :
    mcMarking.InStep ((call.exec devInfo rt).mcMasks idx) (hw.mcMask port idx) := by
  have inStep := fun idx => synced.masks port idx reached
  have effect := exec_effect devInfo rt call
  unfold KeepsMark at keeps
  generalize call.deallocates devInfo rt = freed, call.exec devInfo rt = after at effect keeps
  cases effect with
  | kept => exact inStep idx
  | allocated mcMaskCnt mcIdx => exact inStep_update inStep (inStep mcIdx)
  | deallocated =>
    refine inStep_update inStep (inStep_clearMask (inStep _) fun alloc unused => ?_)
    exact keeps _ rfl alloc unused port reached
  | changed domEntry target =>
    rw [setTarget_mcMasks]
    exact inStep idx
  | replaced domEntry target =>
    rw [setTarget_mcMasks]
    refine inStep_update inStep (inStep_clearMask (inStep _) fun alloc unused => ?_)
    exact keeps _ rfl alloc unused port reached
  | pointed mcInfo =>
    exact inStep_update inStep ((inStep _).edit (noted_changeMask _ mcInfo))

theorem synced_exec {call : RtCall} (synced : Synced setOnPort hw rt)
    (keeps : KeepsMark devInfo setOnPort hw rt call) :
    Synced setOnPort hw (call.exec devInfo rt) where
  domRtes port idx reached :=
    (synced.domRtes port idx reached).edit ((entriesNoted_exec devInfo rt call).domRtes idx)
  devRtes port idx reached :=
    (synced.devRtes port idx reached).edit ((entriesNoted_exec devInfo rt call).devRtes idx)
  masks _ idx reached := masks_inStep_exec synced keeps reached idx

theorem program_marked_eq_all (synced : Synced setOnPort hw rt) (maskMask : BitVec 32) :
    ((⟨rt, hw⟩ : RxsState).program setOnPort false maskMask).hw =
      ((⟨rt, hw⟩ : RxsState).program setOnPort true maskMask).hw := by
  simp only [RxsState.program, RxsState.programDevRtes, RxsState.programDomRtes,
    RxsState.programMcMasks, RxsHw.mk.injEq, true_and]
  refine ⟨?_, ?_, ?_⟩
  all_goals funext port idx; split
  · exact Marking.writeBack_marked_eq_all (synced.domRtes port idx ‹_›) fun _ => rfl
  · rfl
  · exact Marking.writeBack_marked_eq_all (synced.devRtes port idx ‹_›) fun _ => rfl
  · rfl
  · exact Marking.writeBack_marked_eq_all (synced.masks port idx ‹_›) (storeMask_self maskMask)
  · rfl

/-- The table equals what the programmed ports hold, and nothing is marked. -/
structure MatchesHw (setOnPort : Nat) (hw : RxsHw) (rt : RioRtState) : Prop where
  dfltRoute : rt.defaultRoute = hw.dfltRoute
  domRtes : ∀ port idx, Reaches setOnPort port → rt.domTable idx = ⟨hw.domRte port idx, false⟩
  devRtes : ∀ port idx, Reaches setOnPort port → rt.devTable idx = ⟨hw.devRte port idx, false⟩
  masks : ∀ port idx, Reaches setOnPort port → (rt.mcMasks idx).mcMask = hw.mcMask port idx
  unmarked : ∀ idx, (rt.mcMasks idx).changed = false

theorem MatchesHw.synced (matchesHw : MatchesHw setOnPort hw rt) : Synced setOnPort hw rt where
  domRtes port idx reached _ := by rw [matchesHw.domRtes port idx reached]; rfl
  devRtes port idx reached _ := by rw [matchesHw.devRtes port idx reached]; rfl
  masks port idx reached _ := matchesHw.masks port idx reached

/-- No update is lost in a run whose deallocations keep the marks of masks: programming the
changes leaves the device as programming everything does. -/
theorem rxsRioRtSetChanged_eq_setAll {devInfo : DarDevInfo} {bus : RegBus} {setOnPort : Nat}
    {hw : RxsHw} {rt : RioRtState} {calls : List RtCall} {changed all : RxsState}
    (matchesHw : MatchesHw setOnPort hw rt)
    (keepsMarks : Guarded (RtCall.exec devInfo) (KeepsMark devInfo setOnPort hw) rt calls)
    (setChanged : (rxsRioRtSetChanged devInfo bus setOnPort).run
      ⟨run (RtCall.exec devInfo) rt calls, hw⟩ = .ok () changed)
    (setAll : (rxsRioRtSetAll devInfo bus setOnPort).run
      ⟨run (RtCall.exec devInfo) rt calls, hw⟩ = .ok () all) :
    changed.hw = all.hw := by
  have synced : Synced setOnPort hw (run (RtCall.exec devInfo) rt calls) :=
    run_invariant (Synced setOnPort hw) (fun _ _ => synced_exec) matchesHw.synced keepsMarks
  obtain ⟨maskMask, able, rfl⟩ := rxsRtSetCommon_ok_iff.mp setChanged
  obtain ⟨other, ableAll, rfl⟩ := rxsRtSetCommon_ok_iff.mp setAll
  obtain rfl : maskMask = other := Option.some.inj (able.device.symm.trans ableAll.device)
  exact program_marked_eq_all synced maskMask

/-- A device that holds the table on every port. -/
def RioRtState.asHw (rt : RioRtState) : RxsHw where
  dfltRoute := rt.defaultRoute
  domRte := fun _ idx => (rt.domTable idx).rteVal
  devRte := fun _ idx => (rt.devTable idx).rteVal
  mcMask := fun _ idx => (rt.mcMasks idx).mcMask

/-- Destination ID 5 goes to mask 0, which has port 0 only. -/
def groupRt : RioRtState where
  defaultRoute := 0
  devTable := fun idx => ⟨if idx = 5 then 0x100 else 0, false⟩
  domTable := fun idx => ⟨if idx = 0 then rioRteLvlG0 else 0, false⟩
  mcMasks := fun idx =>
    { mcDestId := if idx = 0 then 5 else 0, tt := .ttDev8, mcMask := if idx = 0 then 1 else 0
      inUse := idx = 0, allocd := idx = 0, changed := false }

def groupDevInfo : DarDevInfo := ⟨.rxs2448, 24⟩

theorem groupRt_matchesHw (setOnPort : Nat) : MatchesHw setOnPort groupRt.asHw groupRt where
  dfltRoute := rfl
  domRtes _ _ _ := rfl
  devRtes _ _ _ := rfl
  masks _ _ _ := rfl
  unmarked _ := rfl

/-- A group that replaces another reaches the device either way. -/
theorem rxsRioRtSetChanged_eq_setAll_newGroup :
    let calls : List RtCall :=
      [.deallocMcMask 0x100, .allocMcMask 256,
        .changeMcMask 0x100 ⟨6, .ttDev8, 3, true, true, false⟩]
    let edited : RxsState := ⟨run (RtCall.exec groupDevInfo) groupRt calls, groupRt.asHw⟩
    ∃ changed all, (rxsRioRtSetChanged groupDevInfo (fun _ => none) 0).run edited = .ok () changed ∧
      (rxsRioRtSetAll groupDevInfo (fun _ => none) 0).run edited = .ok () all ∧
        changed.hw = all.hw := by
  intro calls edited
  have able (setAll : Bool) : Programmable groupDevInfo (fun _ => none) 0 setAll 0x00FFFFFF
    edited := by
    refine programmable_of_noErrors (fun _ => rfl) (by decide) (by decide) rfl ?_ ?_
    · cases setAll <;> decide +kernel
    · cases setAll <;> decide +kernel
  have setChanged := rxsRtSetCommon_ok_iff.mpr ⟨_, able false, rfl⟩
  have setAll := rxsRtSetCommon_ok_iff.mpr ⟨_, able true, rfl⟩
  have keepsMarks : Guarded (RtCall.exec groupDevInfo) (KeepsMark groupDevInfo 0 groupRt.asHw)
      groupRt calls := by
    refine ⟨?_, ?_, ?_, trivial⟩
    · -- the mask that goes is in use
      intro mcMaskRte frees _ unused
      obtain rfl : 0x100 = mcMaskRte := Option.some.inj frees
      cases unused
    · exact fun _ frees => nomatch frees
    · exact fun _ frees => nomatch frees
  exact ⟨_, _, setChanged, setAll,
    rxsRioRtSetChanged_eq_setAll (groupRt_matchesHw 0) keepsMarks setChanged setAll⟩

/-- The group is deallocated, its mask allocated again and given back: the mask has lost its
mark, and the device keeps the port. -/
theorem rxsRioRtSetChanged_loses_mask :
    let calls : List RtCall := [.deallocMcMask 0x100, .allocMcMask 256, .deallocMcMask 0x100]
    let edited : RxsState := ⟨run (RtCall.exec groupDevInfo) groupRt calls, groupRt.asHw⟩
    MatchesHw 0 groupRt.asHw groupRt ∧
      Guarded (RtCall.exec groupDevInfo)
        (fun rt call => (call.result groupDevInfo rt).1 = (.rioSuccess, .rioSuccess))
        groupRt calls ∧
      (((RtCall.deallocMcMask 0x100).exec groupDevInfo groupRt).mcMasks 0).changed = true ∧
      ∃ changed all,
        (rxsRioRtSetChanged groupDevInfo (fun _ => none) 0).run edited = .ok () changed ∧
          (rxsRioRtSetAll groupDevInfo (fun _ => none) 0).run edited = .ok () all ∧
            changed.hw.mcMask 0 0 = 1 ∧ all.hw.mcMask 0 0 = 0 := by
  intro calls edited
  have able (setAll : Bool) : Programmable groupDevInfo (fun _ => none) 0 setAll 0x00FFFFFF
    edited := by
    refine programmable_of_noErrors (fun _ => rfl) (by decide) (by decide) rfl ?_ ?_
    · cases setAll <;> decide +kernel
    · cases setAll <;> decide +kernel
  refine ⟨groupRt_matchesHw 0, by decide +kernel, by decide, _, _,
    rxsRtSetCommon_ok_iff.mpr ⟨_, able false, rfl⟩, rxsRtSetCommon_ok_iff.mpr ⟨_, able true, rfl⟩,
    ?_, ?_⟩
  · decide +kernel
  · decide +kernel

/-- Unmarked entries and masks have the values of the device, which has masks with ports of
`maskMask` only. -/
structure InSync (setOnPort : Nat) (maskMask : BitVec 32) (state : RxsState) : Prop where
  synced : Synced setOnPort state.hw state.rt
  legal : ∀ port idx, state.hw.mcMask port idx &&& ~~~maskMask = 0

section Accesses

variable {bus : RegBus} {access : RegAccess} {impRc : ImpRc} {setOnPort : Nat} {idx : RtIdx}
  {Pre Fail : RxsState → Prop}

theorem regAccess_meets : Meets Pre (regAccess bus access impRc) (fun _ => Pre) fun _ => Pre := by
  unfold regAccess
  split
  · exact Meets.throw fun _ before => before
  · exact Meets.pure fun _ before => before

theorem darRegWrite_meets (Post : RxsState → Prop) {write : RxsHw → RxsHw}
    (ok : ∀ state, Pre state → Post { state with hw := write state.hw })
    (fails : ∀ state, Pre state → Fail state) :
    Meets Pre (darRegWrite bus access impRc write) (fun _ => Post) fun _ => Fail :=
  (regAccess_meets.weakenFail fun _ => fails).bind fun _ => Meets.modify ok

theorem readCurrMsk_meets : Meets Pre (readCurrMsk bus setOnPort idx) (fun _ => Pre) fun _ => Pre :=
  Meets.ite (fun _ => Meets.pure fun _ before => before) fun _ =>
    regAccess_meets.bind fun _ => Meets.getBind fun _ _ => Meets.pure fun _ before => before

theorem writeChgBits_meets (Pre Post : RxsState → Prop) {chgBits : BitVec 32}
    {write : BitVec 32 → BitVec 32 → BitVec 32}
    (ok : ∀ state, Pre state → Post ⟨state.rt,
      { state.hw with mcMask := writeReg setOnPort idx (write chgBits) state.hw.mcMask }⟩)
    (same : ∀ state, Pre state → Post state) (fails : ∀ state, Pre state → Fail state) :
    Meets Pre (writeChgBits bus access impRc setOnPort idx chgBits write) (fun _ => Post)
      fun _ => Fail :=
  Meets.ite (fun _ => darRegWrite_meets Post ok fails) fun _ => Meets.pure same

end Accesses

theorem storeMask_of_legal {maskMask mask : BitVec 32} (legal : mask &&& ~~~maskMask = 0)
    (heldLegal : held &&& ~~~maskMask = 0) : storeMask maskMask mask held = mask := by
  have parts : mask &&& ~~~maskMask ||| mask &&& maskMask = mask := by
    ext bit inRange
    simp only [BitVec.getElem_or, BitVec.getElem_and, BitVec.getElem_not]
    cases mask[bit] <;> cases maskMask[bit] <;> rfl
  rw [storeMask, heldLegal, ← legal, parts]

theorem or_and_not (held bits maskMask : BitVec 32) :
    (held ||| bits &&& maskMask) &&& ~~~maskMask = held &&& ~~~maskMask := by
  ext bit inRange
  simp only [BitVec.getElem_or, BitVec.getElem_and, BitVec.getElem_not]
  cases held[bit] <;> cases bits[bit] <;> cases maskMask[bit] <;> rfl

section Session

variable {devInfo : DarDevInfo} {bus : RegBus} {setOnPort : Nat} {setAll : Bool} {idx : RtIdx}
  {maskMask : BitVec 32} {start : RxsState} {regs : Nat → RtIdx → BitVec 32}

theorem inStep_writeReg {γ : Type} {M : Marking γ (BitVec 32)} {table : RtIdx → γ} (idx : RtIdx)
    (cell : γ) (write : BitVec 32 → BitVec 32)
    (inStep : ∀ port other, Reaches setOnPort port → M.InStep (table other) (regs port other))
    (stored : ∀ port, Reaches setOnPort port → M.InStep cell (write (regs port idx))) (port : Nat)
    (other : RtIdx) (reached : Reaches setOnPort port) :
    M.InStep (Function.update table idx cell other)
      (writeReg setOnPort idx write regs port other) := by
  by_cases here : other = idx
  · subst here
    rw [Function.update_self, writeReg, if_pos ⟨reached, rfl⟩]
    exact stored port reached
  · rw [Function.update_of_ne here, writeReg, if_neg fun both => here both.2]
    exact inStep port other reached

theorem legal_writeReg {write : BitVec 32 → BitVec 32}
    (legal : ∀ port other, regs port other &&& ~~~maskMask = 0)
    (kept : ∀ held, held &&& ~~~maskMask = 0 → write held &&& ~~~maskMask = 0) (port : Nat)
    (other : RtIdx) : writeReg setOnPort idx write regs port other &&& ~~~maskMask = 0 := by
  unfold writeReg
  split
  · exact kept _ (legal port other)
  · exact legal port other

theorem InSync.setMask (sync : InSync setOnPort maskMask start) (bits : BitVec 32) :
    InSync setOnPort maskMask ⟨start.rt, { start.hw with
      mcMask := writeReg setOnPort idx
        (fun held => held ||| bits &&& (start.rt.mcMasks idx).mcMask &&& maskMask)
        start.hw.mcMask }⟩ where
  synced := by
    refine ⟨sync.synced.domRtes, sync.synced.devRtes, ?_⟩
    have kept := inStep_writeReg idx (start.rt.mcMasks idx)
      (fun held => held ||| bits &&& (start.rt.mcMasks idx).mcMask &&& maskMask)
      sync.synced.masks fun port reached unmarked => by
        rw [← sync.synced.masks port idx reached unmarked]
        ext bit inRange
        simp only [mcMarking, BitVec.getElem_or, BitVec.getElem_and]
        cases (start.rt.mcMasks idx).mcMask[bit] <;> simp
    rwa [Function.update_eq_self] at kept
  legal := legal_writeReg sync.legal fun held legal => by rw [or_and_not, legal]

theorem InSync.storeMask (sync : InSync setOnPort maskMask start)
    (legal : (start.rt.mcMasks idx).mcMask &&& ~~~maskMask = 0) :
    InSync setOnPort maskMask ⟨start.rt.unmarkMcMask idx, { start.hw with
      mcMask := writeReg setOnPort idx
        (RouteTable.storeMask maskMask (start.rt.mcMasks idx).mcMask) start.hw.mcMask }⟩ where
  synced := ⟨sync.synced.domRtes, sync.synced.devRtes,
    inStep_writeReg idx _ _ sync.synced.masks fun port _ _ =>
      (storeMask_of_legal legal (sync.legal port idx)).symm⟩
  legal := legal_writeReg sync.legal fun held heldLegal => by
    rw [storeMask_of_legal legal heldLegal, legal]

/-- However the program ends, the table and the device stay in sync. -/
abbrev StaysInSync (setOnPort : Nat) (maskMask : BitVec 32) (program : RxsProgram Unit) : Prop :=
  Meets (InSync setOnPort maskMask) program (fun _ => InSync setOnPort maskMask)
    fun _ => InSync setOnPort maskMask

theorem rxsProgramMcMask_syncs :
    StaysInSync setOnPort maskMask (rxsProgramMcMask bus setOnPort setAll maskMask idx) := by
  intro start sync
  constructor
  · intro _ final ran
    cases due : (start.rt.mcMasks idx).changed || setAll with
    | false =>
      simp only [rxsProgramMcMask, get_bind_run, due, Bool.false_eq_true, if_false,
        pure_ok_iff] at ran
      exact ran.2 ▸ sync
    | true =>
      obtain ⟨passes, rfl⟩ := (rxsProgramMcMask_ok_iff_of_due due).mp ran
      exact sync.storeMask passes.legal
  · -- a call that stops has not cleared bits yet, and kept the mark
    suffices early : Meets (fun state => state = start)
        (rxsProgramMcMask bus setOnPort setAll maskMask idx) (fun _ _ => True)
        fun _ => InSync setOnPort maskMask from (early rfl).2
    apply Meets.getBindAt
    intro first same
    subst same
    apply Meets.ite
    · intro _
      refine Meets.failIfBind (fun state same _ => same ▸ sync) fun _ => ?_
      refine (Meets.weakenFail (@readCurrMsk_meets bus setOnPort idx fun state => state = first)
        fun _ _ same => same ▸ sync).bind fun currMsk => ?_
      refine (writeChgBits_meets (fun state => state = first) (InSync setOnPort maskMask)
        (fun state same => same ▸ sync.setMask (~~~currMsk)) (fun state same => same ▸ sync)
        fun state same => same ▸ sync).bind fun _ => ?_
      refine (writeChgBits_meets (InSync setOnPort maskMask) (fun _ => True)
        (fun _ _ => trivial) (fun _ _ => trivial) fun _ sync => sync).bind fun _ => ?_
      exact Meets.modify fun _ _ => trivial
    · exact fun _ => Meets.pure fun _ _ => trivial

/-- A mark is taken away only after its value has been written. -/
theorem write_unmark_meets {access : RegAccess} {impRc : ImpRc} {write : RxsHw → RxsHw}
    {unmark : RxsState → RxsState} (sync : InSync setOnPort maskMask start)
    (after : InSync setOnPort maskMask (unmark { start with hw := write start.hw })) :
    Meets (fun state => state = start)
      (darRegWrite bus access impRc write >>= fun _ => modify unmark)
      (fun _ => InSync setOnPort maskMask) fun _ => InSync setOnPort maskMask :=
  (darRegWrite_meets (fun state => state = { start with hw := write start.hw })
    (fun _ same => same ▸ rfl) fun _ same => same ▸ sync).bind fun _ =>
      Meets.modify fun _ same => same ▸ after

theorem rxsProgramDomRte_syncs :
    StaysInSync setOnPort maskMask (rxsProgramDomRte bus setOnPort setAll idx) := by
  apply Meets.getBindAt
  intro start sync
  refine Meets.ite (fun _ => ?_) fun _ => Meets.pure fun state same => same ▸ sync
  have inStep := inStep_writeReg idx { start.rt.domTable idx with changed := false }
    (fun _ => (start.rt.domTable idx).rteVal) sync.synced.domRtes fun _ _ _ => rfl
  exact write_unmark_meets sync ⟨⟨inStep, sync.synced.devRtes, sync.synced.masks⟩, sync.legal⟩

theorem rxsProgramDevRte_syncs :
    StaysInSync setOnPort maskMask (rxsProgramDevRte bus setOnPort setAll idx) := by
  apply Meets.getBindAt
  intro start sync
  refine Meets.ite (fun _ => ?_) fun _ => Meets.pure fun state same => same ▸ sync
  refine Meets.failIfBind (fun state same _ => same ▸ sync) fun _ => ?_
  have inStep := inStep_writeReg idx { start.rt.devTable idx with changed := false }
    (fun _ => (start.rt.devTable idx).rteVal) sync.synced.devRtes fun _ _ _ => rfl
  exact write_unmark_meets sync ⟨⟨sync.synced.domRtes, inStep, sync.synced.masks⟩, sync.legal⟩

theorem rxsRtSetCommon_syncs (device : rxsMaskMask devInfo.devCode = some maskMask) :
    StaysInSync setOnPort maskMask (rxsRtSetCommon devInfo bus setOnPort setAll) := by
  have masks : StaysInSync setOnPort maskMask
      (rxsProgramMcMasks devInfo bus setOnPort setAll) := by
    rw [rxsProgramMcMasks, device, orFail_some, pure_bind]
    exact Meets.forM fun _ _ => rxsProgramMcMask_syncs
  refine Meets.failIfBind (fun _ sync _ => sync) fun _ => Meets.getBind fun _ _ => ?_
  refine Meets.failIfBind (fun _ sync _ => sync) fun _ => masks.bind fun _ => ?_
  refine Meets.getBind fun _ _ => (darRegWrite_meets (InSync setOnPort maskMask)
    (fun _ sync => ?_) fun _ sync => sync).bind fun _ => ?_
  · exact ⟨⟨sync.synced.domRtes, sync.synced.devRtes, sync.synced.masks⟩, sync.legal⟩
  · exact (Meets.forM fun _ _ => rxsProgramDomRte_syncs).bind
      fun _ => Meets.forM fun _ _ => rxsProgramDevRte_syncs

/-- A call that edits the table, or programs the port. -/
inductive RtStep where
  | edit (call : RtCall)
  | program (setAll : Bool) (bus : RegBus)

/-- What a call leaves, also one that fails. -/
def RtStep.exec (devInfo : DarDevInfo) (setOnPort : Nat) (state : RxsState) : RtStep → RxsState
  | .edit call => ⟨call.exec devInfo state.rt, state.hw⟩
  | .program true bus => finalState ((rxsRioRtSetAll devInfo bus setOnPort).run state)
  | .program false bus => finalState ((rxsRioRtSetChanged devInfo bus setOnPort).run state)

/-- An edit keeps the marks of masks. -/
def RtStep.KeepsMark (devInfo : DarDevInfo) (setOnPort : Nat) (state : RxsState) : RtStep → Prop
  | .edit call => RouteTable.KeepsMark devInfo setOnPort state.hw state.rt call
  | .program _ _ => True

/-- No mask can be cleared. -/
def clrFails : RegBus
  | .clrMcMask _ _ => some 1
  | _ => none

end Session

end RioFabric.RouteTable

import RioFabric.RouteTable.Tsi57x

/-!
# The local domain of a Tsi57x

At most one entry of the domain table of a Tsi57x is `RIO_RTE_LVL_G0`, whether the table was
initialized or read from the device and whatever calls came after.  The search for the base ID
that programs the device therefore never finds a second one.
-/

namespace RioFabric.RouteTable

open Lib

/-- At most one entry of the domain table leads to the device table. -/
def OneLocalDomain (rt : RioRtState) : Prop :=
  ∀ first second, (rt.domTable first).rteVal = rioRteLvlG0 →
    (rt.domTable second).rteVal = rioRteLvlG0 → first = second

variable {rt after : RioRtState} {devInfo : DarDevInfo}

section

variable (oneLocal : OneLocalDomain rt)
include oneLocal

theorem OneLocalDomain.of_subset (subset : ∀ idx, (after.domTable idx).rteVal = rioRteLvlG0 →
      (rt.domTable idx).rteVal = rioRteLvlG0) : OneLocalDomain after := by
  intro first second isFirst isSecond
  exact oneLocal first second (subset first isFirst) (subset second isSecond)

theorem OneLocalDomain.update {idx : RtIdx} {rte : RioRtUcInfo} (other : rte.rteVal ≠ rioRteLvlG0)
    (table : after.domTable = Function.update rt.domTable idx rte) : OneLocalDomain after := by
  apply oneLocal.of_subset
  intro destId isLocal
  rw [table] at isLocal
  by_cases here : destId = idx
  · rw [here, Function.update_self] at isLocal
    contradiction
  · rwa [Function.update_of_ne here] at isLocal

theorem oneLocalDomain_deallocMask (mcMaskRte : PeRtVal)
    (mcIdx : RtIdx) : OneLocalDomain (deallocMask rt mcMaskRte mcIdx) := by
  apply oneLocal.of_subset
  intro destId isLocal
  simp only [deallocMask, dropValue] at isLocal
  split at isLocal
  · contradiction
  · exact isLocal

theorem oneLocalDomain_dealloc (mcMaskRte : PeRtVal) :
    OneLocalDomain (dsfRioRtDeallocMcMask rt mcMaskRte).2 := by
  unfold dsfRioRtDeallocMcMask
  cases rioRtvGetMcMsk mcMaskRte with
  | none => exact oneLocal
  | some mcIdx => exact oneLocalDomain_deallocMask oneLocal mcMaskRte mcIdx

theorem oneLocalDomain_alloc (mcMaskCnt : Nat) :
    OneLocalDomain (dsfRioRtDefaultAllocMcMask rt mcMaskCnt).2.2 := by
  unfold dsfRioRtDefaultAllocMcMask
  split <;> exact oneLocal

end

theorem oneLocalDomain_dropOtherLocals (rt : RioRtState) (idx : RtIdx) :
    OneLocalDomain { rt with domTable := dropOtherLocals rt.domTable idx } := by
  have isIdx (destId : RtIdx)
      (isLocal : (dropOtherLocals rt.domTable idx destId).rteVal = rioRteLvlG0) :
      destId = idx := by
    unfold dropOtherLocals at isLocal
    split at isLocal
    next => contradiction
    next kept =>
      by_contra other
      exact kept ⟨isLocal, other⟩
  intro first second isFirst isSecond
  exact (isIdx first isFirst).trans (isIdx second isSecond).symm

theorem oneLocalDomain_changeRte (oneLocal : OneLocalDomain rt) (devInfo : DarDevInfo)
    (domEntry : Bool) (idx : RtIdx) (rteValue : PeRtVal) :
    OneLocalDomain (tsi57xRioRtChangeRte devInfo rt domEntry idx rteValue).2 := by
  unfold tsi57xRioRtChangeRte
  split
  · exact oneLocal
  split
  · exact oneLocal
  split
  · exact oneLocalDomain_dropOtherLocals _ idx
  next notLocal =>
    cases domEntry with
    | false => exact oneLocal
    | true =>
      have other : rteValue ≠ rioRteLvlG0 := fun isLocal => notLocal ⟨rfl, isLocal⟩
      exact oneLocal.update other rfl

theorem oneLocalDomain_changeMcMask (oneLocal : OneLocalDomain rt) (mcMaskRte : PeRtVal)
    (mcInfo : RioRtMcInfo) :
    OneLocalDomain (tsi57xRioRtChangeMcMask rt mcMaskRte mcInfo).2 := by
  unfold tsi57xRioRtChangeMcMask
  dsimp only
  split
  · exact oneLocal
  split
  · exact oneLocal
  split <;> exact oneLocal

theorem tsi57xExec_oneLocalDomain (devInfo : DarDevInfo) (call : RtCall)
    (oneLocal : OneLocalDomain rt) : OneLocalDomain (call.tsi57xExec devInfo rt) := by
  cases call with
  | allocMcMask mcMaskCnt => exact oneLocalDomain_alloc oneLocal mcMaskCnt
  | deallocMcMask mcMaskRte => exact oneLocalDomain_dealloc oneLocal mcMaskRte
  | changeRte domEntry idx rteValue =>
    exact oneLocalDomain_changeRte oneLocal devInfo domEntry idx rteValue
  | changeMcMask mcMaskRte mcInfo => exact oneLocalDomain_changeMcMask oneLocal mcMaskRte mcInfo

section Program

variable {δ : Type} {device : RegDevice TsiReg δ} {devInfo : DarDevInfo} {rt : RioRtState}

/-- The program keeps one local domain, and does not stop because of a second one. -/
abbrev KeepsOneLocal {α : Type} (program : RtProgram δ α) : Prop :=
  Meets (fun state => OneLocalDomain state.memory) program
    (fun _ state => OneLocalDomain state.memory) fun rc _ => rc.2 ≠ .programRteEntries 2

theorem darWrite_keepsOneLocal (reg : TsiReg) (value : BitVec 32) {impRc : ImpRc}
    (other : impRc ≠ .programRteEntries 2) : KeepsOneLocal (darWrite device reg value impRc) :=
  meets_regWrite fun _ _ _ => other

theorem unmarkDomRte_oneLocal (oneLocal : OneLocalDomain rt) (destId : RtIdx) :
    OneLocalDomain (rt.unmarkDomRte destId) := by
  apply oneLocal.of_subset
  intro idx isLocal
  simp only [RioRtState.unmarkDomRte, Function.update_apply] at isLocal
  split at isLocal
  next here =>
    rw [here]
    exact isLocal
  next => exact isLocal

theorem tsi57xHwRte_keepsOneLocal (idxVal : BitVec 32) (rteVal : PeRtVal) {pt : Nat}
    (other : pt ≠ 2) : KeepsOneLocal (tsi57xHwRte (δ := δ) devInfo idxVal rteVal pt) := by
  unfold tsi57xHwRte
  apply Meets.ite
  · exact fun _ => Meets.pure fun _ oneLocal => oneLocal
  intro _
  apply Meets.ite
  · exact fun _ => Meets.pure fun _ oneLocal => oneLocal
  intro _
  apply Meets.ite
  · exact fun _ => Meets.throw fun _ _ => by simpa using other
  · exact fun _ => Meets.pure fun _ oneLocal => oneLocal

theorem tsi57xWriteRte_keepsOneLocal (ports : List Nat) (hwRte : BitVec 32 × BitVec 32)
    {destIdPt portPt : Nat} (otherDestId : destIdPt ≠ 2) (otherPort : portPt ≠ 2) :
    KeepsOneLocal (tsi57xWriteRte device ports hwRte destIdPt portPt) := by
  apply Meets.forM
  intro port _
  apply Meets.bind (darWrite_keepsOneLocal _ _ (by simpa using otherDestId))
  intro _
  exact darWrite_keepsOneLocal _ _ (by simpa using otherPort)

theorem tsi57xProgramDomRte_keepsOneLocal (ports : List Nat) (progAll : Bool) (destId : RtIdx) :
    KeepsOneLocal (tsi57xProgramDomRte device devInfo ports progAll destId) := by
  apply Meets.getBind
  intro state oneLocal
  have unmark : KeepsOneLocal (modifyMemory (δ := δ) fun rt => rt.unmarkDomRte destId) :=
    meets_modifyMemory fun rt oneLocal => unmarkDomRte_oneLocal oneLocal destId
  apply Meets.ite
  · intro _
    apply Meets.ite
    · intro _
      apply Meets.bind (tsi57xHwRte_keepsOneLocal _ _ (by decide))
      intro hwRte
      apply Meets.bind (tsi57xWriteRte_keepsOneLocal ports hwRte (by decide) (by decide))
      exact fun _ => unmark
    · exact fun _ => unmark
  · exact fun _ => Meets.pure fun _ oneLocal => oneLocal

theorem tsi57xProgramDevRte_keepsOneLocal (ports : List Nat) (progAll : Bool) (baseId : Nat)
    (destId : RtIdx) :
    KeepsOneLocal (tsi57xProgramDevRte device devInfo ports progAll baseId destId) := by
  apply Meets.getBind
  intro state oneLocal
  apply Meets.ite
  · intro _
    apply Meets.bind (tsi57xHwRte_keepsOneLocal _ _ (by decide))
    intro hwRte
    apply Meets.bind (tsi57xWriteRte_keepsOneLocal ports hwRte (by decide) (by decide))
    exact fun _ => meets_modifyMemory fun rt oneLocal => oneLocal
  · exact fun _ => Meets.pure fun _ oneLocal => oneLocal

theorem tsi57xFindBase_keepsOneLocal (oneLocal : OneLocalDomain rt) {destIds : List RtIdx}
    (nodup : destIds.Nodup) {base : Option RtIdx}
    (found : ∀ destId ∈ base, (rt.domTable destId).rteVal = rioRteLvlG0 ∧ destId ∉ destIds) :
    KeepsOneLocal (destIds.foldlM (tsi57xFindBase (δ := δ) rt) base) := by
  induction destIds generalizing base with
  | nil => exact Meets.pure fun _ holds => holds
  | cons destId destIds ih =>
    obtain ⟨notAhead, nodup⟩ := List.nodup_cons.mp nodup
    rw [List.foldlM_cons]
    unfold tsi57xFindBase
    split
    next isLocal =>
      cases base with
      | some known =>
        obtain ⟨knownLocal, ahead⟩ := found known rfl
        have same := oneLocal known destId knownLocal isLocal
        rw [same] at ahead
        exact absurd List.mem_cons_self ahead
      | none =>
        refine ih nodup ?_
        rintro _ ⟨⟩
        exact ⟨isLocal, notAhead⟩
    next =>
      refine ih nodup ?_
      intro known isKnown
      obtain ⟨knownLocal, ahead⟩ := found known isKnown
      exact ⟨knownLocal, fun later => ahead (List.mem_cons_of_mem destId later)⟩

theorem tsi57xProgramRteEntries_keepsOneLocal (pnum : Nat) (progAll : Bool) :
    KeepsOneLocal (tsi57xProgramRteEntries device devInfo pnum progAll) := by
  apply Meets.getBind
  intro state oneLocal
  apply Meets.bind (darWrite_keepsOneLocal _ _ (by decide))
  intro _
  apply Meets.bind (tsi57xFindBase_keepsOneLocal oneLocal (List.nodup_finRange 256)
    fun _ isKnown => absurd isKnown (Option.not_mem_none _))
  intro base
  apply Meets.bind (Meets.forM fun port _ => darWrite_keepsOneLocal _ _ (by decide))
  intro _
  apply Meets.bind (Meets.forM fun destId _ => tsi57xProgramDomRte_keepsOneLocal _ _ destId)
  intro _
  exact Meets.forM fun destId _ => tsi57xProgramDevRte_keepsOneLocal _ _ _ destId

theorem tsi57xProgramMcMaskLoop_keepsOneLocal (progAll written : Bool) (maskIdxs : List RtIdx) :
    KeepsOneLocal (tsi57xProgramMcMaskLoop device devInfo progAll written maskIdxs) := by
  induction maskIdxs generalizing written with
  | nil => exact Meets.pure fun _ oneLocal => oneLocal
  | cons maskIdx maskIdxs ih =>
    apply Meets.getBind
    intro state oneLocal
    apply Meets.ite
    · exact fun _ => Meets.failIf (fun _ oneLocal _ => oneLocal) fun _ _ _ => by decide
    intro _
    apply Meets.ite
    · intro _
      have unmark : KeepsOneLocal (modifyMemory (δ := δ) fun rt => rt.unmarkMcMask maskIdx) :=
        meets_modifyMemory fun rt oneLocal => oneLocal
      apply Meets.bind unmark
      intro _
      apply Meets.bind (darWrite_keepsOneLocal _ _ (by decide))
      intro _
      apply Meets.bind (darWrite_keepsOneLocal _ _ (by decide))
      exact fun _ => ih true
    · exact fun _ => ih written

theorem tsi57xRtSet_keepsOneLocal (impRc : Nat → ImpRc) (setOnPort : Nat) (progAll : Bool)
    (other : ∀ pt, impRc pt ≠ .programRteEntries 2) :
    KeepsOneLocal (tsi57xRtSet device devInfo impRc setOnPort progAll) := by
  apply Meets.failIfBind fun _ _ _ => other 1
  intro _
  apply Meets.getBind
  intro state oneLocal
  apply Meets.failIfBind fun _ _ _ => other 2
  intro _
  apply Meets.bind
  · apply Meets.bind (Meets.get fun _ oneLocal => oneLocal)
    intro state
    apply Meets.failIfBind fun _ _ _ => nofun
    exact fun _ => tsi57xProgramMcMaskLoop_keepsOneLocal progAll false _
  · exact fun _ => tsi57xProgramRteEntries_keepsOneLocal setOnPort progAll

end Program

section Produced

variable {δ : Type} {device : RegDevice TsiReg δ} {devInfo : DarDevInfo} {rt : RioRtState}
  {done : Set RtIdx}

theorem oneLocalDomain_initialRt (inParms : RioRtInitializeIn)
    (tablePort : inParms.defaultRouteTablePort ≠ rioRteLvlG0) :
    OneLocalDomain (tsi57xInitialRt inParms) := by
  have isZero (destId : RtIdx)
      (isLocal : ((tsi57xInitialRt inParms).domTable destId).rteVal = rioRteLvlG0) :
      destId = 0 := by
    simp only [tsi57xInitialRt, initialRt] at isLocal
    split at isLocal
    · assumption
    · contradiction
  intro first second isFirst isSecond
  exact (isZero first isFirst).trans (isZero second isSecond).symm

theorem tsi57xNumPorts_le (devInfo : DarDevInfo) : devInfo.tsi57xNumPorts ≤ 16 := by
  unfold DarDevInfo.tsi57xNumPorts
  split <;> omega

theorem tsi57xRioRtInitialize_oneLocal (inParms : RioRtInitializeIn) :
    Meets (fun _ => True) (tsi57xRioRtInitialize device devInfo inParms)
      (fun _ state => OneLocalDomain state.memory) fun _ _ => True := by
  apply Meets.failIfBind fun _ _ _ => trivial
  intro _
  apply Meets.failIfBind fun _ _ _ => trivial
  intro passes
  apply Meets.failIfBind fun _ _ _ => trivial
  intro _
  have tablePort : inParms.defaultRouteTablePort ≠ rioRteLvlG0 := by
    intro isLocal
    have small := tsi57xNumPorts_le devInfo
    rw [isLocal] at passes
    exact passes ⟨by simp [rioRteLvlG0]; omega, by decide⟩
  apply Meets.bind (Meets.anything _ _)
  intro _
  apply Meets.bind (Meets.anything _ _)
  intro _
  have initialized : Meets (fun _ => True) (modifyMemory (δ := δ) fun _ => tsi57xInitialRt inParms)
      (fun _ state => OneLocalDomain state.memory) fun (_ : RtRc) _ => True :=
    Meets.modify fun _ _ => oneLocalDomain_initialRt inParms tablePort
  have programmed : Meets (fun state => OneLocalDomain state.memory)
      (tsi57xRioRtSetChanged device devInfo inParms.setOnPort)
      (fun _ state => OneLocalDomain state.memory) fun _ _ => True :=
    (tsi57xRtSet_keepsOneLocal .rtSetChanged _ false nofun).weakenFail fun _ _ _ => trivial
  apply Meets.bind initialized
  intro _
  exact Meets.ite (fun _ => programmed) fun _ => Meets.pure fun _ oneLocal => oneLocal

theorem tsi57xRteVal_ne (regVal : BitVec 32) : tsi57xRteVal regVal ≠ rioRteLvlG0 := by
  unfold tsi57xRteVal
  split
  · decide
  · intro isLocal
    have bit := congrArg (fun value => value.getLsbD 9) isLocal
    simp [rioRteLvlG0] at bit

/-- The entries of a set have been read. -/
def NoneLocal (done : Set RtIdx) (rt : RioRtState) : Prop :=
  ∀ destId ∈ done, (rt.domTable destId).rteVal ≠ rioRteLvlG0

theorem noneLocal_update (before : NoneLocal done rt) {rte : RioRtUcInfo}
    (other : rte.rteVal ≠ rioRteLvlG0) (destId : RtIdx) :
    NoneLocal (insert destId done) (rt.setTarget true destId rte) := by
  intro idx isDone
  by_cases here : idx = destId
  · rw [here]
    simpa [RioRtState.setTarget] using other
  · simpa [RioRtState.setTarget, here] using
      before idx (Set.mem_of_mem_insert_of_ne isDone here)

theorem noneLocal_unmark (before : NoneLocal done rt) (destId : RtIdx) :
    NoneLocal done
      (rt.setTarget true destId { rt.target true destId with changed := false }) := by
  intro idx isDone
  by_cases here : idx = destId
  · rw [here] at isDone ⊢
    simpa [RioRtState.setTarget, RioRtState.target] using before destId isDone
  · simpa [RioRtState.setTarget, here] using before idx isDone

theorem tsi57xReadDomRte_noneLocal (pnum : Nat) (idxVal : BitVec 32) (done : Set RtIdx)
    (destId : RtIdx) :
    Meets (fun state => NoneLocal done state.memory)
      (tsi57xReadRte device pnum true idxVal 7 8 destId)
      (fun _ state => NoneLocal (insert destId done) state.memory) fun _ _ => True := by
  have unmark : Meets (fun state => NoneLocal done state.memory)
      (modifyMemory (δ := δ) fun rt =>
        rt.setTarget true destId { rt.target true destId with changed := false })
      (fun _ state => NoneLocal done state.memory) fun (_ : RtRc) _ => True :=
    meets_modifyMemory fun rt before => noneLocal_unmark before destId
  apply Meets.bind unmark
  intro _
  apply Meets.bind (meets_regWrite fun _ _ _ => trivial)
  intro _
  apply Meets.bind (meets_regRead fun _ _ _ => trivial)
  intro rteVal
  exact meets_modifyMemory fun rt before =>
    noneLocal_update before (tsi57xRteVal_ne rteVal) destId

theorem tsi57xReadDevRte_oneLocal (pnum : Nat) (idxVal : BitVec 32) (destId : RtIdx) :
    Meets (fun state => OneLocalDomain state.memory)
      (tsi57xReadRte device pnum false idxVal 3 4 destId)
      (fun _ state => OneLocalDomain state.memory) fun _ _ => True := by
  have store (rte : RioRtState → RioRtUcInfo) :
      Meets (fun state => OneLocalDomain state.memory)
        (modifyMemory (δ := δ) fun rt => rt.setTarget false destId (rte rt))
        (fun _ state => OneLocalDomain state.memory) fun (_ : RtRc) _ => True :=
    meets_modifyMemory fun rt oneLocal => oneLocal
  apply Meets.bind (store fun rt => { rt.target false destId with changed := false })
  intro _
  apply Meets.bind (meets_regWrite fun _ _ _ => trivial)
  intro _
  apply Meets.bind (meets_regRead fun _ _ _ => trivial)
  intro rteVal
  exact store fun rt => { rt.target false destId with rteVal := tsi57xRteVal rteVal }

theorem oneLocalDomain_base (before : NoneLocal Set.univ rt) (base : RtIdx) :
    OneLocalDomain
      { rt with
        domTable :=
          Function.update rt.domTable base { rt.domTable base with rteVal := rioRteLvlG0 } } := by
  have isBase (destId : RtIdx)
      (isLocal : (Function.update rt.domTable base
        { rt.domTable base with rteVal := rioRteLvlG0 } destId).rteVal = rioRteLvlG0) :
      destId = base := by
    by_contra other
    rw [Function.update_of_ne other] at isLocal
    exact before destId trivial isLocal
  intro first second isFirst isSecond
  exact (isBase first isFirst).trans (isBase second isSecond).symm

theorem tsi57xRioRtProbeAll_oneLocal (probeOnPort : Nat) :
    Meets (fun _ => True) (tsi57xRioRtProbeAll device devInfo probeOnPort)
      (fun _ state => OneLocalDomain state.memory) fun _ _ => True := by
  apply Meets.failIfBind fun _ _ _ => trivial
  intro _
  apply Meets.bind (Meets.anything _ _)
  intro _
  apply Meets.bind (Meets.anything _ _)
  intro attr
  apply Meets.bind (Meets.anything _ _)
  intro _
  apply Meets.bind (Meets.anything _ _)
  intro baseReg
  apply Meets.bind
  · apply Meets.weakenPre <| Meets.forM_finRange fun done destId =>
      tsi57xReadDomRte_noneLocal _ _ done destId
    exact fun _ _ _ => False.elim
  intro _
  refine Meets.bind (?_ : Meets _ _ (fun _ state => OneLocalDomain state.memory) _) ?_
  · exact Meets.modify fun state before => oneLocalDomain_base before _
  intro _
  exact Meets.forM fun destId _ => tsi57xReadDevRte_oneLocal _ _ destId

end Produced

/-- A table that a successful `initialize` or `probe_all` left. -/
inductive TsiProduced (devInfo : DarDevInfo) : RioRtState → Prop where
  | initialized {δ : Type} (device : RegDevice TsiReg δ) (inParms : RioRtInitializeIn)
      {state final : Attached RioRtState δ}
      (ran : (tsi57xRioRtInitialize device devInfo inParms).run state = .ok () final) :
      TsiProduced devInfo final.memory
  | probed {δ : Type} (device : RegDevice TsiReg δ) (probeOnPort : Nat)
      {state final : Attached RioRtState δ}
      (ran : (tsi57xRioRtProbeAll device devInfo probeOnPort).run state = .ok () final) :
      TsiProduced devInfo final.memory

theorem TsiProduced.oneLocalDomain (produced : TsiProduced devInfo rt) : OneLocalDomain rt := by
  cases produced with
  | initialized device inParms ran =>
    exact (tsi57xRioRtInitialize_oneLocal inParms trivial).1 ran
  | probed device probeOnPort ran =>
    exact (tsi57xRioRtProbeAll_oneLocal probeOnPort trivial).1 ran

theorem oneLocalDomain_after (produced : TsiProduced devInfo rt) (calls : List RtCall) :
    OneLocalDomain (run (RtCall.tsi57xExec devInfo) rt calls) := by
  apply @run_invariant _ _ _ (fun _ _ => True) OneLocalDomain
  · intro before call oneLocal _
    exact tsi57xExec_oneLocalDomain devInfo call oneLocal
  · exact produced.oneLocalDomain
  · exact guarded_of_forall (fun _ _ => trivial) rt calls

/-- Whatever calls follow initialization or a probe, at most one domain is local, and
programming the entries never stops at a second one. -/
theorem tsi57x_single_local_domain {devInfo : DarDevInfo} {rt : RioRtState}
    (produced : TsiProduced devInfo rt) (calls : List RtCall) :
    let edited := run (RtCall.tsi57xExec devInfo) rt calls
    OneLocalDomain edited ∧
      ∀ {δ : Type} (device : RegDevice TsiReg δ) (before : δ) (pnum : Nat) (progAll : Bool)
        (rc : RtRc) (final : Attached RioRtState δ),
        (tsi57xProgramRteEntries device devInfo pnum progAll).run ⟨edited, before⟩ =
            .error rc final →
          rc.2 ≠ .programRteEntries 2 := by
  have oneLocal := oneLocalDomain_after produced calls
  refine ⟨oneLocal, ?_⟩
  intro δ device before pnum progAll rc final stopped
  exact (@tsi57xProgramRteEntries_keepsOneLocal δ device devInfo pnum progAll ⟨_, before⟩
    oneLocal).2 stopped

/-- Initialization of a switch with 16 ports that leaves the device alone. -/
def sixteenPorts : RioRtInitializeIn where
  setOnPort := rioAllPorts
  defaultRoute := 0
  defaultRouteTablePort := 0
  updateHw := false

theorem sixteenPorts_produced : TsiProduced ⟨.other, 16⟩ (tsi57xInitialRt sixteenPorts) := by
  let device : RegDevice TsiReg Unit := ⟨fun _ _ => (.ok 0, ()), fun _ _ _ => (none, ())⟩
  refine @TsiProduced.initialized _ Unit device sixteenPorts
    ⟨tsi57xInitialRt sixteenPorts, ()⟩ ⟨tsi57xInitialRt sixteenPorts, ()⟩ ?_
  simp only [tsi57xRioRtInitialize, bind_ok_iff, failIf_ok_iff]
  exact ⟨(), _, ⟨by decide, rfl⟩, (), _, ⟨by decide, rfl⟩, (), _, ⟨by decide, rfl⟩, (), _, rfl,
    (), _, rfl, (), _, rfl, rfl⟩

/-- Domain 5 becomes the local domain in the place of domain 0. -/
theorem single_local_domain_moved :
    let edited := run (RtCall.tsi57xExec ⟨.other, 16⟩) (tsi57xInitialRt sixteenPorts)
      [.changeRte true 5 rioRteLvlG0]
    OneLocalDomain edited ∧ (edited.domTable 5).rteVal = rioRteLvlG0 ∧
      (edited.domTable 0).rteVal = rioRteDrop := by
  refine ⟨(tsi57x_single_local_domain sixteenPorts_produced _).1, ?_⟩
  decide +kernel

end RioFabric.RouteTable

import RioFabric.RouteTable.Cps
import RioFabric.RouteTable.Reachable

/-!
# Tables of a CPS

What initialization establishes and every call keeps on a CPS: entry 0 of the domain table
leads to the device table, and masks in use exist and have only ports that the device has.
-/

namespace RioFabric.RouteTable

open Lib

variable {devInfo : CpsDevInfo}

/-- A mask is not in use, or exists and has existing ports. -/
def CpsMask (devInfo : CpsDevInfo) (mcIdx : RtIdx) (mask : RioRtMcInfo) : Prop :=
  mask.inUse = true →
    mcIdx.val < devInfo.numCpsMcMasks ∧ mask.mcMask &&& devInfo.portMask = mask.mcMask

/-- What holds of every table of a CPS. -/
structure CpsTable (devInfo : CpsDevInfo) (rt : RioRtState) : Prop where
  localDomain : (rt.domTable 0).rteVal = rioRteLvlG0
  masks : ∀ mcIdx, CpsMask devInfo mcIdx (rt.mcMasks mcIdx)

namespace CpsTable

variable {rt : RioRtState}

section

variable (table : CpsTable devInfo rt)
include table

theorem setMcMask {mcIdx : RtIdx} {mask : RioRtMcInfo}
    (new : CpsMask devInfo mcIdx mask) : CpsTable devInfo (rt.setMcMask mcIdx mask) where
  localDomain := table.localDomain
  masks other := by
    by_cases here : other = mcIdx
    · rw [here]
      simpa [RioRtState.setMcMask] using new
    · simpa [RioRtState.setMcMask, here] using table.masks other

theorem deallocMask {mcMaskRte : PeRtVal} {mcIdx : RtIdx}
    (isMask : rioRtvGetMcMsk mcMaskRte = some mcIdx) :
    CpsTable devInfo (deallocMask rt mcMaskRte mcIdx) := by
  have unused : CpsMask devInfo mcIdx (clearMask (rt.mcMasks mcIdx)) := by
    intro used
    rw [clearMask_inUse] at used
    contradiction
  constructor
  · have other : (rt.domTable 0).rteVal ≠ mcMaskRte := by
      intro same
      rw [← same, table.localDomain] at isMask
      contradiction
    simpa [RouteTable.deallocMask, dropValue, other] using table.localDomain
  · exact (table.setMcMask unused).masks

theorem dealloc (mcMaskRte : PeRtVal) :
    CpsTable devInfo (dsfRioRtDeallocMcMask rt mcMaskRte).2 := by
  unfold dsfRioRtDeallocMcMask
  cases isMask : rioRtvGetMcMsk mcMaskRte with
  | none => exact table
  | some mcIdx => exact table.deallocMask isMask

theorem alloc (mcMaskCnt : Nat) :
    CpsTable devInfo (dsfRioRtDefaultAllocMcMask rt mcMaskCnt).2.2 := by
  unfold dsfRioRtDefaultAllocMcMask
  split
  next idx _ => exact table.setMcMask (table.masks idx)
  next => exact table

theorem changeRte (domEntry : Bool) (idx : RtIdx) (rteValue : PeRtVal) :
    CpsTable devInfo (cpsRioRtChangeRte devInfo rt domEntry idx rteValue).2 := by
  unfold cpsRioRtChangeRte
  split
  · exact table
  split
  · exact table
  split
  · exact table
  next notFirst =>
    cases domEntry with
    | false => exact ⟨table.localDomain, table.masks⟩
    | true =>
      have other : 0 ≠ idx := fun isFirst => notFirst ⟨rfl, isFirst.symm⟩
      refine ⟨?_, table.masks⟩
      simpa [RioRtState.setTarget, other] using table.localDomain

theorem pointDomain (mcInfo : RioRtMcInfo) :
    CpsTable devInfo (cpsPointDomain rt mcInfo) := by
  unfold cpsPointDomain
  dsimp only
  split
  next points =>
    refine ⟨?_, table.masks⟩
    simpa [Function.update_of_ne points.2.1.symm] using table.localDomain
  next => exact table

theorem tidy (dev : RtIdx) :
    CpsTable devInfo (cpsTidyRoutingTable rt dev).2 := by
  unfold cpsTidyRoutingTable
  dsimp only
  split
  · exact table.dealloc _
  · exact table

theorem pointDevice (mcMaskRte : PeRtVal) (dev : RtIdx) :
    CpsTable devInfo (cpsPointDevice rt mcMaskRte dev).2 := by
  have tidied := table.tidy dev
  unfold cpsPointDevice
  dsimp only
  split
  · split
    · exact tidied
    · exact ⟨tidied.localDomain, tidied.masks⟩
  · exact table

theorem useMcMask (mcMaskRte : PeRtVal) (mcInfo : RioRtMcInfo) {chgIdx : RtIdx}
    (exists_ : chgIdx.val < devInfo.numCpsMcMasks) :
    CpsTable devInfo (cpsUseMcMask devInfo rt mcMaskRte mcInfo chgIdx).2 := by
  have marked := @setMcMask devInfo rt table chgIdx
    { rt.mcMasks chgIdx with
      changed := (rt.mcMasks chgIdx).changed || (rt.mcMasks chgIdx).mcMask ≠ mcInfo.mcMask ||
        (rt.mcMasks chgIdx).inUse ≠ mcInfo.inUse } (table.masks chgIdx)
  have pointed := (marked.pointDomain mcInfo).pointDevice mcMaskRte (devIdx mcInfo.mcDestId)
  unfold cpsUseMcMask
  dsimp only
  split
  · exact pointed
  · apply pointed.setMcMask
    intro _
    exact ⟨exists_, by simp [BitVec.and_assoc]⟩

theorem changeMcMask (mcMaskRte : PeRtVal) (mcInfo : RioRtMcInfo) :
    CpsTable devInfo (cpsRioRtChangeMcMask devInfo rt mcMaskRte mcInfo).2 := by
  unfold cpsRioRtChangeMcMask
  dsimp only
  split
  · exact table
  split
  · exact table.dealloc mcMaskRte
  split
  · exact table
  next exists_ => exact table.useMcMask mcMaskRte mcInfo (not_le.mp exists_)

theorem exec (call : RtCall) :
    CpsTable devInfo (call.cpsExec devInfo rt) := by
  cases call with
  | allocMcMask mcMaskCnt => exact table.alloc mcMaskCnt
  | deallocMcMask mcMaskRte => exact table.dealloc mcMaskRte
  | changeRte domEntry idx rteValue => exact table.changeRte domEntry idx rteValue
  | changeMcMask mcMaskRte mcInfo => exact table.changeMcMask mcMaskRte mcInfo

end

end CpsTable

/-- Two tables differ at most in what is marked as changed. -/
structure SameValues (rt other : RioRtState) : Prop where
  defaultRoute : other.defaultRoute = rt.defaultRoute
  entries : ∀ domEntry idx, (other.target domEntry idx).rteVal = (rt.target domEntry idx).rteVal
  mcMask : ∀ mcIdx, (other.mcMasks mcIdx).mcMask = (rt.mcMasks mcIdx).mcMask
  inUse : ∀ mcIdx, (other.mcMasks mcIdx).inUse = (rt.mcMasks mcIdx).inUse

namespace SameValues

variable {rt other : RioRtState}

theorem refl (rt : RioRtState) : SameValues rt rt :=
  ⟨rfl, fun _ _ => rfl, fun _ => rfl, fun _ => rfl⟩

section

variable (same : SameValues rt other)
include same

theorem unmarkMcMask (mcIdx : RtIdx) :
    SameValues rt (other.unmarkMcMask mcIdx) where
  defaultRoute := same.defaultRoute
  entries := same.entries
  mcMask idx := by
    rw [← same.mcMask idx]
    by_cases here : idx = mcIdx
    · simp [RioRtState.unmarkMcMask, here]
    · simp [RioRtState.unmarkMcMask, here]
  inUse idx := by
    rw [← same.inUse idx]
    by_cases here : idx = mcIdx
    · simp [RioRtState.unmarkMcMask, here]
    · simp [RioRtState.unmarkMcMask, here]

theorem unmarkDomRte (rteNum : RtIdx) :
    SameValues rt (other.unmarkDomRte rteNum) where
  defaultRoute := same.defaultRoute
  entries domEntry idx := by
    rw [← same.entries domEntry idx]
    cases domEntry with
    | false => rfl
    | true =>
      by_cases here : idx = rteNum
      · simp [RioRtState.unmarkDomRte, RioRtState.target, here]
      · simp [RioRtState.unmarkDomRte, RioRtState.target, here]
  mcMask := same.mcMask
  inUse := same.inUse

theorem unmarkDevRte (rteNum : RtIdx) :
    SameValues rt (other.unmarkDevRte rteNum) where
  defaultRoute := same.defaultRoute
  entries domEntry idx := by
    rw [← same.entries domEntry idx]
    cases domEntry with
    | false =>
      by_cases here : idx = rteNum
      · simp [RioRtState.unmarkDevRte, RioRtState.target, here]
      · simp [RioRtState.unmarkDevRte, RioRtState.target, here]
    | true => rfl
  mcMask := same.mcMask
  inUse := same.inUse

theorem cpsTable (table : CpsTable devInfo rt) :
    CpsTable devInfo other where
  localDomain := (same.entries true 0).trans table.localDomain
  masks mcIdx used := by
    rw [same.mcMask]
    exact table.masks mcIdx (same.inUse mcIdx ▸ used)

end

end SameValues

section Program

variable {δ : Type} {device : RegDevice CpsReg δ} {rt : RioRtState} {setOnPort : Nat}
  {setAll : Bool}

/-- The program changes only marks. -/
abbrev KeepsValues {α : Type} (rt : RioRtState) (program : RtProgram δ α) : Prop :=
  Meets (fun state => SameValues rt state.memory) program
    (fun _ state => SameValues rt state.memory) fun _ _ => True

theorem darWrite_keepsValues (reg : CpsReg) (value : BitVec 32) (impRc : ImpRc) :
    KeepsValues rt (darWrite device reg value impRc) :=
  meets_regWrite fun _ _ _ => trivial

theorem keepsValues_pure {α : Type} (value : α) : KeepsValues rt (pure value : RtProgram δ α) :=
  Meets.pure fun _ same => same

theorem keepsValues_orFail {α : Type} (result : Option α) (rc : RtRc) :
    KeepsValues rt (orFail result rc : RtProgram δ α) :=
  Meets.orFail (fun _ _ _ same => same) fun _ _ _ => trivial

theorem cpsProgramMcMask_keepsValues (maskNum : RtIdx) :
    KeepsValues rt (cpsProgramMcMask device devInfo setOnPort setAll maskNum) := by
  apply Meets.getBind
  intro state _
  apply Meets.ite
  · intro _
    apply Meets.failIfBind fun _ _ _ => trivial
    intro _
    apply Meets.bind (darWrite_keepsValues _ _ _)
    exact fun _ => meets_modifyMemory fun _ same => same.unmarkMcMask maskNum
  · exact fun _ => keepsValues_pure ()

theorem cpsProgramDomRte_keepsValues (rteNum : RtIdx) :
    KeepsValues rt (cpsProgramDomRte device devInfo setOnPort setAll rteNum) := by
  apply Meets.getBind
  intro state _
  apply Meets.ite
  · intro _
    apply Meets.failIfBind fun _ _ _ => trivial
    intro _
    apply Meets.bind (keepsValues_orFail _ _)
    intro cpsVal
    apply Meets.bind (darWrite_keepsValues _ _ _)
    exact fun _ => meets_modifyMemory fun _ same => same.unmarkDomRte rteNum
  · exact fun _ => keepsValues_pure ()

theorem cpsProgramDevRte_keepsValues (rteNum : RtIdx) :
    KeepsValues rt (cpsProgramDevRte device devInfo setOnPort setAll rteNum) := by
  apply Meets.getBind
  intro state _
  apply Meets.ite
  · intro _
    apply Meets.failIfBind fun _ _ _ => trivial
    intro _
    apply Meets.bind (keepsValues_orFail _ _)
    intro cpsVal
    apply Meets.bind (darWrite_keepsValues _ _ _)
    exact fun _ => meets_modifyMemory fun _ same => same.unmarkDevRte rteNum
  · exact fun _ => keepsValues_pure ()

theorem cpsRtSetCommon_keepsValues :
    KeepsValues rt (cpsRtSetCommon device devInfo setOnPort setAll) := by
  apply Meets.failIfBind fun _ _ _ => trivial
  intro _
  apply Meets.getBind
  intro state _
  apply Meets.failIfBind fun _ _ _ => trivial
  intro _
  apply Meets.bind (Meets.forM fun maskNum _ => cpsProgramMcMask_keepsValues maskNum)
  intro _
  apply Meets.getBind
  intro state _
  apply Meets.bind (keepsValues_orFail _ _)
  intro cpsVal
  apply Meets.bind (darWrite_keepsValues _ _ _)
  intro _
  apply Meets.bind (darWrite_keepsValues _ _ _)
  intro _
  apply Meets.bind (Meets.forM fun rteNum _ => cpsProgramDomRte_keepsValues rteNum)
  intro _
  exact Meets.forM fun rteNum _ => cpsProgramDevRte_keepsValues rteNum

end Program

theorem cpsTable_initialRt (inParms : RioRtInitializeIn) :
    CpsTable devInfo (cpsInitialRt inParms) where
  localDomain := rfl
  masks _ := nofun

theorem cpsRioRtInitialize_cpsTable {δ : Type} {device : RegDevice CpsReg δ}
    (inParms : RioRtInitializeIn) :
    Meets (fun _ => True) (cpsRioRtInitialize device devInfo inParms)
      (fun _ state => CpsTable devInfo state.memory) fun _ _ => True := by
  apply Meets.failIfBind fun _ _ _ => trivial
  intro _
  apply Meets.failIfBind fun _ _ _ => trivial
  intro _
  apply Meets.failIfBind fun _ _ _ => trivial
  intro _
  refine Meets.bind
    (?_ : Meets _ _ (fun _ state => SameValues (cpsInitialRt inParms) state.memory) _) ?_
  · exact Meets.modify fun _ _ => SameValues.refl _
  intro _
  apply Meets.weakenPost
  · apply Meets.ite
    · intro _
      refine Meets.bind (Meets.forM fun port _ => ?_) fun _ => cpsRtSetCommon_keepsValues
      apply Meets.bind (meets_regRead fun _ _ _ => trivial)
      exact fun ops => darWrite_keepsValues _ _ _
    · exact fun _ => keepsValues_pure ()
  · intro _ state same
    exact same.cpsTable (cpsTable_initialRt inParms)

/-- The tables of a CPS that initialization and any calls after it lead to. -/
def CpsReachable (devInfo : CpsDevInfo) (rt : RioRtState) : Prop :=
  ∃ (δ : Type) (device : RegDevice CpsReg δ) (inParms : RioRtInitializeIn)
    (state final : Attached RioRtState δ) (calls : List RtCall),
    (cpsRioRtInitialize device devInfo inParms).run state = .ok () final ∧
      rt = run (RtCall.cpsExec devInfo) final.memory calls

theorem CpsReachable.cpsTable {rt : RioRtState} (reachable : CpsReachable devInfo rt) :
    CpsTable devInfo rt := by
  obtain ⟨δ, device, inParms, state, final, calls, initialized, rfl⟩ := reachable
  apply @run_invariant _ _ _ (fun _ _ => True) (CpsTable devInfo)
  · intro before call table _
    exact table.exec call
  · exact (cpsRioRtInitialize_cpsTable inParms trivial).1 initialized
  · exact guarded_of_forall (fun _ _ => trivial) final.memory calls

end RioFabric.RouteTable

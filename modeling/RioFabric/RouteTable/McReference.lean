import RioFabric.RouteTable.Programmed

/-!
# References to multicast masks

Entries of the domain and the device table name multicast masks.  A mask that is freed must
not be named any more, but deallocation looks for one exact value while the bits of
`RIO_RTE_IMP_SPEC` allow several values to name the same mask, and so does the search that
decides whether the last reference to a mask goes.
-/

namespace RioFabric.RouteTable

open Lib

/-- Every entry that names a multicast mask names one in use. -/
def Referenced (rt : RioRtState) : Prop :=
  ∀ domEntry idx, RefersInUse rt (rt.target domEntry idx).rteVal

/-- Deallocation of `mcMaskRte` drops every entry that names its mask: the entry has exactly
this value, or is the device table entry of the mask's destination ID. -/
def DropsAll (rt : RioRtState) (mcMaskRte : PeRtVal) : Prop :=
  ∀ domEntry idx,
    rioRtvGetMcMsk (rt.target domEntry idx).rteVal = some (rioRteIdx mcMaskRte) →
      (rt.target domEntry idx).rteVal = mcMaskRte ∨
        domEntry = false ∧ idx = devIdx (rt.mcMasks (rioRteIdx mcMaskRte)).mcDestId

instance (rt : RioRtState) (mcMaskRte : PeRtVal) : Decidable (DropsAll rt mcMaskRte) :=
  inferInstanceAs (Decidable (∀ (_ : Bool) (_ : RtIdx), _ → _ ∨ _ ∧ _))

/-- The mask that a call frees is named by no entry that stays, nor by the new value. -/
def KeepsReferences (devInfo : DarDevInfo) (rt : RioRtState) (call : RtCall) : Prop :=
  ∀ mcMaskRte ∈ call.deallocates devInfo rt, DropsAll rt mcMaskRte ∧
    ∀ rteValue ∈ call.newValue, rioRtvGetMcMsk rteValue ≠ some (rioRteIdx mcMaskRte)

instance (devInfo : DarDevInfo) (rt : RioRtState) (call : RtCall) :
    Decidable (KeepsReferences devInfo rt call) :=
  -- by name: the instance for all bit vectors would go through every value
  have (mcMaskRte : PeRtVal) : Decidable (∀ rteValue ∈ call.newValue,
      rioRtvGetMcMsk rteValue ≠ some (rioRteIdx mcMaskRte)) := Option.decidableForallMem _
  Option.decidableForallMem _

theorem target_setTarget (rt : RioRtState) (domEntry other : Bool) (idx at_ : RtIdx)
    (rte : RioRtUcInfo) :
    (rt.setTarget domEntry idx rte).target other at_ =
      if other = domEntry ∧ at_ = idx then rte else rt.target other at_ := by
  cases domEntry <;> cases other <;>
    simp [RioRtState.setTarget, RioRtState.target, Function.update_apply]

theorem target_deallocMask_eq (rt : RioRtState) (mcMaskRte : PeRtVal) (mcIdx : RtIdx)
    (domEntry : Bool) (idx : RtIdx) :
    (deallocMask rt mcMaskRte mcIdx).target domEntry idx =
      if (rt.target domEntry idx).rteVal = mcMaskRte ∨
          domEntry = false ∧ (rt.mcMasks mcIdx).inUse = true ∧
            idx = devIdx (rt.mcMasks mcIdx).mcDestId then ⟨rioRteDrop, true⟩
      else rt.target domEntry idx := by
  cases domEntry with
  | true => simp [deallocMask, RioRtState.target, dropValue]
  | false =>
    cases used : (rt.mcMasks mcIdx).inUse with
    | false => simp [deallocMask, RioRtState.target, dropValue, used]
    | true =>
      by_cases here : idx = devIdx (rt.mcMasks mcIdx).mcDestId
      · simp [deallocMask, RioRtState.target, used, here]
      · simp [deallocMask, RioRtState.target, dropValue, used, here]

theorem target_deallocMask (rt : RioRtState) (mcMaskRte : PeRtVal) (mcIdx : RtIdx) (domEntry : Bool)
    (idx : RtIdx) :
    ((deallocMask rt mcMaskRte mcIdx).target domEntry idx).rteVal =
      if (rt.target domEntry idx).rteVal = mcMaskRte ∨
          domEntry = false ∧ (rt.mcMasks mcIdx).inUse = true ∧
            idx = devIdx (rt.mcMasks mcIdx).mcDestId then rioRteDrop
      else (rt.target domEntry idx).rteVal := by
  rw [target_deallocMask_eq]
  split <;> rfl

theorem refersInUse_drop (rt : RioRtState) : RefersInUse rt rioRteDrop := nofun

variable {rt : RioRtState} {value : PeRtVal}

theorem RefersInUse.mono {after : RioRtState} (refers : RefersInUse rt value)
    (more : ∀ idx, (rt.mcMasks idx).inUse = true → (after.mcMasks idx).inUse = true) :
    RefersInUse after value := fun mcIdx names => more mcIdx (refers mcIdx names)

theorem inUse_update {masks : RtIdx → RioRtMcInfo} {mcIdx : RtIdx} {mask : RioRtMcInfo}
    (stays : (masks mcIdx).inUse = true → mask.inUse = true) (idx : RtIdx)
    (used : (masks idx).inUse = true) : (Function.update masks mcIdx mask idx).inUse = true := by
  by_cases here : idx = mcIdx
  · subst here
    rw [Function.update_self]
    exact stays used
  · rwa [Function.update_of_ne here]

theorem clearMask_inUse (mask : RioRtMcInfo) : (clearMask mask).inUse = false := by
  unfold clearMask
  split <;> simp_all

theorem changeMask_inUse (mask mcInfo : RioRtMcInfo) : (changeMask mask mcInfo).inUse = true := by
  simp only [changeMask]
  split <;> split <;> simp_all

theorem refersInUse_deallocMask_iff (refers : RefersInUse rt value) (mcMaskRte : PeRtVal)
    (mcIdx : RtIdx) :
    RefersInUse (deallocMask rt mcMaskRte mcIdx) value ↔ rioRtvGetMcMsk value ≠ some mcIdx := by
  constructor
  · intro kept names
    have freed := kept mcIdx names
    simp [deallocMask, clearMask_inUse] at freed
  · intro other idx names
    have different : idx ≠ mcIdx := by
      rintro rfl
      exact other names
    simp only [deallocMask, Function.update_of_ne different]
    exact refers idx names

theorem referenced_deallocMask_iff (referenced : Referenced rt) (mcMaskRte : PeRtVal) :
    Referenced (deallocMask rt mcMaskRte (rioRteIdx mcMaskRte)) ↔ DropsAll rt mcMaskRte := by
  refine forall_congr' fun domEntry => forall_congr' fun idx => ?_
  rw [target_deallocMask]
  split
  next dropped =>
    refine iff_of_true (refersInUse_drop _) fun _ => ?_
    exact dropped.imp_right fun ⟨inDev, _, here⟩ => ⟨inDev, here⟩
  next stays =>
    rw [refersInUse_deallocMask_iff (referenced domEntry idx)]
    constructor
    · exact fun other names => absurd names other
    · -- an entry that names the mask shows it in use, so its device entry is dropped
      intro drops names
      refine stays ((drops names).imp_right fun ⟨inDev, here⟩ => ⟨inDev, ?_, here⟩)
      exact referenced domEntry idx _ names

theorem referenced_setTarget_iff {domEntry : Bool} {idx : RtIdx}
    (current : RefersInUse rt (rt.target domEntry idx).rteVal) (rteValue : PeRtVal) :
    Referenced (rt.setTarget domEntry idx ⟨rteValue, true⟩) ↔
      RefersInUse rt rteValue ∧ Referenced rt := by
  have masks (value : PeRtVal) :
      RefersInUse (rt.setTarget domEntry idx ⟨rteValue, true⟩) value ↔ RefersInUse rt value := by
    cases domEntry <;> rfl
  simp only [Referenced, masks, target_setTarget]
  constructor
  · intro after
    refine ⟨by simpa using after domEntry idx, fun other at_ => ?_⟩
    by_cases here : other = domEntry ∧ at_ = idx
    · obtain ⟨rfl, rfl⟩ := here
      exact current
    · simpa [here] using after other at_
  · rintro ⟨refers, before⟩ other at_
    split
    · exact refers
    · exact before other at_

theorem pointEntry_eq_setTarget (rt : RioRtState) (mcMaskRte : PeRtVal) (mcInfo : RioRtMcInfo) :
    ∃ domEntry idx, pointEntry rt mcMaskRte mcInfo =
      rt.setTarget domEntry idx (pointTo mcMaskRte (rt.target domEntry idx)) := by
  simp only [pointEntry]
  split
  · exact ⟨true, domIdx mcInfo.mcDestId, rfl⟩
  · exact ⟨false, devIdx mcInfo.mcDestId, rfl⟩

theorem pointTo_rteVal (mcMaskRte : PeRtVal) (rte : RioRtUcInfo) :
    (pointTo mcMaskRte rte).rteVal = mcMaskRte := by
  unfold pointTo
  split <;> simp_all

theorem referenced_pointEntry (referenced : Referenced rt) {mcMaskRte : PeRtVal}
    (isMask : rioRtvIsMcMsk mcMaskRte = true) (mcInfo : RioRtMcInfo) :
    Referenced
      { pointEntry rt mcMaskRte mcInfo with
        mcMasks :=
          Function.update rt.mcMasks (rioRteIdx mcMaskRte)
            (changeMask (rt.mcMasks (rioRteIdx mcMaskRte)) mcInfo) } := by
  obtain ⟨domEntry, idx, pointed⟩ := pointEntry_eq_setTarget rt mcMaskRte mcInfo
  rw [pointed]
  intro other at_
  have entry := target_setTarget rt domEntry other idx at_
    (pointTo mcMaskRte (rt.target domEntry idx))
  change RefersInUse _ ((rt.setTarget domEntry idx _).target other at_).rteVal
  rw [entry]
  split
  · rw [pointTo_rteVal]
    intro mcIdx names
    obtain rfl : rioRteIdx mcMaskRte = mcIdx :=
      Option.some.inj ((rioRtvGetMcMsk_of_isMcMsk isMask).symm.trans names)
    simp [changeMask_inUse]
  · refine (referenced other at_).mono (inUse_update fun _ => ?_)
    exact changeMask_inUse _ _

theorem referenced_exec_iff (devInfo : DarDevInfo) (rt : RioRtState) (call : RtCall)
    (referenced : Referenced rt) :
    Referenced (call.exec devInfo rt) ↔ KeepsReferences devInfo rt call := by
  have effect := exec_effect devInfo rt call
  unfold KeepsReferences
  generalize call.deallocates devInfo rt = freed, call.exec devInfo rt = after at effect
  cases effect with
  | kept => exact iff_of_true referenced nofun
  | allocated mcMaskCnt idx =>
    refine iff_of_true (fun domEntry at_ => ?_) nofun
    exact (referenced domEntry at_).mono (inUse_update id)
  | deallocated storesNothing isMask =>
    rw [referenced_deallocMask_iff referenced]
    simp [storesNothing]
  | changed domEntry idx inUse =>
    refine iff_of_true ?_ nofun
    exact (referenced_setTarget_iff (referenced domEntry idx) _).mpr ⟨inUse, referenced⟩
  | replaced domEntry idx inUse current isMask =>
    rename_i rteValue mcMaskRte
    have dropped : RefersInUse (deallocMask rt mcMaskRte (rioRteIdx mcMaskRte))
        ((deallocMask rt mcMaskRte (rioRteIdx mcMaskRte)).target domEntry idx).rteVal := by
      rw [target_deallocMask, if_pos (Or.inl current)]
      exact refersInUse_drop _
    rw [referenced_setTarget_iff dropped, referenced_deallocMask_iff referenced,
      refersInUse_deallocMask_iff inUse]
    simp [RtCall.newValue, and_comm]
  | pointed mcInfo isMask =>
    exact iff_of_true (referenced_pointEntry referenced isMask mcInfo) nofun

theorem referenced_initialize_iff {devInfo : DarDevInfo} {bus : RegBus}
    {inParms : RioRtInitializeIn} {state final : RxsState}
    (initialized : (rxsRioRtInitialize devInfo bus inParms).run state = .ok () final) :
    Referenced final.rt ↔ rioRtvIsMcMsk inParms.defaultRouteTablePort = false := by
  obtain ⟨devRtes, domRtes, unused⟩ := rxsRioRtInitialize_ok initialized
  have names (value : PeRtVal) : RefersInUse final.rt value ↔ rioRtvIsMcMsk value = false := by
    cases isMask : rioRtvIsMcMsk value with
    | false => simp [RefersInUse, rioRtvGetMcMsk_of_not isMask]
    | true => simp [RefersInUse, rioRtvGetMcMsk_of_isMcMsk isMask, unused]
  constructor
  · intro referenced
    have entry := (names _).mp (referenced false 0)
    rwa [show (final.rt.target false 0).rteVal = inParms.defaultRouteTablePort from devRtes 0]
      at entry
  · intro notMask domEntry idx
    rw [names]
    cases domEntry with
    | false =>
      rw [show (final.rt.target false idx).rteVal = inParms.defaultRouteTablePort from devRtes idx]
      exact notMask
    | true =>
      rw [show (final.rt.target true idx).rteVal = _ from domRtes idx]
      split
      · rfl
      · exact notMask

/-- From initialization on, entries name masks in use only, exactly in the runs that start
without a mask as default and in which no call frees a mask that is still named. -/
theorem mc_references_iff {devInfo : DarDevInfo} {bus : RegBus} {inParms : RioRtInitializeIn}
    {state final : RxsState}
    (initialized : (rxsRioRtInitialize devInfo bus inParms).run state = .ok () final)
    (calls : List RtCall) :
    (∀ before, before <+: calls → Referenced (run (RtCall.exec devInfo) final.rt before)) ↔
      rioRtvIsMcMsk inParms.defaultRouteTablePort = false ∧
        Guarded (RtCall.exec devInfo) (KeepsReferences devInfo) final.rt calls := by
  rw [← referenced_initialize_iff initialized]
  constructor
  · intro along
    have start : Referenced final.rt := along [] (List.nil_prefix)
    exact ⟨start, (run_invariant_iff Referenced (referenced_exec_iff devInfo) start).mp along⟩
  · rintro ⟨start, guarded⟩
    exact (run_invariant_iff Referenced (referenced_exec_iff devInfo) start).mpr guarded

/-- A table for a switch with 24 ports in which everything goes to port 0. -/
def portZeroIn : RioRtInitializeIn where
  setOnPort := 0
  defaultRoute := 0
  defaultRouteTablePort := 0
  updateHw := false

theorem portZeroIn_initializes (state : RxsState) :
    (rxsRioRtInitialize ⟨.rxs2448, 24⟩ (fun _ => none) portZeroIn).run state =
      .ok () ⟨initialRt portZeroIn, state.hw⟩ := by
  rfl

/-- Two entries share a mask; one moves away, then the mask goes. -/
theorem mc_references_sharedMask :
    let calls : List RtCall :=
      [.allocMcMask 256, .changeMcMask 0x100 ⟨5, .ttDev8, 1, true, true, false⟩,
        .changeRte false 6 0x100, .changeRte false 5 2, .deallocMcMask 0x100]
    ∀ before, before <+: calls →
      Referenced (run (RtCall.exec ⟨.rxs2448, 24⟩) (initialRt portZeroIn) before) := by
  intro calls
  have initialized := portZeroIn_initializes ⟨initialRt portZeroIn, ⟨0, 0, 0, 0⟩⟩
  exact (mc_references_iff initialized calls).mpr ⟨by decide, by decide +kernel⟩

/-- An entry that names the mask with an implementation specific bit outlives the mask. -/
theorem mc_references_dangling :
    let calls : List RtCall :=
      [.allocMcMask 256, .changeMcMask 0x100 ⟨5, .ttDev8, 1, true, true, false⟩,
        .changeRte false 6 0x10000100, .deallocMcMask 0x100]
    let rt := run (RtCall.exec ⟨.rxs2448, 24⟩) (initialRt portZeroIn) calls
    (∀ state, (rxsRioRtInitialize ⟨.rxs2448, 24⟩ (fun _ => none) portZeroIn).run state =
        .ok () ⟨initialRt portZeroIn, state.hw⟩) ∧
      (rt.devTable 6).rteVal = 0x10000100 ∧ rioRtvGetMcMsk 0x10000100 = some 0 ∧
        (rt.mcMasks 0).inUse = false ∧ ¬Referenced rt := by
  intro calls rt
  have entry : (rt.devTable 6).rteVal = 0x10000100 := by decide +kernel
  have unused : (rt.mcMasks 0).inUse = false := by decide +kernel
  have names : rioRtvGetMcMsk 0x10000100 = some 0 := by decide
  refine ⟨portZeroIn_initializes, entry, names, unused, fun referenced => ?_⟩
  have used := referenced false 6 0
  rw [show (rt.target false 6).rteVal = 0x10000100 from entry, unused] at used
  exact nomatch used names

end RioFabric.RouteTable

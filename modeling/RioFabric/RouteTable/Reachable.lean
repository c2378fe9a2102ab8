import RioFabric.RouteTable.McReference

/-!
# Tables that the calls can reach

A table starts with `rxs_rio_rt_initialize` and is edited by any sequence of calls.  Whatever
the calls are, its entries keep the values that the device can use, multicast masks apart:
`change_mc_mask` does not check the value that it stores.
-/

namespace RioFabric.RouteTable

open Lib

/-- The tables that initialization and any calls after it lead to. -/
def Reachable (devInfo : DarDevInfo) (rt : RioRtState) : Prop :=
  ∃ (bus : RegBus) (inParms : RioRtInitializeIn) (state final : RxsState) (calls : List RtCall),
    (rxsRioRtInitialize devInfo bus inParms).run state = .ok () final ∧
      rt = run (RtCall.exec devInfo) final.rt calls

variable {devInfo : DarDevInfo} {rt : RioRtState} {mask : RioRtMcInfo} {domEntry : Bool}
  {rteValue : PeRtVal}

/-- What initialization gives and each edit keeps holds of every reachable table. -/
theorem Reachable.invariant (Inv : RioRtState → Prop) (initially : ∀ bus inParms state final,
      (rxsRioRtInitialize devInfo bus inParms).run state = .ok () final → Inv final.rt)
    (preserved : ∀ before (call : RtCall), Inv before → Inv (call.exec devInfo before))
    (reachable : Reachable devInfo rt) : Inv rt := by
  obtain ⟨bus, inParms, state, final, calls, initialized, rfl⟩ := reachable
  apply @run_invariant _ _ _ (fun _ _ => True) Inv
  · intro before call holds _
    exact preserved before call holds
  · exact initially bus inParms state final initialized
  · exact guarded_of_forall (fun _ _ => trivial) final.rt calls

theorem clearMask_allocd (used : (clearMask mask).inUse = true) :
    (clearMask mask).allocd = true := by
  rw [clearMask_inUse] at used
  contradiction

theorem changeMask_allocd (mcInfo : RioRtMcInfo) (allocd : mask.inUse = true → mask.allocd = true) :
    (changeMask mask mcInfo).allocd = true := by
  cases mask with
  | mk mcDestId tt mcMask inUse alloc changed =>
    cases inUse <;> cases alloc <;> simp_all [changeMask] <;> split <;> simp_all

theorem allocd_update {masks : RtIdx → RioRtMcInfo} {mcIdx idx : RtIdx}
    (before : ∀ idx, (masks idx).inUse = true → (masks idx).allocd = true)
    (new : mask.inUse = true → mask.allocd = true)
    (used : (Function.update masks mcIdx mask idx).inUse = true) :
    (Function.update masks mcIdx mask idx).allocd = true := by
  by_cases here : idx = mcIdx
  · subst here
    rw [Function.update_self] at used ⊢
    exact new used
  · rw [Function.update_of_ne here] at used ⊢
    exact before idx used

theorem exec_allocd (call : RtCall)
    (before : ∀ idx, (rt.mcMasks idx).inUse = true → (rt.mcMasks idx).allocd = true) (idx : RtIdx)
    (used : ((call.exec devInfo rt).mcMasks idx).inUse = true) :
    ((call.exec devInfo rt).mcMasks idx).allocd = true := by
  have effect := exec_effect devInfo rt call
  generalize call.deallocates devInfo rt = freed, call.exec devInfo rt = after at effect used ⊢
  cases effect with
  | kept => exact before idx used
  | allocated mcMaskCnt at_ => exact allocd_update before (fun _ => rfl) used
  | deallocated storesNothing isMask => exact allocd_update before clearMask_allocd used
  | changed domEntry at_ inUse =>
    rw [setTarget_mcMasks] at used ⊢
    exact before idx used
  | replaced domEntry at_ inUse current isMask =>
    rw [setTarget_mcMasks] at used ⊢
    exact allocd_update before clearMask_allocd used
  | pointed mcInfo isMask =>
    exact allocd_update before (fun _ => changeMask_allocd mcInfo (before _)) used

theorem Reachable.allocd (reachable : Reachable devInfo rt) :
    ∀ idx, (rt.mcMasks idx).inUse = true → (rt.mcMasks idx).allocd = true := by
  refine reachable.invariant
    (fun rt => ∀ idx, (rt.mcMasks idx).inUse = true → (rt.mcMasks idx).allocd = true) ?_ ?_
  · intro bus inParms state final initialized idx used
    rw [(rxsRioRtInitialize_ok initialized).2.2 idx] at used
    contradiction
  · intro before call holds
    exact exec_allocd call holds

/-- The check of `rxs_chk_and_corr_rtv` leaves a value as it is, or the value names a mask. -/
def Usable (devInfo : DarDevInfo) (domEntry : Bool) (value : PeRtVal) : Prop :=
  rioRtvIsMcMsk value = true ∨
    (rxsChkAndCorrRtv devInfo ⟨value, false⟩ domEntry false).changed = false

theorem usable_drop (devInfo : DarDevInfo) (domEntry : Bool) :
    Usable devInfo domEntry rioRteDrop := .inr rfl

theorem usable_of_devValue {value : PeRtVal}
    (passes : (rxsChkAndCorrRtv devInfo ⟨value, false⟩ false false).changed = false)
    (domEntry : Bool) : Usable devInfo domEntry value := by
  right
  cases domEntry with
  | false => exact passes
  | true =>
    cases group : rioRtvIsLvlGrp (value &&& ~~~0xF0000000) with
    | true =>
      have notPort : rioRtvIsPort (value &&& ~~~0xF0000000) = false := by
        simp_all [rioRtvIsLvlGrp, rioRtvIsPort]
      have notMask : rioRtvIsMcMsk (value &&& ~~~0xF0000000) = false := by
        simp_all [rioRtvIsLvlGrp, rioRtvIsMcMsk]
      simp only [rxsChkAndCorrRtv, group, notPort, notMask, Bool.false_eq_true, if_false,
        if_true, Bool.not_false, Bool.true_or] at passes
      contradiction
    | false =>
      simp only [rxsChkAndCorrRtv, group] at passes ⊢
      exact passes

theorem rxsRioRtInitialize_passes {bus : RegBus} {inParms : RioRtInitializeIn}
    {state final : RxsState}
    (ran : (rxsRioRtInitialize devInfo bus inParms).run state = .ok () final) :
    (rxsChkAndCorrRtv devInfo ⟨inParms.defaultRouteTablePort, false⟩ false false).changed =
      false := by
  simp only [rxsRioRtInitialize, bind_ok_iff, failIf_ok_iff] at ran
  obtain ⟨_, _, _, _, _, ⟨passes, _⟩, _⟩ := ran
  exact Bool.eq_false_iff.mpr passes

theorem exec_changeRte_of_refused {rc : RtRc} (idx : RtIdx)
    (refused : rxsRefusesRte devInfo rt domEntry rteValue = some rc) :
    (RtCall.changeRte domEntry idx rteValue).exec devInfo rt = rt := by
  simp only [RtCall.exec, RtCall.result, rxsRioRtChangeRte, refused]
  split
  · split <;> rfl
  · rfl

theorem usable_of_accepted (accepted : rxsRefusesRte devInfo rt domEntry rteValue = none) :
    Usable devInfo domEntry rteValue := by
  right
  by_contra corrected
  simp [rxsRefusesRte, Bool.not_eq_false _ ▸ corrected] at accepted

/-- Every entry is usable in its table. -/
def EntriesUsable (devInfo : DarDevInfo) (rt : RioRtState) : Prop :=
  ∀ domEntry idx, Usable devInfo domEntry (rt.target domEntry idx).rteVal

theorem entriesUsable_deallocMask (usable : EntriesUsable devInfo rt) (mcMaskRte : PeRtVal)
    (mcIdx : RtIdx) :
    EntriesUsable devInfo (deallocMask rt mcMaskRte mcIdx) := by
  intro domEntry idx
  rw [target_deallocMask]
  split
  · exact usable_drop devInfo domEntry
  · exact usable domEntry idx

theorem entriesUsable_setTarget (usable : EntriesUsable devInfo rt) {rte : RioRtUcInfo}
    (new : Usable devInfo domEntry rte.rteVal) (idx : RtIdx) :
    EntriesUsable devInfo (rt.setTarget domEntry idx rte) := by
  intro other at_
  rw [target_setTarget]
  split
  next here =>
    rw [here.1]
    exact new
  next => exact usable other at_

theorem usable_of_stored (devInfo : DarDevInfo) (rt : RioRtState) (call : RtCall) :
    call.exec devInfo rt = rt ∨
      ∀ domEntry idx rteValue, call = .changeRte domEntry idx rteValue →
        Usable devInfo domEntry rteValue := by
  cases call with
  | changeRte domEntry idx rteValue =>
    cases refused : rxsRefusesRte devInfo rt domEntry rteValue with
    | some rc => exact .inl (exec_changeRte_of_refused idx refused)
    | none =>
      right
      intro _ _ _ same
      cases same
      exact usable_of_accepted refused
  | allocMcMask | deallocMcMask | changeMcMask => exact .inr nofun

theorem exec_entriesUsable (call : RtCall) (usable : EntriesUsable devInfo rt) :
    EntriesUsable devInfo (call.exec devInfo rt) := by
  obtain same | stored := usable_of_stored devInfo rt call
  · rw [same]
    exact usable
  have effect := exec_effect devInfo rt call
  generalize call.deallocates devInfo rt = freed, call.exec devInfo rt = after at effect ⊢
  cases effect with
  | kept => exact usable
  | allocated => exact usable
  | deallocated => exact entriesUsable_deallocMask usable _ _
  | changed domEntry idx => exact entriesUsable_setTarget usable (stored domEntry idx _ rfl) idx
  | replaced domEntry idx =>
    apply entriesUsable_setTarget (entriesUsable_deallocMask usable _ _)
    exact stored domEntry idx _ rfl
  | pointed mcInfo isMask =>
    rename_i mcMaskRte
    obtain ⟨domEntry, idx, pointed⟩ := pointEntry_eq_setTarget rt mcMaskRte mcInfo
    rw [pointed]
    apply entriesUsable_setTarget usable
    rw [pointTo_rteVal]
    exact .inl isMask

/-- Every entry of a reachable table is usable. -/
theorem Reachable.entriesUsable (reachable : Reachable devInfo rt) : EntriesUsable devInfo rt := by
  apply reachable.invariant (EntriesUsable devInfo)
  · intro bus inParms state final initialized domEntry idx
    obtain ⟨devRtes, domRtes, _⟩ := rxsRioRtInitialize_ok initialized
    have passes := usable_of_devValue (rxsRioRtInitialize_passes initialized)
    cases domEntry with
    | false => exact devRtes idx ▸ passes false
    | true =>
      rw [show (final.rt.target true idx).rteVal = _ from domRtes idx]
      split
      · exact .inr rfl
      · exact passes true
  · intro before call holds
    exact exec_entriesUsable call holds

end RioFabric.RouteTable

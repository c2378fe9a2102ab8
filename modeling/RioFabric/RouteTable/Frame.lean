import RioFabric.RouteTable.Reachable

/-!
# What an edit leaves alone

An edit of one entry should not be seen in another.  It can be: when the last entry with the
value of a mask changes, the mask is deallocated, and deallocation drops the device table
entry for the destination ID that the mask was created with, whatever that entry holds now.
-/

namespace RioFabric.RouteTable

open Lib

/-- An entry names a mask. -/
def RefersTo (rt : RioRtState) (domEntry : Bool) (idx mcIdx : RtIdx) : Prop :=
  rioRtvGetMcMsk (rt.target domEntry idx).rteVal = some mcIdx

instance (rt : RioRtState) (domEntry : Bool) (idx mcIdx : RtIdx) :
    Decidable (RefersTo rt domEntry idx mcIdx) :=
  inferInstanceAs (Decidable (_ = _))

/-- From `rt` to `after`, the value of one entry may change, and masks may be freed that no
entry names any more. -/
structure OnlyEntryChanged (rt after : RioRtState) (domEntry : Bool) (idx : RtIdx) : Prop where
  others : ∀ other at_, ¬(other = domEntry ∧ at_ = idx) →
    (after.target other at_).rteVal = (rt.target other at_).rteVal
  masks : ∀ mcIdx, after.mcMasks mcIdx ≠ rt.mcMasks mcIdx →
    after.mcMasks mcIdx = clearMask (rt.mcMasks mcIdx) ∧
      ∀ other at_, ¬RefersTo after other at_ mcIdx

/-- A successful `change_rte` changes its own entry only. -/
def ChangeRteFrame (devInfo : DarDevInfo) (rt : RioRtState) (domEntry : Bool) (idx : RtIdx)
    (rteValue : PeRtVal) : Prop :=
  (rxsRioRtChangeRte devInfo rt domEntry idx rteValue).1.1 = .rioSuccess →
    OnlyEntryChanged rt (rxsRioRtChangeRte devInfo rt domEntry idx rteValue).2 domEntry idx

/-- Deallocation changes entries only that name the mask. -/
def DeallocFrame (rt : RioRtState) (mcMaskRte : PeRtVal) : Prop :=
  ∀ domEntry idx,
    (dsfRioRtDeallocMcMask rt mcMaskRte).2.target domEntry idx ≠ rt.target domEntry idx →
      ∃ mcIdx, rioRtvGetMcMsk mcMaskRte = some mcIdx ∧ RefersTo rt domEntry idx mcIdx

/-- The mask that a changed entry leaves without a value equal to it: the device table entry
of its destination ID is the changed one, or drops already, and no other value names it. -/
structure LeavesOthers (rt : RioRtState) (domEntry : Bool) (idx : RtIdx)
    (rteValue mcMaskRte : PeRtVal) : Prop where
  destId : (rt.mcMasks (rioRteIdx mcMaskRte)).inUse = true →
    (domEntry = false ∧ idx = devIdx (rt.mcMasks (rioRteIdx mcMaskRte)).mcDestId) ∨
      (rt.devTable (devIdx (rt.mcMasks (rioRteIdx mcMaskRte)).mcDestId)).rteVal = rioRteDrop
  unnamed : (rt.mcMasks (rioRteIdx mcMaskRte)).allocd = true →
    rioRtvGetMcMsk rteValue ≠ some (rioRteIdx mcMaskRte) ∧
      ∀ other at_, ¬(other = domEntry ∧ at_ = idx) →
        ¬RefersTo rt other at_ (rioRteIdx mcMaskRte)

/-- The device table entry of the destination ID of a mask in use names the mask, or is
already dropped and marked. -/
def DestIdIsMasks (rt : RioRtState) (mcMaskRte : PeRtVal) : Prop :=
  ∀ mcIdx, rioRtvGetMcMsk mcMaskRte = some mcIdx → (rt.mcMasks mcIdx).inUse = true →
    RefersTo rt false (devIdx (rt.mcMasks mcIdx).mcDestId) mcIdx ∨
      rt.devTable (devIdx (rt.mcMasks mcIdx).mcDestId) = ⟨rioRteDrop, true⟩

theorem deallocFrame_iff (rt : RioRtState) (mcMaskRte : PeRtVal) :
    DeallocFrame rt mcMaskRte ↔ DestIdIsMasks rt mcMaskRte := by
  unfold DeallocFrame DestIdIsMasks
  cases isMask : rioRtvIsMcMsk mcMaskRte with
  | false => simp [dsfRioRtDeallocMcMask, rioRtvGetMcMsk_of_not isMask]
  | true =>
    have names := rioRtvGetMcMsk_of_isMcMsk isMask
    simp only [dsfRioRtDeallocMcMask, names, Option.some.injEq, exists_eq_left',
      forall_eq', target_deallocMask_eq]
    constructor
    · intro frame used
      by_cases same : rt.devTable (devIdx (rt.mcMasks (rioRteIdx mcMaskRte)).mcDestId) =
          ⟨rioRteDrop, true⟩
      · exact .inr same
      · left
        apply frame false
        rw [if_pos (.inr ⟨rfl, used, rfl⟩)]
        exact fun dropped => same dropped.symm
    · intro destId domEntry idx different
      split at different
      next dropped =>
        obtain exact_ | ⟨rfl, used, rfl⟩ := dropped
        · rw [RefersTo, exact_]
          exact names
        · obtain refers | same := destId used
          · exact refers
          · exact absurd same.symm different
      next => exact absurd rfl different

variable {devInfo : DarDevInfo} {rt : RioRtState} {domEntry : Bool} {idx : RtIdx}
  {rteValue mcMaskRte : PeRtVal} {mask : RioRtMcInfo}

theorem last_of_deallocates
    (freed : (RtCall.changeRte domEntry idx rteValue).deallocates devInfo rt = some mcMaskRte) :
    (rt.target domEntry idx).rteVal = mcMaskRte ∧
      ∀ other at_, ¬(other = domEntry ∧ at_ = idx) → (rt.target other at_).rteVal ≠ mcMaskRte := by
  simp only [RtCall.deallocates] at freed
  split at freed
  · contradiction
  split at freed
  · contradiction
  split at freed
  · rename_i last
    cases freed
    simp only [Bool.and_eq_true, Bool.not_eq_true', decide_eq_false_iff_not] at last
    refine ⟨rfl, fun other at_ elsewhere same => last.2 ⟨at_, ?_⟩⟩
    cases other with
    | false =>
      refine .inl ⟨?_, same⟩
      by_contra here
      simp only [not_or, not_not, Bool.not_eq_true] at here
      exact elsewhere ⟨here.2.symm, here.1.symm⟩
    | true =>
      refine .inr ⟨?_, same⟩
      by_contra here
      simp only [not_or, not_not, Bool.not_eq_false] at here
      exact elsewhere ⟨here.2.symm, here.1.symm⟩
  · contradiction

theorem rxsRioRtChangeRte_of_deallocates
    (freed : (RtCall.changeRte domEntry idx rteValue).deallocates devInfo rt = some mcMaskRte) :
    rxsRioRtChangeRte devInfo rt domEntry idx rteValue =
      ((.rioSuccess, .rioSuccess),
        (deallocMask rt mcMaskRte (rioRteIdx mcMaskRte)).setTarget domEntry idx
          ⟨rteValue, true⟩) := by
  simp only [RtCall.deallocates] at freed
  split at freed
  · contradiction
  next accepted =>
  simp only [Bool.or_eq_true, not_or, Bool.not_eq_true, Option.isSome_eq_false_iff,
    Option.isNone_iff_eq_none] at accepted
  split at freed
  · contradiction
  next different =>
  split at freed
  · rename_i last
    cases freed
    simp only [Bool.and_eq_true, Bool.not_eq_true', decide_eq_false_iff_not] at last
    simp [rxsRioRtChangeRte, accepted.1, accepted.2, different, rxsTidyRoutingTable_of_last
      last.1 last.2]
  · contradiction

theorem clearMask_ne (allocd : mask.allocd = true) :
    clearMask mask ≠ mask := by
  intro same
  have cleared : (clearMask mask).allocd = false := by simp [clearMask, allocd]
  rw [same, allocd] at cleared
  contradiction

theorem clearMask_of_free (unused : mask.inUse = false) (free : mask.allocd = false) :
    clearMask mask = mask := by
  simp [clearMask, unused, free]

section Replaced

variable {rt : RioRtState} {domEntry : Bool} {idx : RtIdx} {mcMaskRte : PeRtVal}
variable (rteValue : PeRtVal)

/-- The table after an entry has left its mask. -/
def replaceEntry (rt : RioRtState) (domEntry : Bool) (idx : RtIdx) (rteValue mcMaskRte : PeRtVal) :
    RioRtState :=
  (deallocMask rt mcMaskRte (rioRteIdx mcMaskRte)).setTarget domEntry idx ⟨rteValue, true⟩

theorem replaceEntry_mcMasks :
    (replaceEntry rt domEntry idx rteValue mcMaskRte).mcMasks =
      Function.update rt.mcMasks (rioRteIdx mcMaskRte)
        (clearMask (rt.mcMasks (rioRteIdx mcMaskRte))) :=
  setTarget_mcMasks _ _ _ _

theorem replaceEntry_target :
    ((replaceEntry rt domEntry idx rteValue mcMaskRte).target domEntry idx).rteVal = rteValue := by
  rw [replaceEntry, target_setTarget, if_pos ⟨rfl, rfl⟩]

theorem replaceEntry_other (last : ∀ other at_, ¬(other = domEntry ∧ at_ = idx) →
      (rt.target other at_).rteVal ≠ mcMaskRte)
    {other : Bool} {at_ : RtIdx} (elsewhere : ¬(other = domEntry ∧ at_ = idx)) :
    ((replaceEntry rt domEntry idx rteValue mcMaskRte).target other at_).rteVal =
      if other = false ∧ (rt.mcMasks (rioRteIdx mcMaskRte)).inUse = true ∧
          at_ = devIdx (rt.mcMasks (rioRteIdx mcMaskRte)).mcDestId then rioRteDrop
      else (rt.target other at_).rteVal := by
  rw [replaceEntry, target_setTarget, if_neg elsewhere, target_deallocMask]
  simp [last other at_ elsewhere]

theorem onlyEntryChanged_replaceEntry_iff
    (allocd : ∀ mcIdx, (rt.mcMasks mcIdx).inUse = true → (rt.mcMasks mcIdx).allocd = true)
    (last : ∀ other at_, ¬(other = domEntry ∧ at_ = idx) →
      (rt.target other at_).rteVal ≠ mcMaskRte) :
    OnlyEntryChanged rt (replaceEntry rt domEntry idx rteValue mcMaskRte) domEntry idx ↔
      LeavesOthers rt domEntry idx rteValue mcMaskRte := by
  constructor
  · intro frame
    constructor
    · intro used
      by_cases here : false = domEntry ∧ devIdx (rt.mcMasks (rioRteIdx mcMaskRte)).mcDestId = idx
      · exact .inl ⟨here.1.symm, here.2.symm⟩
      · right
        have kept := frame.others _ _ here
        rw [replaceEntry_other rteValue last here, if_pos ⟨rfl, used, rfl⟩] at kept
        exact kept.symm
    · intro isAllocd
      have freed : (replaceEntry rt domEntry idx rteValue mcMaskRte).mcMasks (rioRteIdx mcMaskRte) ≠
          rt.mcMasks (rioRteIdx mcMaskRte) := by
        rw [replaceEntry_mcMasks, Function.update_self]
        exact clearMask_ne isAllocd
      have unnamed := (frame.masks _ freed).2
      constructor
      · have new := unnamed domEntry idx
        rwa [RefersTo, replaceEntry_target] at new
      · intro other at_ elsewhere
        have kept := unnamed other at_
        rwa [RefersTo, frame.others other at_ elsewhere] at kept
  · intro leaves
    have others : ∀ other at_, ¬(other = domEntry ∧ at_ = idx) →
        ((replaceEntry rt domEntry idx rteValue mcMaskRte).target other at_).rteVal =
          (rt.target other at_).rteVal := by
      intro other at_ elsewhere
      rw [replaceEntry_other rteValue last elsewhere]
      split
      next hit =>
        obtain ⟨rfl, used, rfl⟩ := hit
        obtain ⟨rfl, rfl⟩ | dropped := leaves.destId used
        · exact absurd ⟨rfl, rfl⟩ elsewhere
        · exact dropped.symm
      next => rfl
    refine ⟨others, fun mcIdx freed => ?_⟩
    rw [replaceEntry_mcMasks] at freed ⊢
    obtain rfl | different := eq_or_ne mcIdx (rioRteIdx mcMaskRte)
    · rw [Function.update_self] at freed ⊢
      have isAllocd : (rt.mcMasks (rioRteIdx mcMaskRte)).allocd = true := by
        by_contra free
        apply freed
        apply clearMask_of_free
        · exact Bool.eq_false_iff.mpr fun used => free (allocd _ used)
        · exact Bool.eq_false_iff.mpr free
      obtain ⟨newUnnamed, unnamed⟩ := leaves.unnamed isAllocd
      refine ⟨rfl, fun other at_ => ?_⟩
      by_cases here : other = domEntry ∧ at_ = idx
      · obtain ⟨rfl, rfl⟩ := here
        rwa [RefersTo, replaceEntry_target]
      · rw [RefersTo, others other at_ here]
        exact unnamed other at_ here
    · rw [Function.update_of_ne different] at freed
      exact absurd rfl freed

end Replaced

theorem onlyEntryChanged_of_deallocates_none
    (freesNone : (RtCall.changeRte domEntry idx rteValue).deallocates devInfo rt = none) :
    OnlyEntryChanged rt (rxsRioRtChangeRte devInfo rt domEntry idx rteValue).2 domEntry idx := by
  have effect := exec_effect devInfo rt (.changeRte domEntry idx rteValue)
  rw [freesNone] at effect
  change RtEffect rt _ none (rxsRioRtChangeRte devInfo rt domEntry idx rteValue).2 at effect
  generalize (rxsRioRtChangeRte devInfo rt domEntry idx rteValue).2 = after at effect ⊢
  cases effect with
  | kept => exact ⟨fun _ _ _ => rfl, fun _ different => absurd rfl different⟩
  | changed =>
    constructor
    · intro other at_ elsewhere
      rw [target_setTarget, if_neg elsewhere]
    · intro mcIdx different
      rw [setTarget_mcMasks] at different
      exact absurd rfl different

theorem changeRteFrame_iff
    (allocd : ∀ mcIdx, (rt.mcMasks mcIdx).inUse = true → (rt.mcMasks mcIdx).allocd = true)
    (domEntry : Bool) (idx : RtIdx) (rteValue : PeRtVal) :
    ChangeRteFrame devInfo rt domEntry idx rteValue ↔
      ∀ mcMaskRte ∈ (RtCall.changeRte domEntry idx rteValue).deallocates devInfo rt,
        LeavesOthers rt domEntry idx rteValue mcMaskRte := by
  unfold ChangeRteFrame
  cases freed : (RtCall.changeRte domEntry idx rteValue).deallocates devInfo rt with
  | none =>
    refine iff_of_true (fun _ => ?_) nofun
    exact onlyEntryChanged_of_deallocates_none freed
  | some mcMaskRte =>
    rw [rxsRioRtChangeRte_of_deallocates freed]
    have frame := onlyEntryChanged_replaceEntry_iff rteValue allocd (last_of_deallocates freed).2
    simpa [replaceEntry] using frame

/-- Edits of reachable tables leave other entries alone exactly if the mask that goes has a
destination ID whose device table entry is the mask's own, and goes with its last name. -/
theorem edit_frame_iff {devInfo : DarDevInfo} {rt : RioRtState} (reachable : Reachable devInfo rt) :
    (∀ domEntry idx rteValue,
      ChangeRteFrame devInfo rt domEntry idx rteValue ↔
        ∀ mcMaskRte ∈ (RtCall.changeRte domEntry idx rteValue).deallocates devInfo rt,
          LeavesOthers rt domEntry idx rteValue mcMaskRte) ∧
      ∀ mcMaskRte, DeallocFrame rt mcMaskRte ↔ DestIdIsMasks rt mcMaskRte := by
  constructor
  · exact changeRteFrame_iff reachable.allocd
  · exact deallocFrame_iff rt

/-- The tables that calls make of `portZeroIn` on a switch with 24 ports. -/
def portZeroRt (calls : List RtCall) : RioRtState :=
  run (RtCall.exec ⟨.rxs2448, 24⟩) (initialRt portZeroIn) calls

theorem portZeroRt_reachable (calls : List RtCall) :
    Reachable ⟨.rxs2448, 24⟩ (portZeroRt calls) :=
  ⟨fun _ => none, portZeroIn, ⟨initialRt portZeroIn, ⟨0, 0, 0, 0⟩⟩, _, calls,
    portZeroIn_initializes _, rfl⟩

/-- A mask for the device table entry 5. -/
def maskForFive : List RtCall :=
  [.allocMcMask 256, .changeMcMask 0x100 ⟨5, .ttDev8, 1, true, true, false⟩]

/-- The entry that a mask was created for moves away last, and takes the mask with it. -/
theorem edit_frame_lastEntry :
    ChangeRteFrame ⟨.rxs2448, 24⟩ (portZeroRt maskForFive) false 5 2 := by
  have freed : (RtCall.changeRte false 5 2).deallocates ⟨.rxs2448, 24⟩ (portZeroRt maskForFive) =
      some 0x100 := by decide +kernel
  have destId :
      (5 : RtIdx) = devIdx ((portZeroRt maskForFive).mcMasks (rioRteIdx 0x100)).mcDestId :=
    by decide +kernel
  have unnamed : ∀ other at_, ¬(other = false ∧ at_ = 5) →
      ¬RefersTo (portZeroRt maskForFive) other at_ (rioRteIdx 0x100) := by decide +kernel
  have frame := (edit_frame_iff (portZeroRt_reachable maskForFive)).1 false 5 2
  rw [frame, freed]
  intro mcMaskRte same
  obtain rfl : (0x100 : PeRtVal) = mcMaskRte := Option.some.inj same
  exact ⟨fun _ => .inl ⟨rfl, destId⟩, fun _ => ⟨by decide, unnamed⟩⟩

/-- Another entry joins, and entry 5 moves away to port 2. -/
def leftByFive : List RtCall :=
  maskForFive ++ [.changeRte false 6 0x100, .changeRte false 5 2]

/-- The second entry moves to port 3, and entry 5 drops; so it does if the mask is
deallocated. -/
theorem edit_frame_unicastDropped :
    let rt := portZeroRt leftByFive
    let changed := rxsRioRtChangeRte ⟨.rxs2448, 24⟩ rt false 6 3
    Reachable ⟨.rxs2448, 24⟩ rt ∧ changed.1 = (.rioSuccess, .rioSuccess) ∧
      (rt.target false 5).rteVal = 2 ∧ (changed.2.target false 5).rteVal = rioRteDrop ∧
        ¬ChangeRteFrame ⟨.rxs2448, 24⟩ rt false 6 3 ∧ ¬DeallocFrame rt 0x100 := by
  have before : ((portZeroRt leftByFive).target false 5).rteVal = 2 := by decide +kernel
  have succeeds : (rxsRioRtChangeRte ⟨.rxs2448, 24⟩ (portZeroRt leftByFive) false 6 3).1 =
      (.rioSuccess, .rioSuccess) := by decide +kernel
  have dropped : ((rxsRioRtChangeRte ⟨.rxs2448, 24⟩ (portZeroRt leftByFive) false 6 3).2.target
      false 5).rteVal = rioRteDrop := by decide +kernel
  have deallocated : ((dsfRioRtDeallocMcMask (portZeroRt leftByFive) 0x100).2.target
      false 5).rteVal = rioRteDrop := by decide +kernel
  refine ⟨portZeroRt_reachable leftByFive, succeeds, before, dropped, ?_, ?_⟩
  · rw [ChangeRteFrame, succeeds]
    intro frame
    have kept := (frame rfl).others false 5 (by decide)
    rw [before, dropped] at kept
    exact absurd kept (by decide)
  · intro frame
    have different : (dsfRioRtDeallocMcMask (portZeroRt leftByFive) 0x100).2.target false 5 ≠
        (portZeroRt leftByFive).target false 5 := by
      intro same
      rw [same, before] at deallocated
      exact absurd deallocated (by decide)
    obtain ⟨mcIdx, _, refers⟩ := frame false 5 different
    rw [RefersTo, before] at refers
    exact nomatch refers

end RioFabric.RouteTable

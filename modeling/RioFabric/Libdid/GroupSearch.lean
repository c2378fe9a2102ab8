import RioFabric.Libdid.Completeness

/-!
# When `did_alloc_dev16_grp` finds a group

A group is sought from the cursor up.  `did_create` goes on at the beginning when it gets to the
end; the search for a group does not, and groups that were given back behind the cursor are never
found again.
-/

namespace RioFabric.Libdid

open Lib

/-- A block of 256 sixteen bit IDs with the same high byte. -/
def IsBlock (base : Nat) : Prop := base % 0x100 = 0 ∧ base + 0x100 ≤ 0x10000

instance (base : Nat) : Decidable (IsBlock base) := inferInstanceAs (Decidable (_ ∧ _))

/-- No ID of the block is in use, apart from the values that no call hands out. -/
def DidState.BlockFree (state : DidState) (base : Nat) : Prop :=
  ∀ value, base ≤ value → value < base + 0x100 → ¬Reserved value → state.Free value

/-- What is expected of the next allocation of a group. -/
structure DidState.GroupComplete (state : DidState) : Prop where
  /-- An allocation fails only if every block has an ID in use. -/
  found : (didAllocDev16Grp state).1 = .enobufs → ∀ base, IsBlock base → ¬state.BlockFree base
  /-- The block of a new group was free, and is in use afterwards. -/
  taken : ∀ group, (didAllocDev16Grp state).2.1 = some group →
    IsBlock group.base ∧ state.BlockFree group.base ∧
      ∀ value, group.base ≤ value → value < group.base + 0x100 →
        ¬(didAllocDev16Grp state).2.2.Free value

/-- If a block is free, then one is that does not lie below the ID before the cursor. -/
def DidState.BlockAhead (state : DidState) : Prop :=
  (∃ base, IsBlock base ∧ state.BlockFree base) →
    ∃ base, IsBlock base ∧ state.BlockFree base ∧ state.lazyInit.didIdx ≤ base + 1

theorem findGroup_eq_none_iff {didIds : Nat → DidSz} {start count : Nat} :
    findGroup didIds start count = none ↔
      ∀ i < count, groupAvail didIds (start + 0x100 * i) 0x100 = false := by
  induction count generalizing start with
  | zero => exact iff_of_true rfl fun i inRange => absurd inRange (Nat.not_lt_zero i)
  | succ count ih =>
    unfold findGroup
    split
    next avail =>
      refine iff_of_false (fun none => by cases none) fun unavailable => ?_
      have first := unavailable 0 (Nat.succ_pos count)
      rw [Nat.mul_zero, Nat.add_zero, avail] at first
      cases first
    next unavailable =>
      rw [ih]
      constructor
      · intro later i inRange
        cases i with
        | zero => exact Bool.not_eq_true _ ▸ unavailable
        | succ i =>
          have position : start + 0x100 * (i + 1) = start + 0x100 + 0x100 * i := by omega
          rw [position]
          exact later i (Nat.lt_of_succ_lt_succ inRange)
      · intro all i inRange
        have position : start + 0x100 + 0x100 * i = start + 0x100 * (i + 1) := by omega
        rw [position]
        exact all (i + 1) (Nat.succ_lt_succ inRange)

section Block

variable {state : DidState} {base : Nat}

theorem groupAvail_iff_blockFree :
    groupAvail state.didIds base 0x100 = true ↔ state.BlockFree base :=
  groupAvail_iff

theorem DidState.WellFormed.blockFree_lazyInit_iff (wf : state.WellFormed) :
    state.lazyInit.BlockFree base ↔ state.BlockFree base :=
  forall₄_congr fun _ _ _ notReserved => wf.free_lazyInit_iff notReserved

theorem findGroup_startIdx_eq_none_iff :
    findGroup state.didIds state.startIdx ((0x10000 - state.startIdx) / 0x100) = none ↔
      ∀ base, IsBlock base → state.BlockFree base → base + 1 < state.didIdx := by
  rw [findGroup_eq_none_iff]
  simp only [← Bool.not_eq_true, groupAvail_iff_blockFree]
  unfold IsBlock DidState.startIdx
  constructor
  · intro unavailable base isBlock free
    by_contra behind
    have position : base = (state.didIdx - 1 + 0x100 - 1) / 0x100 * 0x100 +
        0x100 * (base / 0x100 - (state.didIdx - 1 + 0x100 - 1) / 0x100) := by omega
    refine unavailable (base / 0x100 - (state.didIdx - 1 + 0x100 - 1) / 0x100) (by omega) ?_
    rwa [← position]
  · intro ahead i inRange free
    have behind := ahead _ (by omega) free
    omega

theorem didAllocDev16Grp_enobufs_iff (wf : state.WellFormed) :
    (didAllocDev16Grp state).1 = .enobufs ↔
      ∀ base, IsBlock base → state.BlockFree base → base + 1 < state.lazyInit.didIdx := by
  have searched := @findGroup_startIdx_eq_none_iff state.lazyInit
  simp only [wf.blockFree_lazyInit_iff] at searched
  rw [← searched]
  simp only [didAllocDev16Grp]
  split
  next none => exact iff_of_true rfl none
  next base found =>
    refine iff_of_false (fun failed => by cases failed) fun none => ?_
    rw [found] at none
    cases none

theorem didAllocDev16Grp_taken (wf : state.WellFormed) {group : DidGrp}
    (allocated : (didAllocDev16Grp state).2.1 = some group) :
    IsBlock group.base ∧ state.BlockFree group.base ∧
      ∀ value, group.base ≤ value → value < group.base + 0x100 →
        ¬(didAllocDev16Grp state).2.2.Free value := by
  obtain ⟨base, result, aligned, inside, free⟩ | failed := didAllocDev16Grp_cases state
  · rw [result] at allocated ⊢
    obtain rfl : newGroup base = group := Option.some.inj allocated
    refine ⟨⟨aligned, inside⟩, wf.blockFree_lazyInit_iff.mp free, fun value after before => ?_⟩
    have ready := wf.lazyInit_ready.markGroup inside
    by_cases isReserved : Reserved value
    · exact ready.reserved value isReserved
    · unfold Reserved at isReserved
      have marked : markGroup state.lazyInit.didIds base 0x100 value = .dev16Sz := by
        rw [markGroup_apply, if_pos ⟨after, before, by omega, by omega⟩]
      simp only [DidState.Free, marked]
      decide
  · rw [failed] at allocated
    cases allocated

end Block

/-- After every sequence of calls, the allocation of a group is complete exactly if it does not
depend on blocks behind the cursor. -/
theorem after_groupComplete_iff (calls : List LibdidCall) :
    (DidState.after calls).GroupComplete ↔ (DidState.after calls).BlockAhead := by
  have wf := after_wellFormed calls
  constructor
  · intro complete ⟨base, isBlock, free⟩
    by_contra behind
    refine complete.found ((didAllocDev16Grp_enobufs_iff wf).mpr ?_) base isBlock free
    intro other otherIsBlock otherFree
    exact Nat.lt_of_not_le fun ahead => behind ⟨other, otherIsBlock, otherFree, ahead⟩
  · intro ahead
    refine ⟨fun failed base isBlock free => ?_, fun group => didAllocDev16Grp_taken wf⟩
    obtain ⟨other, otherIsBlock, otherFree, reached⟩ := ahead ⟨base, isBlock, free⟩
    have behind := (didAllocDev16Grp_enobufs_iff wf).mp failed other otherIsBlock otherFree
    omega

/-- Exactly the reserved values are taken, and the cursor stays. -/
theorem run_createFromData {state : DidState} (ready : state.Ready) {values : List Nat}
    (legal : ∀ value ∈ values, didCheck value .dev16Sz = none) :
    let final := run LibdidCall.exec state (values.map (.createFromData · .dev16Sz))
    final.Ready ∧ final.didIdx = state.didIdx ∧
      ∀ value, final.Free value ↔ value ∉ values ∧ state.Free value := by
  induction values generalizing state with
  | nil => exact ⟨ready, rfl, fun value => (and_iff_right List.not_mem_nil).symm⟩
  | cons first rest ih =>
    have passes := legal first List.mem_cons_self
    have started : state.lazyInit = state := if_neg ready.started.ne'
    have next_eq : (LibdidCall.createFromData first .dev16Sz).exec state =
        if state.Free first then state.mark first .dev16Sz else state := by
      simp only [LibdidCall.exec, didCreateFromData, started, passes]
      split <;> rfl
    obtain ⟨nextReady, nextIdx, nextFree⟩ : DidState.Ready
        ((LibdidCall.createFromData first .dev16Sz).exec state) ∧
          ((LibdidCall.createFromData first .dev16Sz).exec state).didIdx = state.didIdx ∧
            ∀ value, ((LibdidCall.createFromData first .dev16Sz).exec state).Free value ↔
              value ≠ first ∧ state.Free value := by
      rw [next_eq]
      split
      next free =>
        exact ⟨ready.take (by decide) ready.started ready.inside, rfl,
          fun value => DidState.mark_free_iff (by decide)⟩
      next used =>
        refine ⟨ready, rfl, fun value => ?_⟩
        rw [iff_and_self]
        rintro free rfl
        exact used free
    obtain ⟨finalReady, finalIdx, finalFree⟩ :=
      ih nextReady fun value isRest => legal value (List.mem_cons_of_mem _ isRest)
    refine ⟨finalReady, finalIdx.trans nextIdx, fun value => (finalFree value).trans ?_⟩
    rw [nextFree, List.mem_cons, not_or, and_left_comm, and_assoc]

/-- One ID of every block but the first. -/
def laterIds : List Nat := (List.range' 1 255).map fun dom => 0x100 * dom + 1

/-- The first ID is created and given back, and the later ones are taken. -/
def lostBlockCalls : List LibdidCall :=
  [.create .dev16Sz, .release ⟨1, .dev16Sz⟩] ++ laterIds.map (.createFromData · .dev16Sz)

/-- The first block is free again, and the allocation of a group fails. -/
theorem lostBlock_notFound :
    (didAllocDev16Grp (DidState.after lostBlockCalls)).1 = .enobufs ∧
      (DidState.after lostBlockCalls).BlockFree 0 ∧
        ¬∀ calls, (DidState.after calls).GroupComplete := by
  let created := DidState.after [.create .dev16Sz, .release ⟨1, .dev16Sz⟩]
  have wf := after_wellFormed lostBlockCalls
  have ready : created.Ready :=
    (after_wellFormed [.create .dev16Sz, .release ⟨1, .dev16Sz⟩]).resolve_left fun same =>
      absurd (congrArg DidState.didIdx same) (by decide)
  have legal : ∀ value ∈ laterIds, didCheck value .dev16Sz = none := by decide +kernel
  have final_eq : DidState.after lostBlockCalls =
      run LibdidCall.exec created (laterIds.map (.createFromData · .dev16Sz)) :=
    List.foldl_append
  obtain ⟨finalReady, idx, free_iff⟩ := run_createFromData ready legal
  rw [← final_eq] at finalReady idx free_iff
  have cursor : (DidState.after lostBlockCalls).lazyInit.didIdx = 2 := by
    have started : (DidState.after lostBlockCalls).lazyInit = DidState.after lostBlockCalls :=
      if_neg finalReady.started.ne'
    rw [started, idx]
    decide
  have free : (DidState.after lostBlockCalls).BlockFree 0 := by
    intro value _ inside notReserved
    refine (free_iff value).mpr ⟨fun isLater => ?_, ?_⟩
    · obtain ⟨dom, inRange, rfl⟩ := List.mem_map.mp isLater
      rw [List.mem_range'_1] at inRange
      omega
    · have low : ∀ value < 0x100, ¬(value = 0 ∨ value = 0xFF ∨ value = 0xFFFF) →
          created.Free value := by
        decide +kernel
      exact low value (by omega) notReserved
  have failed : (didAllocDev16Grp (DidState.after lostBlockCalls)).1 = .enobufs := by
    refine (didAllocDev16Grp_enobufs_iff wf).mpr fun base isBlock blockFree => ?_
    rw [cursor]
    obtain ⟨aligned, inside⟩ := isBlock
    by_contra ahead
    have isLater : base + 1 ∈ laterIds :=
      List.mem_map.mpr ⟨base / 0x100, List.mem_range'_1.mpr (by omega), by omega⟩
    have notReserved : ¬Reserved (base + 1) := by
      unfold Reserved
      omega
    exact ((free_iff _).mp (blockFree (base + 1) (by omega) (by omega) notReserved)).1 isLater
  exact ⟨failed, free, fun complete => (complete lostBlockCalls).found failed 0 (by decide) free⟩

end RioFabric.Libdid

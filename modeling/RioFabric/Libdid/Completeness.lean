import RioFabric.Libdid.Allocator
import RioFabric.Lib.Runs

/-!
# When `did_create` finds a free ID

Over all sequences of `libdid` calls, with no discipline about who releases what, the
allocator stays well formed.  In these states the search of `did_create` is complete, but
for eight bit IDs it does not stop at the end of their range: the second loop runs up to the
cursor, wherever sixteen bit allocations have left it.
-/

namespace RioFabric.Libdid

open Lib

/-- Calls that read or change the allocator.  Calls on the entries of a group leave it
alone. -/
inductive LibdidCall where
  | create (size : DidSz)
  | createFromData (value : Nat) (size : DidSz)
  | release (did : Did)
  | get (value : Nat)
  | fromValue (value size : Nat)
  | allocDev16Grp
  deriving DecidableEq, Repr

/-- The allocator after a call. -/
def LibdidCall.exec (state : DidState) : LibdidCall → DidState
  | .create size => (didCreate state size).2.2
  | .createFromData value size => (didCreateFromData state value size).2.2
  | .release did => (didRelease state did).2
  | .get value => (didGet state value).2.2
  | .fromValue value size => (didFromValue state value size).2.2
  | .allocDev16Grp => (didAllocDev16Grp state).2.2

/-- The allocator after a sequence of calls. -/
abbrev DidState.after (calls : List LibdidCall) : DidState :=
  run LibdidCall.exec .zeroed calls

section Preserved

variable {state : DidState}

theorem DidState.Ready.release {value : Nat} (ready : state.Ready)
    (notReserved : ¬Reserved value) : (state.mark value .invldSz).Ready where
  started := ready.started
  inside := ready.inside
  reserved := by
    intro other isReserved
    have different : other ≠ value := fun same => notReserved (same ▸ isReserved)
    have same : (state.mark value .invldSz).didIds other = state.didIds other :=
      Function.update_of_ne different _ _
    rw [Free, same]
    exact ready.reserved other isReserved

theorem DidState.Ready.markGroup {base : Nat} (ready : state.Ready)
    (inside : base + 0x100 ≤ 0x10000) :
    DidState.Ready ⟨Libdid.markGroup state.didIds base 0x100, base + 0x100⟩ where
  started := Nat.add_pos_right base (by decide)
  inside := inside
  reserved := by
    intro value isReserved
    simp only [Free, markGroup_apply]
    split
    · decide
    · exact ready.reserved value isReserved

theorem exec_wellFormed (wf : state.WellFormed) (call : LibdidCall) :
    (call.exec state).WellFormed := by
  have ready := wf.lazyInit_ready
  cases call with
  | create size =>
    obtain ⟨value, result, used, -, positive, inside⟩ | ⟨rc, -, result⟩ :=
      didCreate_cases wf size
    · rw [LibdidCall.exec, result]
      exact Or.inr (ready.take used (by omega) (by omega))
    · rw [LibdidCall.exec, result]
      exact Or.inr ready
  | createFromData value size =>
    obtain ⟨result, used, -, -, -⟩ | ⟨rc, -, result⟩ :=
      didCreateFromData_cases state value size
    · rw [LibdidCall.exec, result]
      exact Or.inr (ready.take used ready.started ready.inside)
    · rw [LibdidCall.exec, result]
      exact Or.inr ready
  | release did =>
    obtain ⟨result, inUse, notReserved, -⟩ | ⟨rc, -, result⟩ := didRelease_cases state did
    · rw [LibdidCall.exec, result]
      rcases wf with rfl | ready
      · exact absurd rfl inUse
      · exact Or.inr (ready.release notReserved)
    · rw [LibdidCall.exec, result]
      exact wf
  | get value =>
    obtain ⟨result, -⟩ | ⟨rc, -, result⟩ := didGet_cases state value
    all_goals
      rw [LibdidCall.exec, result]
      exact Or.inr ready
  | fromValue value size =>
    obtain ⟨used, isUsed, result⟩ | result := didFromValue_cases state value size
    · rw [LibdidCall.exec, result]
      exact Or.inr (ready.take isUsed ready.started ready.inside)
    · rw [LibdidCall.exec, result]
      exact Or.inr ready
  | allocDev16Grp =>
    obtain ⟨base, result, -, inside, -⟩ | result := didAllocDev16Grp_cases state
    · rw [LibdidCall.exec, result]
      exact Or.inr (ready.markGroup inside)
    · rw [LibdidCall.exec, result]
      exact Or.inr ready

end Preserved

theorem after_wellFormed (calls : List LibdidCall) : (DidState.after calls).WellFormed := by
  have always : Guarded LibdidCall.exec (fun _ _ => True) .zeroed calls :=
    guarded_of_forall (fun _ _ => trivial) _ calls
  exact run_invariant DidState.WellFormed (fun _ call wf _ => exec_wellFormed wf call)
    (Or.inl rfl) always

/-- The values of a size. -/
def InRange : DidSz → Nat → Prop
  | .dev08Sz, value => 1 ≤ value ∧ value ≤ 0xFE
  | .dev16Sz, value => 1 ≤ value ∧ value ≤ 0xFFFE ∧ value ≠ 0xFF
  | _, _ => False

/-- `did_create` succeeds exactly when a value of the requested size is free, and then
returns one. -/
def DidState.Complete (state : DidState) (size : DidSz) : Prop :=
  ((didCreate state size).1 = .success ↔ ∃ value, InRange size value ∧ state.Free value) ∧
    ((didCreate state size).1 = .success →
      InRange size (didCreate state size).2.1.value ∧
        state.Free (didCreate state size).2.1.value ∧
        (didCreate state size).2.1.size = size)

/-- The second search loop finds no ID above the eight bit range, or has no occasion to. -/
def DidState.Dev08Bounded (state : DidState) : Prop :=
  (∃ value, InRange .dev08Sz value ∧ state.Free value) ∨
    ∀ value, 0x100 ≤ value → value < state.didIdx → ¬state.Free value

theorem not_reserved_of_inRange {size : DidSz} {value : Nat} (inRange : InRange size value) :
    ¬Reserved value := by
  unfold Reserved
  cases size <;> simp only [InRange] at inRange <;> omega

section Search

variable {state : DidState}

theorem nextFree_eq_none_iff {upb : Nat} :
    state.nextFree upb = none ↔
      (∀ value, state.didIdx ≤ value → value < upb → ¬state.Free value) ∧
        ∀ value, 0 < value → value < state.didIdx → ¬state.Free value := by
  unfold DidState.nextFree
  have above := @findFree_eq_none_iff state.didIds state.didIdx (upb - state.didIdx)
  have below := @findFree_eq_none_iff state.didIds 1 (state.didIdx - 1)
  split
  next value found =>
    refine iff_of_false (fun none => by cases none) fun unused => ?_
    obtain ⟨from_idx, until_upb, free, -⟩ := findFree_eq_some found
    exact unused.1 value from_idx (by omega) free
  next none =>
    rw [below]
    constructor
    · intro rest
      exact ⟨fun value from_idx until_upb => above.mp none value from_idx (by omega),
        fun value positive until_idx => rest value positive (by omega)⟩
    · intro unused value positive until_idx
      exact unused.2 value positive (by omega)

theorem nextFree_dev08_inRange {value other : Nat} (found : state.nextFree 0xFF = some value)
    (ready : state.Ready) (inRange : InRange .dev08Sz other) (free : state.Free other) :
    InRange .dev08Sz value := by
  simp only [InRange] at inRange ⊢
  have started := ready.started
  unfold DidState.nextFree at found
  split at found
  next above =>
    cases found
    obtain ⟨from_idx, until_upb, -, -⟩ := findFree_eq_some above
    omega
  next none =>
    obtain ⟨from_one, until_idx, -, least⟩ := findFree_eq_some found
    have behind : ¬other < value := fun before => least other inRange.1 before free
    omega

theorem didCreate_eq {size : DidSz} {bound : Nat} (supported : upb size = some bound)
    (ready : state.Ready) :
    didCreate state size =
      match state.nextFree bound with
      | none => (.enobufs, didInvalidId, state)
      | some value =>
        (.success, ⟨value, size⟩, { state.mark value size with didIdx := value + 1 }) := by
  have started : state.lazyInit = state := if_neg ready.started.ne'
  cases found : state.nextFree bound <;> simp only [didCreate, started, supported, found]

theorem complete_of_nextFree {size : DidSz} {bound : Nat} (supported : upb size = some bound)
    (ready : state.Ready)
    (none_iff : state.nextFree bound = none ↔
      ¬∃ value, InRange size value ∧ state.Free value)
    (inRange : ∀ value, state.nextFree bound = some value → InRange size value) :
    state.Complete size := by
  unfold DidState.Complete
  rw [didCreate_eq supported ready]
  cases found : state.nextFree bound with
  | none =>
    have nothing := none_iff.mp found
    exact ⟨iff_of_false (fun success => by cases success) nothing,
      fun success => by cases success⟩
  | some value =>
    have something : ∃ value, InRange size value ∧ state.Free value := by
      by_contra nothing
      rw [none_iff.mpr nothing] at found
      cases found
    have bounded : bound ≤ 0xFFFF := by
      cases size <;> cases supported <;> decide
    exact ⟨iff_of_true rfl something, fun _ =>
      ⟨inRange value found, (nextFree_eq_some ready bounded found).1, rfl⟩⟩

theorem complete_dev16 (ready : state.Ready) : state.Complete .dev16Sz := by
  have inside := ready.inside
  apply complete_of_nextFree rfl ready
  · rw [nextFree_eq_none_iff]
    constructor
    · rintro ⟨above, below⟩ ⟨value, inRange, free⟩
      simp only [InRange] at inRange
      by_cases before : value < state.didIdx
      · exact below value (by omega) before free
      · exact above value (by omega) (by omega) free
    · intro nothing
      have used : ∀ value, 0 < value → value < 0x10000 → ¬state.Free value := by
        intro value positive bounded free
        obtain ⟨last, notReserved⟩ := ready.lt_of_free free bounded positive
        unfold Reserved at notReserved
        exact nothing ⟨value, ⟨positive, by omega, by omega⟩, free⟩
      have started := ready.started
      exact ⟨fun value from_idx until_upb => used value (by omega) (by omega),
        fun value positive until_idx => used value positive (by omega)⟩
  · intro value found
    obtain ⟨free, positive, last⟩ := nextFree_eq_some ready (by decide) found
    have notReserved := (ready.lt_of_free free (by omega) positive).2
    unfold Reserved at notReserved
    exact ⟨positive, by omega, by omega⟩

theorem complete_dev08 (ready : state.Ready) (bounded : state.Dev08Bounded) :
    state.Complete .dev08Sz := by
  have inside := ready.inside
  have started := ready.started
  have none_of_nothing : (¬∃ value, InRange .dev08Sz value ∧ state.Free value) →
      state.nextFree 0xFF = none := by
    intro nothing
    have high := bounded.resolve_left nothing
    have low : ∀ value, 0 < value → value < 0xFF → ¬state.Free value := fun value positive below
      free => nothing ⟨value, ⟨positive, by omega⟩, free⟩
    refine nextFree_eq_none_iff.mpr
      ⟨fun value from_idx until_upb => low value (by omega) until_upb,
        fun value positive until_idx => ?_⟩
    by_cases small : value < 0xFF
    · exact low value positive small
    · by_cases last : value = 0xFF
      · exact ready.reserved value (Or.inr (Or.inl last))
      · exact high value (by omega) until_idx
  apply complete_of_nextFree rfl ready
  · refine ⟨?_, none_of_nothing⟩
    rintro none ⟨value, inRange, free⟩
    obtain ⟨above, below⟩ := nextFree_eq_none_iff.mp none
    simp only [InRange] at inRange
    by_cases before : value < state.didIdx
    · exact below value (by omega) before free
    · exact above value (by omega) (by omega) free
  · intro value found
    by_cases something : ∃ value, InRange .dev08Sz value ∧ state.Free value
    · obtain ⟨other, inRange, free⟩ := something
      exact nextFree_dev08_inRange found ready inRange free
    · rw [none_of_nothing something] at found
      cases found

/-- Eight bit allocation hands out a sixteen bit value when all eight bit ones are taken and
the cursor has left a free value behind. -/
theorem bounded_of_complete_dev08 (ready : state.Ready) (complete : state.Complete .dev08Sz) :
    state.Dev08Bounded := by
  by_contra unbounded
  obtain ⟨nothing, unlucky⟩ := not_or.mp unbounded
  obtain ⟨value, high⟩ := not_forall.mp unlucky
  have found : state.nextFree 0xFF ≠ none := by
    intro none
    refine high fun large behind free => ?_
    exact (nextFree_eq_none_iff.mp none).2 value (by omega) behind free
  obtain ⟨other, other_eq⟩ := Option.ne_none_iff_exists'.mp found
  have success : (didCreate state .dev08Sz).1 = .success := by
    rw [didCreate_eq rfl ready, other_eq]
  exact nothing (complete.1.mp success)

theorem complete_unsupported (size : DidSz) (unsupported : upb size = none) :
    state.Complete size := by
  have refused : (didCreate state size).1 ≠ .success := by
    simp only [didCreate, unsupported]
    decide
  have nothing : ¬∃ value, InRange size value ∧ state.Free value := by
    rintro ⟨value, inRange, -⟩
    cases size with
    | invldSz => exact inRange
    | dev08Sz => cases unsupported
    | dev16Sz => cases unsupported
    | dev32Sz => exact inRange
  exact ⟨iff_of_false refused nothing, fun success => absurd success refused⟩

theorem didCreate_lazyInit (wf : state.WellFormed) (size : DidSz) :
    didCreate state.lazyInit size = didCreate state size := by
  have again : state.lazyInit.lazyInit = state.lazyInit :=
    if_neg wf.lazyInit_ready.started.ne'
  simp only [didCreate, again]

theorem complete_lazyInit_iff (wf : state.WellFormed) (size : DidSz) :
    state.lazyInit.Complete size ↔ state.Complete size := by
  unfold DidState.Complete
  rw [didCreate_lazyInit wf]
  refine and_congr (iff_congr Iff.rfl (exists_congr fun value => ?_))
    (imp_congr_right fun _ => ?_)
  · exact and_congr_right fun inRange =>
      wf.free_lazyInit_iff (not_reserved_of_inRange inRange)
  · exact and_congr_right fun inRange =>
      and_congr_left fun _ => wf.free_lazyInit_iff (not_reserved_of_inRange inRange)

theorem dev08Bounded_lazyInit_iff (wf : state.WellFormed) :
    state.lazyInit.Dev08Bounded ↔ state.Dev08Bounded := by
  rcases wf with rfl | ready
  · exact iff_of_true (Or.inl ⟨1, by simp only [InRange]; omega, rfl⟩)
      (Or.inl ⟨1, by simp only [InRange]; omega, rfl⟩)
  · rw [DidState.lazyInit, if_neg ready.started.ne']

end Search

/-- After any calls, `did_create` does what it should exactly when the request is not for
eight bits, or the search cannot leave the eight bit range. -/
theorem didCreate_complete_iff (calls : List LibdidCall) (size : DidSz) :
    (DidState.after calls).Complete size ↔
      (size = .dev08Sz → (DidState.after calls).Dev08Bounded) := by
  have wf := after_wellFormed calls
  have ready := wf.lazyInit_ready
  rw [← complete_lazyInit_iff wf, ← dev08Bounded_lazyInit_iff wf]
  cases size with
  | invldSz => exact iff_of_true (complete_unsupported _ rfl) fun type => by cases type
  | dev08Sz =>
    exact ⟨fun complete _ => bounded_of_complete_dev08 ready complete,
      fun bounded => complete_dev08 ready (bounded rfl)⟩
  | dev16Sz => exact iff_of_true (complete_dev16 ready) fun type => by cases type
  | dev32Sz => exact iff_of_true (complete_unsupported _ rfl) fun type => by cases type

theorem didAllocDev16Grp_zeroed :
    (didAllocDev16Grp .zeroed).2.2 =
      ⟨fun value => if value < 0x100 ∧ value ≠ 0xFF then .dev16Sz else didInit.didIds value,
        0x100⟩ := by
  have found : findGroup didInit.didIds didInit.startIdx ((0x10000 - didInit.startIdx) / 0x100) =
      some 0 := by decide +kernel
  have initialized : DidState.zeroed.lazyInit = didInit := if_pos rfl
  have marked : markGroup didInit.didIds 0 0x100 =
      fun value => if value < 0x100 ∧ value ≠ 0xFF then .dev16Sz else didInit.didIds value := by
    funext value
    rw [markGroup_apply]
    exact if_congr (by omega) rfl rfl
  rw [didAllocDev16Grp, initialized, found, ← marked]

/-- With group 0 allocated and one sixteen bit ID released behind the cursor, an eight bit
request is answered with ID 256. -/
theorem didCreate_incomplete :
    ¬(DidState.after [.allocDev16Grp, .create .dev16Sz, .release ⟨0x100, .dev16Sz⟩]).Complete
      .dev08Sz := by
  intro complete
  have result : (didCreate (DidState.after
      [.allocDev16Grp, .create .dev16Sz, .release ⟨0x100, .dev16Sz⟩]) .dev08Sz).1 = .success ∧
      (didCreate (DidState.after
        [.allocDev16Grp, .create .dev16Sz, .release ⟨0x100, .dev16Sz⟩]) .dev08Sz).2.1.value =
          0x100 := by
    simp only [run, List.foldl, LibdidCall.exec, didAllocDev16Grp_zeroed]
    decide +kernel
  have inRange := (complete.2 result.1).1
  rw [result.2] at inRange
  simp only [InRange] at inRange
  omega

end RioFabric.Libdid

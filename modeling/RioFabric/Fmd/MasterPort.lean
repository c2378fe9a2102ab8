import RioFabric.Fmd.Directory
import RioFabric.Lib.Runs

/-!
# The local master port of the directory

The directory keeps the index of the local master port beside the array.  An addition writes
the index, a deletion moves entries without looking at it.  The index stays right as long as
no deletion takes an entry from in front of the master port; the array stays free of
duplicates as long as nothing is deleted from a full directory, which is refused only after
the entries have been moved.
-/

namespace RioFabric.Fmd

open Lib Libdid

/-- A call of one of the two operations. -/
inductive DdCall where
  | add (req : AddRequest)
  | del (ct : BitVec 32) (did : Did)

/-- A directory with the device that was last added as the master port, as long as it has
neither been deleted nor been added again as an ordinary device. -/
structure Tracked where
  dd : Dd
  mast : Option Key

/-- The master port after a successful addition. -/
def mastAfter (mast : Option Key) (req : AddRequest) : Option Key :=
  if req.isMastPt ≠ 0 then some req.key else if mast = some req.key then none else mast

/-- The master port after a device has been deleted. -/
def mastWithout (mast : Option Key) (key : Key) : Option Key :=
  if mast = some key then none else mast

def Tracked.step (state : Tracked) : DdCall → Tracked
  | .add req =>
    let (rc, dd) := addDeviceToDd state.dd req
    ⟨dd, if rc = 0 then mastAfter state.mast req else state.mast⟩
  | .del ct did =>
    ⟨(delDeviceFromDd state.dd ct did).2, mastWithout state.mast (ct, did.value)⟩

/-- A daemon that has just started. -/
def Tracked.start : Tracked := ⟨fmdDdOpenRw, none⟩

/-- The master port is at `loc_mp_idx`, and the entry says that it is the master port. -/
def Dd.MastAt (dd : Dd) (mast : Key) : Prop :=
  dd.locMpIdx < dd.numDevs ∧ dd.key dd.locMpIdx = mast ∧ (dd.devs dd.locMpIdx).isMastPt ≠ 0

/-- What the users of the directory rely on. -/
structure Tracked.Sound (state : Tracked) : Prop where
  bounded : state.dd.numDevs ≤ maxDevs
  distinct : state.dd.Distinct
  mast : ∀ key, state.mast = some key → state.dd.MastAt key

/-- A deletion keeps the directory sound: it finds nothing, or the directory has room and the
entry found is not in front of the master port, or the directory is full, the entry found is
the last one and no other entry looks like a cleared one. -/
def Tracked.Keeps (state : Tracked) : DdCall → Prop
  | .add _ => True
  | .del ct did => ∀ idx, state.dd.find ct did = some idx →
      if state.dd.numDevs < maxDevs then state.mast ≠ none → state.dd.locMpIdx ≤ idx
      else idx + 1 = maxDevs ∧ ∀ other < idx, state.dd.key other ≠ DevInfo.zeroed.key

variable {state : Tracked} {mast : Option Key} {key : Key} {dd : Dd} {idx : Nat}

theorem mastWithout_eq_some {deleted : Key} :
    mastWithout mast deleted = some key ↔ mast = some key ∧ key ≠ deleted := by
  unfold mastWithout
  split
  next same => simp [same, eq_comm (a := deleted)]
  next different =>
    refine ⟨fun before => ⟨before, ?_⟩, And.left⟩
    rintro rfl
    exact different before

theorem mastAt_of_mastAfter {req : AddRequest} (after : mastAfter mast req = some key) :
    (req.isMastPt ≠ 0 ∧ key = req.key) ∨
      (req.isMastPt = 0 ∧ key ≠ req.key ∧ mast = some key) := by
  unfold mastAfter at after
  split at after
  next isMast => exact .inl ⟨isMast, (Option.some.inj after).symm⟩
  next isOther =>
    split at after
    next => cases after
    next different =>
      refine .inr ⟨not_not.mp isOther, fun same => different ?_, after⟩
      rw [after, same]

theorem sound_add (sound : state.Sound) (req : AddRequest) : (state.step (.add req)).Sound := by
  rcases addDeviceToDd_cases sound.distinct req with
    ⟨refused, -⟩ | ⟨idx, dev, num, added, keyEq, mastEq, idxLt, grown, bounded, replaced,
      others⟩
  · have unchanged : state.step (.add req) = state := by
      simp [Tracked.step, refused]
    rw [unchanged]
    exact sound
  · simp only [Tracked.step, added, if_true]
    refine ⟨bounded sound.bounded, ?_, ?_⟩
    · have apart := addDeviceToDd_distinct sound.distinct req
      rwa [added] at apart
    · intro key after
      rcases mastAt_of_mastAfter after with ⟨isMast, rfl⟩ | ⟨isOther, different, before⟩
      · simp only [Dd.MastAt, Dd.key, if_pos isMast, Function.update_self]
        exact ⟨idxLt, keyEq, mastEq ▸ isMast⟩
      · obtain ⟨mastLt, mastKey, flagged⟩ := sound.mast key before
        have apart : state.dd.locMpIdx ≠ idx := by
          rintro rfl
          exact different (mastKey.symm.trans (replaced mastLt))
        simp only [Dd.MastAt, Dd.key, isOther, ne_eq, not_true_eq_false, if_false,
          Function.update_of_ne apart]
        exact ⟨lt_of_lt_of_le mastLt grown, mastKey, flagged⟩

/-- The array after a deletion that found the entry at `idx`. -/
def Dd.moved (dd : Dd) (idx : Nat) : Nat → DevInfo :=
  closeGap (Function.update dd.devs idx .zeroed) idx (dd.numDevs - 1 - idx)

theorem moved_apply {other : Nat} (inUse : idx < dd.numDevs) (notLast : other + 1 < dd.numDevs) :
    dd.moved idx other = dd.devs (if other < idx then other else other + 1) := by
  rw [Dd.moved, closeGap_apply]
  by_cases below : other < idx
  · rw [if_neg (by omega), if_pos below, Function.update_of_ne below.ne]
  · rw [if_pos (by omega), if_neg below, Function.update_of_ne (by omega)]

theorem moved_last {last : Nat} (inUse : idx < dd.numDevs) (isLast : last + 1 = dd.numDevs) :
    dd.moved idx last = if idx = last then .zeroed else dd.devs last := by
  rw [Dd.moved, closeGap_apply, if_neg (by omega)]
  by_cases same : idx = last
  · rw [if_pos same, same, Function.update_self]
  · rw [if_neg same, Function.update_of_ne (Ne.symm same)]

theorem delDeviceFromDd_of_found {ct : BitVec 32} {did : Did} (found : dd.find ct did = some idx) :
    delDeviceFromDd dd ct did =
      if dd.numDevs ≥ maxDevs then (1, { dd with devs := dd.moved idx })
      else (0, { dd with devs := dd.moved idx, numDevs := dd.numDevs - 1 }) := by
  simp only [delDeviceFromDd, found]
  rfl

theorem moved_distinct (distinct : dd.Distinct) (inUse : idx < dd.numDevs) :
    Dd.Distinct { dd with devs := dd.moved idx, numDevs := dd.numDevs - 1 } := by
  intro first firstLt second secondLt equal
  simp only [Dd.key] at firstLt secondLt equal
  rw [moved_apply inUse (by omega), moved_apply inUse (by omega)] at equal
  have places := distinct _ (by split <;> omega) _ (by split <;> omega) equal
  split at places <;> split at places <;> omega

/-- The master port stays where it is when the entry deleted is behind it, and is lost from
its index when the entry deleted is in front of it. -/
theorem moved_mastAt_iff (distinct : dd.Distinct) (inUse : idx < dd.numDevs) (mast : dd.MastAt key)
    (other : dd.key idx ≠ key) :
    Dd.MastAt { dd with devs := dd.moved idx, numDevs := dd.numDevs - 1 } key ↔
      dd.locMpIdx ≤ idx := by
  obtain ⟨mastLt, mastKey, flagged⟩ := mast
  have apart : dd.locMpIdx ≠ idx := by
    rintro rfl
    exact other mastKey
  simp only [Dd.MastAt, Dd.key]
  constructor
  · rintro ⟨stillLt, stillKey, -⟩
    rw [moved_apply inUse (by omega)] at stillKey
    by_contra behind
    rw [if_neg (by omega)] at stillKey
    have places := distinct _ (by omega) _ mastLt (stillKey.trans mastKey.symm)
    omega
  · intro inFront
    rw [moved_apply inUse (by omega), if_pos (by omega)]
    exact ⟨by omega, mastKey, flagged⟩

theorem moved_full_distinct_iff (distinct : dd.Distinct) (inUse : idx < dd.numDevs) :
    Dd.Distinct { dd with devs := dd.moved idx } ↔
      idx + 1 = dd.numDevs ∧ ∀ other < idx, dd.key other ≠ DevInfo.zeroed.key := by
  constructor
  · intro apart
    have last : idx + 1 = dd.numDevs := by
      by_contra notLast
      have equal := apart (dd.numDevs - 2) (by simp only; omega) (dd.numDevs - 1)
        (by simp only; omega)
      simp only [Dd.key] at equal
      rw [moved_apply inUse (by omega), moved_last inUse (by omega), if_neg (by omega),
        if_neg (by omega), show dd.numDevs - 2 + 1 = dd.numDevs - 1 by omega] at equal
      have := equal rfl
      omega
    refine ⟨last, fun other below looksCleared => ?_⟩
    have equal := apart other (by simp only; omega) idx inUse
    simp only [Dd.key] at equal
    rw [moved_apply inUse (by omega), moved_last inUse last, if_pos below, if_pos rfl] at equal
    exact below.ne (equal looksCleared)
  · rintro ⟨last, notCleared⟩
    have before : ∀ other < idx, dd.moved idx other = dd.devs other := by
      intro other below
      rw [moved_apply inUse (by omega), if_pos below]
    have cleared : dd.moved idx idx = .zeroed := by
      rw [moved_last inUse last, if_pos rfl]
    intro first firstLt second secondLt equal
    simp only [Dd.key] at firstLt secondLt equal
    have firstLe : first ≤ idx := by omega
    have secondLe : second ≤ idx := by omega
    rcases firstLe.lt_or_eq with firstBelow | firstLast <;>
      rcases secondLe.lt_or_eq with secondBelow | secondLast
    · rw [before first firstBelow, before second secondBelow] at equal
      exact distinct first firstLt second secondLt equal
    · rw [before first firstBelow, secondLast, cleared] at equal
      exact absurd equal (notCleared first firstBelow)
    · rw [before second secondBelow, firstLast, cleared] at equal
      exact absurd equal.symm (notCleared second secondBelow)
    · exact firstLast.trans secondLast.symm

theorem sound_del_iff (sound : state.Sound) (ct : BitVec 32) (did : Did) :
    (state.step (.del ct did)).Sound ↔ state.Keeps (.del ct did) := by
  simp only [Tracked.step, Tracked.Keeps]
  cases found : state.dd.find ct did with
  | none =>
    simp only [delDeviceFromDd, found, reduceCtorEq, false_implies, implies_true, iff_true]
    refine ⟨sound.bounded, sound.distinct, fun key after => ?_⟩
    exact sound.mast key (mastWithout_eq_some.mp after).1
  | some idx =>
    obtain ⟨inUse, keyAt⟩ := find_eq_some found
    rw [delDeviceFromDd_of_found found]
    simp only [Option.some.injEq, forall_eq']
    by_cases full : state.dd.numDevs ≥ maxDevs
    · rw [if_pos full]
      have exactly : state.dd.numDevs = maxDevs := le_antisymm sound.bounded full
      rw [← exactly, if_neg (lt_irrefl _), ← moved_full_distinct_iff sound.distinct inUse]
      refine ⟨fun after => after.distinct, fun apart => ⟨sound.bounded, apart, ?_⟩⟩
      intro key after
      obtain ⟨before, different⟩ := mastWithout_eq_some.mp after
      obtain ⟨mastLt, mastKey, flagged⟩ := sound.mast key before
      have last := ((moved_full_distinct_iff sound.distinct inUse).mp apart).1
      have below : state.dd.locMpIdx < idx := by
        refine lt_of_le_of_ne (by omega) ?_
        rintro rfl
        exact different (mastKey.symm.trans keyAt)
      simp only [Dd.MastAt, Dd.key]
      rw [moved_apply inUse (by omega), if_pos below]
      exact ⟨mastLt, mastKey, flagged⟩
    · rw [if_neg full, if_pos (not_le.mp full)]
      constructor
      · intro after isMast
        obtain ⟨key, before⟩ := Option.ne_none_iff_exists'.mp isMast
        obtain ⟨mastLt, mastKey, -⟩ := sound.mast key before
        by_cases same : key = (ct, did.value)
        · rw [sound.distinct _ mastLt idx inUse (by rw [mastKey, keyAt, same])]
        · refine (moved_mastAt_iff sound.distinct inUse (sound.mast key before) ?_).mp
            (after.mast key (mastWithout_eq_some.mpr ⟨before, same⟩))
          exact fun equal => same (equal.symm.trans keyAt)
      · intro inFront
        refine ⟨by simp only; omega, moved_distinct sound.distinct inUse, fun key after => ?_⟩
        obtain ⟨before, different⟩ := mastWithout_eq_some.mp after
        refine (moved_mastAt_iff sound.distinct inUse (sound.mast key before) ?_).mpr ?_
        · exact fun same => different (same.symm.trans keyAt)
        · exact inFront (by simp [before])

theorem sound_step_iff (sound : state.Sound) (call : DdCall) :
    (state.step call).Sound ↔ state.Keeps call := by
  cases call with
  | add req => exact iff_of_true (sound_add sound req) trivial
  | del ct did => exact sound_del_iff sound ct did

theorem sound_start : Tracked.start.Sound where
  bounded := Nat.zero_le _
  distinct := by
    intro idx inUse
    exact absurd inUse (Nat.not_lt_zero idx)
  mast := by
    intro key mast
    cases mast

/-- The directory is sound all along a history exactly when no deletion takes an entry from in
front of the master port or, but for its last entry, from a full directory. -/
theorem directory_sound_iff (calls : List DdCall) :
    (∀ before, before <+: calls → (run Tracked.step .start before).Sound) ↔
      Guarded Tracked.step Tracked.Keeps .start calls :=
  run_invariant_iff Tracked.Sound (fun _ call sound => sound_step_iff sound call) sound_start

/-- An ordinary device, then the master port, then the first device leaves. -/
def deviceLeaves : List DdCall :=
  [.add ⟨1, ⟨1, .dev08Sz⟩, hcMp, 0, 1, []⟩, .add ⟨2, ⟨2, .dev08Sz⟩, hcMp, 1, 1, []⟩,
    .del 1 ⟨1, .dev08Sz⟩]

/-- The index of the master port is off by one after a device in front of it has left. -/
theorem not_sound_deviceLeaves :
    ¬∀ calls : List DdCall, (run Tracked.step .start calls).Sound := by
  intro sound
  obtain ⟨inUse, -⟩ := (sound deviceLeaves).mast (2, 2) (by decide)
  exact absurd inUse (by decide)

end RioFabric.Fmd

import RioFabric.Libdid.Allocator
import RioFabric.Lib.Runs

/-!
# The IDs of a group

`did_grp_resrv_did` and `did_grp_unresrv_did` on a group that `did_alloc_dev16_grp` has made.  The
outstanding IDs of a group are those that were reserved and not given back since.  An ID that is
not outstanding can be given back as well: nothing changes, and the call succeeds.
-/

namespace RioFabric.Libdid

open Lib

/-- A call on a group; a reservation gets a structure of the caller's to fill in. -/
inductive DidGrpCall where
  | resrvDid (did : Did)
  | unresrvDid (did : Did)
  deriving DecidableEq, Repr

/-- A group with the IDs that are outstanding. -/
structure GroupUse where
  group : DidGrp
  outstanding : List Did

/-- The return code of a call. -/
def DidGrpCall.rc (use : GroupUse) : DidGrpCall → DidRc
  | .resrvDid did => (didGrpResrvDid use.group did).1
  | .unresrvDid did => (didGrpUnresrvDid use.group did).1

/-- The group after a call.  A successful one adds to the outstanding IDs or takes from them. -/
def DidGrpCall.exec (use : GroupUse) : DidGrpCall → GroupUse
  | .resrvDid did =>
    let (rc, reserved, group) := didGrpResrvDid use.group did
    ⟨group, if rc = .success then reserved :: use.outstanding else use.outstanding⟩
  | .unresrvDid did =>
    let (rc, group) := didGrpUnresrvDid use.group did
    ⟨group, if rc = .success then use.outstanding.erase did else use.outstanding⟩

/-- A sixteen bit ID has a value of sixteen bits. -/
def DidGrpCall.WellTyped : DidGrpCall → Prop
  | .resrvDid _ => True
  | .unresrvDid did => did.size = .dev16Sz → did.value < 0x10000

/-- The IDs strictly inside the group. -/
def Inside (base : Nat) (did : Did) : Prop :=
  did.size = .dev16Sz ∧ base + 1 ≤ did.value ∧ did.value ≤ base + 254

/-- What holds between the calls on a group. -/
structure GroupUse.Sound (base : Nat) (use : GroupUse) : Prop where
  size : use.group.size = .dev16Sz
  base_eq : use.group.base = base
  /-- The cursor is behind the entries only if all of them are reserved. -/
  full : 0x100 ≤ use.group.next → ∀ idx < 0x100, use.group.lDev16 idx ≠ .invldSz
  ends : use.group.lDev16 0 ≠ .invldSz ∧ use.group.lDev16 0xFF ≠ .invldSz
  inside : ∀ did ∈ use.outstanding, Inside base did
  distinct : use.outstanding.Nodup
  entries : ∀ idx, 1 ≤ idx → idx ≤ 254 →
    (use.group.lDev16 idx ≠ .invldSz ↔ ⟨base + idx, .dev16Sz⟩ ∈ use.outstanding)

variable {group : DidGrp}

theorem findEntry_eq_none_iff {offset count : Nat} :
    findEntry group offset count = none ↔
      ∀ i < count, group.lDev16 ((offset + i + group.next) % 0x100) ≠ .invldSz := by
  induction count generalizing offset with
  | zero => exact iff_of_true rfl fun i inRange => absurd inRange (Nat.not_lt_zero i)
  | succ count ih =>
    simp only [findEntry]
    split
    next free =>
      exact iff_of_false (fun none => by cases none)
        fun used => used 0 (Nat.succ_pos count) free
    next used =>
      rw [ih]
      constructor
      · intro later i inRange
        cases i with
        | zero => exact used
        | succ i =>
          have position : offset + (i + 1) = offset + 1 + i := by omega
          rw [position]
          exact later i (Nat.lt_of_succ_lt_succ inRange)
      · intro all i inRange
        have position : offset + 1 + i = offset + (i + 1) := by omega
        rw [position]
        exact all (i + 1) (Nat.succ_lt_succ inRange)

theorem findEntry_all_eq_none_iff :
    findEntry group 0 0x100 = none ↔ ∀ idx < 0x100, group.lDev16 idx ≠ .invldSz := by
  rw [findEntry_eq_none_iff]
  constructor
  · intro used idx inRange
    have position :
        (0 + (idx + 0x100 - group.next % 0x100) % 0x100 + group.next) % 0x100 = idx := by
      omega
    have entry := used ((idx + 0x100 - group.next % 0x100) % 0x100) (by omega)
    rwa [position] at entry
  · exact fun used i _ => used _ (Nat.mod_lt _ (by decide))

namespace GroupUse.Sound

variable {base : Nat} {use : GroupUse} {did : Did}

section

variable (sound : use.Sound base)
include sound

theorem all_used_iff :
    (∀ idx < 0x100, use.group.lDev16 idx ≠ .invldSz) ↔
      ∀ did, Inside base did → did ∈ use.outstanding := by
  constructor
  · rintro used ⟨value, size⟩ ⟨isDev16, above, below⟩
    obtain rfl : size = .dev16Sz := isDev16
    have entry := sound.entries (value - base) (by simp only at above; omega)
      (by simp only at below; omega)
    have position : base + (value - base) = value := by simp only at above; omega
    rw [position] at entry
    exact entry.mp (used _ (by simp only at below; omega))
  · intro all idx inRange
    by_cases first : idx = 0
    · exact first ▸ sound.ends.1
    · by_cases last : idx = 0xFF
      · exact last ▸ sound.ends.2
      · refine (sound.entries idx (by omega) (by omega)).mpr (all _ ⟨rfl, ?_, ?_⟩)
        · exact Nat.add_le_add_left (by omega) base
        · exact Nat.add_le_add_left (by omega) base

theorem resrvDid_enobufs_iff (did : Did) :
    (didGrpResrvDid use.group did).1 = .enobufs ↔
      ∀ idx < 0x100, use.group.lDev16 idx ≠ .invldSz := by
  simp only [didGrpResrvDid]
  split
  next behind => exact iff_of_true rfl (sound.full behind)
  next =>
    rw [← findEntry_all_eq_none_iff]
    split
    next none => exact iff_of_true rfl none
    next idx found =>
      refine iff_of_false (fun failed => by cases failed) fun none => ?_
      rw [found] at none
      cases none

theorem reserve {idx : Nat} (inRange : idx < 0x100) (free : use.group.lDev16 idx = .invldSz)
    {next : Nat} (before : next < 0x100) :
    Sound base ⟨use.group.withEntry idx use.group.size next,
      ⟨use.group.base + idx, use.group.size⟩ :: use.outstanding⟩ := by
  have used : use.group.size ≠ .invldSz := by
    rw [sound.size]
    decide
  have notFirst : idx ≠ 0 := fun first => sound.ends.1 (first ▸ free)
  have notLast : idx ≠ 0xFF := fun last => sound.ends.2 (last ▸ free)
  have kept : ∀ other, use.group.lDev16 other ≠ .invldSz →
      (use.group.withEntry idx use.group.size next).lDev16 other ≠ .invldSz := by
    intro other taken
    rw [withEntry_of_ne]
    · exact taken
    · exact fun same => taken (same ▸ free)
  rw [sound.size, sound.base_eq] at *
  constructor
  · exact sound.size
  · exact sound.base_eq
  · exact fun behind => absurd before (Nat.not_lt.mpr behind)
  · exact ⟨kept 0 sound.ends.1, kept 0xFF sound.ends.2⟩
  · intro did isOutstanding
    obtain rfl | other := List.mem_cons.mp isOutstanding
    · exact ⟨rfl, Nat.add_le_add_left (by omega) base, Nat.add_le_add_left (by omega) base⟩
    · exact sound.inside did other
  · refine List.nodup_cons.mpr ⟨fun already => ?_, sound.distinct⟩
    exact (sound.entries idx (by omega) (by omega)).mpr already free
  · intro other above below
    rw [List.mem_cons]
    by_cases same : other = idx
    · subst same
      exact iff_of_true (by rw [withEntry_self]; exact used) (.inl rfl)
    · rw [withEntry_of_ne _ _ _ same, sound.entries other above below]
      refine (or_iff_right fun equal => same ?_).symm
      exact Nat.add_left_cancel (congrArg Did.value equal)

theorem resrvDid (did : Did) :
    ((DidGrpCall.resrvDid did).exec use).Sound base := by
  simp only [DidGrpCall.exec, didGrpResrvDid]
  split
  next => exact sound
  next =>
    cases found : findEntry use.group 0 0x100 with
    | none =>
      have used := findEntry_all_eq_none_iff.mp found
      exact ⟨sound.size, sound.base_eq, fun _ => used, sound.ends, sound.inside, sound.distinct,
        sound.entries⟩
    | some idx =>
      obtain ⟨inRange, free⟩ := findEntry_eq_some found
      exact sound.reserve inRange free (Nat.mod_lt _ (by decide))

/-! ### Giving back -/

section

variable (aligned : base % 0x100 = 0)
include aligned

theorem unresrvDid_cases
    (wellTyped : (DidGrpCall.unresrvDid did).WellTyped) :
    (Inside base did ∧ didGrpUnresrvDid use.group did =
      (.success, use.group.withEntry (did.value - base) .invldSz
        (if 0x100 ≤ use.group.next then did.value - base else use.group.next))) ∨
      (¬Inside base did ∧ didGrpUnresrvDid use.group did = (.einval, use.group)) := by
  have low : did.value &&& 0xFF = did.value % 0x100 := Nat.and_two_pow_sub_one_eq_mod _ 8
  have high : did.value &&& 0xFF00 = did.value / 0x100 % 0x100 * 0x100 :=
    and_field did.value 0xFF00 8 8 rfl
  simp only [didGrpUnresrvDid, low, high, sound.base_eq]
  split
  next otherSize => exact .inr ⟨fun inside => otherSize inside.1, rfl⟩
  next isDev16 =>
  have small : did.value < 0x10000 := wellTyped (not_not.mp isDev16)
  split
  next otherBase =>
    refine .inr ⟨fun inside => otherBase ?_, rfl⟩
    obtain ⟨-, above, below⟩ := inside
    omega
  next sameBase =>
  split
  next isEnd =>
    refine .inr ⟨fun inside => ?_, rfl⟩
    obtain ⟨-, above, below⟩ := inside
    omega
  next inner =>
    have position : did.value % 0x100 = did.value - base := by omega
    refine .inl ⟨⟨not_not.mp isDev16, by omega, by omega⟩, ?_⟩
    rw [position, DidGrp.withEntry, sound.base_eq]

theorem unresrvDid
    (wellTyped : (DidGrpCall.unresrvDid did).WellTyped) :
    ((DidGrpCall.unresrvDid did).exec use).Sound base := by
  obtain ⟨inside, result⟩ | ⟨-, result⟩ := sound.unresrvDid_cases aligned wellTyped
  · simp only [DidGrpCall.exec, result, if_true]
    obtain ⟨isDev16, above, below⟩ := inside
    have same : (⟨base + (did.value - base), .dev16Sz⟩ : Did) = did := by
      rw [Nat.add_sub_cancel' (by omega), ← isDev16]
    constructor
    · exact sound.size
    · exact sound.base_eq
    · intro behind
      exfalso
      change 0x100 ≤ (if 0x100 ≤ use.group.next then did.value - base
        else use.group.next) at behind
      split at behind <;> omega
    · rw [withEntry_of_ne _ _ _ (by omega), withEntry_of_ne _ _ _ (by omega)]
      exact sound.ends
    · exact fun other isOutstanding => sound.inside other (List.mem_of_mem_erase isOutstanding)
    · exact sound.distinct.erase did
    · intro idx from_one until_last
      rw [sound.distinct.mem_erase_iff]
      by_cases here : idx = did.value - base
      · subst here
        rw [withEntry_self, same]
        exact iff_of_false (fun used => used rfl) fun other => other.1 rfl
      · rw [withEntry_of_ne _ _ _ here, sound.entries idx from_one until_last]
        refine (and_iff_right fun equal => here ?_).symm
        have value := congrArg Did.value equal
        simp only at value
        omega
  · simp only [DidGrpCall.exec, result, reduceCtorEq, if_false]
    exact sound

theorem unresrvDid_other
    (wellTyped : (DidGrpCall.unresrvDid did).WellTyped) (other : did ∉ use.outstanding) :
    (DidGrpCall.unresrvDid did).exec use = use := by
  obtain ⟨inside, result⟩ | ⟨-, result⟩ := sound.unresrvDid_cases aligned wellTyped
  · obtain ⟨isDev16, above, below⟩ := inside
    have same : (⟨base + (did.value - base), .dev16Sz⟩ : Did) = did := by
      rw [Nat.add_sub_cancel' (by omega), ← isDev16]
    have entry := sound.entries (did.value - base) (by omega) (by omega)
    rw [same] at entry
    have free : use.group.lDev16 (did.value - base) = .invldSz :=
      not_not.mp (mt entry.mp other)
    have ahead : ¬0x100 ≤ use.group.next := fun behind =>
      sound.full behind (did.value - base) (by omega) free
    simp [DidGrpCall.exec, result, DidGrp.withEntry, if_neg ahead, List.erase_of_not_mem other,
      ← free]
  · simp [DidGrpCall.exec, result]

theorem unresrvDid_rc
    (wellTyped : (DidGrpCall.unresrvDid did).WellTyped) :
    ((DidGrpCall.unresrvDid did).rc use = .success ↔ Inside base did) ∧
      ((DidGrpCall.unresrvDid did).rc use = .einval ↔ ¬Inside base did) := by
  obtain ⟨inside, result⟩ | ⟨outside, result⟩ :=
    sound.unresrvDid_cases aligned wellTyped
  · rw [DidGrpCall.rc, result]
    exact ⟨iff_of_true rfl inside, iff_of_false (fun same => by cases same) (not_not.mpr inside)⟩
  · rw [DidGrpCall.rc, result]
    exact ⟨iff_of_false (fun same => by cases same) outside, iff_of_true rfl outside⟩

end

end

end GroupUse.Sound

theorem newGroup_sound (base : Nat) : GroupUse.Sound base ⟨newGroup base, []⟩ where
  size := rfl
  base_eq := rfl
  full behind := absurd behind (show ¬0x100 ≤ 1 by decide)
  ends := ⟨nofun, nofun⟩
  inside did isOutstanding := absurd isOutstanding List.not_mem_nil
  distinct := List.nodup_nil
  entries idx above below := by
    have free : (newGroup base).lDev16 idx = .invldSz := if_neg (by omega)
    exact iff_of_false (not_not.mpr free) List.not_mem_nil

theorem exec_sound {base : Nat} (aligned : base % 0x100 = 0) (use : GroupUse) (call : DidGrpCall)
    (sound : use.Sound base) (wellTyped : call.WellTyped) : (call.exec use).Sound base := by
  cases call with
  | resrvDid did => exact sound.resrvDid did
  | unresrvDid did => exact sound.unresrvDid aligned wellTyped

/-- Whatever is reserved and given back, the outstanding IDs are different IDs inside the group;
to give back another ID changes nothing, whether it succeeds (for the IDs inside the group) or not;
and a reservation fails exactly if all the IDs inside the group are outstanding. -/
theorem group_outstanding (state : DidState) {group : DidGrp}
    (allocated : (didAllocDev16Grp state).2.1 = some group) {calls : List DidGrpCall}
    (wellTyped : Guarded DidGrpCall.exec (fun _ call => call.WellTyped) ⟨group, []⟩ calls) :
    (run DidGrpCall.exec ⟨group, []⟩ calls).outstanding.Nodup ∧
      (∀ did ∈ (run DidGrpCall.exec ⟨group, []⟩ calls).outstanding, Inside group.base did) ∧
      (∀ did, (DidGrpCall.unresrvDid did).WellTyped →
        did ∉ (run DidGrpCall.exec ⟨group, []⟩ calls).outstanding →
          (DidGrpCall.unresrvDid did).exec (run DidGrpCall.exec ⟨group, []⟩ calls) =
            run DidGrpCall.exec ⟨group, []⟩ calls ∧
          ((DidGrpCall.unresrvDid did).rc (run DidGrpCall.exec ⟨group, []⟩ calls) = .success ↔
            Inside group.base did) ∧
          ((DidGrpCall.unresrvDid did).rc (run DidGrpCall.exec ⟨group, []⟩ calls) = .einval ↔
            ¬Inside group.base did)) ∧
      ∀ did, (DidGrpCall.resrvDid did).rc (run DidGrpCall.exec ⟨group, []⟩ calls) = .enobufs ↔
        ∀ other, Inside group.base other →
          other ∈ (run DidGrpCall.exec ⟨group, []⟩ calls).outstanding := by
  obtain ⟨base, result, aligned, -, -⟩ | failed := didAllocDev16Grp_cases state
  · rw [result] at allocated
    obtain rfl : newGroup base = group := Option.some.inj allocated
    have sound : (run DidGrpCall.exec ⟨newGroup base, []⟩ calls).Sound base :=
      run_invariant (GroupUse.Sound base) (exec_sound aligned) (newGroup_sound base) wellTyped
    refine ⟨sound.distinct, sound.inside, fun did wellTyped other => ?_, fun did => ?_⟩
    · exact ⟨sound.unresrvDid_other aligned wellTyped other, sound.unresrvDid_rc aligned wellTyped⟩
    · exact (sound.resrvDid_enobufs_iff did).trans sound.all_used_iff
  · rw [failed] at allocated
    cases allocated

theorem firstGroup_allocated : (didAllocDev16Grp .zeroed).2.1 = some (newGroup 0) := by
  have start : DidState.zeroed.lazyInit = didInit := rfl
  have found : findGroup didInit.didIds didInit.startIdx ((0x10000 - didInit.startIdx) / 0x100) =
      some 0 := by
    decide +kernel
  simp only [didAllocDev16Grp, start, found]

/-- An ID of the first group is reserved and given back twice. -/
theorem group_outstanding_firstGroup :
    (didAllocDev16Grp .zeroed).2.1 = some (newGroup 0) ∧
      Guarded DidGrpCall.exec (fun _ call => call.WellTyped) ⟨newGroup 0, []⟩
        [.resrvDid didInvalidId, .unresrvDid ⟨1, .dev16Sz⟩, .unresrvDid ⟨1, .dev16Sz⟩] ∧
      (run DidGrpCall.exec ⟨newGroup 0, []⟩
        [.resrvDid didInvalidId, .unresrvDid ⟨1, .dev16Sz⟩,
          .unresrvDid ⟨1, .dev16Sz⟩]).outstanding.Nodup := by
  have wellTyped : Guarded DidGrpCall.exec (fun _ call => call.WellTyped) ⟨newGroup 0, []⟩
      [.resrvDid didInvalidId, .unresrvDid ⟨1, .dev16Sz⟩, .unresrvDid ⟨1, .dev16Sz⟩] :=
    ⟨trivial, fun _ => by decide, fun _ => by decide, trivial⟩
  exact ⟨firstGroup_allocated, wellTyped,
    (group_outstanding .zeroed firstGroup_allocated wellTyped).1⟩

/-- An ID that was never reserved is given back, and the call succeeds. -/
theorem unresrvDid_succeeds_unreserved :
    ¬∀ (state : DidState) (group : DidGrp) (calls : List DidGrpCall) (did : Did),
      (didAllocDev16Grp state).2.1 = some group →
        did ∉ (run DidGrpCall.exec ⟨group, []⟩ calls).outstanding →
          (DidGrpCall.unresrvDid did).rc (run DidGrpCall.exec ⟨group, []⟩ calls) ≠ .success := by
  intro fails
  exact fails .zeroed (newGroup 0) [] ⟨1, .dev16Sz⟩ firstGroup_allocated List.not_mem_nil rfl

end RioFabric.Libdid

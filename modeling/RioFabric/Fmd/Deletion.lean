import Mathlib.Data.List.Range
import RioFabric.Fmd.MasterPort

/-!
# Deletions from the directory

`del_device_from_dd` clears the entry and closes the gap before it looks at the number of
entries, which it refuses to lower from `FMD_MAX_DEVS`.  A directory that is full has therefore
lost the entry when the deletion fails, and stays full for good.
-/

namespace RioFabric.Fmd

open Lib Libdid

def Dd.step (dd : Dd) : DdCall → Dd
  | .add req => (addDeviceToDd dd req).2
  | .del ct did => (delDeviceFromDd dd ct did).2

/-- The entries in use, in their order. -/
def Dd.entries (dd : Dd) : List DevInfo := (List.range dd.numDevs).map dd.devs

/-- What a deletion is for: it takes the entry of a device out of the directory, and refuses a
device that is not there. -/
structure Dd.Deletes (dd : Dd) (ct : BitVec 32) (did : Did) : Prop where
  succeeds : (delDeviceFromDd dd ct did).1 = 0 ↔ ∃ dev ∈ dd.entries, dev.Matches ct did
  removes : (delDeviceFromDd dd ct did).1 = 0 → ∃ before dev after,
    dd.entries = before ++ dev :: after ∧ dev.Matches ct did ∧
    (delDeviceFromDd dd ct did).2.entries = before ++ after ∧
    ∀ other ∈ before ++ after, ¬other.Matches ct did
  counts : (delDeviceFromDd dd ct did).1 = 0 →
    (delDeviceFromDd dd ct did).2.numDevs + 1 = dd.numDevs
  unchanged : (delDeviceFromDd dd ct did).1 ≠ 0 → (delDeviceFromDd dd ct did).2 = dd

/-- The array has room for the entries, and there are no duplicates unless it is full. -/
structure Dd.Regular (dd : Dd) : Prop where
  bounded : dd.numDevs ≤ maxDevs
  distinct : dd.numDevs < maxDevs → dd.Distinct

section Entries

variable {dd : Dd} {ct : BitVec 32} {did : Did} {idx : Nat}

theorem regular_start : fmdDdOpenRw.Regular where
  bounded := Nat.zero_le _
  distinct := by
    intro _ idx inUse
    exact absurd inUse (Nat.not_lt_zero idx)

theorem addDeviceToDd_numDevs (req : AddRequest) :
    dd.numDevs ≤ (addDeviceToDd dd req).2.numDevs ∧
      (dd.numDevs ≤ maxDevs → (addDeviceToDd dd req).2.numDevs ≤ maxDevs) := by
  unfold addDeviceToDd
  cases dd.find req.ct req.did with
  | some idx => exact ⟨le_rfl, id⟩
  | none =>
    by_cases full : dd.numDevs ≥ maxDevs
    · rw [if_pos full]
      exact ⟨le_rfl, id⟩
    · rw [if_neg full]
      exact ⟨Nat.le_succ _, fun _ => Nat.lt_of_not_le full⟩

theorem delDeviceFromDd_of_missing (missing : dd.find ct did = none) :
    delDeviceFromDd dd ct did = (1, dd) := by
  simp only [delDeviceFromDd, missing]

/-- Each call leaves the directory regular. -/
theorem Dd.Regular.step (regular : dd.Regular) (call : DdCall) : (dd.step call).Regular := by
  cases call with
  | add req =>
    obtain ⟨grown, kept⟩ := @addDeviceToDd_numDevs dd req
    constructor
    · exact kept regular.bounded
    · intro room
      exact addDeviceToDd_distinct (regular.distinct (lt_of_le_of_lt grown room)) req
  | del ct did =>
    simp only [Dd.step]
    cases found : dd.find ct did with
    | none =>
      rw [delDeviceFromDd_of_missing found]
      exact regular
    | some idx =>
      rw [delDeviceFromDd_of_found found]
      by_cases full : dd.numDevs ≥ maxDevs
      · rw [if_pos full]
        constructor
        · exact regular.bounded
        · intro room
          exact absurd room (not_lt.mpr full)
      · rw [if_neg full]
        have inUse := (find_eq_some found).1
        constructor
        · exact le_trans (Nat.sub_le _ _) regular.bounded
        · intro _
          exact moved_distinct (regular.distinct (not_le.mp full)) inUse

theorem entries_length (dd : Dd) : dd.entries.length = dd.numDevs := by
  simp [Dd.entries]

theorem mem_entries {dev : DevInfo} :
    dev ∈ dd.entries ↔ ∃ idx < dd.numDevs, dd.devs idx = dev := by
  simp [Dd.entries]

theorem exists_matches_iff :
    (∃ dev ∈ dd.entries, dev.Matches ct did) ↔ ∃ idx, dd.find ct did = some idx := by
  constructor
  · intro ⟨dev, isEntry, matched⟩
    obtain ⟨idx, inUse, rfl⟩ := mem_entries.mp isEntry
    cases found : dd.find ct did with
    | some idx => exact ⟨idx, rfl⟩
    | none => exact absurd (matches_iff_key.mp matched) (find_eq_none found inUse)
  · intro ⟨idx, found⟩
    obtain ⟨inUse, keyAt⟩ := find_eq_some found
    exact ⟨dd.devs idx, mem_entries.mpr ⟨idx, inUse, rfl⟩, matches_iff_key.mpr keyAt⟩

theorem entries_moved (inUse : idx < dd.numDevs) :
    Dd.entries { dd with devs := dd.moved idx, numDevs := dd.numDevs - 1 } =
      dd.entries.eraseIdx idx := by
  apply List.ext_getElem
  · rw [List.length_eraseIdx, entries_length, entries_length, if_pos inUse]
  · intro place short long
    rw [entries_length] at short
    simp only at short
    simp only [Dd.entries, List.getElem_map, List.getElem_range, List.getElem_eraseIdx]
    rw [moved_apply inUse (by omega)]
    split <;> rfl

theorem deletes_of_missing (missing : dd.find ct did = none) : dd.Deletes ct did := by
  have refused := delDeviceFromDd_of_missing missing
  constructor
  · rw [refused, exists_matches_iff, missing]
    simp
  · rw [refused]
    exact fun success => absurd success one_ne_zero
  · rw [refused]
    exact fun success => absurd success one_ne_zero
  · rw [refused]
    exact fun _ => rfl

theorem deletes_of_room (regular : dd.Regular) (room : dd.numDevs < maxDevs) :
    dd.Deletes ct did := by
  cases found : dd.find ct did with
  | none =>
    exact deletes_of_missing found
  | some idx =>
    obtain ⟨inUse, keyAt⟩ := find_eq_some found
    have deleted := delDeviceFromDd_of_found found
    rw [if_neg (not_le.mpr room)] at deleted
    have placed : idx < dd.entries.length := by
      rw [entries_length]
      exact inUse
    constructor
    · rw [deleted, exists_matches_iff, found]
      simp
    · intro _
      rw [deleted, entries_moved inUse, List.eraseIdx_eq_take_drop_succ]
      refine ⟨_, dd.devs idx, _, ?_, matches_iff_key.mpr keyAt, rfl, ?_⟩
      · have split := List.take_append_drop idx dd.entries
        rw [List.drop_eq_getElem_cons placed] at split
        simpa only [Dd.entries, List.getElem_map, List.getElem_range] using split.symm
      · intro other stays matched
        rw [← List.eraseIdx_eq_take_drop_succ, ← entries_moved inUse, mem_entries] at stays
        obtain ⟨place, placeLt, rfl⟩ := stays
        simp only at placeLt matched
        rw [moved_apply inUse (by omega)] at matched
        have same := regular.distinct room _ (by split <;> omega) idx inUse
          ((matches_iff_key.mp matched).trans keyAt.symm)
        split at same <;> omega
    · intro _
      rw [deleted]
      exact Nat.sub_add_cancel (Nat.one_le_of_lt inUse)
    · rw [deleted]
      exact fun failure => absurd rfl failure

theorem not_deletes_of_full (full : ¬dd.numDevs < maxDevs)
    (present : ∃ dev ∈ dd.entries, dev.Matches ct did) : ¬dd.Deletes ct did := by
  intro deletes
  obtain ⟨idx, found⟩ := exists_matches_iff.mp present
  have success := deletes.succeeds.mpr present
  rw [delDeviceFromDd_of_found found, if_pos (not_lt.mp full)] at success
  exact absurd success one_ne_zero

theorem deletes_of_unknown (unknown : ∀ dev ∈ dd.entries, ¬dev.Matches ct did) :
    dd.Deletes ct did := by
  apply deletes_of_missing
  by_contra some
  obtain ⟨dev, isEntry, matched⟩ := exists_matches_iff.mpr (Option.ne_none_iff_exists'.mp some)
  exact unknown dev isEntry matched

/-- A deletion from a reachable directory does what it is for exactly when the directory is not
full or does not know the device. -/
theorem deletes_iff (calls : List DdCall) (ct : BitVec 32) (did : Did) :
    (run Dd.step fmdDdOpenRw calls).Deletes ct did ↔
      (run Dd.step fmdDdOpenRw calls).numDevs < maxDevs ∨
        ∀ dev ∈ (run Dd.step fmdDdOpenRw calls).entries, ¬dev.Matches ct did := by
  have guarded : Guarded Dd.step (fun _ _ => True) fmdDdOpenRw calls :=
    guarded_of_forall (fun _ _ => trivial) fmdDdOpenRw calls
  have regular : (run Dd.step fmdDdOpenRw calls).Regular :=
    run_invariant Dd.Regular (fun dd call regular _ => regular.step call) regular_start guarded
  constructor
  · intro deletes
    by_cases room : (run Dd.step fmdDdOpenRw calls).numDevs < maxDevs
    · exact .inl room
    · right
      intro dev isEntry matched
      exact not_deletes_of_full room ⟨dev, isEntry, matched⟩ deletes
  · intro holds
    cases holds with
    | inl room => exact deletes_of_room regular room
    | inr unknown => exact deletes_of_unknown unknown

end Entries

/-- A device of its own for every number. -/
def nthDevice (num : Nat) : AddRequest where
  ct := BitVec.ofNat 32 num
  did := ⟨num, .dev08Sz⟩
  hc := hcMp
  isMastPt := 0
  flag := 1
  name := []

/-- Additions of that many devices. -/
def addDevices (count : Nat) : List DdCall :=
  (List.range count).map fun num => .add (nthDevice num)

theorem run_addDevices {count : Nat} (room : count ≤ maxDevs) :
    (run Dd.step fmdDdOpenRw (addDevices count)).numDevs = count ∧
      ∀ num < count,
        (run Dd.step fmdDdOpenRw (addDevices count)).key num = (nthDevice num).key := by
  induction count with
  | zero => exact ⟨rfl, fun num below => absurd below (Nat.not_lt_zero num)⟩
  | succ count ih =>
    obtain ⟨counted, keys⟩ := ih (Nat.le_of_succ_le room)
    have more : run Dd.step fmdDdOpenRw (addDevices (count + 1)) =
        (run Dd.step fmdDdOpenRw (addDevices count)).step (.add (nthDevice count)) := by
      simp [addDevices, run, List.range_succ]
    rw [more]
    generalize run Dd.step fmdDdOpenRw (addDevices count) = dd at counted keys
    have missing : dd.find (nthDevice count).ct (nthDevice count).did = none := by
      cases found : dd.find (nthDevice count).ct (nthDevice count).did with
      | none => rfl
      | some idx =>
        obtain ⟨inUse, keyAt⟩ := find_eq_some found
        rw [counted] at inUse
        have same : idx = count := congrArg Prod.snd ((keys idx inUse).symm.trans keyAt)
        exact absurd same inUse.ne
    have hasRoom : ¬count ≥ maxDevs := not_le.mpr room
    simp only [Dd.step, addDeviceToDd, missing, if_neg hasRoom, counted, Dd.key, true_and]
    intro num below
    by_cases last : num = count
    · rw [last, Function.update_self]
      rfl
    · rw [Function.update_of_ne last]
      exact keys num (lt_of_le_of_ne (Nat.lt_succ_iff.mp below) last)

/-- The deletion of a device of a full directory fails. -/
theorem not_deletes_full :
    ¬∀ (calls : List DdCall) (ct : BitVec 32) (did : Did),
      (run Dd.step fmdDdOpenRw calls).Deletes ct did := by
  intro deletes
  obtain ⟨full, keys⟩ := run_addDevices (le_refl maxDevs)
  have first : (0 : Nat) < maxDevs := by decide
  refine not_deletes_of_full (not_lt.mpr full.ge) ?_ (deletes (addDevices maxDevs) 0 ⟨0, .dev08Sz⟩)
  refine ⟨_, mem_entries.mpr ⟨0, ?_, rfl⟩, matches_iff_key.mpr (keys 0 first)⟩
  rw [full]
  exact first

end RioFabric.Fmd

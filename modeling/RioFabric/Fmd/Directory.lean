import Mathlib.Logic.Function.Basic
import RioFabric.Lib.Bits
import RioFabric.Libdid.Allocator

/-!
# The device directory

The daemon keeps the devices it knows of in an array of `FMD_MAX_DEVS` entries, of which the
first `num_devs` are in use, together with the index of the local master port.  Entries are
looked up by component tag and device ID; both operations run under the directory's semaphore,
so that a history of the directory is a list of calls.
-/

namespace RioFabric.Fmd

open Libdid

/-- `FMD_MAX_DEVS`. -/
def maxDevs : Nat := 64

/-- `FMD_MAX_NAME`. -/
def maxName : Nat := 47

def hcMp : BitVec 8 := 0xff#8

/-- `did_equal`, which ignores the size. -/
abbrev didEqual (did other : Did) : Prop := did.value = other.value

/-- `struct fmd_dd_dev_info`. -/
structure DevInfo where
  ct : BitVec 32
  did : Did
  hc : BitVec 8
  isMastPt : BitVec 32
  flag : BitVec 8
  name : List Char
  deriving DecidableEq

/-- What `memset` leaves of an entry. -/
def DevInfo.zeroed : DevInfo := ⟨0, ⟨0, .invldSz⟩, 0, 0, 0, []⟩

/-- `struct fmd_dd`, without the change counter and the time of the change. -/
structure Dd where
  numDevs : Nat
  locMpIdx : Nat
  devs : Nat → DevInfo

/-- `fmd_dd_open_rw`: the directory of a daemon that starts. -/
def fmdDdOpenRw : Dd where
  numDevs := 0
  locMpIdx := maxDevs
  devs _ := { ct := 0, did := ⟨0, .dev08Sz⟩, hc := hcMp, isMastPt := 0, flag := 0, name := [] }

/-- The entry that the search loops of both operations look for. -/
abbrev DevInfo.Matches (dev : DevInfo) (ct : BitVec 32) (did : Did) : Prop :=
  dev.ct = ct ∧ didEqual did dev.did

/-- The first entry in use with a component tag and a device ID. -/
def Dd.find (dd : Dd) (ct : BitVec 32) (did : Did) : Option Nat :=
  (List.range dd.numDevs).find? fun idx => (dd.devs idx).Matches ct did

/-- The arguments of `add_device_to_dd`. -/
structure AddRequest where
  ct : BitVec 32
  did : Did
  hc : BitVec 8
  isMastPt : BitVec 32
  flag : BitVec 8
  name : List Char
  deriving DecidableEq

def addDeviceToDd (dd : Dd) (req : AddRequest) : Nat × Dd :=
  match dd.find req.ct req.did with
  | some idx =>
    let dev := dd.devs idx
    (0, { dd with
      locMpIdx := if req.isMastPt ≠ 0 then idx else dd.locMpIdx
      devs := Function.update dd.devs idx { dev with
        hc := req.hc
        isMastPt := req.isMastPt
        flag := dev.flag ||| req.flag
        name := req.name.take maxName } })
  | none =>
    if dd.numDevs ≥ maxDevs then (1, dd)
    else
      let idx := dd.numDevs
      (0, {
        numDevs := dd.numDevs + 1
        locMpIdx := if req.isMastPt ≠ 0 then idx else dd.locMpIdx
        devs := Function.update dd.devs idx { DevInfo.zeroed with
          ct := req.ct
          did := req.did
          hc := req.hc
          isMastPt := req.isMastPt
          flag := req.flag
          name := req.name.take maxName } })

/-- The loop that moves the entries behind a gap down by one. -/
def closeGap (devs : Nat → DevInfo) (idx : Nat) : Nat → Nat → DevInfo
  | 0 => devs
  | count + 1 => closeGap (Function.update devs idx (devs (idx + 1))) (idx + 1) count

/-- `del_device_from_dd`.  The size is checked after the entries have been moved. -/
def delDeviceFromDd (dd : Dd) (ct : BitVec 32) (did : Did) : Nat × Dd :=
  match dd.find ct did with
  | none => (1, dd)
  | some idx =>
    let cleared := Function.update dd.devs idx .zeroed
    let moved := { dd with devs := closeGap cleared idx (dd.numDevs - 1 - idx) }
    if dd.numDevs ≥ maxDevs then (1, moved)
    else (0, { moved with numDevs := dd.numDevs - 1 })

/-- What identifies a device in the directory. -/
abbrev Key : Type := BitVec 32 × Nat

/-- The component tag and the device ID of an entry. -/
def DevInfo.key (dev : DevInfo) : Key := (dev.ct, dev.did.value)

/-- The key of the entry at an index. -/
def Dd.key (dd : Dd) (idx : Nat) : Key := (dd.devs idx).key

/-- The device that an addition names. -/
def AddRequest.key (req : AddRequest) : Key := (req.ct, req.did.value)

theorem matches_iff_key {dev : DevInfo} {ct : BitVec 32} {did : Did} :
    dev.Matches ct did ↔ dev.key = (ct, did.value) := by
  simp [DevInfo.Matches, DevInfo.key, eq_comm (a := did.value)]

variable {dd : Dd} {ct : BitVec 32} {did : Did} {idx : Nat}

theorem find_eq_some (found : dd.find ct did = some idx) :
    idx < dd.numDevs ∧ dd.key idx = (ct, did.value) := by
  obtain ⟨matched, inUse, -⟩ := List.find?_range_eq_some.mp found
  exact ⟨List.mem_range.mp inUse, matches_iff_key.mp (of_decide_eq_true matched)⟩

theorem find_eq_none (missing : dd.find ct did = none) (inUse : idx < dd.numDevs) :
    dd.key idx ≠ (ct, did.value) := by
  have unmatched := List.find?_range_eq_none.mp missing idx inUse
  rw [Bool.not_eq_true', decide_eq_false_iff_not, matches_iff_key] at unmatched
  exact unmatched

/-- The entries in use have pairwise distinct keys. -/
def Dd.Distinct (dd : Dd) : Prop :=
  ∀ idx < dd.numDevs, ∀ other < dd.numDevs, dd.key idx = dd.key other → idx = other

/-- An addition to a directory without duplicates fails and changes nothing, or stores the
device at an index, where it is the only entry with its key. -/
theorem addDeviceToDd_cases (distinct : dd.Distinct) (req : AddRequest) :
    (addDeviceToDd dd req = (1, dd) ∧ maxDevs ≤ dd.numDevs) ∨
      ∃ idx dev num,
        addDeviceToDd dd req = (0,
          { numDevs := num
            locMpIdx := if req.isMastPt ≠ 0 then idx else dd.locMpIdx
            devs := Function.update dd.devs idx dev }) ∧
        dev.key = req.key ∧ dev.isMastPt = req.isMastPt ∧ idx < num ∧ dd.numDevs ≤ num ∧
        (dd.numDevs ≤ maxDevs → num ≤ maxDevs) ∧ (idx < dd.numDevs → dd.key idx = req.key) ∧
        ∀ other < num, other ≠ idx → other < dd.numDevs ∧ dd.key other ≠ req.key := by
  unfold addDeviceToDd
  cases found : dd.find req.ct req.did with
  | some idx =>
    obtain ⟨inUse, keyAt⟩ := find_eq_some found
    refine .inr ⟨idx, _, dd.numDevs, rfl, keyAt, rfl, inUse, le_rfl, id, fun _ => keyAt, ?_⟩
    intro other otherLt different
    refine ⟨otherLt, fun same => different ?_⟩
    exact distinct other otherLt idx inUse (same.trans keyAt.symm)
  | none =>
    by_cases full : dd.numDevs ≥ maxDevs
    · exact .inl ⟨if_pos full, full⟩
    · refine .inr ⟨dd.numDevs, _, dd.numDevs + 1, if_neg full, rfl, rfl, Nat.lt_succ_self _,
        Nat.le_succ _, fun _ => Nat.lt_of_not_le full, fun old => absurd old (lt_irrefl _), ?_⟩
      intro other otherLt different
      have inUse : other < dd.numDevs := by omega
      exact ⟨inUse, find_eq_none found inUse⟩

theorem addDeviceToDd_distinct (distinct : dd.Distinct) (req : AddRequest) :
    (addDeviceToDd dd req).2.Distinct := by
  rcases addDeviceToDd_cases distinct req with
    ⟨refused, -⟩ | ⟨idx, dev, num, added, keyEq, -, -, -, -, -, others⟩
  · rw [refused]
    exact distinct
  · rw [added]
    intro first firstLt second secondLt equal
    simp only [Dd.key] at equal
    by_cases firstNew : first = idx <;> by_cases secondNew : second = idx
    · exact firstNew.trans secondNew.symm
    · rw [firstNew, Function.update_self, Function.update_of_ne secondNew, keyEq] at equal
      exact absurd equal.symm (others second secondLt secondNew).2
    · rw [secondNew, Function.update_self, Function.update_of_ne firstNew, keyEq] at equal
      exact absurd equal (others first firstLt firstNew).2
    · rw [Function.update_of_ne firstNew, Function.update_of_ne secondNew] at equal
      exact distinct first (others first firstLt firstNew).1 second
        (others second secondLt secondNew).1 equal

theorem closeGap_apply (devs : Nat → DevInfo) (idx count other : Nat) :
    closeGap devs idx count other =
      if idx ≤ other ∧ other < idx + count then devs (other + 1) else devs other := by
  induction count generalizing devs idx with
  | zero =>
    rw [closeGap, if_neg]
    omega
  | succ count ih =>
    rw [closeGap, ih]
    rcases Nat.lt_trichotomy other idx with below | rfl | above
    · rw [if_neg (by omega), if_neg (by omega), Function.update_of_ne (by omega)]
    · rw [if_neg (by omega), if_pos (by omega), Function.update_self]
    · rw [Function.update_of_ne (by omega), Function.update_of_ne (by omega)]
      exact if_congr (by omega) rfl rfl

end RioFabric.Fmd

import Mathlib.Data.List.Range
import RioFabric.Fmd.Directory

/-!
# The device IDs an application sees

`libfmdd` keeps a copy of the device directory and a status for every device ID, which
`update_devid_status` derives from the copy.  `fmdd_get_did_list` counts the IDs to return in
one pass over the statuses and stores them in a second one.  The first pass leaves out the last
ID, so that the list is right exactly when that ID is not to be returned.
-/

namespace RioFabric.Libfmdd

open Fmd Libdid

def fmdMaxDevid : Nat := 255

def fmddFlagNok : BitVec 8 := 0x00#8

def fmddFlagOk : BitVec 8 := 0x01#8

def fmddFlagMp : BitVec 8 := 0x02#8

def fmddFlagOkMp : BitVec 8 := fmddFlagOk ||| 2#8

/-- `struct fml_globals`, as far as it is about devices.  `connected` stands for an open
connection to the daemon, `fml.fd`. -/
structure FmlGlobals where
  connected : Bool
  numDevs : Nat
  devs : Nat → DevInfo
  devidStatus : Nat → BitVec 8

/-- The flags that an entry gives to its device ID. -/
def devStatus (dev : DevInfo) : BitVec 8 :=
  fmddFlagOk ||| dev.flag ||| (if dev.isMastPt ≠ 0 then fmddFlagOkMp else 0#8)

/-- The inner loop of `update_devid_status`: the first entry with a device ID.  An ID beyond
`FMD_MAX_DEVID` is passed over. -/
def FmlGlobals.findDevid (fml : FmlGlobals) (devid : Nat) : Option Nat :=
  (List.range fml.numDevs).find? fun idx =>
    decide (¬(fml.devs idx).did.value > fmdMaxDevid ∧ (fml.devs idx).did.value = devid)

/-- The status that a device ID gets. -/
def FmlGlobals.newStatus (fml : FmlGlobals) (devid : Nat) : BitVec 8 :=
  match fml.findDevid devid with
  | some idx => devStatus (fml.devs idx)
  | none => fmddFlagNok

/-- A turn of the outer loop of `update_devid_status`. -/
def updateTurn (state : FmlGlobals × Bool) (devid : Nat) : FmlGlobals × Bool :=
  let (fml, changed) := state
  if fml.devidStatus devid ≠ fml.newStatus devid then
    ({ fml with devidStatus := Function.update fml.devidStatus devid (fml.newStatus devid) }, true)
  else (fml, changed)

/-- `update_devid_status`, which also returns whether a status has changed. -/
def updateDevidStatus (fml : FmlGlobals) : FmlGlobals × Bool :=
  (List.range (fmdMaxDevid + 1)).foldl updateTurn (fml, false)

def fmddCheckDid (fml : FmlGlobals) (didVal : Nat) (flag : BitVec 8) : BitVec 8 :=
  if didVal > fmdMaxDevid then fmddFlagNok else flag &&& fml.devidStatus didVal

/-- The test of both passes. -/
def FmlGlobals.isListed (fml : FmlGlobals) (didVal : Nat) : Bool :=
  let flag := fmddCheckDid fml didVal fmddFlagOkMp
  flag ≠ 0#8 && fmddFlagOkMp ≠ flag

/-- An allocated array that is filled from its front, with what has been written past its end. -/
structure DidArray where
  cells : List Nat
  idx : Nat
  outside : List Nat
  deriving DecidableEq

def DidArray.calloc (count : Nat) : DidArray := ⟨List.replicate count 0, 0, []⟩

/-- `(*did_list)[idx] = i; idx++`. -/
def DidArray.store (array : DidArray) (didVal : Nat) : DidArray :=
  if array.idx < array.cells.length then
    { array with cells := array.cells.set array.idx didVal, idx := array.idx + 1 }
  else { array with idx := array.idx + 1, outside := array.outside ++ [didVal] }

/-- What `fmdd_get_did_list` returns through its parameters; no device IDs are a null pointer. -/
structure DidList where
  didListSz : Nat
  didList : Option DidArray
  deriving DecidableEq

/-- `fmdd_get_did_list`, with whether memory can be allocated. -/
def fmddGetDidList (fml : FmlGlobals) (allocates : Bool) : Option DidList :=
  if !fml.connected then none
  else
    let cnt := (List.range fmdMaxDevid).countP fml.isListed
    if cnt = 0 then some ⟨cnt, none⟩
    else if !allocates then none
    else
      let pass := fun (array : DidArray) i => if fml.isListed i then array.store i else array
      some ⟨cnt, some ((List.range (fmdMaxDevid + 1)).foldl pass (.calloc cnt))⟩

/-- An entry is about the local master port. -/
def IsLocalMp (dev : DevInfo) : Prop := dev.isMastPt ≠ 0 ∨ dev.flag &&& fmddFlagMp ≠ 0

/-- The first entry with a device ID, if there is one. -/
def FmlGlobals.devOf (fml : FmlGlobals) (didVal : Nat) : Option DevInfo :=
  ((List.range fml.numDevs).map fml.devs).find? fun dev => dev.did.value = didVal

/-- The device ID is present and is not that of the local master port. -/
def FmlGlobals.Visible (fml : FmlGlobals) (didVal : Nat) : Prop :=
  didVal ≤ fmdMaxDevid ∧ ∃ dev, fml.devOf didVal = some dev ∧ ¬IsLocalMp dev

def DidList.elements (list : DidList) : List Nat := (list.didList.map DidArray.cells).getD []

/-- The list holds the visible device IDs in increasing order, its size is their number, and
nothing has been written behind it. -/
structure DidList.Lists (list : DidList) (fml : FmlGlobals) : Prop where
  members : ∀ didVal, didVal ∈ list.elements ↔ fml.Visible didVal
  increasing : list.elements.Pairwise (· < ·)
  size : list.didListSz = list.elements.length
  inside : ∀ array, list.didList = some array → array.outside = []

section Update

variable {fml : FmlGlobals}

theorem newStatus_eq {devid : Nat} (inRange : devid ≤ fmdMaxDevid) :
    fml.newStatus devid = ((fml.devOf devid).map devStatus).getD fmddFlagNok := by
  have same : fml.devOf devid = (fml.findDevid devid).map fml.devs := by
    rw [FmlGlobals.devOf, List.find?_map]
    congr 2
    funext idx
    simp only [Function.comp_apply, decide_eq_decide]
    constructor
    · intro equal
      exact ⟨not_lt.mpr (equal ▸ inRange), equal⟩
    · exact And.right
  rw [same, FmlGlobals.newStatus]
  cases fml.findDevid devid with
  | none => rfl
  | some idx => rfl

theorem foldl_updateTurn (devids : List Nat) (changed : Bool) :
    (devids.foldl updateTurn (fml, changed)).1 =
        { fml with devidStatus := fun devid =>
            if devid ∈ devids then fml.newStatus devid else fml.devidStatus devid } ∧
      ((devids.foldl updateTurn (fml, changed)).2 = true ↔
        changed = true ∨ ∃ devid ∈ devids, fml.devidStatus devid ≠ fml.newStatus devid) := by
  induction devids generalizing fml changed with
  | nil => simp
  | cons devid devids ih =>
    rw [List.foldl_cons, updateTurn]
    split
    next differs =>
      obtain ⟨statuses, noted⟩ := @ih
        { fml with devidStatus := Function.update fml.devidStatus devid (fml.newStatus devid) }
        true
      constructor
      · rw [statuses]
        congr 1
        funext other
        by_cases same : other = devid
        · subst other
          simp [FmlGlobals.newStatus, FmlGlobals.findDevid]
        · simp [same, FmlGlobals.newStatus, FmlGlobals.findDevid]
      · rw [noted]
        simp [differs]
    next equal =>
      rw [not_not] at equal
      obtain ⟨statuses, noted⟩ := @ih fml changed
      constructor
      · rw [statuses]
        congr 1
        funext other
        by_cases same : other = devid
        · subst other
          simp [equal]
        · simp [same]
      · rw [noted]
        simp [equal]

theorem okMp_and_devStatus (dev : DevInfo) :
    fmddFlagOkMp &&& devStatus dev ≠ 0#8 ∧
      (fmddFlagOkMp = fmddFlagOkMp &&& devStatus dev ↔ IsLocalMp dev) := by
  have bits : ∀ flag : BitVec 8,
      fmddFlagOkMp &&& (fmddFlagOk ||| flag ||| 0#8) ≠ 0#8 ∧
        fmddFlagOkMp &&& (fmddFlagOk ||| flag ||| fmddFlagOkMp) = fmddFlagOkMp ∧
        (fmddFlagOkMp = fmddFlagOkMp &&& (fmddFlagOk ||| flag ||| 0#8) ↔
          flag &&& fmddFlagMp ≠ 0) := by decide
  obtain ⟨present, isMp, byFlag⟩ := bits dev.flag
  by_cases isMast : dev.isMastPt ≠ 0
  · rw [devStatus, if_pos isMast, isMp]
    exact ⟨by decide, iff_of_true rfl (.inl isMast)⟩
  · rw [devStatus, if_neg isMast]
    refine ⟨present, byFlag.trans ?_⟩
    rw [IsLocalMp, or_iff_right isMast]

theorem isListed_updateDevidStatus (didVal : Nat) :
    (updateDevidStatus fml).1.isListed didVal = true ↔ fml.Visible didVal := by
  rw [updateDevidStatus, (foldl_updateTurn _ false).1]
  simp only [FmlGlobals.isListed, fmddCheckDid, FmlGlobals.Visible, List.mem_range,
    Nat.lt_succ_iff, Bool.and_eq_true, decide_eq_true_eq]
  by_cases inRange : didVal ≤ fmdMaxDevid
  · rw [if_neg (not_lt.mpr inRange), if_pos inRange, newStatus_eq inRange]
    cases fml.devOf didVal with
    | none => simp [fmddFlagNok]
    | some dev =>
      obtain ⟨present, isMp⟩ := okMp_and_devStatus dev
      simp [inRange, present, isMp]
  · rw [if_pos (not_le.mp inRange)]
    simp [inRange, fmddFlagNok]

end Update

theorem foldl_store (values : List Nat) (count : Nat) :
    values.foldl DidArray.store (.calloc count) =
      ⟨values.take count ++ List.replicate (count - values.length) 0, values.length,
        values.drop count⟩ := by
  induction values using List.reverseRecOn with
  | nil => simp [DidArray.calloc]
  | append_singleton values value ih =>
    rw [List.foldl_append, ih, List.foldl_cons, List.foldl_nil, DidArray.store]
    simp only [List.length_append, List.length_take, List.length_replicate,
      List.length_singleton]
    by_cases room : values.length < count
    · obtain ⟨rest, rfl⟩ : ∃ rest, count = values.length + 1 + rest :=
        Nat.exists_eq_add_of_le room
      rw [if_pos (by omega)]
      simp [List.take_of_length_le, List.drop_of_length_le, Nat.add_assoc, Nat.add_comm 1 rest,
        List.replicate_succ, List.set_append_right]
      omega
    · have full : count ≤ values.length := not_lt.mp room
      rw [if_neg (by omega)]
      simp [List.take_append_of_le_length full, List.drop_append_of_le_length full,
        Nat.sub_eq_zero_of_le full, Nat.sub_eq_zero_of_le (Nat.le_succ_of_le full)]

/-- The device IDs that the second pass stores. -/
def FmlGlobals.listed (fml : FmlGlobals) : List Nat :=
  (List.range (fmdMaxDevid + 1)).filter fml.isListed

theorem countP_listed (fml : FmlGlobals) :
    (List.range fmdMaxDevid).countP fml.isListed =
      fml.listed.length - if fml.isListed fmdMaxDevid then 1 else 0 := by
  rw [FmlGlobals.listed, List.range_succ, List.filter_append, List.length_append,
    ← List.countP_eq_length_filter]
  by_cases last : fml.isListed fmdMaxDevid = true
  · simp [last]
  · simp [last]

theorem foldl_pass (fml : FmlGlobals) (array : DidArray) :
    (List.range (fmdMaxDevid + 1)).foldl
        (fun array i => if fml.isListed i then array.store i else array) array =
      fml.listed.foldl DidArray.store array := by
  rw [FmlGlobals.listed, List.foldl_filter]

section Lists

variable {fml : FmlGlobals}

theorem mem_listed {didVal : Nat} : didVal ∈ fml.listed ↔
    didVal ≤ fmdMaxDevid ∧ fml.isListed didVal = true := by
  rw [FmlGlobals.listed, List.mem_filter, List.mem_range, Nat.lt_succ_iff]

theorem listed_increasing : fml.listed.Pairwise (· < ·) :=
  (List.pairwise_lt_range).filter _

/-- What a connected application gets, from the device IDs that the second pass stores and the
number of those that the first pass counts. -/
theorem fmddGetDidList_of_connected (connected : fml.connected = true) :
    fmddGetDidList fml true =
      let cnt := fml.listed.length - if fml.isListed fmdMaxDevid then 1 else 0
      if cnt = 0 then some ⟨cnt, none⟩
      else some ⟨cnt, some ⟨fml.listed.take cnt ++ List.replicate (cnt - fml.listed.length) 0,
        fml.listed.length, fml.listed.drop cnt⟩⟩ := by
  simp [fmddGetDidList, connected, countP_listed, foldl_pass, foldl_store]

theorem lists_iff (connected : fml.connected = true) :
    (∃ list, fmddGetDidList fml true = some list ∧
      (∀ didVal, didVal ∈ list.elements ↔ didVal ∈ fml.listed) ∧
      list.elements.Pairwise (· < ·) ∧ list.didListSz = list.elements.length ∧
      ∀ array, list.didList = some array → array.outside = []) ↔
      fml.isListed fmdMaxDevid = false := by
  rw [fmddGetDidList_of_connected connected]
  by_cases last : fml.isListed fmdMaxDevid = true
  · have isLast : fmdMaxDevid ∈ fml.listed := mem_listed.mpr ⟨le_rfl, last⟩
    have positive : 0 < fml.listed.length := List.length_pos_of_mem isLast
    simp only [last, if_true, Bool.true_eq_false, iff_false]
    by_cases alone : fml.listed.length - 1 = 0
    · rw [if_pos alone]
      intro ⟨list, returned, members, _⟩
      cases returned
      exact absurd ((members fmdMaxDevid).mpr isLast) (by simp [DidList.elements])
    · rw [if_neg alone]
      intro ⟨list, returned, _, _, _, inside⟩
      cases returned
      have nothing := List.drop_eq_nil_iff.mp (inside _ rfl)
      omega
  · rw [Bool.not_eq_true] at last
    simp only [last, Bool.false_eq_true, if_false, Nat.sub_zero, Nat.sub_self, List.replicate_zero,
      List.append_nil, List.take_length, List.drop_length, iff_true]
    by_cases empty : fml.listed.length = 0
    · rw [if_pos empty]
      refine ⟨_, rfl, ?_⟩
      simp [DidList.elements, List.length_eq_zero_iff.mp empty]
    · rw [if_neg empty]
      refine ⟨_, rfl, ?_⟩
      simp [DidList.elements, listed_increasing]

theorem connected_updateDevidStatus :
    (updateDevidStatus fml).1.connected = fml.connected := by
  rw [updateDevidStatus, (foldl_updateTurn _ false).1]

theorem lists_iff_listed (list : DidList) :
    list.Lists fml ↔
      (∀ didVal, didVal ∈ list.elements ↔ didVal ∈ (updateDevidStatus fml).1.listed) ∧
        list.elements.Pairwise (· < ·) ∧ list.didListSz = list.elements.length ∧
        ∀ array, list.didList = some array → array.outside = [] := by
  have seen : ∀ didVal, didVal ∈ (updateDevidStatus fml).1.listed ↔ fml.Visible didVal := by
    intro didVal
    rw [mem_listed, isListed_updateDevidStatus]
    exact and_iff_right_of_imp And.left
  constructor
  · intro lists
    exact ⟨fun didVal => (lists.members didVal).trans (seen didVal).symm, lists.increasing,
      lists.size, lists.inside⟩
  · intro ⟨members, increasing, size, inside⟩
    exact ⟨fun didVal => (members didVal).trans (seen didVal), increasing, size, inside⟩

/-- After an update a connected application gets the visible device IDs exactly when the last
device ID is not one of them. -/
theorem did_list_iff (connected : fml.connected = true) :
    (∃ list, fmddGetDidList (updateDevidStatus fml).1 true = some list ∧ list.Lists fml) ↔
      ¬fml.Visible fmdMaxDevid := by
  rw [← isListed_updateDevidStatus, Bool.not_eq_true,
    ← lists_iff (connected_updateDevidStatus.trans connected)]
  apply exists_congr
  intro list
  rw [lists_iff_listed]

end Lists

/-- Two devices beside the local master port. -/
def threeDevices (lastDid : Nat) : FmlGlobals where
  connected := true
  numDevs := 3
  devs idx :=
    match idx with
    | 0 => ⟨1, ⟨1, .dev08Sz⟩, hcMp, 1, 1, []⟩
    | 1 => ⟨2, ⟨2, .dev08Sz⟩, 0, 0, 1, []⟩
    | _ => ⟨3, ⟨lastDid, .dev08Sz⟩, 1, 0, 1, []⟩
  devidStatus _ := fmddFlagNok

theorem did_list_iff_threeDevices :
    (∃ list, fmddGetDidList (updateDevidStatus (threeDevices 3)).1 true = some list ∧
      list.Lists (threeDevices 3)) ↔ ¬(threeDevices 3).Visible fmdMaxDevid :=
  did_list_iff rfl

/-- With a device that has the last ID, the second pass writes behind the array. -/
theorem not_did_list_lastDid :
    ¬∀ fml : FmlGlobals, fml.connected = true →
      ∃ list, fmddGetDidList (updateDevidStatus fml).1 true = some list ∧ list.Lists fml := by
  intro lists
  obtain ⟨list, returned, isList⟩ := lists (threeDevices 255) rfl
  have unlisted := (lists_iff (connected_updateDevidStatus.trans rfl)).mp
    ⟨list, returned, (lists_iff_listed list).mp isList⟩
  have visible : (threeDevices 255).Visible fmdMaxDevid := by
    refine ⟨le_rfl, _, rfl, ?_⟩
    simp [IsLocalMp, threeDevices, fmddFlagMp]
  rw [(isListed_updateDevidStatus _).mpr visible] at unlisted
  cases unlisted

end RioFabric.Libfmdd

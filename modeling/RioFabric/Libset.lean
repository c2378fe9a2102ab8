import Mathlib.Data.Finset.Card
import Mathlib.Data.List.GetD
import RioFabric.Lib.Runs

/-!
# Sets in arrays

`libset` keeps words in an array, in no order and without duplicates.  The array is searched from
the front, grows when it is full, and is closed by its last word where one is removed.
-/

namespace RioFabric.Libset

open Lib

/-- What the set is made of. -/
abbrev Word := BitVec 32

def uint16Max : Nat := 65535

/-- What the functions return. -/
inductive SetRc where
  | success | einval | enomem | eexist | eperm | enoent
  deriving DecidableEq, Repr

/-- `struct set_t`; `arr` has the cells that were allocated. -/
structure SetT where
  capacity : BitVec 16
  expandSize : BitVec 16
  next : BitVec 16
  arr : List Word
  deriving DecidableEq, Repr

/-- What new cells contain, if there is memory for them. -/
abbrev Memory := Option (Nat → Word)

/-- Cells that have not been written yet. -/
def uninit (garbage : Nat → Word) (count : Nat) : List Word := (List.range count).map garbage

def setCreate (set : Option SetT) (initialCapacity expandSize : BitVec 16) (memory : Memory) :
    SetRc × Option SetT :=
  if set = none then (.einval, set)
  else if initialCapacity = 0 then (.einval, set)
  else if initialCapacity.toNat + expandSize.toNat > uint16Max then (.einval, set)
  else
    match memory with
    | none => (.enomem, some ⟨0, 0, 0, []⟩)
    | some garbage =>
      (.success, some ⟨initialCapacity, expandSize, 0, uninit garbage initialCapacity.toNat⟩)

/-- The loop that searches for an item: its first place. -/
def SetT.search (set : SetT) (item : Word) : Option Nat :=
  (List.range set.next.toNat).find? fun i => set.arr[i]? = some item

/-- `set_add` behind its check for a null pointer. -/
def SetT.add (set : SetT) (item : Word) (memory : Memory) : SetRc × SetT :=
  if (set.search item).isSome then (.eexist, set)
  else
    let store (set : SetT) : SetT :=
      { set with next := set.next + 1, arr := set.arr.set set.next.toNat item }
    if set.next = set.capacity then
      if set.expandSize = 0 then (.eperm, set)
      else
        let capacity := set.capacity.toNat + set.expandSize.toNat
        if capacity > uint16Max then (.eperm, set)
        else
          match memory with
          | none => (.enomem, set)
          | some garbage =>
            (.success, store
              { set with
                capacity := BitVec.ofNat 16 capacity
                arr := set.arr ++ uninit garbage set.expandSize.toNat })
    else (.success, store set)

/-- `set_remove` behind its check for a null pointer. -/
def SetT.remove (set : SetT) (item : Word) : SetRc × SetT :=
  match set.search item with
  | none => (.enoent, set)
  | some i =>
    let next := set.next - 1
    if i ≠ next.toNat then
      (.success, { set with next := next, arr := set.arr.set i (set.arr.getD next.toNat 0) })
    else (.success, { set with next := next })

def setAdd (set : Option SetT) (item : Word) (memory : Memory) : SetRc × Option SetT :=
  match set with
  | none => (.einval, none)
  | some set => (set.add item memory).map id some

def setRemove (set : Option SetT) (item : Word) : SetRc × Option SetT :=
  match set with
  | none => (.einval, none)
  | some set => (set.remove item).map id some

def setContains (set : SetT) (item : Word) : Bool :=
  (List.range set.next.toNat).any fun i => set.arr[i]? = some item

def setSize (set : SetT) : Nat := set.next.toNat

/-- A call on a set that was created. -/
inductive SetCall where
  | add (item : Word) (memory : Memory)
  | remove (item : Word)
  | contains (item : Word)

/-- What a call returns. -/
inductive SetResult where
  | code (rc : SetRc)
  | answer (present : Bool)
  deriving DecidableEq, Repr

def SetCall.exec (call : SetCall) (set : Option SetT) : SetResult × Option SetT :=
  match call with
  | .add item memory => (setAdd set item memory).map .code id
  | .remove item => (setRemove set item).map .code id
  | .contains item => (.answer (set.any fun set => setContains set item), set)

/-- A set, and what was called and returned so far. -/
structure Session where
  set : Option SetT
  past : List (SetCall × SetResult)

/-- The next call of a session. -/
def Session.step (session : Session) (call : SetCall) : Session where
  set := (call.exec session.set).2
  past := session.past ++ [(call, (call.exec session.set).1)]

/-- What a call does to the items that were added and not removed since. -/
def keep (held : Finset Word) : SetCall × SetResult → Finset Word
  | (.add item _, .code .success) => insert item held
  | (.remove item, .code .success) => held.erase item
  | _ => held

/-- The items that were added and not removed since. -/
def kept (past : List (SetCall × SetResult)) : Finset Word := past.foldl keep ∅

/-- The stored words. -/
def SetT.elements (set : SetT) : List Word := set.arr.take set.next.toNat

/-- The array has its capacity, and the set at its front. -/
structure Represents (set : SetT) (held : Finset Word) : Prop where
  allocated : set.arr.length = set.capacity.toNat
  fits : set.next.toNat ≤ set.capacity.toNat
  nodup : set.elements.Nodup
  same : ∀ item, item ∈ set.elements ↔ item ∈ held

/-- The array is not to grow. -/
def MayNotExpand (set : SetT) : Prop :=
  set.expandSize = 0 ∨ uint16Max < set.capacity.toNat + set.expandSize.toNat

instance (set : SetT) : Decidable (MayNotExpand set) := inferInstanceAs (Decidable (_ ∨ _))

/-- A call is answered for the set that is held: it fails only for what the set has or has not, or
because there is no room, and then changes nothing. -/
def Answers (held : Finset Word) (set : SetT) (call : SetCall) (result : SetResult)
    (after : Option SetT) : Prop :=
  match call with
  | .contains item => result = .answer (decide (item ∈ held)) ∧ after = some set
  | .remove item =>
    if item ∈ held then result = .code .success else result = .code .enoent ∧ after = some set
  | .add item memory =>
    if item ∈ held then result = .code .eexist ∧ after = some set
    else if held.card < set.capacity.toNat then result = .code .success
    else if MayNotExpand set then result = .code .eperm ∧ after = some set
    else if memory = none then result = .code .enomem ∧ after = some set
    else result = .code .success

section Search

variable {set : SetT} {held : Finset Word} {item : Word} {i : Nat}

theorem mem_elements_iff :
    item ∈ set.elements ↔ ∃ i < set.next.toNat, set.arr[i]? = some item := by
  rw [SetT.elements, List.mem_iff_getElem?]
  constructor
  · rintro ⟨i, found⟩
    rw [List.getElem?_take] at found
    split at found
    next inside => exact ⟨i, inside, found⟩
    next => cases found
  · rintro ⟨i, inside, found⟩
    exact ⟨i, by rw [List.getElem?_take_of_lt inside, found]⟩

theorem search_eq_none_iff : set.search item = none ↔ item ∉ set.elements := by
  rw [SetT.search, List.find?_eq_none, mem_elements_iff]
  simp

theorem search_eq_some (found : set.search item = some i) :
    i < set.next.toNat ∧ set.arr[i]? = some item :=
  ⟨List.mem_range.mp (List.mem_of_find?_eq_some found), by simpa using List.find?_some found⟩

theorem setContains_iff : setContains set item = true ↔ item ∈ set.elements := by
  rw [setContains, mem_elements_iff]
  simp

theorem Represents.setContains (rep : Represents set held) :
    Libset.setContains set item = decide (item ∈ held) := by
  rw [Bool.eq_iff_iff, setContains_iff, rep.same, decide_eq_true_iff]

theorem Represents.length (rep : Represents set held) : set.elements.length = set.next.toNat := by
  rw [SetT.elements, List.length_take, rep.allocated]
  exact Nat.min_eq_left rep.fits

theorem Represents.setSize (rep : Represents set held) : Libset.setSize set = held.card := by
  have same : held = set.elements.toFinset := by
    ext item
    rw [List.mem_toFinset, rep.same]
  rw [same, List.toFinset_card_of_nodup rep.nodup, rep.length, Libset.setSize]

end Search

section Add

variable {set : SetT} {held : Finset Word} {item : Word}

theorem take_set_concat {cells : List Word} {n : Nat} (inside : n < cells.length) :
    (cells.set n item).take (n + 1) = cells.take n ++ [item] := by
  rw [List.take_add_one, List.take_set_of_le (Nat.le_refl n),
    List.getElem?_set_self inside, Option.toList_some]

theorem toNat_next_succ {next capacity : BitVec 16} (room : next.toNat < capacity.toNat) :
    (next + 1).toNat = next.toNat + 1 := by
  have bound := capacity.isLt
  rw [BitVec.toNat_add_of_lt]
  · rfl
  · exact Nat.lt_of_le_of_lt room bound

theorem Represents.store (rep : Represents set held) (room : set.next.toNat < set.capacity.toNat)
    (isNew : item ∉ held) :
    Represents
      { set with next := set.next + 1, arr := set.arr.set set.next.toNat item }
      (insert item held) := by
  have elements : SetT.elements
      { set with next := set.next + 1, arr := set.arr.set set.next.toNat item } =
      set.elements ++ [item] := by
    rw [SetT.elements, toNat_next_succ room, take_set_concat (rep.allocated ▸ room)]
    rfl
  constructor
  · rw [List.length_set, rep.allocated]
  · rw [toNat_next_succ room]
    exact room
  · rw [elements, List.nodup_append_comm]
    exact List.nodup_cons.mpr ⟨fun stored => isNew ((rep.same item).mp stored), rep.nodup⟩
  · intro other
    rw [elements, List.mem_append, List.mem_singleton, rep.same, Finset.mem_insert, or_comm]

theorem Represents.grow (rep : Represents set held) {garbage : Nat → Word}
    (fits : set.capacity.toNat + set.expandSize.toNat ≤ uint16Max) :
    Represents
      { set with
        capacity := BitVec.ofNat 16 (set.capacity.toNat + set.expandSize.toNat)
        arr := set.arr ++ uninit garbage set.expandSize.toNat } held := by
  have capacity : (BitVec.ofNat 16 (set.capacity.toNat + set.expandSize.toNat)).toNat =
      set.capacity.toNat + set.expandSize.toNat :=
    BitVec.toNat_ofNat .. ▸ Nat.mod_eq_of_lt (Nat.lt_succ_of_le fits)
  have elements : SetT.elements
      { set with
        capacity := BitVec.ofNat 16 (set.capacity.toNat + set.expandSize.toNat)
        arr := set.arr ++ uninit garbage set.expandSize.toNat } = set.elements :=
    List.take_append_of_le_length (rep.allocated ▸ rep.fits)
  constructor
  · rw [List.length_append, rep.allocated, capacity, uninit, List.length_map, List.length_range]
  · rw [capacity]
    exact Nat.le_add_right_of_le rep.fits
  · exact elements ▸ rep.nodup
  · exact elements ▸ rep.same

theorem Represents.add (rep : Represents set held) (item : Word) (memory : Memory) :
    Answers held set (.add item memory) (.code (set.add item memory).1)
        (some (set.add item memory).2) ∧
      Represents (set.add item memory).2
        (keep held (.add item memory, .code (set.add item memory).1)) := by
  by_cases isHeld : item ∈ held
  · have found : (set.search item).isSome = true := by
      rw [Option.isSome_iff_ne_none, ne_eq, search_eq_none_iff, not_not, rep.same]
      exact isHeld
    rw [SetT.add, if_pos found, Answers, if_pos isHeld]
    exact ⟨⟨rfl, rfl⟩, rep⟩
  have notFound : ¬(set.search item).isSome = true := by
    rw [Option.isSome_iff_ne_none, not_not, search_eq_none_iff, rep.same]
    exact isHeld
  rw [SetT.add, if_neg notFound, Answers, if_neg isHeld, ← rep.setSize, Libset.setSize]
  dsimp only
  by_cases full : set.next = set.capacity
  · rw [if_pos full, if_neg (by rw [full]; exact Nat.lt_irrefl _)]
    by_cases fixed : set.expandSize = 0
    · have mayNot : MayNotExpand set := .inl fixed
      rw [if_pos fixed, if_pos mayNot]
      exact ⟨⟨rfl, rfl⟩, rep⟩
    rw [if_neg fixed]
    by_cases large : set.capacity.toNat + set.expandSize.toNat > uint16Max
    · have mayNot : MayNotExpand set := .inr large
      rw [if_pos large, if_pos mayNot]
      exact ⟨⟨rfl, rfl⟩, rep⟩
    have may : ¬MayNotExpand set := not_or.mpr ⟨fixed, large⟩
    rw [if_neg large, if_neg may]
    cases memory with
    | none => exact ⟨⟨rfl, rfl⟩, rep⟩
    | some garbage =>
      refine ⟨rfl, (rep.grow (Nat.le_of_not_lt large)).store ?_ isHeld⟩
      have grows : 0 < set.expandSize.toNat :=
        Nat.pos_of_ne_zero fun zero => fixed (BitVec.eq_of_toNat_eq zero)
      have capacity : (BitVec.ofNat 16 (set.capacity.toNat + set.expandSize.toNat)).toNat =
          set.capacity.toNat + set.expandSize.toNat :=
        BitVec.toNat_ofNat .. ▸ Nat.mod_eq_of_lt (Nat.lt_succ_of_le (Nat.le_of_not_lt large))
      dsimp only
      rw [full, capacity]
      exact Nat.lt_add_of_pos_right grows
  · have room : set.next.toNat < set.capacity.toNat :=
      Nat.lt_of_le_of_ne rep.fits fun same => full (BitVec.eq_of_toNat_eq same)
    rw [if_neg full, if_pos room]
    exact ⟨rfl, rep.store room isHeld⟩

end Add

section Remove

variable {set : SetT} {held : Finset Word} {item : Word} {i : Nat}

theorem set_perm {cells : List Word} {other : Word} (found : cells[i]? = some item) :
    (item :: cells.set i other).Perm (other :: cells) := by
  induction cells generalizing i with
  | nil => cases found
  | cons cell cells ih =>
    cases i with
    | zero =>
      cases found
      exact .swap other item cells
    | succ i =>
      have first : (item :: cell :: cells.set i other).Perm (cell :: item :: cells.set i other) :=
        .swap cell item _
      have last : (cell :: other :: cells).Perm (other :: cell :: cells) := .swap other cell cells
      exact (first.trans ((ih found).cons cell)).trans last

theorem take_perm {cells : List Word} {n : Nat} (inside : n < cells.length) :
    (cells.take (n + 1)).Perm (cells.getD n 0 :: cells.take n) := by
  rw [List.take_add_one, List.getElem?_eq_getElem inside, List.getD_eq_getElem _ _ inside]
  exact List.perm_append_singleton _ _

theorem Represents.remove_perm (rep : Represents set held) (isHeld : item ∈ held) :
    (set.remove item).1 = .success ∧
      (item :: (set.remove item).2.elements).Perm set.elements ∧
        (set.remove item).2.arr.length = set.capacity.toNat ∧
          (set.remove item).2.capacity = set.capacity ∧
            (set.remove item).2.next.toNat ≤ set.capacity.toNat := by
  have stored : set.search item ≠ none := by
    rw [ne_eq, search_eq_none_iff, not_not, rep.same]
    exact isHeld
  cases found : set.search item with
  | none => exact absurd found stored
  | some i =>
    obtain ⟨isPlace, isItem⟩ := search_eq_some found
    have next : set.next.toNat = (set.next - 1).toNat + 1 := by
      have positive : (1 : BitVec 16) ≤ set.next := Nat.zero_lt_of_lt isPlace
      rw [BitVec.toNat_sub_of_le positive]
      exact (Nat.sub_add_cancel positive).symm
    have fits : (set.next - 1).toNat ≤ set.capacity.toNat :=
      Nat.le_trans (next ▸ Nat.le_succ _) rep.fits
    have inside : (set.next - 1).toNat < set.arr.length := by
      rw [rep.allocated]
      exact Nat.lt_of_lt_of_le (next ▸ Nat.lt_succ_self _) rep.fits
    have whole := take_perm inside
    rw [← next] at whole
    rw [SetT.remove, found]
    dsimp only
    by_cases isLast : i = (set.next - 1).toNat
    · rw [if_neg (not_not.mpr isLast)]
      have last : set.arr.getD (set.next - 1).toNat 0 = item := by
        rw [List.getD_eq_getElem?_getD, ← isLast, isItem]
        rfl
      rw [last] at whole
      exact ⟨rfl, whole.symm, rep.allocated, rfl, fits⟩
    · rw [if_pos isLast]
      refine ⟨rfl, .trans ?_ whole.symm, List.length_set.trans rep.allocated, rfl, fits⟩
      show (item :: (set.arr.set i _).take (set.next - 1).toNat).Perm _
      rw [List.take_set]
      apply set_perm
      have before : i < (set.next - 1).toNat :=
        Nat.lt_of_le_of_ne (Nat.le_of_lt_succ (Nat.lt_of_lt_of_eq isPlace next)) isLast
      rw [List.getElem?_take_of_lt before, isItem]

theorem Represents.remove (rep : Represents set held) (item : Word) :
    Answers held set (.remove item) (.code (set.remove item).1) (some (set.remove item).2) ∧
      Represents (set.remove item).2 (keep held (.remove item, .code (set.remove item).1)) := by
  by_cases isHeld : item ∈ held
  · obtain ⟨rc, perm, allocated, capacity, fits⟩ := rep.remove_perm isHeld
    rw [Answers, if_pos isHeld, rc]
    have nodup := perm.nodup_iff.mpr rep.nodup
    refine ⟨rfl, capacity ▸ allocated, capacity ▸ fits, nodup.of_cons, fun other => ?_⟩
    · show _ ↔ other ∈ held.erase item
      rw [Finset.mem_erase, ← rep.same, ← perm.mem_iff, List.mem_cons]
      constructor
      · intro left
        exact ⟨fun same => (List.nodup_cons.mp nodup).1 (same ▸ left), .inr left⟩
      · rintro ⟨different, isItem | left⟩
        · exact absurd isItem different
        · exact left
  · have notFound : set.search item = none := by
      rw [search_eq_none_iff, rep.same]
      exact isHeld
    rw [SetT.remove, notFound, Answers, if_neg isHeld]
    exact ⟨⟨rfl, rfl⟩, rep⟩

end Remove

section Sessions

variable {set made : SetT} {held : Finset Word} {before : SetT}
  {initialCapacity expandSize : BitVec 16} {memory : Memory}

theorem Represents.exec (rep : Represents set held) (call : SetCall) :
    ∃ result after, call.exec (some set) = (result, some after) ∧
      Answers held set call result (some after) ∧ Represents after (keep held (call, result)) := by
  cases call with
  | add item memory => exact ⟨_, _, rfl, rep.add item memory⟩
  | remove item => exact ⟨_, _, rfl, rep.remove item⟩
  | contains item =>
    refine ⟨_, set, rfl, ⟨?_, rfl⟩, rep⟩
    exact congrArg SetResult.answer rep.setContains

theorem represents_of_created
    (created : setCreate (some before) initialCapacity expandSize memory = (.success, some made)) :
    Represents made ∅ := by
  unfold setCreate at created
  split at created
  · cases created
  split at created
  · cases created
  split at created
  · cases created
  cases memory with
  | none => cases created
  | some garbage =>
    cases created
    exact ⟨by simp [uninit], Nat.zero_le _, by simp [SetT.elements], by simp [SetT.elements]⟩

/-- A set in a session holds the items that were added and not removed since, each once, and the
next call is answered for these items. -/
theorem session_refines
    (created : setCreate (some before) initialCapacity expandSize memory = (.success, some made))
    (calls : List SetCall) :
    let session := run Session.step ⟨some made, []⟩ calls
    ∃ set, session.set = some set ∧ Represents set (kept session.past) ∧
      ∀ call, ∃ result after, call.exec (some set) = (result, some after) ∧
        Answers (kept session.past) set call result (some after) := by
  have reached : ∃ set, (run Session.step ⟨some made, []⟩ calls).set = some set ∧
      Represents set (kept (run Session.step ⟨some made, []⟩ calls).past) := by
    apply run_invariant fun session : Session =>
      ∃ set, session.set = some set ∧ Represents set (kept session.past)
    · rintro ⟨_, past⟩ call ⟨set, rfl, rep⟩ _
      obtain ⟨result, after, ran, -, repAfter⟩ := rep.exec call
      refine ⟨after, congrArg Prod.snd ran, ?_⟩
      rw [Session.step, ran, kept, List.foldl_append]
      exact repAfter
    · exact ⟨made, rfl, represents_of_created created⟩
    · exact guarded_of_forall (fun _ _ => trivial) _ calls
  obtain ⟨set, isSet, rep⟩ := reached
  refine ⟨set, isSet, rep, fun call => ?_⟩
  obtain ⟨result, after, ran, answers, -⟩ := rep.exec call
  exact ⟨result, after, ran, answers⟩

/-- A set of one cell that grows by one: the second item is put in the new cell, and takes the place
of the first one when that is removed. -/
theorem session_refines_growing :
    let session := run Session.step ⟨some ⟨1, 1, 0, uninit (fun _ => 0) 1⟩, []⟩
      [.add 7 none, .add 8 (some fun _ => 0), .remove 7]
    (∃ set, session.set = some set ∧ Represents set (kept session.past)) ∧
      kept session.past = {8} := by
  constructor
  · obtain ⟨set, isSet, rep, -⟩ := @session_refines ⟨1, 1, 0, uninit (fun _ => 0) 1⟩
      ⟨0, 0, 0, []⟩ 1 1 (some fun _ => 0) rfl
      [.add 7 none, .add 8 (some fun _ => 0), .remove 7]
    exact ⟨set, isSet, rep⟩
  · decide +kernel

end Sessions

end RioFabric.Libset

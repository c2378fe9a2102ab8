import RioFabric.Lib.Bits

/-!
# The device ID allocator

`libdid`: one array of sizes, indexed by device ID, and a cursor behind the ID handed out
last.  The array serves eight and sixteen bit IDs and groups of 256 sixteen bit IDs.  It
is a function on natural numbers here; `RIO_LAST_DEV8` is 0xFF, `RIO_LAST_DEV16` is 0xFFFF
and `RIO_RT_GRP_SZ` is 0x100.
-/

namespace RioFabric.Libdid

open Lib

/-- `did_sz_t`. -/
inductive DidSz where
  | invldSz | dev08Sz | dev16Sz | dev32Sz
  deriving DecidableEq, Repr

/-- `did_t`. -/
structure Did where
  value : Nat
  size : DidSz
  deriving DecidableEq, Repr

def didInvalidId : Did := ⟨0, .invldSz⟩

/-- `did_grp_t`. -/
structure DidGrp where
  size : DidSz
  base : Nat
  next : Nat
  lDev16 : Nat → DidSz

/-- Return values; the negated `errno` constants. -/
inductive DidRc where
  | success | einval | eperm | enobufs | enotuniq | ekeyexpired
  deriving DecidableEq, Repr

/-- `did_ids` and `did_idx`. -/
structure DidState where
  didIds : Nat → DidSz
  didIdx : Nat

/-- The static variables before the first call. -/
def DidState.zeroed : DidState := ⟨fun _ => .invldSz, 0⟩

/-- An ID that nobody has. -/
abbrev DidState.Free (state : DidState) (value : Nat) : Prop := state.didIds value = .invldSz

def didInit : DidState where
  didIds value :=
    if value = 0 ∨ value = 0xFF then .dev08Sz else if value = 0xFFFF then .dev16Sz else .invldSz
  didIdx := 1

/-- Lazy initialization, at the start of most calls. -/
def DidState.lazyInit (state : DidState) : DidState :=
  if state.didIdx = 0 then didInit else state

/-- `did_ids[value] = size`. -/
def DidState.mark (state : DidState) (value : Nat) (size : DidSz) : DidState :=
  { state with didIds := Function.update state.didIds value size }

/-- The first free ID of `count` from `start` on. -/
def findFree (didIds : Nat → DidSz) (start : Nat) : Nat → Option Nat
  | 0 => none
  | count + 1 =>
    if didIds start = .invldSz then some start else findFree didIds (start + 1) count

/-- The bound of the first search loop; other sizes are not supported. -/
def upb : DidSz → Option Nat
  | .dev08Sz => some 0xFF
  | .dev16Sz => some 0xFFFF
  | _ => none

/-- The two search loops of `did_create`: from the cursor up, then from the beginning up to
the cursor. -/
def DidState.nextFree (state : DidState) (upb : Nat) : Option Nat :=
  match findFree state.didIds state.didIdx (upb - state.didIdx) with
  | some value => some value
  | none => findFree state.didIds 1 (state.didIdx - 1)

def didCreate (state : DidState) (size : DidSz) : DidRc × Did × DidState :=
  let state := state.lazyInit
  match upb size with
  | none => (.eperm, didInvalidId, state)
  | some upb =>
    match state.nextFree upb with
    | none => (.enobufs, didInvalidId, state)
    | some value =>
      (.success, ⟨value, size⟩, { state.mark value size with didIdx := value + 1 })

/-- The range check that `did_create_from_data`, `did_release` and `did_from_value` share. -/
def didCheck (value : Nat) (size : DidSz) : Option DidRc :=
  if value = 0 ∨ value = 0xFF then some .einval
  else
    match size with
    | .dev08Sz => if value > 0xFF then some .einval else none
    | .dev16Sz => if value ≥ 0xFFFF then some .einval else none
    | _ => some .eperm

def didCreateFromData (state : DidState) (value : Nat) (size : DidSz) : DidRc × Did × DidState :=
  let state := state.lazyInit
  match didCheck value size with
  | some rc => (rc, didInvalidId, state)
  | none =>
    if state.Free value then (.success, ⟨value, size⟩, state.mark value size)
    else (.enotuniq, didInvalidId, state)

/-- `did_release`, which does not initialize. -/
def didRelease (state : DidState) (did : Did) : DidRc × DidState :=
  match didCheck did.value did.size with
  | some rc => (rc, state)
  | none =>
    if state.Free did.value then (.ekeyexpired, state)
    else (.success, state.mark did.value .invldSz)

def didGet (state : DidState) (value : Nat) : DidRc × Did × DidState :=
  let state := state.lazyInit
  if value = 0 ∨ value = 0xFF ∨ value ≥ 0xFFFF then (.einval, didInvalidId, state)
  else if ¬state.Free value then (.success, ⟨value, state.didIds value⟩, state)
  else (.ekeyexpired, didInvalidId, state)

/-- The size of `did_from_value`, as messages carry it. -/
def sizeOfInt : Nat → DidSz
  | 0 => .dev08Sz
  | 1 => .dev16Sz
  | _ => .invldSz

def didFromValue (state : DidState) (value size : Nat) : DidRc × Did × DidState :=
  let state := state.lazyInit
  match didCheck value (sizeOfInt size) with
  | some rc => (rc, didInvalidId, state)
  | none =>
    (.success, ⟨value, sizeOfInt size⟩,
      if state.Free value then state.mark value (sizeOfInt size) else state)

/-- The entries of a group that are skipped when a group is sought. -/
def groupSkips (value : Nat) : Prop := value = 0 ∨ value = 0xFF ∨ value = 0xFFFF

instance (value : Nat) : Decidable (groupSkips value) :=
  inferInstanceAs (Decidable (_ ∨ _))

/-- The availability loop over `count` entries from `value` on. -/
def groupAvail (didIds : Nat → DidSz) (value : Nat) : Nat → Bool
  | 0 => true
  | count + 1 =>
    if ¬groupSkips value ∧ didIds value ≠ .invldSz then false
    else groupAvail didIds (value + 1) count

/-- The first available group of `count` from `base` on. -/
def findGroup (didIds : Nat → DidSz) (base : Nat) : Nat → Option Nat
  | 0 => none
  | count + 1 =>
    if groupAvail didIds base 0x100 then some base else findGroup didIds (base + 0x100) count

/-- The marking loop over `count` entries from `value` on. -/
def markGroup (didIds : Nat → DidSz) (value : Nat) : Nat → Nat → DidSz
  | 0 => didIds
  | count + 1 =>
    markGroup
      (if value = 0xFF ∨ value = 0xFFFF then didIds else Function.update didIds value .dev16Sz)
      (value + 1) count

/-- A fresh group; its first and last entries are never used. -/
def newGroup (base : Nat) : DidGrp where
  size := .dev16Sz
  base := base
  next := 1
  lDev16 idx := if idx = 0 ∨ idx = 0xFF then .dev16Sz else .invldSz

/-- Where the search for a group starts: at the group of the last allocated entry, if that
is its first one, else at the next group. -/
def DidState.startIdx (state : DidState) : Nat := (state.didIdx - 1 + 0x100 - 1) / 0x100 * 0x100

def didAllocDev16Grp (state : DidState) : DidRc × Option DidGrp × DidState :=
  let state := state.lazyInit
  match findGroup state.didIds state.startIdx ((0x10000 - state.startIdx) / 0x100) with
  | none => (.enobufs, none, state)
  | some base =>
    (.success, some (newGroup base),
      ⟨markGroup state.didIds base 0x100, base + 0x100⟩)

/-- The search loop of `did_grp_resrv_did`, with `count` entries left. -/
def findEntry (group : DidGrp) (offset : Nat) : Nat → Option Nat
  | 0 => none
  | count + 1 =>
    let idx := (offset + group.next) % 0x100
    if group.lDev16 idx = .invldSz then some idx else findEntry group (offset + 1) count

/-- `did_grp_resrv_did`; a failure changes only the size of the caller's `did`. -/
def didGrpResrvDid (group : DidGrp) (did : Did) : DidRc × Did × DidGrp :=
  if 0x100 ≤ group.next then (.enobufs, { did with size := .invldSz }, group)
  else
    match findEntry group 0 0x100 with
    | none => (.enobufs, { did with size := .invldSz }, { group with next := 0x100 })
    | some idx =>
      (.success, ⟨group.base + idx, group.size⟩,
        { group with
          lDev16 := Function.update group.lDev16 idx group.size
          next := (idx + 1) % 0x100 })

def didGrpUnresrvDid (group : DidGrp) (did : Did) : DidRc × DidGrp :=
  let idx := did.value &&& 0xFF
  if did.size ≠ .dev16Sz then (.einval, group)
  else if did.value &&& 0xFF00 ≠ group.base then (.einval, group)
  else if idx = 0 ∨ idx = 0xFF then (.einval, group)
  else
    (.success,
      { group with
        lDev16 := Function.update group.lDev16 idx .invldSz
        next := if 0x100 ≤ group.next then idx else group.next })

section Loops

variable {didIds : Nat → DidSz} {start count value base : Nat}

theorem findFree_eq_some (found : findFree didIds start count = some value) :
    start ≤ value ∧ value < start + count ∧ didIds value = .invldSz ∧
      ∀ below, start ≤ below → below < value → didIds below ≠ .invldSz := by
  induction count generalizing start with
  | zero => cases found
  | succ count ih =>
    unfold findFree at found
    split at found
    next free =>
      cases found
      exact ⟨Nat.le_refl _, by omega, free, fun below _ _ => by omega⟩
    next used =>
      obtain ⟨after, before, free, others⟩ := ih found
      refine ⟨by omega, by omega, free, fun below from_start until_value => ?_⟩
      by_cases first : below = start
      · exact first ▸ used
      · exact others below (by omega) until_value

theorem findFree_eq_none_iff :
    findFree didIds start count = none ↔
      ∀ value, start ≤ value → value < start + count → didIds value ≠ .invldSz := by
  induction count generalizing start with
  | zero => exact iff_of_true rfl fun value _ _ => by omega
  | succ count ih =>
    unfold findFree
    split
    next free =>
      exact iff_of_false (fun none => by cases none)
        fun used => used start (Nat.le_refl _) (by omega) free
    next used =>
      rw [ih]
      constructor
      · intro others value from_start inside
        by_cases first : value = start
        · exact first ▸ used
        · exact others value (by omega) (by omega)
      · intro all value from_start inside
        exact all value (by omega) (by omega)

theorem groupAvail_iff :
    groupAvail didIds start count = true ↔
      ∀ value, start ≤ value → value < start + count → ¬groupSkips value →
        didIds value = .invldSz := by
  induction count generalizing start with
  | zero => exact iff_of_true rfl fun value _ _ => by omega
  | succ count ih =>
    unfold groupAvail
    split
    next taken =>
      exact iff_of_false Bool.false_ne_true
        fun free => taken.2 (free start (Nat.le_refl _) (by omega) taken.1)
    next first =>
      rw [ih]
      constructor
      · intro others value from_start inside notSkipped
        by_cases same : value = start
        · subst same
          exact not_not.mp fun used => first ⟨notSkipped, used⟩
        · exact others value (by omega) (by omega) notSkipped
      · intro all value from_start inside
        exact all value (by omega) (by omega)

theorem findGroup_eq_some (found : findGroup didIds start count = some base) :
    start ≤ base ∧ base % 0x100 = start % 0x100 ∧ base + 0x100 ≤ start + 0x100 * count ∧
      groupAvail didIds base 0x100 = true := by
  induction count generalizing start with
  | zero => cases found
  | succ count ih =>
    unfold findGroup at found
    split at found
    next avail =>
      cases found
      exact ⟨Nat.le_refl _, rfl, by omega, avail⟩
    next =>
      obtain ⟨after, aligned, before, avail⟩ := ih found
      exact ⟨by omega, by omega, by omega, avail⟩

theorem markGroup_apply :
    markGroup didIds start count value =
      if start ≤ value ∧ value < start + count ∧ value ≠ 0xFF ∧ value ≠ 0xFFFF then .dev16Sz
      else didIds value := by
  induction count generalizing didIds start with
  | zero => exact (if_neg (by omega)).symm
  | succ count ih =>
    rw [markGroup, ih]
    by_cases first : value = start
    · subst first
      rw [if_neg (by omega)]
      by_cases skipped : value = 0xFF ∨ value = 0xFFFF
      · rw [if_pos skipped, if_neg (by omega)]
      · rw [if_neg skipped, Function.update_self, if_pos (by omega)]
    · have untouched : (if start = 0xFF ∨ start = 0xFFFF then didIds
          else Function.update didIds start .dev16Sz) value = didIds value := by
        split
        · rfl
        · exact Function.update_of_ne first _ _
      rw [untouched]
      exact if_congr (by omega) rfl rfl

theorem findEntry_eq_some {group : DidGrp} {offset idx : Nat}
    (found : findEntry group offset count = some idx) :
    idx < 0x100 ∧ group.lDev16 idx = .invldSz := by
  induction count generalizing offset with
  | zero => cases found
  | succ count ih =>
    simp only [findEntry] at found
    split at found
    next free =>
      cases found
      exact ⟨Nat.mod_lt _ (by decide), free⟩
    next => exact ih found

end Loops

/-- The values no call may hand out. -/
def Reserved (value : Nat) : Prop := value = 0 ∨ value = 0xFF ∨ value = 0xFFFF

/-- An initialized allocator: the cursor stays within the array, and reserved values are
never free. -/
structure DidState.Ready (state : DidState) : Prop where
  started : 0 < state.didIdx
  inside : state.didIdx ≤ 0x10000
  reserved : ∀ value, Reserved value → ¬state.Free value

/-- The states between calls: untouched, or initialized. -/
def DidState.WellFormed (state : DidState) : Prop := state = .zeroed ∨ state.Ready

theorem didInit_ready : didInit.Ready where
  started := by decide
  inside := by decide
  reserved := by
    rintro value (rfl | rfl | rfl) <;> decide

theorem DidState.WellFormed.lazyInit_ready {state : DidState} (wf : state.WellFormed) :
    state.lazyInit.Ready := by
  unfold lazyInit
  rcases wf with rfl | ready
  · exact didInit_ready
  · rw [if_neg ready.started.ne']
    exact ready

theorem DidState.WellFormed.free_lazyInit_iff {state : DidState} {value : Nat}
    (wf : state.WellFormed) (notReserved : ¬Reserved value) :
    state.lazyInit.Free value ↔ state.Free value := by
  unfold lazyInit
  rcases wf with rfl | ready
  · unfold Reserved at notReserved
    have unused : didInit.didIds value = .invldSz := by
      simp only [didInit]
      rw [if_neg (by omega), if_neg (by omega)]
    exact iff_of_true unused rfl
  · rw [if_neg ready.started.ne']

namespace DidState

variable {state : DidState} {value : Nat} {size : DidSz}

theorem mark_free_iff {other : Nat} (used : size ≠ .invldSz) :
    (state.mark value size).Free other ↔ other ≠ value ∧ state.Free other := by
  by_cases same : other = value
  · subst same
    simp [mark, Free, used]
  · simp [mark, Free, same]

theorem Ready.take {idx : Nat} (ready : state.Ready) (used : size ≠ .invldSz) (positive : 0 < idx)
    (bounded : idx ≤ 0x10000) :
    DidState.Ready { state.mark value size with didIdx := idx } where
  started := positive
  inside := bounded
  reserved := fun other isReserved free =>
    ready.reserved other isReserved ((mark_free_iff used).mp free).2

theorem Ready.lt_of_free (ready : state.Ready) (free : state.Free value) (inside : value < 0x10000)
    (positive : 0 < value) :
    value < 0xFFFF ∧ ¬Reserved value := by
  have notReserved : ¬Reserved value := fun isReserved => ready.reserved value isReserved free
  refine ⟨?_, notReserved⟩
  unfold Reserved at notReserved
  omega

end DidState

section Calls

variable {state : DidState}

theorem nextFree_eq_some {upb value : Nat} (ready : state.Ready) (bounded : upb ≤ 0xFFFF)
    (found : state.nextFree upb = some value) :
    state.Free value ∧ 0 < value ∧ value < 0xFFFF := by
  have started := ready.started
  have inside := ready.inside
  unfold DidState.nextFree at found
  split at found
  next above =>
    cases found
    obtain ⟨from_idx, until_upb, free, -⟩ := findFree_eq_some above
    exact ⟨free, by omega, by omega⟩
  next =>
    obtain ⟨from_one, until_idx, free, -⟩ := findFree_eq_some found
    exact ⟨free, by omega, (ready.lt_of_free free (by omega) (by omega)).1⟩

theorem didCreate_cases (wf : state.WellFormed) (size : DidSz) :
    (∃ value, didCreate state size =
        (.success, ⟨value, size⟩,
          { state.lazyInit.mark value size with didIdx := value + 1 }) ∧
      size ≠ .invldSz ∧ state.lazyInit.Free value ∧ 0 < value ∧ value < 0xFFFF) ∨
      ∃ rc, rc ≠ .success ∧ didCreate state size = (rc, didInvalidId, state.lazyInit) := by
  simp only [didCreate]
  cases supported : upb size with
  | none => exact Or.inr ⟨.eperm, by decide, rfl⟩
  | some upb =>
    have bounded : size ≠ .invldSz ∧ upb ≤ 0xFFFF := by
      cases size <;> cases supported <;> decide
    cases found : state.lazyInit.nextFree upb with
    | none => exact Or.inr ⟨.enobufs, by decide, by simp only [found]⟩
    | some value =>
      obtain ⟨free, positive, inside⟩ :=
        nextFree_eq_some wf.lazyInit_ready bounded.2 found
      exact Or.inl ⟨value, by simp only [found], bounded.1, free, positive, inside⟩

theorem didCheck_eq_none {value : Nat} {size : DidSz} (passes : didCheck value size = none) :
    ¬Reserved value ∧ value < 0xFFFF ∧ size ≠ .invldSz := by
  unfold didCheck at passes
  unfold Reserved
  split at passes
  next => cases passes
  next other =>
    split at passes
    next =>
      split at passes
      · cases passes
      · exact ⟨by omega, by omega, by decide⟩
    next =>
      split at passes
      · cases passes
      · exact ⟨by omega, by omega, by decide⟩
    next => cases passes

theorem didCheck_ne_success {value : Nat} {size : DidSz} {rc : DidRc}
    (refused : didCheck value size = some rc) : rc ≠ .success := by
  unfold didCheck at refused
  split at refused
  next => cases refused; decide
  next =>
    split at refused
    next => split at refused <;> cases refused; decide
    next => split at refused <;> cases refused; decide
    next => cases refused; decide

section

variable (state : DidState)

theorem didCreateFromData_cases (value : Nat) (size : DidSz) :
    (didCreateFromData state value size =
        (.success, ⟨value, size⟩, state.lazyInit.mark value size) ∧
      size ≠ .invldSz ∧ state.lazyInit.Free value ∧ ¬Reserved value ∧ value < 0xFFFF) ∨
      ∃ rc, rc ≠ .success ∧
        didCreateFromData state value size = (rc, didInvalidId, state.lazyInit) := by
  simp only [didCreateFromData]
  cases check : didCheck value size with
  | some rc => exact Or.inr ⟨rc, didCheck_ne_success check, rfl⟩
  | none =>
    obtain ⟨notReserved, inside, used⟩ := didCheck_eq_none check
    by_cases free : state.lazyInit.Free value
    · simp only [if_pos free]
      exact Or.inl ⟨trivial, used, free, notReserved, inside⟩
    · simp only [if_neg free]
      exact Or.inr ⟨.enotuniq, by decide, rfl⟩

theorem didRelease_cases (did : Did) :
    (didRelease state did = (.success, state.mark did.value .invldSz) ∧
      ¬state.Free did.value ∧ ¬Reserved did.value ∧ did.value < 0xFFFF) ∨
      ∃ rc, rc ≠ .success ∧ didRelease state did = (rc, state) := by
  simp only [didRelease]
  cases check : didCheck did.value did.size with
  | some rc => exact Or.inr ⟨rc, didCheck_ne_success check, rfl⟩
  | none =>
    obtain ⟨notReserved, inside, -⟩ := didCheck_eq_none check
    by_cases free : state.Free did.value
    · simp only [if_pos free]
      exact Or.inr ⟨.ekeyexpired, by decide, rfl⟩
    · simp only [if_neg free]
      exact Or.inl ⟨trivial, free, notReserved, inside⟩

theorem didGet_cases (value : Nat) :
    (didGet state value = (.success, ⟨value, state.lazyInit.didIds value⟩, state.lazyInit) ∧
      ¬Reserved value) ∨
      ∃ rc, rc ≠ .success ∧ didGet state value = (rc, didInvalidId, state.lazyInit) := by
  simp only [didGet]
  split
  next => exact Or.inr ⟨.einval, by decide, rfl⟩
  next inRange =>
    have notReserved : ¬Reserved value := by
      unfold Reserved
      omega
    split
    next => exact Or.inl ⟨rfl, notReserved⟩
    next => exact Or.inr ⟨.ekeyexpired, by decide, rfl⟩

theorem didFromValue_cases (value size : Nat) :
    (∃ used, used ≠ DidSz.invldSz ∧
        (didFromValue state value size).2.2 = state.lazyInit.mark value used) ∨
      (didFromValue state value size).2.2 = state.lazyInit := by
  simp only [didFromValue]
  cases check : didCheck value (sizeOfInt size) with
  | some rc => exact Or.inr rfl
  | none =>
    by_cases free : state.lazyInit.Free value
    · simp only [if_pos free]
      exact Or.inl ⟨_, (didCheck_eq_none check).2.2, rfl⟩
    · simp only [if_neg free]
      exact Or.inr trivial

theorem didAllocDev16Grp_cases :
    (∃ base, didAllocDev16Grp state =
        (.success, some (newGroup base),
          ⟨markGroup state.lazyInit.didIds base 0x100, base + 0x100⟩) ∧
      base % 0x100 = 0 ∧ base + 0x100 ≤ 0x10000 ∧
      ∀ value, base ≤ value → value < base + 0x100 → ¬Reserved value →
        state.lazyInit.Free value) ∨
      didAllocDev16Grp state = (.enobufs, none, state.lazyInit) := by
  simp only [didAllocDev16Grp]
  cases found : findGroup state.lazyInit.didIds state.lazyInit.startIdx
      ((0x10000 - state.lazyInit.startIdx) / 0x100) with
  | none => exact Or.inr rfl
  | some base =>
    obtain ⟨after, aligned, before, avail⟩ := findGroup_eq_some found
    have startAligned : state.lazyInit.startIdx % 0x100 = 0 := by
      unfold DidState.startIdx
      omega
    exact Or.inl ⟨base, rfl, by omega, by omega, groupAvail_iff.mp avail⟩

end

section

variable (group : DidGrp)

/-- A group with one entry changed and its cursor moved. -/
def DidGrp.withEntry (idx : Nat) (size : DidSz) (next : Nat) : DidGrp :=
  { group with lDev16 := Function.update group.lDev16 idx size, next := next }

@[simp] theorem withEntry_self (idx : Nat) (size : DidSz) (next : Nat) :
    (group.withEntry idx size next).lDev16 idx = size :=
  Function.update_self _ _ _

theorem withEntry_of_ne {idx other : Nat} (size : DidSz) (next : Nat)
    (different : other ≠ idx) :
    (group.withEntry idx size next).lDev16 other = group.lDev16 other :=
  Function.update_of_ne different _ _

theorem didGrpResrvDid_cases (did : Did) :
    (∃ idx next, didGrpResrvDid group did =
        (.success, ⟨group.base + idx, group.size⟩, group.withEntry idx group.size next) ∧
      idx < 0x100 ∧ group.lDev16 idx = .invldSz) ∨
      ∃ rc next, rc ≠ .success ∧ didGrpResrvDid group did =
        (rc, { did with size := .invldSz }, { group with next := next }) := by
  simp only [didGrpResrvDid]
  split
  next => exact Or.inr ⟨.enobufs, group.next, by decide, rfl⟩
  next =>
    split
    next => exact Or.inr ⟨.enobufs, 0x100, by decide, rfl⟩
    next idx found =>
      obtain ⟨idx_lt, free⟩ := findEntry_eq_some found
      exact Or.inl ⟨idx, (idx + 1) % 0x100, rfl, idx_lt, free⟩

theorem didGrpUnresrvDid_cases (did : Did) :
    (∃ next, didGrpUnresrvDid group did =
        (.success, group.withEntry (did.value % 0x100) .invldSz next) ∧
      did.value / 0x100 % 0x100 * 0x100 = group.base ∧ did.value % 0x100 ≠ 0 ∧
      did.value % 0x100 ≠ 0xFF) ∨
      ∃ rc, rc ≠ .success ∧ didGrpUnresrvDid group did = (rc, group) := by
  have low : did.value &&& 0xFF = did.value % 0x100 := Nat.and_two_pow_sub_one_eq_mod _ 8
  have high : did.value &&& 0xFF00 = did.value / 0x100 % 0x100 * 0x100 :=
    and_field did.value 0xFF00 8 8 rfl
  simp only [didGrpUnresrvDid, low, high]
  split
  next => exact Or.inr ⟨.einval, by decide, rfl⟩
  next =>
    split
    next => exact Or.inr ⟨.einval, by decide, rfl⟩
    next sameBase =>
      split
      next => exact Or.inr ⟨.einval, by decide, rfl⟩
      next inner =>
        exact Or.inl ⟨_, rfl, not_not.mp sameBase, fun first => inner (Or.inl first),
          fun last => inner (Or.inr last)⟩

end

end Calls

end RioFabric.Libdid

import RioFabric.Libdid.Completeness

/-!
# The component tag allocator

`libct`: a component tag is a number of sixteen bits above a device ID of sixteen bits.  For
each number there is a count of the tags that have it; a number whose last tag is released
is retired.  Device IDs come from `libdid`.  The counts are of type `int`; runs in which one
of them overflows have no meaning in C and are not considered, so they are integers here.
-/

namespace RioFabric.Libct

open Lib Libdid

/-- `ct_ids` and `ct_idx`, with the variables of `libdid`.  A number is free at 0, retired at
-1 and in use above 0. -/
structure CtState where
  ctIds : Nat → Int
  ctIdx : Nat
  dids : DidState

/-- The static variables before the first call. -/
def CtState.zeroed : CtState := ⟨fun _ => 0, 0, .zeroed⟩

def comptagUnset : Nat := 0

def ctFromNrDid (nr did : Nat) : Nat := ((nr <<< 16) &&& 0xFFFF0000) ||| (0xFFFF &&& did)

section

variable (state : CtState)

def CtState.initialize : CtState :=
  { state with ctIds := Function.update state.ctIds 0 (-1), ctIdx := 1 }

/-- Lazy initialization, at the start of most calls and again whenever the cursor wraps. -/
def CtState.lazyInit : CtState :=
  if state.ctIdx = 0 then state.initialize else state

/-- `ct_ids[nr] = count`. -/
def CtState.setCount (nr : Nat) (count : Int) : CtState :=
  { state with ctIds := Function.update state.ctIds nr count }

/-- `ct_ids[nr]++`. -/
def CtState.register (nr : Nat) : CtState :=
  state.setCount nr (state.ctIds nr + 1)

/-! ## The calls

A pointer parameter is `none` for `NULL`, and else what it points to before the call. -/

def CtState.ctNextNr : Option Nat :=
  match (List.range' state.ctIdx (0x10000 - state.ctIdx)).find? (state.ctIds · = 0) with
  | some nr => some nr
  | none => (List.range' 1 (state.ctIdx - 1)).find? (state.ctIds · = 0)

/-- `ct_create_all`.  The cursor is set to a number of sixteen bits, which may wrap. -/
def ctCreateAll (ct : Option Nat) (did : Option Did) (size : DidSz) :
    DidRc × Option Nat × Option Did × CtState :=
  let state := state.lazyInit
  match ct, did with
  | some _, some did =>
    match state.ctNextNr with
    | none => (.enobufs, some comptagUnset, some did, state)
    | some nr =>
      let (rc, did, dids) := didCreate state.dids size
      let state := { state with dids := dids }
      if rc = .success then
        (.success, some (ctFromNrDid nr did.value), some did,
          { state.register nr with ctIdx := (nr + 1) % 0x10000 })
      else (rc, some comptagUnset, some did, state)
  | ct, did => (.einval, ct.map fun _ => comptagUnset, did.map fun _ => didInvalidId, state)

def ctCreateFromNrAndDid (ct : Option Nat) (nr : Nat) (did : Did) :
    DidRc × Option Nat × CtState :=
  let state := state.lazyInit
  match ct with
  | none => (.einval, none, state)
  | some _ =>
    if state.ctIds nr = -1 then (.ekeyexpired, some comptagUnset, state)
    else
      let (rc, _, dids) := didGet state.dids did.value
      let state := { state with dids := dids }
      if rc = .success then
        (.success, some (ctFromNrDid nr did.value), state.register nr)
      else (rc, some comptagUnset, state)

/-- `ct_create_from_data`, which takes its device ID back if there is no tag. -/
def ctCreateFromData (ct : Option Nat) (did : Option Did) (nr didValue : Nat)
    (didSize : DidSz) : DidRc × Option Nat × Option Did × CtState :=
  let state := state.lazyInit
  match ct, did with
  | some _, some _ =>
    let (rc, did, dids) := didCreateFromData state.dids didValue didSize
    let state := { state with dids := dids }
    if rc = .success then
      let (rc, ct, state) := ctCreateFromNrAndDid state ct nr did
      if rc = .success then (rc, ct, some did, state)
      else
        (rc, some comptagUnset, some didInvalidId,
          { state with dids := (didRelease state.dids did).2 })
    else (rc, some comptagUnset, some did, state)
  | ct, did => (.einval, ct.map fun _ => comptagUnset, did.map fun _ => didInvalidId, state)

def ctCreateFromDid (ct : Option Nat) (did : Did) :
    DidRc × Option Nat × CtState :=
  let state := state.lazyInit
  match ct with
  | none => (.einval, none, state)
  | some _ =>
    match state.ctNextNr with
    | none => (.enobufs, some comptagUnset, state)
    | some nr =>
      let (rc, _, dids) := didGet state.dids did.value
      let state := { state with dids := dids }
      if rc = .success then
        (.success, some (ctFromNrDid nr did.value),
          { state.register nr with ctIdx := (nr + 1) % 0x10000 })
      else (rc, some comptagUnset, state)

end

/-- The number of a tag. -/
def ctNr (ct : Nat) : Nat := 0xFFFF &&& (ct >>> 16)

/-- `ct_get_nr`, for a pointer that is not `NULL`. -/
def ctGetNr (ct : Nat) : DidRc × Nat :=
  (if ctNr ct = 0 then .einval else .success, ctNr ct)

/-- `ct_release`, which does not initialize. -/
def ctRelease (state : CtState) (ct : Nat) (did : Did) : DidRc × CtState :=
  let (rc, nr) := ctGetNr ct
  if rc ≠ .success then (rc, state)
  else if state.ctIds nr < 1 then (.einval, state)
  else
    let (rc, dids) := didRelease state.dids did
    let state := { state with dids := dids }
    if rc = .success then
      (.success,
        -- the last release retires the number
        if state.ctIds nr = 1 then state.setCount nr (-1)
        else state.setCount nr (state.ctIds nr - 1))
    else (rc, state)

/-- `did_not_inuse`: an error, or whether the ID is in use. -/
def didNotInuse (state : DidState) (did : Did) : Except DidRc Bool :=
  match didCheck did.value did.size with
  | some rc => .error rc
  | none => .ok (¬state.Free did.value)

/-- The value is taken for true: errors are negative. -/
def nonzero : Except DidRc Bool → Bool
  | .error _ => true
  | .ok result => result

/-- The device ID that `ct_from_value` takes from a tag. -/
def didOfTag (ctVal : Nat) : Did :=
  ⟨0xFFFF &&& ctVal, if 0xFFFF &&& ctVal > 0xFF then .dev16Sz else .dev08Sz⟩

def ctFromValue (state : CtState) (ct : Option Nat) (ctVal : Nat) :
    DidRc × Option Nat × CtState :=
  let state := state.lazyInit
  match ct with
  | none => (.einval, none, state)
  | some _ =>
    let did := didOfTag ctVal
    if nonzero (didNotInuse state.dids did) then
      -- the upper half of the tag, stored in a number of sixteen bits without a shift
      (.success, some ctVal, state.register ((0xFFFF0000 &&& ctVal) % 0x10000))
    else
      let (rc, _, dids) :=
        didFromValue state.dids did.value (if did.size = .dev16Sz then 1 else 0)
      let state := { state with dids := dids }
      if rc = .success then (.success, some ctVal, state)
      else (rc, some comptagUnset, state)

/-- `ct_not_inuse`: an error, or whether the tag is in use. -/
def ctNotInuse (state : CtState) (ct : Nat) : Except DidRc Bool × CtState :=
  let (rc, nr) := ctGetNr ct
  if rc ≠ .success then (.error rc, state)
  else if state.ctIds nr > 0 then
    let (rc, _, dids) := didGet state.dids (ct &&& 0xFFFF)
    (.ok (rc = .success), { state with dids := dids })
  else (.ok false, state)

/-- The calls that create and release tags, with their parameters. -/
inductive LibctCall where
  | createAll (ct : Option Nat) (did : Option Did) (size : DidSz)
  | createFromData (ct : Option Nat) (did : Option Did) (nr : Fin 0x10000) (didValue : Nat)
      (didSize : DidSz)
  | createFromNrAndDid (ct : Option Nat) (nr : Fin 0x10000) (did : Did)
  | createFromDid (ct : Option Nat) (did : Did)
  | release (ct : Nat) (did : Did)
  deriving DecidableEq, Repr

/-- What a call returns, the tag that it gives out, and the variables it leaves. -/
def LibctCall.result (state : CtState) : LibctCall → DidRc × Option Nat × CtState
  | .createAll ct did size =>
    let (rc, ct, _, state) := ctCreateAll state ct did size
    (rc, ct, state)
  | .createFromData ct did nr didValue didSize =>
    let (rc, ct, _, state) := ctCreateFromData state ct did nr didValue didSize
    (rc, ct, state)
  | .createFromNrAndDid ct nr did => ctCreateFromNrAndDid state ct nr did
  | .createFromDid ct did => ctCreateFromDid state ct did
  | .release ct did =>
    let (rc, state) := ctRelease state ct did
    (rc, none, state)

/-- The calls that look for a number themselves. -/
def LibctCall.PicksNumber : LibctCall → Prop
  | .createAll _ _ _ | .createFromDid _ _ => True
  | _ => False

theorem ctNr_eq (ct : Nat) : ctNr ct = ct / 0x10000 % 0x10000 := by
  rw [ctNr, Nat.and_comm, Nat.shiftRight_eq_div_pow]
  exact Nat.and_two_pow_sub_one_eq_mod _ 16

theorem ctFromNrDid_eq {nr : Nat} (inRange : nr < 0x10000) (did : Nat) :
    ctFromNrDid nr did = nr * 0x10000 + did % 0x10000 := by
  have low : 0xFFFF &&& did = did % 0x10000 := by
    rw [Nat.and_comm]
    exact Nat.and_two_pow_sub_one_eq_mod _ 16
  have high : (nr <<< 16) &&& 0xFFFF0000 = nr * 0x10000 := by
    rw [and_field (nr <<< 16) 0xFFFF0000 16 16 rfl, Nat.shiftLeft_eq]
    omega
  rw [ctFromNrDid, low, high, or_eq_add 16 (by omega) (by omega)]

theorem ctNr_ctFromNrDid {nr : Nat} (inRange : nr < 0x10000) (did : Nat) :
    ctNr (ctFromNrDid nr did) = nr := by
  rw [ctNr_eq, ctFromNrDid_eq inRange]
  omega

/-- The states between calls. -/
structure CtState.WellFormed (state : CtState) : Prop where
  inside : state.ctIdx < 0x10000
  dids : state.dids.WellFormed

section Search

variable {state : CtState} {nr : Nat}

theorem lazyInit_ctIds (valid : nr ≠ 0) : state.lazyInit.ctIds nr = state.ctIds nr := by
  unfold CtState.lazyInit
  split
  · exact Function.update_of_ne valid _ _
  · rfl

theorem lazyInit_started : 0 < state.lazyInit.ctIdx := by
  unfold CtState.lazyInit
  split
  · exact Nat.one_pos
  next started => exact Nat.pos_of_ne_zero started

theorem lazyInit_inside (inside : state.ctIdx < 0x10000) : state.lazyInit.ctIdx < 0x10000 := by
  unfold CtState.lazyInit
  split
  · exact (by decide : 1 < 0x10000)
  · exact inside

@[simp] theorem lazyInit_dids : state.lazyInit.dids = state.dids := by
  unfold CtState.lazyInit
  split <;> rfl

theorem ctNextNr_eq_some (started : 0 < state.ctIdx) (inside : state.ctIdx < 0x10000)
    (found : state.ctNextNr = some nr) : nr ≠ 0 ∧ nr < 0x10000 ∧ state.ctIds nr = 0 := by
  unfold CtState.ctNextNr at found
  split at found
  next above =>
    cases found
    have free := List.find?_some above
    have place := List.mem_range'_1.mp (List.mem_of_find?_eq_some above)
    exact ⟨by omega, by omega, of_decide_eq_true free⟩
  next =>
    have free := List.find?_some found
    have place := List.mem_range'_1.mp (List.mem_of_find?_eq_some found)
    exact ⟨by omega, by omega, of_decide_eq_true free⟩

theorem ctIds_ne_zero_of_ctNextNr (inside : state.ctIdx < 0x10000) (failed : state.ctNextNr = none)
    (valid : nr ≠ 0) (inRange : nr < 0x10000) :
    state.ctIds nr ≠ 0 := by
  unfold CtState.ctNextNr at failed
  split at failed
  · contradiction
  next above =>
    by_cases before : nr < state.ctIdx
    · have place : nr ∈ List.range' 1 (state.ctIdx - 1) := List.mem_range'_1.mpr (by omega)
      exact of_decide_eq_false (by simpa using List.find?_eq_none.mp failed nr place)
    · have place : nr ∈ List.range' state.ctIdx (0x10000 - state.ctIdx) :=
        List.mem_range'_1.mpr (by omega)
      exact of_decide_eq_false (by simpa using List.find?_eq_none.mp above nr place)

end Search

/-- A call fails and leaves everything but the initialization of one or both libraries, gives
out a tag with a number that is not retired, or releases a tag. -/
inductive TagEffect (state : CtState) : LibctCall → DidRc × Option Nat × CtState → Prop where
  | failed {call : LibctCall} {rc : DidRc} {tag : Option Nat} {init : CtState} {dids : DidState}
      (failure : rc ≠ .success) (inits : init = state ∨ init = state.lazyInit)
      (didInits : dids = state.dids ∨ dids = state.dids.lazyInit) :
      TagEffect state call (rc, tag, { init with dids := dids })
  | issued {call : LibctCall} {nr value idx : Nat} {dids : DidState} (inRange : nr < 0x10000)
      (notRetired : state.lazyInit.ctIds nr ≠ -1)
      (picked : call.PicksNumber → nr ≠ 0 ∧ state.lazyInit.ctIds nr = 0)
      (inside : idx < 0x10000) (didsWf : dids.WellFormed) :
      TagEffect state call
        (.success, some (ctFromNrDid nr value),
          { state.lazyInit.register nr with ctIdx := idx, dids := dids })
  | released {ct : Nat} {did : Did} {dids : DidState} (valid : ctNr ct ≠ 0)
      (inUse : 1 ≤ state.ctIds (ctNr ct)) (didsWf : dids.WellFormed) :
      TagEffect state (.release ct did)
        (.success, none,
          { state.setCount (ctNr ct)
              (if state.ctIds (ctNr ct) = 1 then -1 else state.ctIds (ctNr ct) - 1) with
            dids := dids })

section Effects

variable {state : CtState}

theorem createAll_effect (wf : state.WellFormed) (ct : Option Nat) (did : Option Did)
    (size : DidSz) :
    TagEffect state (.createAll ct did size) ((LibctCall.createAll ct did size).result state) := by
  have refused {tag : Option Nat} : TagEffect state (.createAll ct did size)
      (.einval, tag, state.lazyInit) :=
    .failed (by decide) (.inr rfl) (.inl lazyInit_dids)
  match ct, did with
  | none, _ => exact refused
  | some _, none => exact refused
  | some _, some did =>
    simp only [LibctCall.result, ctCreateAll]
    cases found : state.lazyInit.ctNextNr with
    | none =>
      have failure : DidRc.enobufs ≠ .success := by decide
      exact .failed failure (.inr rfl) (.inl lazyInit_dids)
    | some nr =>
      obtain ⟨valid, inRange, free⟩ :=
        ctNextNr_eq_some lazyInit_started (lazyInit_inside wf.inside) found
      have didsWf := exec_wellFormed wf.dids (.create size)
      obtain ⟨value, created, _⟩ | ⟨rc, failure, failed⟩ := didCreate_cases wf.dids size
      · simp only [LibdidCall.exec, created] at didsWf
        simp only [lazyInit_dids, created, if_true]
        refine .issued inRange (by omega) (fun _ => ⟨valid, free⟩) ?_ didsWf
        exact Nat.mod_lt _ (by decide)
      · simp only [lazyInit_dids, failed, failure, if_false]
        exact .failed failure (.inr rfl) (.inr rfl)

theorem createFromDid_effect (wf : state.WellFormed) (ct : Option Nat) (did : Did) :
    TagEffect state (.createFromDid ct did) ((LibctCall.createFromDid ct did).result state) := by
  match ct with
  | none => exact .failed (by decide) (.inr rfl) (.inl lazyInit_dids)
  | some _ =>
    simp only [LibctCall.result, ctCreateFromDid]
    cases found : state.lazyInit.ctNextNr with
    | none => exact .failed (by decide) (.inr rfl) (.inl lazyInit_dids)
    | some nr =>
      obtain ⟨valid, inRange, free⟩ :=
        ctNextNr_eq_some lazyInit_started (lazyInit_inside wf.inside) found
      obtain ⟨got, _⟩ | ⟨rc, failure, failed⟩ := didGet_cases state.dids did.value
      · simp only [lazyInit_dids, got, if_true]
        refine .issued inRange (by omega) (fun _ => ⟨valid, free⟩) ?_
          (.inr wf.dids.lazyInit_ready)
        exact Nat.mod_lt _ (by decide)
      · simp only [lazyInit_dids, failed, failure, if_false]
        exact .failed failure (.inr rfl) (.inr rfl)

theorem ctCreateFromNrAndDid_cases (state : CtState) (ct : Option Nat) (nr : Nat) (did : Did) :
    (ctCreateFromNrAndDid state ct nr did =
        (.success, some (ctFromNrDid nr did.value),
          { state.lazyInit.register nr with dids := state.dids.lazyInit }) ∧
      state.lazyInit.ctIds nr ≠ -1) ∨
      ∃ rc tag dids, rc ≠ .success ∧ (dids = state.dids ∨ dids = state.dids.lazyInit) ∧
        ctCreateFromNrAndDid state ct nr did = (rc, tag, { state.lazyInit with dids := dids }) := by
  match ct with
  | none => exact .inr ⟨.einval, none, state.lazyInit.dids, by decide, .inl lazyInit_dids, rfl⟩
  | some _ =>
    simp only [ctCreateFromNrAndDid]
    split
    next =>
      exact .inr ⟨.ekeyexpired, _, state.lazyInit.dids, by decide, .inl lazyInit_dids, rfl⟩
    next notRetired =>
      obtain ⟨got, _⟩ | ⟨rc, failure, failed⟩ := didGet_cases state.dids did.value
      · simp only [lazyInit_dids, got, if_true]
        exact .inl ⟨rfl, notRetired⟩
      · simp only [lazyInit_dids, failed, failure, if_false]
        exact .inr ⟨rc, _, _, failure, .inr rfl, rfl⟩

theorem createFromNrAndDid_effect (wf : state.WellFormed) (ct : Option Nat) (nr : Fin 0x10000)
    (did : Did) :
    TagEffect state (.createFromNrAndDid ct nr did)
      ((LibctCall.createFromNrAndDid ct nr did).result state) := by
  simp only [LibctCall.result]
  obtain ⟨created, notRetired⟩ | ⟨rc, tag, dids, failure, didInits, failed⟩ :=
    ctCreateFromNrAndDid_cases state ct nr did
  · rw [created]
    exact .issued nr.isLt notRetired nofun (lazyInit_inside wf.inside)
      (.inr wf.dids.lazyInit_ready)
  · rw [failed]
    exact .failed failure (.inr rfl) didInits

theorem release_of_created {dids : DidState} {value : Nat} {size : DidSz}
    (created : didCreateFromData dids value size =
      (.success, ⟨value, size⟩, dids.lazyInit.mark value size)) :
    (didRelease (dids.lazyInit.mark value size) ⟨value, size⟩).2 = dids.lazyInit := by
  have check : didCheck value size = none := by
    cases check : didCheck value size with
    | none => rfl
    | some rc =>
      simp only [didCreateFromData, check] at created
      exact absurd (congrArg Prod.fst created) (didCheck_ne_success check)
  have free : dids.lazyInit.Free value := by
    obtain ⟨_, _, free, _⟩ | ⟨rc, failure, failed⟩ := didCreateFromData_cases dids value size
    · exact free
    · rw [created] at failed
      exact absurd (congrArg Prod.fst failed).symm failure
  have used : ¬(dids.lazyInit.mark value size).Free value := by
    rw [DidState.mark_free_iff (didCheck_eq_none check).2.2]
    exact fun unused => unused.1 rfl
  simp only [didRelease, check]
  rw [if_neg used]
  simp only [DidState.mark, Function.update_idem]
  have restored : Function.update dids.lazyInit.didIds value .invldSz = dids.lazyInit.didIds :=
    Function.update_eq_self_iff.mpr free.symm
  rw [restored]

theorem createFromData_effect (wf : state.WellFormed) (ct : Option Nat) (did : Option Did)
    (nr : Fin 0x10000) (didValue : Nat) (didSize : DidSz) :
    TagEffect state (.createFromData ct did nr didValue didSize)
      ((LibctCall.createFromData ct did nr didValue didSize).result state) := by
  have refused {tag : Option Nat} : TagEffect state (.createFromData ct did nr didValue didSize)
      (.einval, tag, state.lazyInit) :=
    .failed (by decide) (.inr rfl) (.inl lazyInit_dids)
  cases ct with
  | none => exact refused
  | some ct =>
    cases did with
    | none => exact refused
    | some did =>
      simp only [LibctCall.result, ctCreateFromData, lazyInit_dids]
      have didsWf := exec_wellFormed wf.dids (.createFromData didValue didSize)
      obtain ⟨created, _⟩ | ⟨rc, failure, failed⟩ :=
        didCreateFromData_cases state.dids didValue didSize
      · simp only [LibdidCall.exec, created] at didsWf
        simp only [created, if_true]
        let taken : CtState :=
          { state.lazyInit with dids := state.dids.lazyInit.mark didValue didSize }
        have initialized : taken.lazyInit = taken := if_neg (@lazyInit_started state).ne'
        have didsStarted : taken.dids.lazyInit = taken.dids :=
          if_neg wf.dids.lazyInit_ready.started.ne'
        obtain ⟨tagged, notRetired⟩ | ⟨rc, tag, dids, failure, didInits, untagged⟩ :=
          ctCreateFromNrAndDid_cases taken (some ct) nr ⟨didValue, didSize⟩
        · rw [initialized] at notRetired
          rw [initialized, didsStarted] at tagged
          rw [show ctCreateFromNrAndDid _ (some ct) nr ⟨didValue, didSize⟩ = _ from tagged]
          exact .issued nr.isLt notRetired (fun none => by cases none)
            (lazyInit_inside wf.inside) didsWf
        · obtain rfl : dids = taken.dids := by rwa [didsStarted, or_self] at didInits
          rw [initialized] at untagged
          rw [show ctCreateFromNrAndDid _ (some ct) nr ⟨didValue, didSize⟩ = _ from untagged]
          simp only [failure, if_false]
          exact @TagEffect.failed state _ _ _ state.lazyInit _ failure (.inr rfl)
            (.inr (release_of_created created))
      · simp only [failed, failure, if_false]
        exact .failed failure (.inr rfl) (.inr rfl)

theorem release_effect (wf : state.WellFormed) (ct : Nat) (did : Did) :
    TagEffect state (.release ct did) ((LibctCall.release ct did).result state) := by
  simp only [LibctCall.result, ctRelease, ctGetNr]
  by_cases zero : ctNr ct = 0
  · have failure : DidRc.einval ≠ .success := by decide
    simp only [zero, if_true, ne_eq, failure, not_false_eq_true]
    exact .failed failure (.inl rfl) (.inl rfl)
  · have didsWf := exec_wellFormed wf.dids (.release did)
    by_cases unused : state.ctIds (ctNr ct) < 1
    · simp only [zero, unused, if_false, if_true, ne_eq, not_true]
      exact .failed (by decide) (.inl rfl) (.inl rfl)
    · simp only [zero, unused, if_false, ne_eq, not_true]
      obtain ⟨released, _⟩ | ⟨rc, failure, failed⟩ := didRelease_cases state.dids did
      · simp only [LibdidCall.exec, released] at didsWf
        simp only [released, if_true, ← apply_ite]
        exact .released zero (Int.not_lt.mp unused) didsWf
      · simp only [failed, failure, if_false]
        exact .failed failure (.inl rfl) (.inl rfl)

theorem result_effect (wf : state.WellFormed) (call : LibctCall) :
    TagEffect state call (call.result state) := by
  cases call with
  | createAll ct did size => exact createAll_effect wf ct did size
  | createFromData ct did nr didValue didSize =>
    exact createFromData_effect wf ct did nr didValue didSize
  | createFromNrAndDid ct nr did => exact createFromNrAndDid_effect wf ct nr did
  | createFromDid ct did => exact createFromDid_effect wf ct did
  | release ct did => exact release_effect wf ct did

theorem TagEffect.wellFormed {call : LibctCall} {result : DidRc × Option Nat × CtState}
    (effect : TagEffect state call result) (wf : state.WellFormed) : result.2.2.WellFormed := by
  cases effect with
  | failed failure inits didInits =>
    constructor
    · obtain rfl | rfl := inits
      · exact wf.inside
      · exact lazyInit_inside wf.inside
    · obtain rfl | rfl := didInits
      · exact wf.dids
      · exact .inr wf.dids.lazyInit_ready
  | issued inRange notRetired picked inside didsWf => exact ⟨inside, didsWf⟩
  | released valid inUse didsWf => exact ⟨wf.inside, didsWf⟩

end Effects

/-- The calls of both libraries. -/
inductive ApiCall where
  | libct (call : LibctCall)
  | libdid (call : LibdidCall)
  | fromValue (ct : Option Nat) (ctVal : Nat)
  | notInuse (ct : Nat)
  deriving DecidableEq, Repr

/-- The variables after a call. -/
def ApiCall.exec (state : CtState) : ApiCall → CtState
  | .libct call => (call.result state).2.2
  | .libdid call => { state with dids := call.exec state.dids }
  | .fromValue ct ctVal => (ctFromValue state ct ctVal).2.2
  | .notInuse ct => (ctNotInuse state ct).2

/-- The variables after a sequence of calls. -/
abbrev CtState.after (calls : List ApiCall) : CtState := run ApiCall.exec .zeroed calls

theorem ctFromValue_wellFormed {state : CtState} (wf : state.WellFormed) (ct : Option Nat)
    (ctVal : Nat) : (ctFromValue state ct ctVal).2.2.WellFormed := by
  have inside := lazyInit_inside wf.inside
  match ct with
  | none => exact ⟨inside, by simpa [ctFromValue] using wf.dids⟩
  | some _ =>
    simp only [ctFromValue, lazyInit_dids]
    split
    · exact ⟨inside, by simpa [CtState.register, CtState.setCount] using wf.dids⟩
    · generalize (if (didOfTag ctVal).size = .dev16Sz then 1 else 0) = sz
      have didsWf := exec_wellFormed wf.dids (.fromValue (didOfTag ctVal).value sz)
      split
      · exact ⟨inside, didsWf⟩
      · exact ⟨inside, didsWf⟩

theorem ctNotInuse_wellFormed {state : CtState} (wf : state.WellFormed) (ct : Nat) :
    (ctNotInuse state ct).2.WellFormed := by
  simp only [ctNotInuse]
  split
  · exact wf
  · split
    · exact ⟨wf.inside, exec_wellFormed wf.dids (.get _)⟩
    · exact wf

theorem ctAfter_wellFormed (calls : List ApiCall) : (CtState.after calls).WellFormed := by
  apply @run_invariant _ _ _ (fun _ _ => True) CtState.WellFormed
  · intro state call wf _
    cases call with
    | libct call => exact (result_effect wf call).wellFormed wf
    | libdid call => exact ⟨wf.inside, exec_wellFormed wf.dids call⟩
    | fromValue ct ctVal => exact ctFromValue_wellFormed wf ct ctVal
    | notInuse ct => exact ctNotInuse_wellFormed wf ct
  · exact ⟨by decide, .inl rfl⟩
  · exact guarded_of_forall (fun _ _ => trivial) _ calls

end RioFabric.Libct

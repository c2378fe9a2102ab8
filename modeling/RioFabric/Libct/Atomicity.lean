import RioFabric.Libct.Allocator

/-!
# Failed calls change nothing

`ct_create_from_data` takes a device ID and then a number, and has to give the ID back when
there is no number; `ct_release` has to keep the tag if the ID cannot be released.  For every
call that fails, what is in use afterwards is what was in use before, up to the
initialization that either library makes up for at its first call.
-/

namespace RioFabric.Libct

open Lib Libdid

/-- The calls that take or release something, with `none` for a `NULL` pointer.  Groups
belong to their callers. -/
inductive TakingCall where
  | didCreate (did : Option Did) (size : DidSz)
  | didCreateFromData (did : Option Did) (value : Nat) (size : DidSz)
  | didRelease (did : Did)
  | didAllocDev16Grp (group : Option Unit)
  | didGrpResrvDid (group : Option DidGrp) (did : Option Did)
  | didGrpUnresrvDid (group : Option DidGrp) (did : Did)
  | libct (call : LibctCall)

/-- The group of the caller before a call. -/
def TakingCall.group : TakingCall → Option DidGrp
  | .didGrpResrvDid group _ | .didGrpUnresrvDid group _ => group
  | _ => none

/-- What a call returns, and the variables and the caller's group that it leaves. -/
def TakingCall.result (state : CtState) : TakingCall → DidRc × CtState × Option DidGrp
  | .didCreate none _ | .didCreateFromData none _ _ =>
    (.einval, { state with dids := state.dids.lazyInit }, none)
  | .didCreate (some _) size =>
    let (rc, _, dids) := Libdid.didCreate state.dids size
    (rc, { state with dids := dids }, none)
  | .didCreateFromData (some _) value size =>
    let (rc, _, dids) := Libdid.didCreateFromData state.dids value size
    (rc, { state with dids := dids }, none)
  | .didRelease did =>
    let (rc, dids) := Libdid.didRelease state.dids did
    (rc, { state with dids := dids }, none)
  | .didAllocDev16Grp none => (.einval, state, none)
  | .didAllocDev16Grp (some _) =>
    let (rc, _, dids) := Libdid.didAllocDev16Grp state.dids
    (rc, { state with dids := dids }, none)
  | .didGrpResrvDid (some group) (some did) =>
    let (rc, _, group) := Libdid.didGrpResrvDid group did
    (rc, state, some group)
  | .didGrpResrvDid group _ => (.einval, state, group)
  | .didGrpUnresrvDid (some group) did =>
    let (rc, group) := Libdid.didGrpUnresrvDid group did
    (rc, state, some group)
  | .didGrpUnresrvDid none _ => (.einval, state, none)
  | .libct call =>
    let (rc, _, state) := call.result state
    (rc, state, none)

/-- The same device IDs are in use and the numbers have the same counts, up to
initialization.  That of `libdid` happens once; that of `libct` only retires number 0, which
is not a number of any tag. -/
structure SameInUse (before after : CtState) : Prop where
  dids : after.dids.didIds = before.dids.didIds ∨
    before.dids = .zeroed ∧ after.dids = didInit
  counts : ∀ nr, nr ≠ 0 → after.ctIds nr = before.ctIds nr
  zero : after.ctIds 0 = before.ctIds 0 ∨ before.ctIdx = 0 ∧ after.ctIds 0 = -1

/-- The same entries of a group are reserved. -/
def SameReserved (before after : Option DidGrp) : Prop :=
  after.map DidGrp.lDev16 = before.map DidGrp.lDev16

theorem sameInUse_refl (state : CtState) : SameInUse state state :=
  ⟨.inl rfl, fun _ _ => rfl, .inl rfl⟩

/-! ### The results of the calls of `libdid` -/

section Results

variable (state : CtState)

theorem result_didCreate (did : Did) (size : DidSz) :
    (TakingCall.didCreate (some did) size).result state =
      ((didCreate state.dids size).1, { state with dids := (didCreate state.dids size).2.2 },
        none) := rfl

theorem result_didCreateFromData (did : Did) (value : Nat) (size : DidSz) :
    (TakingCall.didCreateFromData (some did) value size).result state =
      ((didCreateFromData state.dids value size).1,
        { state with dids := (didCreateFromData state.dids value size).2.2 }, none) := rfl

theorem result_didRelease (did : Did) :
    (TakingCall.didRelease did).result state =
      ((didRelease state.dids did).1, { state with dids := (didRelease state.dids did).2 },
        none) := rfl

theorem result_didAllocDev16Grp (group : Unit) :
    (TakingCall.didAllocDev16Grp (some group)).result state =
      ((didAllocDev16Grp state.dids).1, { state with dids := (didAllocDev16Grp state.dids).2.2 },
        none) := rfl

theorem result_didGrpResrvDid (group : DidGrp) (did : Did) :
    (TakingCall.didGrpResrvDid (some group) (some did)).result state =
      ((didGrpResrvDid group did).1, state, some (didGrpResrvDid group did).2.2) := rfl

theorem result_didGrpUnresrvDid (group : DidGrp) (did : Did) :
    (TakingCall.didGrpUnresrvDid (some group) did).result state =
      ((didGrpUnresrvDid group did).1, state, some (didGrpUnresrvDid group did).2) := rfl

end Results

section Failed

variable {state : CtState}

theorem didIds_of_init {dids after : DidState} (wf : dids.WellFormed)
    (inits : after = dids ∨ after = dids.lazyInit) :
    after.didIds = dids.didIds ∨ dids = .zeroed ∧ after = didInit := by
  obtain rfl | rfl := inits
  · exact .inl rfl
  · obtain rfl | ready := wf
    · exact .inr ⟨rfl, rfl⟩
    · left
      rw [DidState.lazyInit, if_neg ready.started.ne']

theorem sameInUse_of_init (wf : state.WellFormed) {init : CtState} {dids : DidState}
    (inits : init = state ∨ init = state.lazyInit)
    (didInits : dids = state.dids ∨ dids = state.dids.lazyInit) :
    SameInUse state { init with dids := dids } where
  dids := didIds_of_init wf.dids didInits
  counts nr valid := by
    obtain rfl | rfl := inits
    · rfl
    · exact lazyInit_ctIds valid
  zero := by
    obtain rfl | rfl := inits
    · exact .inl rfl
    · unfold CtState.lazyInit
      split
      next unstarted => exact .inr ⟨unstarted, Function.update_self 0 (-1) state.ctIds⟩
      next => exact .inl rfl

theorem sameInUse_of_libct_failed (wf : state.WellFormed) {call : LibctCall}
    (failed : (call.result state).1 ≠ .success) : SameInUse state (call.result state).2.2 := by
  have effect := result_effect wf call
  generalize call.result state = result at effect failed ⊢
  cases effect with
  | failed failure inits didInits => exact sameInUse_of_init wf inits didInits
  | issued => contradiction
  | released => contradiction

/-- What a failed call may leave: initialization, and the cursor of the caller's group. -/
structure OnlyInits (state : CtState) (group : Option DidGrp)
    (result : DidRc × CtState × Option DidGrp) : Prop where
  inUse : SameInUse state result.2.1
  reserved : SameReserved group result.2.2

section

variable (wf : state.WellFormed)
include wf

theorem onlyInits_of_init {rc : DidRc} {dids : DidState}
    (didInits : dids = state.dids ∨ dids = state.dids.lazyInit) :
    OnlyInits state none (rc, { state with dids := dids }, none) :=
  ⟨sameInUse_of_init wf (.inl rfl) didInits, rfl⟩

theorem onlyInits_didCreate (did : Option Did) (size : DidSz)
    (failed : ((TakingCall.didCreate did size).result state).1 ≠ .success) :
    OnlyInits state none ((TakingCall.didCreate did size).result state) := by
  cases did with
  | none => exact onlyInits_of_init wf (.inr rfl)
  | some did =>
    obtain ⟨value, created, _⟩ | ⟨rc, _, refused⟩ := didCreate_cases wf.dids size
    · rw [result_didCreate, created] at failed
      exact absurd rfl failed
    · rw [result_didCreate, refused]
      exact onlyInits_of_init wf (.inr rfl)

theorem onlyInits_didCreateFromData (did : Option Did) (value : Nat)
    (size : DidSz)
    (failed : ((TakingCall.didCreateFromData did value size).result state).1 ≠ .success) :
    OnlyInits state none ((TakingCall.didCreateFromData did value size).result state) := by
  cases did with
  | none => exact onlyInits_of_init wf (.inr rfl)
  | some did =>
    obtain ⟨created, _⟩ | ⟨rc, _, refused⟩ := didCreateFromData_cases state.dids value size
    · rw [result_didCreateFromData, created] at failed
      exact absurd rfl failed
    · rw [result_didCreateFromData, refused]
      exact onlyInits_of_init wf (.inr rfl)

theorem onlyInits_didRelease (did : Did)
    (failed : ((TakingCall.didRelease did).result state).1 ≠ .success) :
    OnlyInits state none ((TakingCall.didRelease did).result state) := by
  obtain ⟨released, _⟩ | ⟨rc, _, refused⟩ := didRelease_cases state.dids did
  · rw [result_didRelease, released] at failed
    exact absurd rfl failed
  · rw [result_didRelease, refused]
    exact onlyInits_of_init wf (.inl rfl)

theorem onlyInits_didAllocDev16Grp (group : Option Unit)
    (failed : ((TakingCall.didAllocDev16Grp group).result state).1 ≠ .success) :
    OnlyInits state none ((TakingCall.didAllocDev16Grp group).result state) := by
  cases group with
  | none => exact onlyInits_of_init wf (.inl rfl)
  | some group =>
    obtain ⟨base, allocated, _⟩ | refused := didAllocDev16Grp_cases state.dids
    · rw [result_didAllocDev16Grp, allocated] at failed
      exact absurd rfl failed
    · rw [result_didAllocDev16Grp, refused]
      exact onlyInits_of_init wf (.inr rfl)

end

theorem onlyInits_didGrpResrvDid (state : CtState) (group : Option DidGrp) (did : Option Did)
    (failed : ((TakingCall.didGrpResrvDid group did).result state).1 ≠ .success) :
    OnlyInits state group ((TakingCall.didGrpResrvDid group did).result state) := by
  match group, did with
  | none, _ => exact ⟨sameInUse_refl state, rfl⟩
  | some group, none => exact ⟨sameInUse_refl state, rfl⟩
  | some group, some did =>
    obtain ⟨idx, next, reserved, _⟩ | ⟨rc, next, _, refused⟩ := didGrpResrvDid_cases group did
    · rw [result_didGrpResrvDid, reserved] at failed
      exact absurd rfl failed
    · rw [result_didGrpResrvDid, refused]
      exact ⟨sameInUse_refl state, rfl⟩

theorem onlyInits_didGrpUnresrvDid (state : CtState) (group : Option DidGrp) (did : Did)
    (failed : ((TakingCall.didGrpUnresrvDid group did).result state).1 ≠ .success) :
    OnlyInits state group ((TakingCall.didGrpUnresrvDid group did).result state) := by
  cases group with
  | none => exact ⟨sameInUse_refl state, rfl⟩
  | some group =>
    obtain ⟨next, freed, _⟩ | ⟨rc, _, refused⟩ := didGrpUnresrvDid_cases group did
    · rw [result_didGrpUnresrvDid, freed] at failed
      exact absurd rfl failed
    · rw [result_didGrpUnresrvDid, refused]
      exact ⟨sameInUse_refl state, rfl⟩

end Failed

/-- A call that fails, whatever calls went before it, leaves the same device IDs and numbers
in use, and the same entries of the caller's group reserved. -/
theorem failed_call_keeps_inUse (calls : List ApiCall) (call : TakingCall)
    (failed : (call.result (CtState.after calls)).1 ≠ .success) :
    OnlyInits (CtState.after calls) call.group (call.result (CtState.after calls)) := by
  have wf := ctAfter_wellFormed calls
  cases call with
  | didCreate did size => exact onlyInits_didCreate wf did size failed
  | didCreateFromData did value size => exact onlyInits_didCreateFromData wf did value size failed
  | didRelease did => exact onlyInits_didRelease wf did failed
  | didAllocDev16Grp group => exact onlyInits_didAllocDev16Grp wf group failed
  | didGrpResrvDid group did => exact onlyInits_didGrpResrvDid _ group did failed
  | didGrpUnresrvDid group did => exact onlyInits_didGrpUnresrvDid _ group did failed
  | libct call => exact ⟨sameInUse_of_libct_failed wf failed, rfl⟩

/-- Number 1 is given out and released. -/
def oneRetired : List ApiCall :=
  [.libct (.createAll (some 0) (some didInvalidId) .dev08Sz),
    .libct (.release 0x10001 ⟨1, .dev08Sz⟩)]

/-- A tag with the retired number is refused, and device ID 5 given back. -/
theorem failed_call_gives_did_back :
    let call : TakingCall := .libct (.createFromData (some 0) (some didInvalidId) 1 5 .dev08Sz)
    (call.result (CtState.after oneRetired)).1 = .ekeyexpired ∧
      OnlyInits (CtState.after oneRetired) none (call.result (CtState.after oneRetired)) := by
  intro call
  have refused : (call.result (CtState.after oneRetired)).1 = .ekeyexpired := by decide +kernel
  have failed : (call.result (CtState.after oneRetired)).1 ≠ .success := by
    rw [refused]
    decide
  exact ⟨refused, failed_call_keeps_inUse oneRetired call failed⟩

end RioFabric.Libct

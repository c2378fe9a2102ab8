import RioFabric.Libct.Allocator

/-!
# Numbers are not recycled

Callers see which numbers `libct` gives out and which releases it accepts.  Beside the
variables of the library a ledger keeps how often each number was given out and released;
the counts of the library agree with it after every sequence of calls, also when the cursor
wraps and the library initializes itself again.
-/

namespace RioFabric.Libct

open Lib Libdid

/-- The variables, and how often each number has been given out and released. -/
structure CtLedger where
  state : CtState
  issued : Nat → Nat
  released : Nat → Nat

/-- The number that a call gives out. -/
def issuedNr : DidRc × Option Nat × CtState → Option Nat
  | (.success, some tag, _) => some (ctNr tag)
  | _ => none

/-- The number of the tag that a call releases. -/
def LibctCall.releasedNr : LibctCall → DidRc × Option Nat × CtState → Option Nat
  | .release ct _, (.success, none, _) => some (ctNr ct)
  | _, _ => none

/-- One more for a number, if there is one. -/
def count (counts : Nat → Nat) : Option Nat → Nat → Nat
  | some nr => Function.update counts nr (counts nr + 1)
  | none => counts

/-- Calls of `libct` and of `libdid`. -/
abbrev AllocatorCall := LibctCall ⊕ LibdidCall

/-- One call, noted in the ledger. -/
def CtLedger.exec (ledger : CtLedger) : AllocatorCall → CtLedger
  | .inl call =>
    let result := call.result ledger.state
    { state := result.2.2
      issued := count ledger.issued (issuedNr result)
      released := count ledger.released (call.releasedNr result) }
  | .inr call =>
    { ledger with state := { ledger.state with dids := call.exec ledger.state.dids } }

/-- The ledger after a sequence of calls. -/
abbrev CtLedger.after (calls : List AllocatorCall) : CtLedger :=
  run CtLedger.exec ⟨.zeroed, 0, 0⟩ calls

/-- The count for a number that has been given out and released so often. -/
def account (issued released : Nat) : Int :=
  if issued = 0 then 0 else if issued = released then -1 else issued - released

variable {released : Nat} {ledger : CtLedger} {nr : Nat} {state : CtState}

theorem account_issue {issued : Nat} (released_le : released ≤ issued)
    (notRetired : account issued released ≠ -1) :
    account (issued + 1) released = account issued released + 1 := by
  unfold account at notRetired ⊢
  split at notRetired
  · simp_all
  · split at notRetired
    · contradiction
    · rw [if_neg (by omega), if_neg (by omega), if_neg ‹_›, if_neg ‹_›]
      omega

theorem account_release {issued : Nat} (inUse : 1 ≤ account issued released) :
    released + 1 ≤ issued ∧
      account issued (released + 1) =
        if account issued released = 1 then -1 else account issued released - 1 := by
  unfold account at inUse ⊢
  split at inUse
  · contradiction
  · split at inUse
    · contradiction
    · simp only [*, if_false]
      refine ⟨by omega, ?_⟩
      split
      · rw [if_pos (by omega)]
      · rw [if_neg (by omega)]
        omega

/-- The counts of the library agree with the ledger, and number 0 is out of use. -/
structure CtLedger.Balanced (ledger : CtLedger) : Prop where
  wf : ledger.state.WellFormed
  released_le : ∀ nr, ledger.released nr ≤ ledger.issued nr
  counts : ∀ nr, nr ≠ 0 → ledger.state.ctIds nr = account (ledger.issued nr) (ledger.released nr)
  zeroRetired : ledger.state.ctIdx ≠ 0 → ledger.state.ctIds 0 = -1

theorem balanced_start : CtLedger.Balanced ⟨.zeroed, 0, 0⟩ where
  wf := ⟨by decide, .inl rfl⟩
  released_le _ := Nat.le_refl _
  counts _ _ := rfl
  zeroRetired started := absurd rfl started

namespace CtLedger.Balanced

variable {ledger : CtLedger} {dids : DidState}

section

variable (balanced : ledger.Balanced)
include balanced

theorem lazyInit_zero : ledger.state.lazyInit.ctIds 0 = -1 := by
  unfold CtState.lazyInit
  split
  · simp [ CtState.initialize]
  next started => exact balanced.zeroRetired started

theorem issue {nr idx : Nat}
    (notRetired : ledger.state.lazyInit.ctIds nr ≠ -1) (inside : idx < 0x10000)
    (didsWf : dids.WellFormed) :
    CtLedger.Balanced
      { ledger with
        state := { ledger.state.lazyInit.register nr with ctIdx := idx, dids := dids }
        issued := count ledger.issued (some nr) } := by
  have valid : nr ≠ 0 := by
    rintro rfl
    exact notRetired balanced.lazyInit_zero
  constructor
  · exact ⟨inside, didsWf⟩
  · intro other
    have before := balanced.released_le other
    obtain rfl | different := eq_or_ne other nr
    · simp only [count, Function.update_self]
      omega
    · simpa only [count, Function.update_of_ne different] using before
  · intro other otherValid
    obtain rfl | different := eq_or_ne other nr
    · rw [lazyInit_ctIds valid, balanced.counts other valid] at notRetired
      simp only [count, CtState.register, CtState.setCount, Function.update_self]
      rw [account_issue (balanced.released_le other) notRetired, lazyInit_ctIds valid,
        balanced.counts other valid]
    · simp only [count, CtState.register, CtState.setCount, Function.update_of_ne different]
      rw [lazyInit_ctIds otherValid]
      exact balanced.counts other otherValid
  · intro _
    simp only [CtState.register, CtState.setCount, Function.update_of_ne valid.symm]
    exact balanced.lazyInit_zero

theorem release {nr : Nat} (valid : nr ≠ 0)
    (inUse : 1 ≤ ledger.state.ctIds nr) (didsWf : dids.WellFormed) :
    CtLedger.Balanced
      { ledger with
        state :=
          { ledger.state.setCount nr
              (if ledger.state.ctIds nr = 1 then -1 else ledger.state.ctIds nr - 1) with
            dids := dids }
        released := count ledger.released (some nr) } := by
  rw [balanced.counts nr valid] at inUse
  obtain ⟨left, account_eq⟩ := account_release inUse
  constructor
  · exact ⟨balanced.wf.inside, didsWf⟩
  · intro other
    obtain rfl | different := eq_or_ne other nr
    · simpa only [count, Function.update_self] using left
    · simpa only [count, Function.update_of_ne different] using balanced.released_le other
  · intro other otherValid
    obtain rfl | different := eq_or_ne other nr
    · simp only [count, CtState.setCount, Function.update_self]
      rw [account_eq, balanced.counts other valid]
    · simp only [count, CtState.setCount, Function.update_of_ne different]
      exact balanced.counts other otherValid
  · intro started
    simp only [CtState.setCount, Function.update_of_ne valid.symm]
    exact balanced.zeroRetired started

theorem fail {init : CtState}
    (inits : init = ledger.state ∨ init = ledger.state.lazyInit)
    (didInits : dids = ledger.state.dids ∨ dids = ledger.state.dids.lazyInit) :
    CtLedger.Balanced { ledger with state := { init with dids := dids } } where
  wf := (@TagEffect.failed _ (.release 0 ⟨0, .invldSz⟩) .einval none _ _ (by decide) inits
    didInits).wellFormed balanced.wf
  released_le := balanced.released_le
  counts nr valid := by
    obtain rfl | rfl := inits
    · exact balanced.counts nr valid
    · exact (lazyInit_ctIds valid).trans (balanced.counts nr valid)
  zeroRetired started := by
    obtain rfl | rfl := inits
    · exact balanced.zeroRetired started
    · exact balanced.lazyInit_zero

end

end CtLedger.Balanced

theorem exec_balanced (balanced : ledger.Balanced) (call : AllocatorCall) :
    (ledger.exec call).Balanced := by
  cases call with
  | inr call =>
    exact ⟨⟨balanced.wf.inside, exec_wellFormed balanced.wf.dids call⟩, balanced.released_le,
      balanced.counts, balanced.zeroRetired⟩
  | inl call =>
    have effect := result_effect balanced.wf call
    simp only [CtLedger.exec]
    generalize call.result ledger.state = result at effect ⊢
    cases effect with
    | failed failure inits didInits =>
      rename_i rc tag init dids
      have unissued : issuedNr (rc, tag, { init with dids := dids }) = none := by
        cases rc <;> simp_all [issuedNr]
      have unreleased : call.releasedNr (rc, tag, { init with dids := dids }) = none := by
        cases call <;> cases rc <;> simp_all [LibctCall.releasedNr]
      rw [unissued, unreleased]
      exact balanced.fail inits didInits
    | issued inRange notRetired picked inside didsWf =>
      have unreleased {nr value : Nat} {after : CtState} :
          call.releasedNr (.success, some (ctFromNrDid nr value), after) = none := by
        cases call <;> rfl
      rw [unreleased, issuedNr, ctNr_ctFromNrDid inRange]
      exact balanced.issue notRetired inside didsWf
    | released valid inUse didsWf => exact balanced.release valid inUse didsWf

theorem after_balanced (calls : List AllocatorCall) : (CtLedger.after calls).Balanced := by
  apply @run_invariant _ _ _ (fun _ _ => True) CtLedger.Balanced
  · intro ledger call balanced _
    exact exec_balanced balanced call
  · exact balanced_start
  · exact guarded_of_forall (fun _ _ => trivial) _ calls

/-- Each tag that was given out with this number has been released. -/
def CtLedger.FullyReleased (ledger : CtLedger) (nr : Nat) : Prop :=
  0 < ledger.issued nr ∧ ledger.issued nr = ledger.released nr

theorem notRetired_of_issuedNr {call : LibctCall} (balanced : ledger.Balanced)
    (issues : issuedNr (call.result ledger.state) = some nr) :
    nr ≠ 0 ∧ account (ledger.issued nr) (ledger.released nr) ≠ -1 ∧
      (call.PicksNumber → account (ledger.issued nr) (ledger.released nr) = 0) := by
  have effect := result_effect balanced.wf call
  generalize call.result ledger.state = result at effect issues
  cases effect with
  | failed failure inits didInits =>
    rename_i rc tag init dids
    cases rc <;> simp_all [issuedNr]
  | issued inRange notRetired picked inside didsWf =>
    rw [issuedNr, ctNr_ctFromNrDid inRange, Option.some.injEq] at issues
    rw [issues] at notRetired picked
    have valid : nr ≠ 0 := by
      rintro rfl
      exact notRetired balanced.lazyInit_zero
    rw [lazyInit_ctIds valid, balanced.counts nr valid] at notRetired picked
    exact ⟨valid, notRetired, fun picks => (picked picks).2⟩
  | released valid inUse didsWf => cases issues

section

variable (balanced : ledger.Balanced)
include balanced

section

variable (full : ledger.FullyReleased nr)
include full

theorem exec_issued_of_fullyReleased
    (call : AllocatorCall) :
    (ledger.exec call).issued nr = ledger.issued nr := by
  cases call with
  | inr call => rfl
  | inl call =>
    simp only [CtLedger.exec]
    cases issues : issuedNr (call.result ledger.state) with
    | none => rfl
    | some other =>
      have notRetired := (notRetired_of_issuedNr balanced issues).2.1
      have different : nr ≠ other := by
        rintro rfl
        unfold account at notRetired
        rw [if_neg (by have := full.1; omega), if_pos full.2] at notRetired
        contradiction
      exact Function.update_of_ne different _ _

theorem exec_fullyReleased
    (call : AllocatorCall) :
    (ledger.exec call).FullyReleased nr := by
  have issued := exec_issued_of_fullyReleased balanced full call
  have above := (exec_balanced balanced call).released_le nr
  refine ⟨issued ▸ full.1, Nat.le_antisymm ?_ above⟩
  rw [issued, full.2]
  cases call with
  | inr call => exact Nat.le_refl _
  | inl call =>
    simp only [CtLedger.exec]
    cases call.releasedNr (call.result ledger.state) with
    | none => exact Nat.le_refl _
    | some other =>
      obtain rfl | different := eq_or_ne nr other
      · simp only [count, Function.update_self]
        omega
      · simp [count, Function.update_of_ne different]

/-- No later call gives out a number whose tags have all been released. -/
theorem run_issued_of_fullyReleased
    (later : List AllocatorCall) :
    (run CtLedger.exec ledger later).issued nr = ledger.issued nr := by
  induction later generalizing ledger with
  | nil => rfl
  | cons call later ih =>
    have rest := ih (exec_balanced balanced call) (exec_fullyReleased balanced full call)
    exact rest.trans (exec_issued_of_fullyReleased balanced full call)

end

theorem ctNextNr_of_neverIssued (valid : nr ≠ 0)
    (inRange : nr < 0x10000) (neverIssued : ledger.issued nr = 0) :
    ∃ other, ledger.state.lazyInit.ctNextNr = some other := by
  apply Option.ne_none_iff_exists'.mp
  intro failed
  apply ctIds_ne_zero_of_ctNextNr (lazyInit_inside balanced.wf.inside) failed valid inRange
  rw [lazyInit_ctIds valid, balanced.counts nr valid, neverIssued]
  rfl

end

theorem ctCreateAll_rc (found : state.lazyInit.ctNextNr = some nr) (ct : Nat) (did : Did)
    (size : DidSz) :
    (ctCreateAll state (some ct) (some did) size).1 = (didCreate state.dids size).1 := by
  simp only [ctCreateAll, found, lazyInit_dids]
  split
  next success => exact success.symm
  next => rfl

theorem ctCreateFromDid_rc (found : state.lazyInit.ctNextNr = some nr) (ct : Nat) (did : Did) :
    (ctCreateFromDid state (some ct) did).1 = (didGet state.dids did.value).1 := by
  simp only [ctCreateFromDid, found, lazyInit_dids]
  split
  next success => exact success.symm
  next => rfl

/-- In every sequence of calls: a number is not given out any more once each of its tags is
released; `ct_create_all` and `ct_create_from_did` give out numbers that were never given out
before; and as long as there is such a number, they fail only if `libdid` does. -/
theorem ct_numbers_not_recycled :
    (∀ calls nr, (CtLedger.after calls).FullyReleased nr → ∀ later,
        (CtLedger.after (calls ++ later)).issued nr = (CtLedger.after calls).issued nr) ∧
      (∀ calls (call : LibctCall) nr, call.PicksNumber →
        issuedNr (call.result (CtLedger.after calls).state) = some nr →
          (CtLedger.after calls).issued nr = 0) ∧
      ∀ calls nr, nr ≠ 0 → nr < 0x10000 → (CtLedger.after calls).issued nr = 0 →
        (∀ ct did size, (ctCreateAll (CtLedger.after calls).state (some ct) (some did) size).1 =
            (didCreate (CtLedger.after calls).state.dids size).1) ∧
          ∀ ct did, (ctCreateFromDid (CtLedger.after calls).state (some ct) did).1 =
            (didGet (CtLedger.after calls).state.dids did.value).1 := by
  refine ⟨fun calls nr full later => ?_, fun calls call nr picks issues => ?_,
    fun calls nr valid inRange neverIssued => ?_⟩
  · have rest := run_issued_of_fullyReleased (after_balanced calls) full later
    rwa [show CtLedger.after (calls ++ later) = run CtLedger.exec (CtLedger.after calls) later from
      List.foldl_append]
  · have balanced := after_balanced calls
    have free := (notRetired_of_issuedNr balanced issues).2.2 picks
    have released_le := balanced.released_le nr
    unfold account at free
    split at free
    · assumption
    · split at free
      · contradiction
      · omega
  · obtain ⟨other, found⟩ :=
      ctNextNr_of_neverIssued (after_balanced calls) valid inRange neverIssued
    exact ⟨ctCreateAll_rc found, ctCreateFromDid_rc found⟩

/-- Number 1 is given out, released and not given out again. -/
theorem ct_numbers_not_recycled_first :
    let calls : List AllocatorCall :=
      [.inl (.createAll (some 0) (some didInvalidId) .dev08Sz),
        .inl (.release 0x10001 ⟨1, .dev08Sz⟩)]
    (CtLedger.after calls).FullyReleased 1 ∧
      ∀ later, (CtLedger.after (calls ++ later)).issued 1 = 1 := by
  have full : (CtLedger.after [.inl (.createAll (some 0) (some didInvalidId) .dev08Sz),
      .inl (.release 0x10001 ⟨1, .dev08Sz⟩)]).FullyReleased 1 := by
    constructor
    · decide +kernel
    · decide +kernel
  refine ⟨full, fun later => (ct_numbers_not_recycled.1 _ 1 full later).trans ?_⟩
  decide +kernel

end RioFabric.Libct

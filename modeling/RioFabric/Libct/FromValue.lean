import RioFabric.Libct.Allocator

/-!
# Tags that arrive in messages

`ct_from_value` should register a tag that another node has made, once.  It asks
`did_not_inuse`, which answers 1 for an ID in use, as if the answer were the other way round,
and takes the number from the upper half of the tag without moving it down: an ID that is in
use makes it count number 0, and a fresh one makes it count nothing.
-/

namespace RioFabric.Libct

open Lib Libdid

/-- A word whose number and device ID are valid. -/
structure ValidTag (ctVal : Nat) : Prop where
  fits : ctVal < 2 ^ 32
  nr : ctNr ctVal ≠ 0
  did : didCheck (didOfTag ctVal).value (didOfTag ctVal).size = none

/-- The variables after `ct_from_value` has been given a pointer and a tag. -/
def CtState.withTag (state : CtState) (ctVal : Nat) : CtState :=
  (ctFromValue state (some comptagUnset) ctVal).2.2

/-- The tag is registered: the count of its number changes and no other, it shows as in use
and can be released, and registering it again makes no difference. -/
structure RegistersTag (state : CtState) (ctVal : Nat) : Prop where
  counted : ∀ nr, (state.withTag ctVal).ctIds nr ≠ state.lazyInit.ctIds nr →
    ctGetNr ctVal = (.success, nr)
  inUse : (ctNotInuse (state.withTag ctVal) ctVal).1 = .ok true
  released : (ctRelease (state.withTag ctVal) ctVal (didOfTag ctVal)).1 = .success
  again : (state.withTag ctVal).withTag ctVal = state.withTag ctVal

section Registration

variable {state : CtState} {ctVal : Nat}

theorem countedNr_eq_zero (ctVal : Nat) : (0xFFFF0000 &&& ctVal) % 0x10000 = 0 := by
  rw [Nat.and_comm, and_field ctVal 0xFFFF0000 16 16 rfl]
  omega

theorem nonzero_didNotInuse {dids : DidState} {did : Did}
    (valid : didCheck did.value did.size = none) :
    nonzero (didNotInuse dids did) = !decide (dids.Free did.value) := by
  simp [didNotInuse, valid, nonzero]

theorem ctFromValue_of_used (valid : ValidTag ctVal)
    (used : ¬state.dids.Free (didOfTag ctVal).value) (ct : Nat) :
    ctFromValue state (some ct) ctVal = (.success, some ctVal, state.lazyInit.register 0) := by
  simp [ctFromValue, nonzero_didNotInuse valid.did, used, countedNr_eq_zero]

theorem sizeOfInt_didOfTag (ctVal : Nat) :
    sizeOfInt (if (didOfTag ctVal).size = .dev16Sz then 1 else 0) = (didOfTag ctVal).size := by
  unfold didOfTag
  split <;> rfl

section

variable (valid : ValidTag ctVal)
include valid

theorem ctFromValue_of_free (free : state.dids.Free (didOfTag ctVal).value) (ct : Nat) :
    ctFromValue state (some ct) ctVal =
      (.success, some ctVal,
        { state.lazyInit with
          dids :=
            if state.dids.lazyInit.Free (didOfTag ctVal).value then
              state.dids.lazyInit.mark (didOfTag ctVal).value (didOfTag ctVal).size
            else state.dids.lazyInit }) := by
  have notUsed : nonzero (didNotInuse state.dids (didOfTag ctVal)) = false := by
    rw [nonzero_didNotInuse valid.did, decide_eq_true free]
    rfl
  simp [ctFromValue, notUsed, didFromValue, sizeOfInt_didOfTag, valid.did]

theorem ctFromValue_success (ct : Nat) :
    (ctFromValue state (some ct) ctVal).1 = .success ∧
      ¬(ctFromValue state (some ct) ctVal).2.2.dids.Free (didOfTag ctVal).value := by
  by_cases free : state.dids.Free (didOfTag ctVal).value
  · rw [ctFromValue_of_free valid free]
    refine ⟨rfl, ?_⟩
    split
    next =>
      rw [DidState.mark_free_iff (didCheck_eq_none valid.did).2.2]
      exact fun unused => unused.1 rfl
    next used => exact used
  · rw [ctFromValue_of_used valid free]
    refine ⟨rfl, ?_⟩
    simpa only [CtState.register, CtState.setCount, lazyInit_dids] using free

theorem withTag_again :
    (state.withTag ctVal).withTag ctVal = (state.withTag ctVal).lazyInit.register 0 := by
  have used : ¬(state.withTag ctVal).dids.Free (didOfTag ctVal).value :=
    (ctFromValue_success valid _).2
  change (ctFromValue (state.withTag ctVal) _ ctVal).2.2 = _
  rw [ctFromValue_of_used valid used]

theorem withTag_initialized :
    (state.withTag ctVal).lazyInit = state.withTag ctVal := by
  have started : (state.withTag ctVal).ctIdx = state.lazyInit.ctIdx := by
    by_cases free : state.dids.Free (didOfTag ctVal).value
    · rw [CtState.withTag, ctFromValue_of_free valid free]
    · rw [CtState.withTag, ctFromValue_of_used valid free]
      rfl
  exact if_neg (started ▸ (@lazyInit_started state).ne')

end

end Registration

/-- Whatever calls went before, `ct_from_value` accepts every valid tag and never registers
it. -/
theorem ctFromValue_never_registers (calls : List ApiCall) {ctVal : Nat} (valid : ValidTag ctVal) :
    (∀ ct, (ctFromValue (CtState.after calls) (some ct) ctVal).1 = .success) ∧
      ¬RegistersTag (CtState.after calls) ctVal := by
  refine ⟨fun ct => (ctFromValue_success valid ct).1, fun registers => ?_⟩
  have again := registers.again
  rw [withTag_again valid, withTag_initialized valid] at again
  have counts := congrFun (congrArg CtState.ctIds again) 0
  simp only [CtState.register, CtState.setCount, Function.update_self] at counts
  omega

theorem validTag_deadbeef : ValidTag 0xDEADBEEF := ⟨by decide, by decide, by decide⟩

theorem ctFromValue_never_registers_deadbeef :
    (∀ ct, (ctFromValue .zeroed (some ct) 0xDEADBEEF).1 = .success) ∧
      ¬RegistersTag .zeroed 0xDEADBEEF :=
  ctFromValue_never_registers [] validTag_deadbeef

/-- Nothing is counted for a tag with a fresh device ID, so it is not in use and cannot be
released; the second time, number 0 is counted. -/
theorem ctFromValue_deadbeef :
    let first := CtState.withTag .zeroed 0xDEADBEEF
    (ctFromValue .zeroed (some 0) 0xDEADBEEF).1 = .success ∧
      first.ctIds 0xDEAD = 0 ∧ (ctNotInuse first 0xDEADBEEF).1 = .ok false ∧
        (ctRelease first 0xDEADBEEF ⟨0xBEEF, .dev16Sz⟩).1 = .einval ∧
          first.ctIds 0 = -1 ∧ (first.withTag 0xDEADBEEF).ctIds 0 = 0 ∧
            ¬RegistersTag .zeroed 0xDEADBEEF := by
  refine ⟨by decide +kernel, by decide +kernel, by rfl, by decide +kernel, by decide +kernel,
    by decide +kernel, ?_⟩
  intro registers
  have released := registers.released
  have refused : (ctRelease (CtState.withTag .zeroed 0xDEADBEEF) 0xDEADBEEF
      (didOfTag 0xDEADBEEF)).1 = .einval := by decide +kernel
  rw [refused] at released
  contradiction

end RioFabric.Libct

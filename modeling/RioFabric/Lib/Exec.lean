import Mathlib.Data.Nat.Bitwise
import Mathlib.Data.Set.Insert
import Mathlib.Tactic.IntervalCases

/-!
# Programs that stop with a code

C routines that write through output parameters and return early are modelled as
`EStateM` programs: the state holds the structures written so far and survives an
early return.  This module collects the rules used to step through such programs,
independently of any particular state.
-/

namespace RioFabric.Lib

variable {ε σ α β : Type} {state final : σ}

/-- Return early with `code` when `condition` holds. -/
def failIf (condition : Prop) [Decidable condition] (code : ε) : EStateM ε σ Unit :=
  if condition then throw code else pure ()

theorem failIf_run (condition : Prop) [Decidable condition] (code : ε) (state : σ) :
    (failIf condition code : EStateM ε σ Unit).run state =
      if condition then .error code state else .ok () state := by
  unfold failIf
  split <;> rfl

/-- Return the value of an optional result, or stop with `code`. -/
def orFail (result : Option α) (code : ε) : EStateM ε σ α :=
  match result with
  | some value => pure value
  | none => throw code

@[simp] theorem orFail_some (value : α) (code : ε) :
    (orFail (some value) code : EStateM ε σ α) = pure value := rfl

@[simp] theorem orFail_none_run (code : ε) (state : σ) :
    (orFail none code : EStateM ε σ α).run state = .error code state := rfl

theorem bind_ok_iff {first : EStateM ε σ α} {next : α → EStateM ε σ β} {result : β} :
    (first >>= next).run state = .ok result final ↔
      ∃ value middle, first.run state = .ok value middle ∧
        (next value).run middle = .ok result final := by
  rw [EStateM.run_bind]
  cases first.run state with
  | ok value middle => simp
  | error code middle => simp

/-- A guard succeeds exactly when its condition is false, and changes nothing. -/
theorem failIf_ok_iff {condition : Prop} [Decidable condition] {code : ε} {result : Unit} :
    (failIf condition code : EStateM ε σ Unit).run state = .ok result final ↔
      ¬condition ∧ state = final := by
  rw [failIf_run]
  split <;> simp_all

theorem orFail_ok_iff {result : Option α} {code : ε} {value : α} :
    (orFail result code : EStateM ε σ α).run state = .ok value final ↔
      result = some value ∧ state = final := by
  cases result with
  | none => simp
  | some other => simp

theorem get_bind_run (next : σ → EStateM ε σ α) (state : σ) :
    (get >>= next).run state = (next state).run state := rfl

theorem get_ok_iff {value : σ} :
    (get : EStateM ε σ σ).run state = .ok value final ↔
      state = value ∧ state = final := by
  simp

theorem pure_ok_iff {result value : α} :
    (pure value : EStateM ε σ α).run state = .ok result final ↔
      value = result ∧ state = final := by
  simp

theorem modify_ok_iff {change : σ → σ} {result : PUnit} :
    (modify change : EStateM ε σ PUnit).run state = .ok result final ↔
      final = change state := by
  simp [eq_comm]

/-- The state that a program leaves, also when it stops early. -/
def finalState : EStateM.Result ε σ α → σ
  | .ok _ final => final
  | .error _ final => final

/-- Whether a program ran to its end. -/
def succeeded : EStateM.Result ε σ α → Bool
  | .ok _ _ => true
  | .error _ _ => false

theorem exists_ok_of_succeeded {result : EStateM.Result ε σ Unit}
    (success : succeeded result = true) : ∃ final, result = .ok () final := by
  cases result with
  | ok value final => exact ⟨final, rfl⟩
  | error code final => cases success

/-- From related states, `second` succeeds whenever `first` does, with the same value, and
leaves related states. -/
def Follows (R : σ → σ → Prop) (first second : EStateM ε σ α) : Prop :=
  ∀ ⦃left right : σ⦄ ⦃value : α⦄ ⦃final : σ⦄, R left right → first.run left = .ok value final →
    ∃ other, second.run right = .ok value other ∧ R final other

namespace Follows

variable {R : σ → σ → Prop} {first second : EStateM ε σ α} {next after : α → EStateM ε σ β}

/-- The second halves need only be compared for results the first half can have. -/
theorem bind_of_ok (head : Follows R first second)
    (tail : ∀ value left middle, first.run left = .ok value middle →
      Follows R (next value) (after value)) :
    Follows R (first >>= next) (second >>= after) := by
  intro left right result final related succeeds
  obtain ⟨value, middle, ran, rest⟩ := bind_ok_iff.mp succeeds
  obtain ⟨otherMiddle, otherRan, relatedMiddle⟩ := head related ran
  obtain ⟨other, otherRest, relatedFinal⟩ := tail value left middle ran relatedMiddle rest
  exact ⟨other, bind_ok_iff.mpr ⟨value, otherMiddle, otherRan, otherRest⟩, relatedFinal⟩

theorem bind (head : Follows R first second)
    (tail : ∀ value, Follows R (next value) (after value)) :
    Follows R (first >>= next) (second >>= after) :=
  bind_of_ok head fun value _ _ _ => tail value

theorem pure (value : α) : Follows R (Pure.pure value : EStateM ε σ α) (Pure.pure value) := by
  intro left right result final related succeeds
  obtain ⟨rfl, rfl⟩ := pure_ok_iff.mp succeeds
  exact ⟨right, rfl, related⟩

theorem failIf (condition : Prop) [Decidable condition] (code : ε) :
    Follows R (failIf condition code) (failIf condition code) := by
  intro left right result final related succeeds
  obtain ⟨passes, rfl⟩ := failIf_ok_iff.mp succeeds
  exact ⟨right, failIf_ok_iff.mpr ⟨passes, rfl⟩, related⟩

theorem orFail (result : Option α) (code : ε) :
    Follows R (orFail result code) (orFail result code) := by
  intro left right value final related succeeds
  obtain ⟨present, rfl⟩ := orFail_ok_iff.mp succeeds
  exact ⟨right, orFail_ok_iff.mpr ⟨present, rfl⟩, related⟩

end Follows

/-- A run comes to its end with a value and in a state that pass a test. -/
def endsWith (test : α → σ → Bool) : EStateM.Result ε σ α → Bool
  | .ok value final => test value final
  | .error _ _ => false

theorem exists_of_endsWith {test : α → σ → Bool} {result : EStateM.Result ε σ α}
    (ends : endsWith test result = true) :
    ∃ value final, result = .ok value final ∧ test value final = true := by
  cases result with
  | ok value final => exact ⟨value, final, rfl, ends⟩
  | error code final => cases ends

section Loops

variable {ι : Type} {body : ι → EStateM ε σ Unit} {Inv : Set ι → σ → Prop} {β : Type} {first : β}
  {turn : β → ι → Except ε β} {cells : List ι}

theorem insert_union_cells (idx : ι) (cells : List ι) (done : Set ι) :
    insert idx done ∪ {other | other ∈ cells} = done ∪ {other | other ∈ idx :: cells} := by
  ext other
  simp only [Set.mem_union, Set.mem_insert_iff, Set.mem_ofPred_eq, List.mem_cons]
  tauto

theorem forM_total (turn : ∀ done idx state, Inv done state →
      ∃ final, (body idx).run state = .ok () final ∧ Inv (insert idx done) final)
    (cells : List ι) {done : Set ι} {state : σ} (before : Inv done state) :
    ∃ final, (cells.forM body).run state = .ok () final ∧
      Inv (done ∪ {idx | idx ∈ cells}) final := by
  induction cells generalizing done state with
  | nil => exact ⟨state, rfl, by simpa using before⟩
  | cons idx cells ih =>
    obtain ⟨middle, first, after⟩ := turn done idx state before
    obtain ⟨final, rest, holds⟩ := ih after
    refine ⟨final, ?_, insert_union_cells idx cells done ▸ holds⟩
    rw [show (idx :: cells).forM body = body idx >>= fun _ => cells.forM body from rfl]
    exact bind_ok_iff.mpr ⟨(), middle, first, rest⟩

/-- A loop over numbers in order that did not stop; the invariant says what holds before each
turn. -/
theorem foldlM_range_ok {turn : β → Nat → Except ε β} {Inv : Nat → β → Prop} {count : Nat}
    (step : ∀ idx < count, ∀ carried next, Inv idx carried →
      turn carried idx = .ok next → Inv (idx + 1) next) {last : β} (before : Inv 0 first)
    (ran : (List.range count).foldlM turn first = .ok last) : Inv count last := by
  induction count generalizing last with
  | zero =>
    cases ran
    exact before
  | succ count ih =>
    rw [List.range_succ, List.foldlM_append] at ran
    cases earlier : (List.range count).foldlM turn first with
    | error code =>
      rw [earlier] at ran
      cases ran
    | ok middle =>
      rw [earlier] at ran
      change ([count].foldlM turn middle : Except ε β) = .ok last at ran
      rw [List.foldlM_cons] at ran
      cases turned : turn middle count with
      | error code =>
        rw [turned] at ran
        cases ran
      | ok next =>
        rw [turned] at ran
        cases ran
        have soFar := ih (fun idx smaller => step idx (Nat.lt_succ_of_lt smaller)) earlier
        exact step count (Nat.lt_succ_self count) middle _ soFar turned

/-- A loop over a list that did not stop; the invariant says what holds after the turns for a
list. -/
theorem foldlM_prefix_ok {Inv : List ι → β → Prop}
    (step : ∀ done carried idx next, Inv done carried → turn carried idx = .ok next →
      Inv (done ++ [idx]) next) {done : List ι} {last : β} (before : Inv done first)
    (ran : cells.foldlM turn first = .ok last) : Inv (done ++ cells) last := by
  induction cells generalizing done first with
  | nil =>
    cases ran
    rwa [List.append_nil]
  | cons idx cells ih =>
    rw [List.foldlM_cons] at ran
    cases turned : turn first idx with
    | error code =>
      rw [turned] at ran
      cases ran
    | ok next =>
      rw [turned] at ran
      rw [List.append_cons]
      exact ih (step done first idx next before turned) ran

/-- A loop over a list none of whose turns stops; the invariant says what holds before the turns for
a list. -/
theorem foldlM_rest_total {Inv : List ι → β → Prop}
    (step : ∀ idx rest carried, Inv (idx :: rest) carried →
      ∃ next, turn carried idx = .ok next ∧ Inv rest next) (before : Inv cells first) :
    ∃ last, cells.foldlM turn first = .ok last := by
  induction cells generalizing first with
  | nil => exact ⟨first, rfl⟩
  | cons idx cells ih =>
    obtain ⟨next, turned, after⟩ := step idx cells first before
    obtain ⟨last, ran⟩ := ih after
    refine ⟨last, ?_⟩
    rw [List.foldlM_cons, turned]
    exact ran

section All

variable {n : Nat} {body : Fin n → EStateM ε σ Unit} {Inv : Set (Fin n) → σ → Prop}

theorem empty_union_finRange : (∅ : Set (Fin n)) ∪ {idx | idx ∈ List.finRange n} = Set.univ := by
  simp

theorem forM_finRange_total (turn : ∀ done idx state, Inv done state →
      ∃ final, (body idx).run state = .ok () final ∧ Inv (insert idx done) final)
    {state : σ} (before : Inv ∅ state) :
    ∃ final, ((List.finRange n).forM body).run state = .ok () final ∧ Inv Set.univ final :=
  empty_union_finRange (n := n) ▸ forM_total turn (List.finRange n) before

end All

end Loops

end RioFabric.Lib

import Mathlib.Data.List.Infix

/-!
# Runs of a state machine

A component that is used through calls is a function `step : σ → α → σ`; a run is a list of
calls.  Some results hold for every run, others for runs in which each call meets a
condition on the state it finds.
-/

namespace RioFabric.Lib

variable {σ α : Type} (step : σ → α → σ)

/-- The state after a list of calls. -/
def run (state : σ) (calls : List α) : σ := calls.foldl step state

/-- Each call of a run meets `guard` in the state it finds. -/
def Guarded (guard : σ → α → Prop) : σ → List α → Prop
  | _, [] => True
  | state, call :: calls => guard state call ∧ Guarded guard (step state call) calls

instance {guard : σ → α → Prop} [∀ state call, Decidable (guard state call)] (state : σ)
    (calls : List α) : Decidable (Guarded step guard state calls) :=
  decideGuarded state calls
where
  decideGuarded : (state : σ) → (calls : List α) → Decidable (Guarded step guard state calls)
    | _, [] => .isTrue trivial
    | state, call :: calls =>
      have := decideGuarded (step state call) calls
      inferInstanceAs (Decidable (_ ∧ _))

variable {step} {guard : σ → α → Prop}

/-- What each permitted call keeps holds after every permitted run. -/
theorem run_invariant (Inv : σ → Prop)
    (preserved : ∀ state call, Inv state → guard state call → Inv (step state call)) {state : σ}
    {calls : List α} (holds : Inv state) (guarded : Guarded step guard state calls) :
    Inv (run step state calls) := by
  induction calls generalizing state with
  | nil => exact holds
  | cons call calls ih => exact ih (preserved state call holds guarded.1) guarded.2

theorem guarded_of_forall (always : ∀ state call, guard state call) (state : σ)
    (calls : List α) : Guarded step guard state calls := by
  induction calls generalizing state with
  | nil => trivial
  | cons call calls ih => exact ⟨always state call, ih _⟩

/-- The calls of a run are guarded if the first ones are, and the others after them. -/
theorem guarded_append (state : σ) (calls more : List α) :
    Guarded step guard state (calls ++ more) ↔
      Guarded step guard state calls ∧ Guarded step guard (run step state calls) more := by
  induction calls generalizing state with
  | nil => exact (and_iff_right trivial).symm
  | cons call calls ih =>
    exact (and_congr_right fun _ => ih (step state call)).trans and_assoc.symm

/-- If a call keeps the invariant exactly when its guard holds, then the invariant holds all
along a run exactly when every call is guarded. -/
theorem run_invariant_iff (Inv : σ → Prop)
    (kept : ∀ state call, Inv state → (Inv (step state call) ↔ guard state call)) {state : σ}
    {calls : List α} (holds : Inv state) :
    (∀ before, before <+: calls → Inv (run step state before)) ↔
      Guarded step guard state calls := by
  induction calls generalizing state with
  | nil =>
    refine iff_of_true (fun before initial => ?_) trivial
    rw [List.prefix_nil.mp initial]
    exact holds
  | cons call calls ih =>
    constructor
    · intro along
      have next : Inv (step state call) := along [call] ⟨calls, rfl⟩
      refine ⟨(kept state call holds).mp next, (ih next).mp fun before initial => ?_⟩
      exact along (call :: before) (List.cons_prefix_cons.mpr ⟨rfl, initial⟩)
    · rintro ⟨guarded, rest⟩ before initial
      have next := (kept state call holds).mpr guarded
      cases before with
      | nil => exact holds
      | cons first before =>
        obtain ⟨rfl, restInitial⟩ := List.cons_prefix_cons.mp initial
        exact (ih next).mpr rest before restInitial

/-- A property that the invariant gives, and that a call which is not guarded breaks, holds all
along a run exactly when every call is guarded. -/
theorem run_good_iff (Inv Good : σ → Prop) (good : ∀ state, Inv state → Good state)
    (preserved : ∀ state call, Inv state → guard state call → Inv (step state call))
    (broken : ∀ state call, Inv state → ¬guard state call → ¬Good (step state call)) {state : σ}
    {calls : List α} (holds : Inv state) :
    (∀ before, before <+: calls → Good (run step state before)) ↔
      Guarded step guard state calls := by
  have kept (state : σ) (call : α) (holds : Inv state) :
      Inv (step state call) ↔ guard state call :=
    ⟨fun next => of_not_not fun unguarded => broken state call holds unguarded (good _ next),
      preserved state call holds⟩
  constructor
  · intro along
    induction calls generalizing state with
    | nil => trivial
    | cons call calls ih =>
      have guarded : guard state call := of_not_not fun unguarded =>
        broken state call holds unguarded (along [call] ⟨calls, rfl⟩)
      refine ⟨guarded, ih (preserved state call holds guarded) fun before initial => ?_⟩
      exact along (call :: before) (List.cons_prefix_cons.mpr ⟨rfl, initial⟩)
  · intro guarded before initial
    exact good _ ((run_invariant_iff Inv kept holds).mpr guarded before initial)

/-- Two conditions on the calls of a run come to the same if they do in every state that has an
invariant which calls that meet the first one preserve. -/
theorem guarded_iff {keeps : σ → α → Prop} (Inv : σ → Prop)
    (same : ∀ state call, Inv state → (keeps state call ↔ guard state call))
    (preserved : ∀ state call, Inv state → keeps state call → Inv (step state call)) {state : σ}
    {calls : List α} (holds : Inv state) :
    Guarded step keeps state calls ↔ Guarded step guard state calls := by
  induction calls generalizing state with
  | nil => exact Iff.rfl
  | cons call calls ih =>
    constructor
    · intro ⟨kept, rest⟩
      have next := preserved state call holds kept
      exact ⟨(same state call holds).mp kept, (ih next).mp rest⟩
    · intro ⟨guarded, rest⟩
      have kept := (same state call holds).mpr guarded
      exact ⟨kept, (ih (preserved state call holds kept)).mpr rest⟩

end RioFabric.Lib

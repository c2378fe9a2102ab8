import Mathlib.Data.Option.Basic

/-!
# Systems of interleaved actions

The threads of a daemon, or several daemons, make a system whose actions may be taken in any
order as long as they are enabled: `step state action` is the next state, or nothing where the
action is not enabled.  A system is used through its reachable states, either of all runs or of
the runs whose actions meet a condition on the state they find.
-/

namespace RioFabric.Lib

variable {σ α : Type}

/-- The states reached from `start` by enabled actions that meet `guard`. -/
inductive Reaches (step : σ → α → Option σ) (guard : σ → α → Prop) (start : σ) : σ → Prop
  | start : Reaches step guard start start
  | step {state next : σ} {action : α} : Reaches step guard start state →
      guard state action → step state action = some next → Reaches step guard start next

/-- The condition that every action meets. -/
def anyAction : σ → α → Prop := fun _ _ => True

instance (state : σ) (action : α) : Decidable (anyAction state action) := .isTrue trivial

/-- A system in which the actions that do not meet `guard` are not enabled. -/
def restrict (step : σ → α → Option σ) (guard : σ → α → Prop)
    [∀ state action, Decidable (guard state action)] (state : σ) (action : α) : Option σ :=
  if guard state action then step state action else none

/-- The state after a list of actions, if each of them was enabled. -/
def execute (step : σ → α → Option σ) : σ → List α → Option σ
  | state, [] => some state
  | state, action :: actions => (step state action).bind fun next => execute step next actions

variable {step : σ → α → Option σ} {guard : σ → α → Prop} {start state : σ}

theorem of_enabled {enabled : Prop} [Decidable enabled] {next : σ}
    (taken : (if enabled then some state else none) = some next) : enabled ∧ state = next := by
  rw [Option.ite_none_right_eq_some, Option.some.injEq] at taken
  exact taken

/-- What holds first and is kept by each action holds of every reachable state. -/
theorem Reaches.invariant (I : σ → Prop) (initially : I start)
    (kept : ∀ state action next, I state → guard state action → step state action = some next →
      I next) (reached : Reaches step guard start state) : I state := by
  induction reached with
  | start => exact initially
  | step _ guarded taken ih => exact kept _ _ _ ih guarded taken

theorem Reaches.trans {middle : σ} (first : Reaches step guard start middle)
    (second : Reaches step guard middle state) : Reaches step guard start state := by
  induction second with
  | start => exact first
  | step _ guarded taken ih => exact .step ih guarded taken

theorem reaches_of_execute [∀ state action, Decidable (guard state action)] {actions : List α}
    (ran : execute (restrict step guard) start actions = some state) :
    Reaches step guard start state := by
  induction actions generalizing start with
  | nil =>
    cases ran
    exact .start
  | cons action actions ih =>
    obtain ⟨next, taken, rest⟩ := Option.bind_eq_some_iff.mp ran
    unfold restrict at taken
    split at taken
    next guarded => exact Reaches.trans (.step .start guarded taken) (ih rest)
    next => cases taken

theorem exists_reaches_of_execute (step : σ → α → Option σ) (guard : σ → α → Prop)
    [∀ state action, Decidable (guard state action)] (start : σ) (actions : List α)
    (test : σ → Bool) (ran : (execute (restrict step guard) start actions).any test = true) :
    ∃ state, Reaches step guard start state ∧ test state = true := by
  obtain ⟨state, executed, holds⟩ := (Option.any_eq_true test _).mp ran
  exact ⟨state, reaches_of_execute executed, holds⟩

end RioFabric.Lib

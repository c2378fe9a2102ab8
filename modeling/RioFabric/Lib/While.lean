import RioFabric.Lib.Hoare

/-!
# Programs with loops

A program is built from actions on a state, sequencing, loops without a bound and a handler
for early stops; it may also record events.  It is run with a number of turns that each loop
may make, and comes to no end if a loop needs more.  A run with more turns repeats what a run
with fewer turns did and may go on from there.
-/

namespace RioFabric.Lib

variable {ε σ τ α β γ : Type}

/-- Programs over a state `σ` that may stop with a code `ε` and record events `τ`. -/
inductive Prog (ε σ τ : Type) : Type → Type 1 where
  | act {α : Type} (action : EStateM ε σ α) : Prog ε σ τ α
  | emit (event : τ) : Prog ε σ τ Unit
  | bind {α β : Type} (first : Prog ε σ τ α) (next : α → Prog ε σ τ β) : Prog ε σ τ β
  | handle {α : Type} (body : Prog ε σ τ α) (handler : ε → Prog ε σ τ α) : Prog ε σ τ α
  | loop {α β : Type} (body : β → Prog ε σ τ (β ⊕ α)) (start : β) : Prog ε σ τ α

instance : Monad (Prog ε σ τ) where
  pure value := .act (pure value)
  bind := .bind

/-- How a run ends, if it does. -/
inductive Ending (ε α : Type) where
  | done (value : α)
  | stopped (code : ε)
  | unfinished
  deriving DecidableEq

/-- The value of a normal end. -/
def Ending.value : Ending ε α → Option α
  | .done value => some value
  | _ => none

/-- The end of a turn that ends its loop in this way. -/
def Ending.leaving : Ending ε α → Ending ε (β ⊕ α)
  | .done value => .done (.inr value)
  | .stopped code => .stopped code
  | .unfinished => .unfinished

theorem Ending.eq_done {ending : Ending ε α} (isDone : ending.value.isSome = true) :
    ∃ value, ending = .done value := by
  cases ending with
  | done value => exact ⟨value, rfl⟩
  | stopped code => cases isDone
  | unfinished => cases isDone

/-- What a run leaves: its end, the state and the events in the order they were recorded. -/
structure Outcome (ε σ τ α : Type) where
  ending : Ending ε α
  state : σ
  trace : List τ

namespace Outcome

/-- The run came to an end. -/
def Ended (outcome : Outcome ε σ τ α) : Prop :=
  match outcome.ending with
  | .unfinished => False
  | _ => True

instance (outcome : Outcome ε σ τ α) : Decidable outcome.Ended :=
  match ended : outcome.ending with
  | .done _ | .stopped _ => .isTrue (by simp [Ended, ended])
  | .unfinished => .isFalse (by simp [Ended, ended])

/-- Go on after a normal end. -/
def andThen (first : Outcome ε σ τ α) (next : α → σ → Outcome ε σ τ β) : Outcome ε σ τ β :=
  match first.ending with
  | .done value =>
    let rest := next value first.state
    ⟨rest.ending, rest.state, first.trace ++ rest.trace⟩
  | .stopped code => ⟨.stopped code, first.state, first.trace⟩
  | .unfinished => ⟨.unfinished, first.state, first.trace⟩

/-- Go on after an early stop. -/
def orElse (first : Outcome ε σ τ α) (handler : ε → σ → Outcome ε σ τ α) : Outcome ε σ τ α :=
  match first.ending with
  | .stopped code =>
    let rest := handler code first.state
    ⟨rest.ending, rest.state, first.trace ++ rest.trace⟩
  | _ => first

end Outcome

/-- At most `turns` turns of a loop. -/
def iterate (body : β → σ → Outcome ε σ τ (β ⊕ α)) : Nat → β → σ → Outcome ε σ τ α
  | 0, _, state => ⟨.unfinished, state, []⟩
  | turns + 1, carried, state =>
    (body carried state).andThen fun
      | .inl next, state => iterate body turns next state
      | .inr value, state => ⟨.done value, state, []⟩

namespace Prog

/-- Run a program whose loops may each make `fuel` turns. -/
def run (fuel : Nat) {α : Type} : Prog ε σ τ α → σ → Outcome ε σ τ α
  | .act action, state =>
    match action.run state with
    | .ok value final => ⟨.done value, final, []⟩
    | .error code final => ⟨.stopped code, final, []⟩
  | .emit event, state => ⟨.done (), state, [event]⟩
  | .bind first next, state => (first.run fuel state).andThen fun value => (next value).run fuel
  | .handle body handler, state => (body.run fuel state).orElse fun code => (handler code).run fuel
  | .loop body start, state => iterate (fun carried => (body carried).run fuel) fuel start state

end Prog

namespace Outcome

theorem not_ended_iff {outcome : Outcome ε σ τ α} :
    ¬outcome.Ended ↔ outcome.ending = .unfinished := by
  unfold Ended
  cases outcome.ending with
  | done value => simp
  | stopped code => simp
  | unfinished => simp

theorem trace_prefix_andThen (first : Outcome ε σ τ α) (next : α → σ → Outcome ε σ τ β) :
    first.trace <+: (first.andThen next).trace := by
  unfold andThen
  cases first.ending with
  | done value => exact List.prefix_append _ _
  | stopped code => exact List.prefix_rfl
  | unfinished => exact List.prefix_rfl

theorem trace_prefix_orElse (first : Outcome ε σ τ α) (handler : ε → σ → Outcome ε σ τ α) :
    first.trace <+: (first.orElse handler).trace := by
  unfold orElse
  cases first.ending with
  | done value => exact List.prefix_rfl
  | stopped code => exact List.prefix_append _ _
  | unfinished => exact List.prefix_rfl

/-- The first run is the second one, or was cut short on the way to it. -/
def Approx (short long : Outcome ε σ τ α) : Prop :=
  short = long ∨ (¬short.Ended ∧ short.trace <+: long.trace)

namespace Approx

variable {short long : Outcome ε σ τ α}

theorem isPrefix_trace (approx : short.Approx long) : short.trace <+: long.trace := by
  obtain rfl | ⟨_, isPrefix⟩ := approx
  · exact List.prefix_rfl
  · exact isPrefix

theorem eq_of_ended (approx : short.Approx long) (ended : short.Ended) : short = long := by
  obtain same | ⟨cut, _⟩ := approx
  · exact same
  · exact absurd ended cut

theorem append (trace : List τ) (approx : short.Approx long) :
    Approx ⟨short.ending, short.state, trace ++ short.trace⟩
      ⟨long.ending, long.state, trace ++ long.trace⟩ := by
  obtain rfl | ⟨cut, isPrefix⟩ := approx
  · exact .inl rfl
  · exact .inr ⟨cut, (List.prefix_append_right_inj trace).mpr isPrefix⟩

theorem andThen {next after : α → σ → Outcome ε σ τ β} (head : short.Approx long)
    (tail : ∀ value state, (next value state).Approx (after value state)) :
    (short.andThen next).Approx (long.andThen after) := by
  obtain rfl | ⟨cut, isPrefix⟩ := head
  · unfold Outcome.andThen
    cases short.ending with
    | done value => exact (tail value short.state).append short.trace
    | stopped code => exact .inl rfl
    | unfinished => exact .inl rfl
  · right
    rw [not_ended_iff] at cut
    refine ⟨?_, ?_⟩
    · simp [Outcome.andThen, cut, Ended]
    · have here : (short.andThen next).trace = short.trace := by simp [Outcome.andThen, cut]
      rw [here]
      exact isPrefix.trans (trace_prefix_andThen long after)

theorem orElse {handler other : ε → σ → Outcome ε σ τ α} (head : short.Approx long)
    (tail : ∀ code state, (handler code state).Approx (other code state)) :
    (short.orElse handler).Approx (long.orElse other) := by
  obtain rfl | ⟨cut, isPrefix⟩ := head
  · unfold Outcome.orElse
    cases short.ending with
    | done value => exact .inl rfl
    | stopped code => exact (tail code short.state).append short.trace
    | unfinished => exact .inl rfl
  · right
    have here : short.orElse handler = short := by
      rw [not_ended_iff] at cut
      simp [Outcome.orElse, cut]
    rw [here]
    exact ⟨cut, isPrefix.trans (trace_prefix_orElse long other)⟩

end Approx

end Outcome

theorem iterate_approx {body other : β → σ → Outcome ε σ τ (β ⊕ α)}
    (turn : ∀ carried state, (body carried state).Approx (other carried state)) {turns more : Nat}
    (fewer : turns ≤ more) (carried : β) (state : σ) :
    (iterate body turns carried state).Approx (iterate other more carried state) := by
  induction turns generalizing more carried state with
  | zero => exact .inr ⟨by simp [iterate, Outcome.Ended], List.nil_prefix⟩
  | succ turns ih =>
    obtain ⟨more, rfl⟩ : ∃ rest, more = rest + 1 := ⟨more - 1, by omega⟩
    refine (turn carried state).andThen fun result state => ?_
    cases result with
    | inl next => exact ih (by omega) next state
    | inr value => exact .inl rfl

namespace Prog

theorem run_approx (program : Prog ε σ τ α) {fuel more : Nat} (fewer : fuel ≤ more) (state : σ) :
    (program.run fuel state).Approx (program.run more state) := by
  induction program generalizing state with
  | act action => exact .inl rfl
  | emit event => exact .inl rfl
  | bind first next firstIh nextIh => exact (firstIh state).andThen nextIh
  | handle body handler bodyIh handlerIh => exact (bodyIh state).orElse handlerIh
  | loop body start ih => exact iterate_approx ih fewer start state

/-- With enough fuel the program ends. -/
def Stops (program : Prog ε σ τ α) (state : σ) : Prop := ∃ fuel, (program.run fuel state).Ended

/-- The program records the event on its way. -/
def Records (program : Prog ε σ τ α) (state : σ) (event : τ) : Prop :=
  ∃ fuel, event ∈ (program.run fuel state).trace

theorem mem_trace_of_records {program : Prog ε σ τ α} {state : σ} {event : τ} {fuel : Nat}
    (ended : (program.run fuel state).Ended) (records : program.Records state event) :
    event ∈ (program.run fuel state).trace := by
  obtain ⟨other, recorded⟩ := records
  obtain fewer | more := Nat.le_total other fuel
  · exact (program.run_approx fewer state).isPrefix_trace.subset recorded
  · rwa [(program.run_approx more state).eq_of_ended ended]

end Prog

end RioFabric.Lib

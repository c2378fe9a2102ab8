import RioFabric.Lib.Registers

/-!
# Programs over different memories

Two programs that take the same course but keep different structures in memory end alike, and leave
structures that are related.  So a program may be followed on structures that are easier to speak
of than those that it writes.
-/

namespace RioFabric.Lib

variable {ε ρ σ τ μ ν δ α β : Type} {R : σ → τ → Prop} {result : EStateM.Result ε σ α}
  {other : EStateM.Result ε τ α}

/-- Change the state if the program stops early. -/
def onStop (program : EStateM ε σ α) (change : σ → σ) : EStateM ε σ α := fun state =>
  match program state with
  | .ok value after => .ok value after
  | .error code after => .error code (change after)

/-- Change the state at the end of a program, also if it stops early. -/
def atEnd (program : EStateM ε σ α) (change : σ → σ) : EStateM ε σ α := fun state =>
  match program state with
  | .ok value after => .ok value (change after)
  | .error code after => .error code (change after)

section Ends

variable {Pre : σ → Prop} {Post : α → σ → Prop} {Fail : ε → σ → Prop} {program : EStateM ε σ α}
  {change : σ → σ}

theorem onStop_meets (meets : Meets Pre program Post fun code state => Fail code (change state)) :
    Meets Pre (onStop program change) Post Fail := by
  intro state before
  obtain ⟨normal, early⟩ := meets before
  simp only [EStateM.run, onStop] at normal early ⊢
  cases ran : program state with
  | ok value after => exact ⟨fun _ _ same => by cases same; exact normal ran, nofun⟩
  | error code after => exact ⟨nofun, fun _ _ same => by cases same; exact early ran⟩

theorem atEnd_meets (meets : Meets Pre program (fun value state => Post value (change state))
      fun code state => Fail code (change state)) :
    Meets Pre (atEnd program change) Post Fail := by
  intro state before
  obtain ⟨normal, early⟩ := meets before
  simp only [EStateM.run, atEnd] at normal early ⊢
  cases ran : program state with
  | ok value after => exact ⟨fun _ _ same => by cases same; exact normal ran, nofun⟩
  | error code after => exact ⟨nofun, fun _ _ same => by cases same; exact early ran⟩

end Ends

/-- Both come to an end with one value or stop with one code, and leave related states. -/
inductive SameOutcome (R : σ → τ → Prop) :
    EStateM.Result ε σ α → EStateM.Result ε τ α → Prop where
  | ok (value : α) {state : σ} {other : τ} (related : R state other) :
      SameOutcome R (.ok value state) (.ok value other)
  | error (code : ε) {state : σ} {other : τ} (related : R state other) :
      SameOutcome R (.error code state) (.error code other)

theorem SameOutcome.join {υ : Type} {S : σ → υ → Prop} {left : EStateM.Result ε τ α}
    {right : EStateM.Result ε υ α} (first : SameOutcome R result left)
    (second : SameOutcome S result right) :
    SameOutcome (fun state other => ∃ origin, R origin state ∧ S origin other) left right := by
  cases first with
  | ok value related =>
    cases second with
    | ok _ otherRelated => exact .ok value ⟨_, related, otherRelated⟩
  | error code related =>
    cases second with
    | error _ otherRelated => exact .error code ⟨_, related, otherRelated⟩

theorem SameOutcome.of_ok {value : α} {state : σ} (same : SameOutcome R (.ok value state) other) :
    ∃ final, other = .ok value final ∧ R state final := by
  cases same with
  | ok _ related => exact ⟨_, rfl, related⟩

theorem SameOutcome.of_error {code : ε} {state : σ}
    (same : SameOutcome R (.error code state) other) :
    ∃ final, other = .error code final ∧ R state final := by
  cases same with
  | error _ related => exact ⟨_, rfl, related⟩

theorem SameOutcome.finalState (same : SameOutcome R result other) :
    R (finalState result) (Lib.finalState other) := by
  cases same with
  | ok value related => exact related
  | error code related => exact related

/-- From related states the programs end alike. -/
def Simulates (P : σ → τ → Prop) (program : EStateM ε σ α) (other : EStateM ε τ α)
    (R : σ → τ → Prop) : Prop :=
  ∀ ⦃state otherState⦄, P state otherState →
    SameOutcome R (program.run state) (other.run otherState)

namespace Simulates

variable {P Q R : σ → τ → Prop} {program : EStateM ε σ α} {other : EStateM ε τ α} {change : σ → σ}
  {otherChange : τ → τ} {Pre : σ → Prop}

theorem pure (value : α) :
    Simulates R (Pure.pure value : EStateM ε σ α) (Pure.pure value : EStateM ε τ α) R :=
  fun _ _ related => .ok value related

theorem throw (code : ε) :
    Simulates R (throw code : EStateM ε σ α) (MonadExcept.throw code : EStateM ε τ α) R :=
  fun _ _ related => .error code related

theorem modify (changed : ∀ state other, P state other → R (change state) (otherChange other)) :
    Simulates P (modify change : EStateM ε σ PUnit) (modify otherChange) R :=
  fun state other related => .ok _ (changed state other related)

theorem bind {next : α → EStateM ε σ β} {otherNext : α → EStateM ε τ β}
    (head : Simulates P program other R)
    (tail : ∀ value, Simulates R (next value) (otherNext value) R) :
    Simulates P (program >>= next) (other >>= otherNext) R := by
  intro state otherState related
  have first := head related
  rw [EStateM.run_bind, EStateM.run_bind]
  revert first
  generalize program.run state = result
  generalize other.run otherState = otherResult
  intro first
  cases first with
  | ok value after => exact tail value after
  | error code after => exact .error code after

theorem ite {condition : Prop} [Decidable condition] {program' : EStateM ε σ α}
    {other' : EStateM ε τ α} (yes : Simulates P program other R)
    (no : Simulates P program' other' R) :
    Simulates P (if condition then program else program') (if condition then other else other')
      R := by
  split
  · exact yes
  · exact no

section

variable (simulates : Simulates P program other R)
include simulates

theorem onStop (changed : ∀ state other, R state other → R (change state) (otherChange other)) :
    Simulates P (onStop program change) (Lib.onStop other otherChange) R := by
  intro state otherState related
  have ends := simulates related
  simp only [EStateM.run, Lib.onStop] at ends ⊢
  revert ends
  generalize program state = result
  generalize other otherState = otherResult
  intro ends
  cases ends with
  | ok value after => exact .ok value after
  | error code after => exact .error code (changed _ _ after)

theorem atEnd (changed : ∀ state other, R state other → R (change state) (otherChange other)) :
    Simulates P (atEnd program change) (Lib.atEnd other otherChange) R := by
  intro state otherState related
  have ends := simulates related
  simp only [EStateM.run, Lib.atEnd] at ends ⊢
  revert ends
  generalize program state = result
  generalize other otherState = otherResult
  intro ends
  cases ends with
  | ok value after => exact .ok value (changed _ _ after)
  | error code after => exact .error code (changed _ _ after)

/-- An invariant of the one program can be added to a simulation. -/
theorem meeting {Inv : σ → Prop} (meets : Meets Pre program (fun _ => Inv) fun _ => Inv) :
    Simulates (fun state otherState => P state otherState ∧ Pre state) program other
      (fun state otherState => R state otherState ∧ Inv state) := by
  rintro state otherState ⟨related, before⟩
  have ends := simulates related
  obtain ⟨normal, early⟩ := meets before
  revert ends normal early
  generalize program.run state = result
  generalize other.run otherState = otherResult
  intro ends normal early
  cases ends with
  | ok value after => exact .ok value ⟨after, normal rfl⟩
  | error code after => exact .error code ⟨after, early rfl⟩

/-- A simulation carries a triple of the one program over to the other. -/
theorem transfer {Post : α → σ → Prop} {Fail : ε → σ → Prop} (meets : Meets Pre program Post Fail) :
    Meets (fun otherState => ∃ state, P state otherState ∧ Pre state) other
      (fun value otherState => ∃ state, R state otherState ∧ Post value state)
      fun code otherState => ∃ state, R state otherState ∧ Fail code state := by
  rintro otherState ⟨state, related, before⟩
  have ends := simulates related
  obtain ⟨normal, early⟩ := meets before
  constructor
  · intro value final ran
    rw [ran] at ends
    cases result : program.run state with
    | ok _ after =>
      rw [result] at ends
      cases ends with
      | ok _ relatedAfter => exact ⟨after, relatedAfter, normal result⟩
    | error code after =>
      rw [result] at ends
      cases ends
  · intro code final ran
    rw [ran] at ends
    cases result : program.run state with
    | ok value after =>
      rw [result] at ends
      cases ends
    | error _ after =>
      rw [result] at ends
      cases ends with
      | error _ relatedAfter => exact ⟨after, relatedAfter, early result⟩

end

theorem forM {ι : Type} {body : ι → EStateM ε σ PUnit} {otherBody : ι → EStateM ε τ PUnit}
    {cells : List ι} (turn : ∀ idx, Simulates R (body idx) (otherBody idx) R) :
    Simulates R (cells.forM body) (cells.forM otherBody) R := by
  induction cells with
  | nil => exact pure _
  | cons idx cells ih => exact bind (turn idx) fun _ => ih

end Simulates

/-- The memories are related, and the device is one. -/
def OverMemory (R : μ → ν → Prop) (state : Attached μ δ) (other : Attached ν δ) : Prop :=
  R state.memory other.memory ∧ state.device = other.device

section OneDevice

variable {device : RegDevice ρ δ} {P R : μ → ν → Prop}

theorem modifyMemory_simulates {change : μ → μ} {otherChange : ν → ν}
    (changed : ∀ memory other, P memory other → R (change memory) (otherChange other)) :
    Simulates (OverMemory (δ := δ) P) (modifyMemory change : EStateM ε _ PUnit)
      (modifyMemory otherChange) (OverMemory R) :=
  Simulates.modify fun _ _ related => ⟨changed _ _ related.1, related.2⟩

theorem regRead_simulates {reg : ρ} {code : Nat → ε} :
    Simulates (OverMemory R) (regRead device reg code) (regRead device reg code)
      (OverMemory R) := by
  rintro ⟨memory, file⟩ ⟨otherMemory, otherFile⟩ ⟨related, sameDevice⟩
  dsimp only at related sameDevice
  subst sameDevice
  simp only [EStateM.run, regRead]
  rcases device.read reg file with ⟨value | failure, after⟩
  · exact .error _ ⟨related, rfl⟩
  · exact .ok _ ⟨related, rfl⟩

end OneDevice

end RioFabric.Lib

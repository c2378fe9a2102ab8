import RioFabric.Lib.Registers

/-!
# What a program does to a device

A device can be put behind a log of its accesses.  The log has the values that were read and the
writes that were tried, and leaves the device as it is.
-/

namespace RioFabric.Lib

variable {ε ρ μ δ : Type} {allowed : ρ → BitVec 32 → Prop} {device : RegDevice ρ δ}

/-- An access in a log. -/
inductive RegEvent (ρ : Type) where
  | read (reg : ρ) (value : BitVec 32)
  | write (reg : ρ) (value : BitVec 32)

/-- A device that logs its accesses.  A read that fails gives no value and is not logged; a write
is logged also if it fails. -/
def logged (device : RegDevice ρ δ) : RegDevice ρ (δ × List (RegEvent ρ)) where
  read reg state :=
    match device.read reg state.1 with
    | (.ok value, after) => (.ok value, (after, state.2 ++ [.read reg value]))
    | (.error failure, after) => (.error failure, (after, state.2))
  write reg value state :=
    let (result, after) := device.write reg value state.1
    (result, (after, state.2 ++ [.write reg value]))

/-- The values read from a register. -/
def valuesRead [DecidableEq ρ] (reg : ρ) (log : List (RegEvent ρ)) : List (BitVec 32) :=
  log.filterMap fun event =>
    match event with
    | .read other value => if other = reg then some value else none
    | .write _ _ => none

section ValuesRead

variable [DecidableEq ρ] {reg other : ρ} {value : BitVec 32} {log : List (RegEvent ρ)}

theorem valuesRead_append_self :
    valuesRead reg (log ++ [.read reg value]) = valuesRead reg log ++ [value] := by
  simp [valuesRead]

theorem valuesRead_append_of_ne (different : other ≠ reg) :
    valuesRead reg (log ++ [.read other value]) = valuesRead reg log := by
  simp [valuesRead, different]

end ValuesRead

/-- No read of the device fails. -/
def RegDevice.ReadsSucceed (device : RegDevice ρ δ) : Prop :=
  ∀ reg state, ∃ value after, device.read reg state = (.ok value, after)

section Rules

variable {device : RegDevice ρ δ} {reg : ρ} {code : Nat → ε}
  {Pre : Attached μ (δ × List (RegEvent ρ)) → Prop}
  {Fail : ε → Attached μ (δ × List (RegEvent ρ)) → Prop}

/-- A read that succeeds adds one entry to the log. -/
theorem regRead_logged_meets {Post : BitVec 32 → Attached μ (δ × List (RegEvent ρ)) → Prop}
    (ok : ∀ state value after, Pre state →
      Post value ⟨state.memory, (after, state.device.2 ++ [.read reg value])⟩)
    (fails : ∀ state failure after, Pre state →
      device.read reg state.device.1 = (.error failure, after) →
        Fail (code failure) ⟨state.memory, (after, state.device.2)⟩) :
    Meets Pre (regRead (logged device) reg code) Post Fail := by
  apply regRead_meets
  · intro state value after before answered
    simp only [logged] at answered
    split at answered
    · cases answered
      exact ok state value _ before
    · cases answered
  · intro state failure after before answered
    simp only [logged] at answered
    split at answered
    · cases answered
    next failed =>
      cases answered
      exact fails state failure _ before failed

theorem regWrite_logged_meets {value : BitVec 32}
    {Post : Unit → Attached μ (δ × List (RegEvent ρ)) → Prop}
    (ok : ∀ state after, Pre state →
      Post () ⟨state.memory, (after, state.device.2 ++ [.write reg value])⟩)
    (fails : ∀ state failure after, Pre state →
      Fail (code failure) ⟨state.memory, (after, state.device.2 ++ [.write reg value])⟩) :
    Meets Pre (regWrite (logged device) reg value code) Post Fail := by
  apply regWrite_meets
  · intro state after before answered
    rw [← (Prod.mk.inj answered).2]
    exact ok state _ before
  · intro state failure after before answered
    rw [← (Prod.mk.inj answered).2]
    exact fails state failure _ before

theorem regRead_logged_at {state : δ} {log : List (RegEvent ρ)} :
    Meets (fun before : Attached μ (δ × List (RegEvent ρ)) => before.device = (state, log))
      (regRead (logged device) reg code)
      (fun value after => ∃ next, device.read reg state = (.ok value, next) ∧
        after.device = (next, log ++ [.read reg value]))
      fun _ after => ∃ failure next, device.read reg state = (.error failure, next) ∧
        after.device = (next, log) := by
  apply regRead_meets
  · intro before value after same answered
    rw [same] at answered
    simp only [logged] at answered
    split at answered
    next read =>
      cases answered
      exact ⟨_, read, rfl⟩
    next => cases answered
  · intro before failure after same answered
    rw [same] at answered
    simp only [logged] at answered
    split at answered
    next => cases answered
    next read =>
      cases answered
      exact ⟨failure, _, read, rfl⟩

end Rules

/-- All writes in the log are allowed. -/
def WritesOnly (allowed : ρ → BitVec 32 → Prop) (state : δ × List (RegEvent ρ)) : Prop :=
  ∀ reg value, .write reg value ∈ state.2 → allowed reg value

theorem WritesOnly.append {state after : δ} {event : RegEvent ρ} {log : List (RegEvent ρ)}
    (writes : WritesOnly allowed (state, log))
    (isAllowed : ∀ reg value, event = .write reg value → allowed reg value) :
    WritesOnly allowed (after, log ++ [event]) := by
  intro reg value isWrite
  rcases List.mem_append.mp isWrite with earlier | last
  · exact writes reg value earlier
  · exact isAllowed reg value (List.mem_singleton.mp last).symm

theorem logged_keeps :
    (logged device).Keeps (WritesOnly allowed) allowed where
  read reg state before := by
    intro other value isWrite
    simp only [logged] at isWrite
    split at isWrite
    · rcases List.mem_append.mp isWrite with earlier | last
      · exact before other value earlier
      · cases List.mem_singleton.mp last
    · exact before other value isWrite
  write reg value state isAllowed before := by
    intro other written isWrite
    rcases List.mem_append.mp isWrite with earlier | last
    · exact before other written earlier
    · cases List.mem_singleton.mp last
      exact isAllowed

/-- What longer logs keep, a logged device keeps. -/
theorem logged_grows {P : List (RegEvent ρ) → Prop}
    (grows : ∀ log event, P log → P (log ++ [event])) :
    (logged device).Keeps (fun state => P state.2) fun _ _ => True where
  read reg state before := by
    simp only [logged]
    split
    · exact grows _ _ before
    · exact before
  write _ _ _ _ before := grows _ _ before

/-- The log of the accesses that a program makes from a state of the device. -/
def logOf {α : Type} (program : EStateM ε (Attached μ (δ × List (RegEvent ρ))) α) (memory : μ)
    (state : δ) : List (RegEvent ρ) :=
  (finalState (program.run ⟨memory, (state, [])⟩)).device.2

section LogOf

variable {α : Type} {program : EStateM ε (Attached μ (δ × List (RegEvent ρ))) α} {memory : μ}
  {state : δ}

/-- What a triple says of the log holds of the log of the run. -/
theorem logOf_of_meets {P : List (RegEvent ρ) → Prop}
    (meets : Meets (fun start => start.device = (state, [])) program
      (fun _ final => P final.device.2) fun _ final => P final.device.2) :
    P (logOf program memory state) := by
  obtain ⟨normal, early⟩ := @meets ⟨memory, (state, [])⟩ rfl
  rw [logOf]
  cases ran : program.run ⟨memory, (state, [])⟩ with
  | ok value final => exact normal ran
  | error stop final => exact early ran

theorem allowed_of_preserves {allowed : ρ → BitVec 32 → Prop}
    (preserves : Preserves (WritesOnly allowed) program) {reg : ρ} {value : BitVec 32}
    (isWrite : .write reg value ∈ logOf program memory state) : allowed reg value :=
  preserves.finalState (fun _ _ isMember => absurd isMember List.not_mem_nil) reg value isWrite

end LogOf

/-- An access, with the value read or with the code of its failure. -/
inductive RegAttempt (ρ : Type) where
  | read (reg : ρ) (result : Except Nat (BitVec 32))
  | write (reg : ρ) (value : BitVec 32) (failure : Option Nat)

/-- A device that traces its accesses. -/
def traced (device : RegDevice ρ δ) : RegDevice ρ (δ × List (RegAttempt ρ)) where
  read reg state :=
    let (result, after) := device.read reg state.1
    (result, (after, state.2 ++ [.read reg result]))
  write reg value state :=
    let (failure, after) := device.write reg value state.1
    (failure, (after, state.2 ++ [.write reg value failure]))

/-- An access is in the trace. -/
def HasAttempt (attempt : RegAttempt ρ) (state : δ × List (RegAttempt ρ)) : Prop :=
  attempt ∈ state.2

theorem traced_keeps {attempt : RegAttempt ρ} :
    (traced device).Keeps (HasAttempt attempt) fun _ _ => True where
  read _ _ before := List.mem_append_left _ before
  write _ _ _ _ before := List.mem_append_left _ before

theorem regWrite_traced_meets {ε μ : Type} {reg : ρ} {value : BitVec 32} {code : Nat → ε}
    {Pre : Attached μ (δ × List (RegAttempt ρ)) → Prop} :
    Meets Pre (regWrite (traced device) reg value code)
      (fun _ state => HasAttempt (.write reg value none) state.device) fun _ _ => True := by
  apply regWrite_meets
  · intro state after _ answered
    obtain ⟨noFailure, same⟩ := Prod.mk.inj answered
    rw [← same, ← noFailure]
    exact List.mem_append_right _ (List.mem_singleton.mpr rfl)
  · exact fun _ _ _ _ _ => trivial

end RioFabric.Lib

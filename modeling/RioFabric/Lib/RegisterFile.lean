import Mathlib.Logic.Function.Basic
import RioFabric.Lib.Registers

/-!
# Register files

A register file is a device whose registers hold what is written to them.  A write may have a
further effect on the registers, and any access may fail, whenever it is made.
-/

namespace RioFabric.Lib

variable {ε ρ μ : Type}

/-- The kinds of accesses. -/
inductive RegAccess (ρ : Type) where
  | read (reg : ρ)
  | write (reg : ρ)
  deriving DecidableEq

/-- What the registers hold, and what becomes of the first, the second and the later ones of the
accesses of each kind that are still to come: 0 for an access that succeeds, or the code of a
failure. -/
structure RegisterFile (ρ : Type) where
  value : ρ → BitVec 32
  faults : RegAccess ρ → Nat → Nat

namespace RegisterFile

variable (file : RegisterFile ρ)

/-- What becomes of the next access of a kind. -/
def fault (access : RegAccess ρ) : Nat := file.faults access 0

/-- No access fails. -/
def Reliable : Prop := ∀ access count, file.faults access count = 0

variable {file} in
theorem Reliable.fault_eq (reliable : file.Reliable) (access : RegAccess ρ) :
    file.fault access = 0 :=
  reliable access 0

variable [DecidableEq ρ]

/-- The file after an access was made. -/
def pass (access : RegAccess ρ) : RegisterFile ρ :=
  { file with
    faults := Function.update file.faults access fun count => file.faults access (count + 1) }

variable {file} {access other : RegAccess ρ}

@[simp] theorem value_pass : (file.pass access).value = file.value := rfl

theorem fault_pass_of_ne (different : other ≠ access) :
    (file.pass access).fault other = file.fault other :=
  congrFun (Function.update_of_ne different _ _) 0

theorem Reliable.pass (reliable : file.Reliable) (access : RegAccess ρ) :
    (file.pass access).Reliable := by
  intro other count
  by_cases same : other = access
  · subst same
    exact (congrFun (Function.update_self _ _ _) count).trans (reliable other (count + 1))
  · exact (congrFun (Function.update_of_ne same _ _) count).trans (reliable other count)

end RegisterFile

variable [DecidableEq ρ]

/-- What a write does to the registers. -/
abbrev WriteEffect (ρ : Type) := ρ → BitVec 32 → (ρ → BitVec 32) → ρ → BitVec 32

/-- A write that has no further effect. -/
def store : WriteEffect ρ := fun reg value values => Function.update values reg value

/-- A register file as a device. -/
def registerFile (effect : WriteEffect ρ) : RegDevice ρ (RegisterFile ρ) where
  read reg file :=
    match file.fault (.read reg) with
    | 0 => (.ok (file.value reg), file.pass (.read reg))
    | code + 1 => (.error (code + 1), file.pass (.read reg))
  write reg value file :=
    match file.fault (.write reg) with
    | 0 => (none, { file.pass (.write reg) with value := effect reg value file.value })
    | code + 1 => (some (code + 1), file.pass (.write reg))

section Accesses

variable {effect : WriteEffect ρ} {reg : ρ} {code : Nat → ε}
  {state final : Attached μ (RegisterFile ρ)} {value : BitVec 32}

theorem regRead_file_ok_iff :
    (regRead (registerFile effect) reg code).run state = .ok value final ↔
      state.device.fault (.read reg) = 0 ∧ state.device.value reg = value ∧
        ⟨state.memory, state.device.pass (.read reg)⟩ = final := by
  simp only [EStateM.run, regRead, registerFile]
  cases state.device.fault (.read reg) with
  | zero => simp
  | succ failure => simp

theorem regRead_file_error_iff {stop : ε} :
    (regRead (registerFile effect) reg code).run state = .error stop final ↔
      state.device.fault (.read reg) ≠ 0 ∧ code (state.device.fault (.read reg)) = stop ∧
        ⟨state.memory, state.device.pass (.read reg)⟩ = final := by
  simp only [EStateM.run, regRead, registerFile]
  cases state.device.fault (.read reg) with
  | zero => simp
  | succ failure => simp

theorem regWrite_file_ok_iff :
    (regWrite (registerFile effect) reg value code).run state = .ok () final ↔
      state.device.fault (.write reg) = 0 ∧
        ⟨state.memory, { state.device.pass (.write reg) with
          value := effect reg value state.device.value }⟩ = final := by
  simp only [EStateM.run, regWrite, registerFile]
  cases state.device.fault (.write reg) with
  | zero => simp
  | succ failure => simp

theorem regWrite_file_error_iff {stop : ε} :
    (regWrite (registerFile effect) reg value code).run state = .error stop final ↔
      state.device.fault (.write reg) ≠ 0 ∧ code (state.device.fault (.write reg)) = stop ∧
        ⟨state.memory, state.device.pass (.write reg)⟩ = final := by
  simp only [EStateM.run, regWrite, registerFile]
  cases state.device.fault (.write reg) with
  | zero => simp
  | succ failure => simp

variable {Pre : Attached μ (RegisterFile ρ) → Prop} {Fail : ε → Attached μ (RegisterFile ρ) → Prop}

/-- A read of a register file, whether it fails or not. -/
theorem regRead_file_meets {Post : BitVec 32 → Attached μ (RegisterFile ρ) → Prop}
    (ok : ∀ state, Pre state → state.device.fault (.read reg) = 0 →
      Post (state.device.value reg) ⟨state.memory, state.device.pass (.read reg)⟩)
    (fails : ∀ state failure, Pre state → state.device.fault (.read reg) = failure →
      failure ≠ 0 → Fail (code failure) ⟨state.memory, state.device.pass (.read reg)⟩) :
    Meets Pre (regRead (registerFile effect) reg code) Post Fail := by
  intro state before
  constructor
  · intro value final ran
    obtain ⟨passes, rfl, rfl⟩ := regRead_file_ok_iff.mp ran
    exact ok state before passes
  · intro stop final ran
    obtain ⟨stops, rfl, rfl⟩ := regRead_file_error_iff.mp ran
    exact fails state _ before rfl stops

/-- A write to a register file, whether it fails or not. -/
theorem regWrite_file_meets {Post : Unit → Attached μ (RegisterFile ρ) → Prop}
    (ok : ∀ state, Pre state → state.device.fault (.write reg) = 0 →
      Post () ⟨state.memory, { state.device.pass (.write reg) with
        value := effect reg value state.device.value }⟩)
    (fails : ∀ state failure, Pre state → state.device.fault (.write reg) = failure →
      failure ≠ 0 → Fail (code failure) ⟨state.memory, state.device.pass (.write reg)⟩) :
    Meets Pre (regWrite (registerFile effect) reg value code) Post Fail := by
  intro state before
  constructor
  · intro result final ran
    obtain ⟨passes, rfl⟩ := regWrite_file_ok_iff.mp ran
    exact ok state before passes
  · intro stop final ran
    obtain ⟨stops, rfl, rfl⟩ := regWrite_file_error_iff.mp ran
    exact fails state _ before rfl stops

end Accesses

section Values

variable {effect : WriteEffect ρ} {values : ρ → BitVec 32} {Inv : RegisterFile ρ → Prop}

theorem registerFile_answers (holds : ∀ file, Inv file → file.value = values)
    (keep : ∀ file reg, Inv file → Inv (file.pass (.read reg))) :
    (registerFile effect).Answers Inv values where
  keep reg file before := by
    simp only [registerFile]
    split
    · exact keep file reg before
    · exact keep file reg before
  value reg file result before answered := by
    simp only [registerFile] at answered
    split at answered
    · cases answered
      exact congrFun (holds file before) reg
    · cases answered

theorem value_answers :
    (registerFile effect).Answers (fun file => file.value = values) values :=
  registerFile_answers (fun _ same => same) fun _ _ same => same

end Values

section Settled

variable {effect : WriteEffect ρ} {reg : ρ} {code : Nat → ε} {values : ρ → BitVec 32}
  {Fail : ε → Attached μ (RegisterFile ρ) → Prop}

/-- The registers hold these values, and no access will fail. -/
structure Settled (values : ρ → BitVec 32) (file : RegisterFile ρ) : Prop where
  value_eq : file.value = values
  reliable : file.Reliable

theorem Settled.pass {file : RegisterFile ρ} (settled : Settled values file)
    (access : RegAccess ρ) : Settled values (file.pass access) :=
  ⟨settled.value_eq, settled.reliable.pass access⟩

theorem settled_answers : (registerFile effect).Answers (Settled values) values :=
  registerFile_answers (fun _ settled => settled.value_eq) fun _ _ settled => settled.pass _

theorem settled_keeps : (registerFile effect).Keeps (Settled values) fun _ _ => False where
  read := settled_answers.keep
  write _ _ _ never := never.elim

theorem regRead_settled :
    Meets (fun state : Attached μ (RegisterFile ρ) => Settled values state.device)
      (regRead (registerFile effect) reg code)
      (fun value state => value = values reg ∧ Settled values state.device) Fail := by
  apply regRead_file_meets
  · intro state before _
    exact ⟨congrFun before.value_eq reg, before.pass _⟩
  · intro state failure before isFault fails
    exact absurd (isFault.symm.trans (before.reliable.fault_eq _)) fails

theorem regWrite_settled {value : BitVec 32} :
    Meets (fun state : Attached μ (RegisterFile ρ) => Settled values state.device)
      (regWrite (registerFile effect) reg value code)
      (fun _ state => Settled (effect reg value values) state.device) Fail := by
  apply regWrite_file_meets
  · intro state before _
    exact ⟨congrArg (effect reg value) before.value_eq, before.reliable.pass _⟩
  · intro state failure before isFault fails
    exact absurd (isFault.symm.trans (before.reliable.fault_eq _)) fails

theorem regRead_settled_bind {α : Type}
    {next : BitVec 32 → EStateM ε (Attached μ (RegisterFile ρ)) α}
    {Post : α → Attached μ (RegisterFile ρ) → Prop}
    (tail : Meets (fun state => Settled values state.device) (next (values reg)) Post Fail) :
    Meets (fun state => Settled values state.device)
      (regRead (registerFile effect) reg code >>= next) Post Fail := by
  apply Meets.bind regRead_settled
  intro value
  apply Meets.assume
  rintro rfl
  exact tail

end Settled

end RioFabric.Lib

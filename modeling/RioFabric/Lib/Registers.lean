import RioFabric.Lib.Hoare

/-!
# Programs with a device

A driver keeps structures in memory and reads and writes the registers of a device.  What the
device does on an access is left open: a register need not hold what was written to it, and
an access may fail.  A device that is a store of registers is a special case.
-/

namespace RioFabric.Lib

variable {ε ρ μ δ : Type}

/-- What a device in a state of `δ` does when one of its registers `ρ` is accessed; an access
that fails has a code. -/
structure RegDevice (ρ δ : Type) where
  read : ρ → δ → Except Nat (BitVec 32) × δ
  write : ρ → BitVec 32 → δ → Option Nat × δ

/-- A structure in memory and the device it is about. -/
structure Attached (μ δ : Type) where
  memory : μ
  device : δ

/-- Read a register; `code` makes the code of the program from that of a failed access. -/
def regRead (device : RegDevice ρ δ) (reg : ρ) (code : Nat → ε) :
    EStateM ε (Attached μ δ) (BitVec 32) := fun state =>
  match device.read reg state.device with
  | (.ok value, after) => .ok value { state with device := after }
  | (.error failure, after) => .error (code failure) { state with device := after }

def regWrite (device : RegDevice ρ δ) (reg : ρ) (value : BitVec 32) (code : Nat → ε) :
    EStateM ε (Attached μ δ) Unit := fun state =>
  match device.write reg value state.device with
  | (none, after) => .ok () { state with device := after }
  | (some failure, after) => .error (code failure) { state with device := after }

def modifyMemory (change : μ → μ) : EStateM ε (Attached μ δ) PUnit :=
  modify fun state => { state with memory := change state.memory }

section Accesses

variable {device : RegDevice ρ δ} {reg : ρ} {code : Nat → ε} {Pre : Attached μ δ → Prop}
  {Fail : ε → Attached μ δ → Prop}

/-- A read meets what each of its two answers gives. -/
theorem regRead_meets {Post : BitVec 32 → Attached μ δ → Prop}
    (ok : ∀ state value after, Pre state → device.read reg state.device = (.ok value, after) →
      Post value ⟨state.memory, after⟩)
    (fails : ∀ state failure after, Pre state →
      device.read reg state.device = (.error failure, after) →
        Fail (code failure) ⟨state.memory, after⟩) :
    Meets Pre (regRead device reg code) Post Fail := by
  rw [meets_iff_ends]
  intro state before
  unfold regRead
  split
  next answered => exact ok state _ _ before answered
  next answered => exact fails state _ _ before answered

/-- A write meets what each of its two answers gives. -/
theorem regWrite_meets {value : BitVec 32} {Post : Unit → Attached μ δ → Prop}
    (ok : ∀ state after, Pre state → device.write reg value state.device = (none, after) →
      Post () ⟨state.memory, after⟩)
    (fails : ∀ state failure after, Pre state →
      device.write reg value state.device = (some failure, after) →
        Fail (code failure) ⟨state.memory, after⟩) :
    Meets Pre (regWrite device reg value code) Post Fail := by
  rw [meets_iff_ends]
  intro state before
  unfold regWrite
  split
  next answered => exact ok state _ before answered
  next answered => exact fails state _ _ before answered

end Accesses

/-- An invariant of the device is kept by all reads, and by the writes that are allowed. -/
structure RegDevice.Keeps (device : RegDevice ρ δ) (Inv : δ → Prop)
    (allowed : ρ → BitVec 32 → Prop) : Prop where
  read : ∀ reg state, Inv state → Inv (device.read reg state).2
  write : ∀ reg value state, allowed reg value → Inv state → Inv (device.write reg value state).2

/-- However a program ends, the device has an invariant that it had before. -/
def Preserves {α : Type} (Inv : δ → Prop) (program : EStateM ε (Attached μ δ) α) : Prop :=
  Meets (fun state => Inv state.device) program (fun _ state => Inv state.device)
    fun _ state => Inv state.device

section Keeps

variable {device : RegDevice ρ δ} {Inv : δ → Prop} {allowed : ρ → BitVec 32 → Prop} {reg : ρ}
  {code : Nat → ε}

section

variable (keeps : device.Keeps Inv allowed)
include keeps

theorem RegDevice.Keeps.weaken {fewer : ρ → BitVec 32 → Prop}
    (isAllowed : ∀ reg value, fewer reg value → allowed reg value) : device.Keeps Inv fewer :=
  ⟨keeps.read, fun reg value state few => keeps.write reg value state (isAllowed reg value few)⟩

theorem RegDevice.Keeps.regRead :
    Preserves Inv (regRead device reg code : EStateM ε (Attached μ δ) (BitVec 32)) := by
  apply regRead_meets
  · intro state value after before answered
    exact (congrArg (fun answer => Inv answer.2) answered).mp (keeps.read reg state.device before)
  · intro state failure after before answered
    exact (congrArg (fun answer => Inv answer.2) answered).mp (keeps.read reg state.device before)

theorem RegDevice.Keeps.regWrite {value : BitVec 32} (isAllowed : allowed reg value) :
    Preserves Inv (regWrite device reg value code : EStateM ε (Attached μ δ) Unit) := by
  apply regWrite_meets
  · intro state after before answered
    exact (congrArg (fun answer => Inv answer.2) answered).mp
      (keeps.write reg value state.device isAllowed before)
  · intro state failure after before answered
    exact (congrArg (fun answer => Inv answer.2) answered).mp
      (keeps.write reg value state.device isAllowed before)

end

end Keeps

namespace Preserves

variable {α β ι : Type} {Inv : δ → Prop} {program other : EStateM ε (Attached μ δ) α}

theorem pure (value : α) : Preserves Inv (Pure.pure value : EStateM ε (Attached μ δ) α) :=
  Meets.pure fun _ before => before

theorem throw (stop : ε) : Preserves Inv (throw stop : EStateM ε (Attached μ δ) α) :=
  Meets.throw fun _ before => before

theorem modifyMemory (change : μ → μ) :
    Preserves Inv (modifyMemory change : EStateM ε (Attached μ δ) PUnit) :=
  Meets.modify fun _ before => before

theorem failIf (condition : Prop) [Decidable condition] (stop : ε) :
    Preserves Inv (failIf condition stop : EStateM ε (Attached μ δ) Unit) :=
  Meets.failIf (fun _ before _ => before) fun _ before _ => before

theorem bind {next : α → EStateM ε (Attached μ δ) β} (head : Preserves Inv program)
    (tail : ∀ value, Preserves Inv (next value)) : Preserves Inv (program >>= next) :=
  Meets.bind head tail

theorem ite {condition : Prop} [Decidable condition] (yes : condition → Preserves Inv program)
    (no : ¬condition → Preserves Inv other) :
    Preserves Inv (if condition then program else other) :=
  Meets.ite yes no

theorem forM {body : ι → EStateM ε (Attached μ δ) PUnit} {cells : List ι}
    (turn : ∀ idx ∈ cells, Preserves Inv (body idx)) : Preserves Inv (cells.forM body) :=
  Meets.forM turn

theorem foldlM {body : β → ι → EStateM ε (Attached μ δ) β} {cells : List ι}
    (turn : ∀ carried, ∀ idx ∈ cells, Preserves Inv (body carried idx)) (carried : β) :
    Preserves Inv (cells.foldlM body carried) :=
  Meets.foldlM turn carried

theorem mapM {body : ι → EStateM ε (Attached μ δ) β} {cells : List ι}
    (turn : ∀ idx ∈ cells, Preserves Inv (body idx)) : Preserves Inv (cells.mapM body) := by
  induction cells with
  | nil => exact pure []
  | cons idx cells ih =>
    rw [List.mapM_cons]
    apply bind (turn idx List.mem_cons_self)
    intro value
    apply bind (ih fun other isMember => turn other (List.mem_cons_of_mem idx isMember))
    exact fun values => pure (value :: values)

theorem finalState {start : Attached μ δ} (preserves : Preserves Inv program)
    (before : Inv start.device) : Inv (finalState (program.run start)).device := by
  obtain ⟨normal, early⟩ := preserves before
  cases ran : program.run start with
  | ok value final => exact normal ran
  | error stop final => exact early ran

end Preserves

/-- As long as a device has an invariant, the reads that succeed give these values and keep it. -/
structure RegDevice.Answers (device : RegDevice ρ δ) (Inv : δ → Prop) (values : ρ → BitVec 32) :
    Prop where
  keep : ∀ reg state, Inv state → Inv (device.read reg state).2
  value : ∀ reg state result, Inv state → (device.read reg state).1 = .ok result →
    result = values reg

section Answers

variable {device : RegDevice ρ δ} {Inv : δ → Prop} {values : ρ → BitVec 32} {reg : ρ}
  {code : Nat → ε}

theorem RegDevice.Answers.regRead (answers : device.Answers Inv values) :
    Meets (fun state : Attached μ δ => Inv state.device) (regRead device reg code)
      (fun value state => value = values reg ∧ Inv state.device)
      fun _ state => Inv state.device := by
  apply regRead_meets
  · intro state value after before answered
    have kept := answers.keep reg state.device before
    rw [answered] at kept
    exact ⟨answers.value reg state.device value before (congrArg Prod.fst answered), kept⟩
  · intro state failure after before answered
    have kept := answers.keep reg state.device before
    rwa [answered] at kept

theorem RegDevice.Answers.regRead_bind (answers : device.Answers Inv values) {α : Type}
    {next : BitVec 32 → EStateM ε (Attached μ δ) α} {Post : α → Attached μ δ → Prop}
    (tail : Meets (fun state => Inv state.device) (next (values reg)) Post
      fun _ state => Inv state.device) :
    Meets (fun state => Inv state.device) (Lib.regRead device reg code >>= next) Post
      fun _ state => Inv state.device := by
  apply Meets.bind answers.regRead
  intro value
  apply Meets.assume
  rintro rfl
  exact tail

end Answers

section Memory

variable {device : RegDevice ρ δ} {reg : ρ} {code : Nat → ε} {Inv : μ → Prop}
  {Fail : ε → Attached μ δ → Prop}

theorem meets_regRead
    (fails : ∀ failure (state : Attached μ δ), Inv state.memory → Fail (code failure) state) :
    Meets (fun state => Inv state.memory) (regRead device reg code)
      (fun _ state => Inv state.memory) Fail :=
  regRead_meets (fun _ _ _ before _ => before) fun _ failure _ before _ => fails failure _ before

theorem meets_regWrite {value : BitVec 32}
    (fails : ∀ failure (state : Attached μ δ), Inv state.memory → Fail (code failure) state) :
    Meets (fun state => Inv state.memory) (regWrite device reg value code)
      (fun _ state => Inv state.memory) Fail :=
  regWrite_meets (fun _ _ before _ => before) fun _ failure _ before _ => fails failure _ before

theorem meets_modifyMemory {change : μ → μ} {Inv' : μ → Prop}
    (preserved : ∀ memory, Inv memory → Inv' (change memory)) :
    Meets (fun state : Attached μ δ => Inv state.memory) (modifyMemory change)
      (fun _ state => Inv' state.memory) Fail :=
  Meets.modify fun state before => preserved state.memory before

end Memory

end RioFabric.Lib

import RioFabric.Lib.Registers

/-!
# Programs that only read

As long as a device has an invariant, its registers hold known values.  A program that only reads
then returns a known value, unless an access fails; whether one may fail is left open.  Programs
that also write, and keep an invariant, are treated in the same way.
-/

namespace RioFabric.Lib

variable {ε ρ μ δ α β ι : Type} {device : RegDevice ρ δ} {Inv : δ → Prop} {values : ρ → BitVec 32}

/-- The reads that succeed give these values; an access may fail only if `fails` holds. -/
structure RegDevice.Tells (device : RegDevice ρ δ) (Inv : δ → Prop) (values : ρ → BitVec 32)
    (fails : Prop) : Prop where
  ok : ∀ reg state value after, Inv state → device.read reg state = (.ok value, after) →
    value = values reg ∧ Inv after
  error : ∀ reg state failure after, Inv state → device.read reg state = (.error failure, after) →
    fails ∧ Inv after

/-- A program that keeps an invariant of the device returns this value. -/
def Reads (Inv : δ → Prop) (fails : Prop) (program : EStateM ε (Attached μ δ) α) (value : α) :
    Prop :=
  Meets (fun state => Inv state.device) program
    (fun result state => result = value ∧ Inv state.device) fun _ state => fails ∧ Inv state.device

namespace Reads

variable {Inv : δ → Prop} {fails : Prop} {program other : EStateM ε (Attached μ δ) α}
  {value value' : α} {next : α → EStateM ε (Attached μ δ) β}

theorem pure (value : α) :
    Reads Inv fails (Pure.pure value : EStateM ε (Attached μ δ) α) value :=
  Meets.pure fun _ before => ⟨rfl, before⟩

theorem modifyMemory {change : μ → μ} :
    Reads Inv fails (modifyMemory change : EStateM ε (Attached μ δ) PUnit) ⟨⟩ :=
  Meets.modify fun _ before => ⟨rfl, before⟩

theorem bind {last : β} (first : Reads Inv fails program value)
    (rest : Reads Inv fails (next value) last) :
    Reads Inv fails (program >>= next) last := by
  apply Meets.bind first
  intro result
  apply Meets.assume
  rintro rfl
  exact rest

theorem ite {condition : Prop} [Decidable condition]
    (yes : condition → Reads Inv fails program value)
    (no : ¬condition → Reads Inv fails other value') :
    Reads Inv fails (if condition then program else other)
      (if condition then value else value') := by
  split
  next holds => exact yes holds
  next not => exact no not

theorem mapM {body : ι → EStateM ε (Attached μ δ) β} {result : ι → β} {cells : List ι}
    (turn : ∀ idx ∈ cells, Reads Inv fails (body idx) (result idx)) :
    Reads Inv fails (cells.mapM body) (cells.map result) :=
  Meets.mapM turn

/-- Reading, then a program for each value that may have been read. -/
theorem bindMeets {Post : β → Attached μ δ → Prop} {Fail : ε → Attached μ δ → Prop}
    (first : Reads Inv fails program value)
    (early : ∀ stop state, fails → Inv state.device → Fail stop state)
    (rest : Meets (fun state => Inv state.device) (next value) Post Fail) :
    Meets (fun state => Inv state.device) (program >>= next) Post Fail := by
  apply Meets.bind (first.weakenFail fun stop state failed => early stop state failed.1 failed.2)
  intro result
  apply Meets.assume
  rintro rfl
  exact rest

end Reads

theorem RegDevice.Answers.tells (answers : device.Answers Inv values) :
    device.Tells Inv values True where
  ok reg state value _ before answered :=
    ⟨answers.value reg state value before (congrArg Prod.fst answered),
      (congrArg (fun answer => Inv answer.2) answered).mp (answers.keep reg state before)⟩
  error reg state _ _ before answered :=
    ⟨trivial, (congrArg (fun answer => Inv answer.2) answered).mp (answers.keep reg state before)⟩

theorem RegDevice.Tells.regRead {fails : Prop} (tells : device.Tells Inv values fails) {reg : ρ}
    {code : Nat → ε} :
    Reads Inv fails (regRead device reg code : EStateM ε (Attached μ δ) (BitVec 32))
      (values reg) := by
  apply regRead_meets
  · exact fun state value after before answered =>
      tells.ok reg state.device value after before answered
  · exact fun state failure after before answered =>
      tells.error reg state.device failure after before answered

/-- All reads and the writes that are allowed keep an invariant; where one fails, `F` holds. -/
structure RegDevice.Holds (device : RegDevice ρ δ) (Inv : δ → Prop)
    (allowed : ρ → BitVec 32 → Prop) (F : δ → Prop) : Prop where
  read : ∀ reg state value after, Inv state → device.read reg state = (.ok value, after) → Inv after
  readError : ∀ reg state failure after, Inv state →
    device.read reg state = (.error failure, after) → F after
  write : ∀ reg value state after, allowed reg value → Inv state →
    device.write reg value state = (none, after) → Inv after
  writeError : ∀ reg value state failure after, allowed reg value → Inv state →
    device.write reg value state = (some failure, after) → F after

/-- A program keeps an invariant of the device; where it stops early, `F` holds. -/
def Holds (Inv F : δ → Prop) (program : EStateM ε (Attached μ δ) α) : Prop :=
  Meets (fun state => Inv state.device) program (fun _ state => Inv state.device)
    fun _ state => F state.device

namespace Holds

variable {Inv F : δ → Prop} {program other : EStateM ε (Attached μ δ) α} {cells : List ι}

theorem pure (value : α) : Holds Inv F (Pure.pure value : EStateM ε (Attached μ δ) α) :=
  Meets.pure fun _ before => before

theorem modifyMemory {change : μ → μ} :
    Holds Inv F (modifyMemory change : EStateM ε (Attached μ δ) PUnit) :=
  Meets.modify fun _ before => before

theorem bind {next : α → EStateM ε (Attached μ δ) β} (first : Holds Inv F program)
    (rest : ∀ value, Holds Inv F (next value)) : Holds Inv F (program >>= next) :=
  Meets.bind first rest

theorem ite {condition : Prop} [Decidable condition] (yes : condition → Holds Inv F program)
    (no : ¬condition → Holds Inv F other) :
    Holds Inv F (if condition then program else other) :=
  Meets.ite yes no

theorem forM {body : ι → EStateM ε (Attached μ δ) PUnit}
    (turn : ∀ idx ∈ cells, Holds Inv F (body idx)) : Holds Inv F (cells.forM body) :=
  Meets.forM turn

theorem mapM {body : ι → EStateM ε (Attached μ δ) β}
    (turn : ∀ idx ∈ cells, Holds Inv F (body idx)) : Holds Inv F (cells.mapM body) := by
  induction cells with
  | nil => exact pure []
  | cons idx cells ih =>
    rw [List.mapM_cons]
    apply bind (turn idx List.mem_cons_self)
    intro value
    apply bind (ih fun other isMember => turn other (List.mem_cons_of_mem idx isMember))
    exact fun values => pure (value :: values)

theorem foldlM {body : β → ι → EStateM ε (Attached μ δ) β}
    (turn : ∀ carried, ∀ idx ∈ cells, Holds Inv F (body carried idx)) (carried : β) :
    Holds Inv F (cells.foldlM body carried) :=
  Meets.foldlM turn carried

end Holds

section Accesses

variable {device : RegDevice ρ δ} {Inv F : δ → Prop} {allowed : ρ → BitVec 32 → Prop} {reg : ρ}
  {code : Nat → ε}

theorem RegDevice.Keeps.holds (keeps : device.Keeps Inv allowed) :
    device.Holds Inv allowed Inv where
  read reg state _ _ before answered :=
    (congrArg (fun answer => Inv answer.2) answered).mp (keeps.read reg state before)
  readError reg state _ _ before answered :=
    (congrArg (fun answer => Inv answer.2) answered).mp (keeps.read reg state before)
  write reg value state _ isAllowed before answered :=
    (congrArg (fun answer => Inv answer.2) answered).mp
      (keeps.write reg value state isAllowed before)
  writeError reg value state _ _ isAllowed before answered :=
    (congrArg (fun answer => Inv answer.2) answered).mp
      (keeps.write reg value state isAllowed before)

theorem RegDevice.Holds.keeps (holds : device.Holds Inv allowed Inv) :
    device.Keeps Inv allowed where
  read reg state before := by
    cases answered : device.read reg state with
    | mk answer after =>
      cases answer with
      | ok value => exact holds.read reg state value after before answered
      | error failure => exact holds.readError reg state failure after before answered
  write reg value state isAllowed before := by
    cases answered : device.write reg value state with
    | mk answer after =>
      cases answer with
      | none => exact holds.write reg value state after isAllowed before answered
      | some failure =>
        exact holds.writeError reg value state failure after isAllowed before answered

section

variable (holds : device.Holds Inv allowed F)
include holds

theorem RegDevice.Holds.mayFail :
    device.Holds Inv allowed fun _ => True where
  read := holds.read
  readError _ _ _ _ _ _ := trivial
  write := holds.write
  writeError _ _ _ _ _ _ _ _ := trivial

theorem RegDevice.Holds.regRead :
    Lib.Holds Inv F (regRead device reg code : EStateM ε (Attached μ δ) (BitVec 32)) := by
  apply regRead_meets
  · exact fun state value after => holds.read reg state.device value after
  · exact fun state failure after => holds.readError reg state.device failure after

theorem RegDevice.Holds.regWrite {value : BitVec 32} (isAllowed : allowed reg value) :
    Lib.Holds Inv F (regWrite device reg value code : EStateM ε (Attached μ δ) Unit) := by
  apply regWrite_meets
  · exact fun state after => holds.write reg value state.device after isAllowed
  · exact fun state failure after => holds.writeError reg value state.device failure after isAllowed

end

end Accesses

end RioFabric.Lib

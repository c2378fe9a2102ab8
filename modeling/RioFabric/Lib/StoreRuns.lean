import RioFabric.Lib.RegLog
import RioFabric.Lib.RegisterFile

/-!
# Runs that succeed on a store

What a run that does not stop early leaves in memory and in the registers does not depend on which
accesses would fail.  It is followed one statement at a time, from the memory and the values of the
registers that the run starts with.
-/

namespace RioFabric.Lib

variable {ε ρ μ α β ι : Type}

/-- From this memory and these registers, a program ends with `Post` unless it stops early. -/
structure Yields (memory : μ) (values : ρ → BitVec 32)
    (program : EStateM ε (Attached μ (RegisterFile ρ)) α)
    (Post : α → μ → (ρ → BitVec 32) → Prop) : Prop where
  ended : ∀ ⦃state value final⦄, state.memory = memory → state.device.value = values →
    program.run state = .ok value final → Post value final.memory final.device.value

namespace Yields

variable {memory : μ} {values : ρ → BitVec 32}
  {program other : EStateM ε (Attached μ (RegisterFile ρ)) α}
  {Post Post' : α → μ → (ρ → BitVec 32) → Prop} {Last : β → μ → (ρ → BitVec 32) → Prop}
  {next : α → EStateM ε (Attached μ (RegisterFile ρ)) β} {cells : List ι}

theorem weaken (yields : Yields memory values program Post)
    (post : ∀ value memory values, Post value memory values → Post' value memory values) :
    Yields memory values program Post' :=
  ⟨fun _ _ _ sameMemory sameValues ran => post _ _ _ (yields.ended sameMemory sameValues ran)⟩

theorem pure {value : α} (holds : Post value memory values) :
    Yields memory values (Pure.pure value : EStateM ε (Attached μ (RegisterFile ρ)) α) Post := by
  constructor
  intro state result final sameMemory sameValues ran
  obtain ⟨rfl, rfl⟩ := pure_ok_iff.mp ran
  rwa [sameMemory, sameValues]

theorem throw {stop : ε} :
    Yields memory values (throw stop : EStateM ε (Attached μ (RegisterFile ρ)) α) Post := by
  constructor
  intro state result final _ _ ran
  cases ran

theorem modifyMemory {change : μ → μ} {Post : PUnit → μ → (ρ → BitVec 32) → Prop}
    (holds : Post ⟨⟩ (change memory) values) :
    Yields memory values
      (modifyMemory change : EStateM ε (Attached μ (RegisterFile ρ)) PUnit) Post := by
  constructor
  intro state result final sameMemory sameValues ran
  rw [modify_ok_iff.mp ran, sameMemory]
  exact sameValues ▸ holds

theorem bind (first : Yields memory values program Post)
    (second : ∀ value memory values, Post value memory values →
      Yields memory values (next value) Last) :
    Yields memory values (program >>= next) Last := by
  constructor
  intro state result final sameMemory sameValues ran
  obtain ⟨value, middle, firstRan, rest⟩ := bind_ok_iff.mp ran
  exact (second value _ _ (first.ended sameMemory sameValues firstRan)).ended rfl rfl rest

/-- Sequencing, where the values in between are described by a condition. -/
theorem bindTo (Mid : α → μ → (ρ → BitVec 32) → Prop) (first : Yields memory values program Mid)
    (second : ∀ value memory values, Mid value memory values →
      Yields memory values (next value) Last) :
    Yields memory values (program >>= next) Last :=
  first.bind second

theorem known {value : α} {memory' : μ} {values' : ρ → BitVec 32}
    (first : Yields memory values program fun result after registers =>
      result = value ∧ after = memory' ∧ registers = values')
    (second : Yields memory' values' (next value) Last) :
    Yields memory values (program >>= next) Last := by
  apply first.bind
  rintro _ _ _ ⟨rfl, rfl, rfl⟩
  exact second

theorem ite {condition : Prop} [Decidable condition]
    (yes : condition → Yields memory values program Post)
    (no : ¬condition → Yields memory values other Post) :
    Yields memory values (if condition then program else other) Post := by
  split
  next holds => exact yes holds
  next fails => exact no fails

section Accesses

variable [DecidableEq ρ] {effect : WriteEffect ρ} {code : Nat → ε}

theorem regRead {reg : ρ} {Post : BitVec 32 → μ → (ρ → BitVec 32) → Prop}
    (holds : Post (values reg) memory values) :
    Yields memory values (regRead (registerFile effect) reg code) Post := by
  constructor
  intro state value final sameMemory sameValues ran
  obtain ⟨_, rfl, rfl⟩ := regRead_file_ok_iff.mp ran
  rwa [← sameMemory, ← sameValues] at holds

theorem regWrite {reg : ρ} {value : BitVec 32} {Post : Unit → μ → (ρ → BitVec 32) → Prop}
    (holds : Post () memory (effect reg value values)) :
    Yields memory values (regWrite (registerFile effect) reg value code) Post := by
  constructor
  intro state result final sameMemory sameValues ran
  obtain ⟨_, rfl⟩ := regWrite_file_ok_iff.mp ran
  rwa [← sameMemory, ← sameValues] at holds

end Accesses

/-- A loop over a list; the invariant says what holds after the turns for a list. -/
theorem forM {body : ι → EStateM ε (Attached μ (RegisterFile ρ)) PUnit}
    (Inv : List ι → μ → (ρ → BitVec 32) → Prop)
    (turn : ∀ done idx left memory values, cells = done ++ idx :: left → Inv done memory values →
      Yields memory values (body idx) fun _ => Inv (done ++ [idx]))
    (before : Inv [] memory values) :
    Yields memory values (cells.forM body) fun _ => Inv cells := by
  have rest : ∀ left done memory values, cells = done ++ left → Inv done memory values →
      Yields memory values (left.forM body) fun _ => Inv cells := by
    intro left
    induction left with
    | nil =>
      intro done memory values all holds
      rw [all, List.append_nil]
      exact pure holds
    | cons idx left ih =>
      intro done memory values all holds
      rw [show (idx :: left).forM body = body idx >>= fun _ => left.forM body from rfl]
      apply (turn done idx left memory values all holds).bind
      intro _ memory values after
      exact ih (done ++ [idx]) memory values (all.trans (List.append_cons done idx left)) after
  exact rest cells [] memory values rfl before

/-- A loop over numbers in order; the invariant says what holds before each turn. -/
theorem forM_range {body : Nat → EStateM ε (Attached μ (RegisterFile ρ)) PUnit} {count : Nat}
    (Inv : Nat → μ → (ρ → BitVec 32) → Prop)
    (turn : ∀ idx < count, ∀ memory values, Inv idx memory values →
      Yields memory values (body idx) fun _ => Inv (idx + 1))
    (before : Inv 0 memory values) :
    Yields memory values ((List.range count).forM body) fun _ => Inv count := by
  induction count with
  | zero => exact pure before
  | succ count ih =>
    rw [List.range_succ, show (List.range count ++ [count]).forM body =
      ((List.range count).forM body >>= fun _ => [count].forM body) from List.forM_append]
    apply (ih fun idx smaller => turn idx (Nat.lt_succ_of_lt smaller)).bind
    intro _ memory values holds
    rw [show [count].forM body = body count >>= fun _ => Pure.pure ⟨⟩ from rfl]
    apply (turn count (Nat.lt_succ_self count) memory values holds).bind
    exact fun _ _ _ after => pure after

theorem mapM {body : ι → EStateM ε (Attached μ (RegisterFile ρ)) β} {result : ι → β}
    {Inv : μ → (ρ → BitVec 32) → Prop} (turn : ∀ idx ∈ cells, ∀ memory values, Inv memory values →
      Yields memory values (body idx) fun value memory values =>
        value = result idx ∧ Inv memory values) (before : Inv memory values) :
    Yields memory values (cells.mapM body) fun results memory values =>
      results = cells.map result ∧ Inv memory values := by
  induction cells generalizing memory values with
  | nil => exact pure ⟨rfl, before⟩
  | cons idx cells ih =>
    rw [List.mapM_cons]
    apply (turn idx List.mem_cons_self memory values before).bind
    rintro value memory values ⟨rfl, holds⟩
    apply (ih (fun other isMember => turn other (List.mem_cons_of_mem idx isMember)) holds).bind
    rintro results memory values ⟨rfl, holds⟩
    exact pure ⟨rfl, holds⟩

end Yields

section Logged

/-- A register file with the log of its accesses. -/
abbrev LoggedFile (ρ : Type) := RegisterFile ρ × List (RegEvent ρ)

variable [DecidableEq ρ] {effect : WriteEffect ρ} {reg : ρ} {value : BitVec 32}
  {file : RegisterFile ρ} {log : List (RegEvent ρ)} {after : RegisterFile ρ × List (RegEvent ρ)}

theorem read_logged_file_ok
    (answered : (logged (registerFile effect)).read reg (file, log) = (.ok value, after)) :
    value = file.value reg ∧ after = (file.pass (.read reg), log ++ [.read reg value]) := by
  cases fault : file.fault (.read reg) with
  | zero =>
    simp only [logged, registerFile, fault] at answered
    cases answered
    exact ⟨rfl, rfl⟩
  | succ code =>
    simp only [logged, registerFile, fault] at answered
    cases answered

theorem read_logged_file_error {failure : Nat}
    (answered : (logged (registerFile effect)).read reg (file, log) = (.error failure, after)) :
    file.fault (.read reg) ≠ 0 ∧ after = (file.pass (.read reg), log) := by
  cases fault : file.fault (.read reg) with
  | zero =>
    simp only [logged, registerFile, fault] at answered
    cases answered
  | succ code =>
    simp only [logged, registerFile, fault] at answered
    cases answered
    exact ⟨Nat.succ_ne_zero code, rfl⟩

theorem write_logged_file_ok
    (answered : (logged (registerFile effect)).write reg value (file, log) = (none, after)) :
    after = ({ file.pass (.write reg) with value := effect reg value file.value },
      log ++ [.write reg value]) := by
  cases fault : file.fault (.write reg) with
  | zero =>
    simp only [logged, registerFile, fault] at answered
    cases answered
    rfl
  | succ code =>
    simp only [logged, registerFile, fault] at answered
    cases answered

theorem write_logged_file_error {failure : Nat}
    (answered : (logged (registerFile effect)).write reg value (file, log) =
      (some failure, after)) :
    file.fault (.write reg) ≠ 0 ∧
      after = (file.pass (.write reg), log ++ [.write reg value]) := by
  cases fault : file.fault (.write reg) with
  | zero =>
    simp only [logged, registerFile, fault] at answered
    cases answered
  | succ code =>
    simp only [logged, registerFile, fault] at answered
    cases answered
    exact ⟨Nat.succ_ne_zero code, rfl⟩

end Logged

end RioFabric.Lib

import RioFabric.Lib.RegLog

/-!
# Programs that write a list of registers

A program that only writes makes a list of writes that is known beforehand, one after the other,
unless it finds that it is not able to.  It comes to its end exactly if it is able to and the
device accepts all of them.
-/

namespace RioFabric.Lib

variable {ε ρ μ δ α β ι : Type}

namespace RegDevice

/-- None of the writes fails when they are made one after the other. -/
def Accepts (device : RegDevice ρ δ) : List (ρ × BitVec 32) → δ → Prop
  | [], _ => True
  | (reg, value) :: writes, state =>
    (device.write reg value state).1 = none ∧
      device.Accepts writes (device.write reg value state).2

/-- The device after the writes. -/
def after (device : RegDevice ρ δ) : List (ρ × BitVec 32) → δ → δ
  | [], state => state
  | (reg, value) :: writes, state => device.after writes (device.write reg value state).2

variable {device : RegDevice ρ δ} {first rest : List (ρ × BitVec 32)} {state : δ}
  {writes : ι → List (ρ × BitVec 32)}

theorem after_append :
    device.after (first ++ rest) state = device.after rest (device.after first state) := by
  induction first generalizing state with
  | nil => rfl
  | cons write first ih => exact ih

theorem accepts_append :
    device.Accepts (first ++ rest) state ↔
      device.Accepts first state ∧ device.Accepts rest (device.after first state) := by
  induction first generalizing state with
  | nil => exact (iff_of_eq (true_and _)).symm
  | cons write first ih =>
    rw [List.cons_append]
    show _ ∧ _ ↔ (_ ∧ _) ∧ _
    rw [ih, and_assoc]
    rfl

theorem accepts_of_forall (all : ∀ reg value state, (device.write reg value state).1 = none)
    (writes : List (ρ × BitVec 32)) (state : δ) : device.Accepts writes state := by
  induction writes generalizing state with
  | nil => exact trivial
  | cons write writes ih => exact ⟨all write.1 write.2 state, ih _⟩

theorem accepts_flatMap_cons {idx : ι} {left : List ι} :
    device.Accepts ((idx :: left).flatMap writes) state ↔
      device.Accepts (writes idx) state ∧
        device.Accepts (left.flatMap writes) (device.after (writes idx) state) := by
  rw [List.flatMap_cons, accepts_append]

/-- Where not all writes for the cells are accepted, there is a first cell with a failure. -/
theorem not_accepts_flatMap_iff {cells : List ι} :
    ¬device.Accepts (cells.flatMap writes) state ↔
      ∃ done idx left, cells = done ++ idx :: left ∧
        device.Accepts (done.flatMap writes) state ∧
          ¬device.Accepts (writes idx) (device.after (done.flatMap writes) state) := by
  constructor
  · intro refused
    induction cells generalizing state with
    | nil => exact absurd trivial refused
    | cons cell cells ih =>
      by_cases first : device.Accepts (writes cell) state
      · rw [accepts_flatMap_cons, not_and] at refused
        obtain ⟨done, idx, left, rfl, early, late⟩ := ih (refused first)
        refine ⟨cell :: done, idx, left, rfl, accepts_flatMap_cons.mpr ⟨first, early⟩, ?_⟩
        rwa [List.flatMap_cons, after_append]
      · exact ⟨[], cell, cells, rfl, trivial, first⟩
  · rintro ⟨done, idx, left, rfl, early, late⟩ accepts
    rw [List.flatMap_append, accepts_append, accepts_flatMap_cons] at accepts
    exact late accepts.2.1

end RegDevice

/-- Where `I` holds of the memory, a program that is able to makes these writes; if none of them
fails it ends, with `J`, and otherwise it stops early. -/
structure Performs (device : RegDevice ρ δ) (I : μ → Prop)
    (program : EStateM ε (Attached μ δ) α) (able : Prop) (writes : List (ρ × BitVec 32))
    (J : α → μ → Prop) : Prop where
  ends : ∀ ⦃memory state⦄, I memory → able → device.Accepts writes state →
    ∃ value changed, program.run ⟨memory, state⟩ = .ok value ⟨changed, device.after writes state⟩ ∧
      J value changed
  stops : ∀ ⦃memory state⦄, I memory → ¬(able ∧ device.Accepts writes state) →
    ∃ code final, program.run ⟨memory, state⟩ = .error code final

namespace Performs

variable {device : RegDevice ρ δ} {I : μ → Prop} {program : EStateM ε (Attached μ δ) α}
  {able able' : Prop} {writes writes' : List (ρ × BitVec 32)} {J : α → μ → Prop} {K : μ → Prop}
  {L : β → μ → Prop}

theorem weaken {I' : μ → Prop} {J' : α → μ → Prop}
    (performs : Performs device I program able writes J) (pre : ∀ memory, I' memory → I memory)
    (same : able' ↔ able) (post : ∀ value memory, J value memory → J' value memory) :
    Performs device I' program able' writes J' where
  ends memory state before isAble accepts := by
    obtain ⟨value, changed, ran, holds⟩ :=
      performs.ends (pre memory before) (same.mp isAble) accepts
    exact ⟨value, changed, ran, post value changed holds⟩
  stops memory state before cannot := by
    rw [same] at cannot
    exact performs.stops (pre memory before) cannot

theorem congr {other : EStateM ε (Attached μ δ) α}
    (same : ∀ memory state, I memory → program.run ⟨memory, state⟩ = other.run ⟨memory, state⟩)
    (performs : Performs device I other able writes J) :
    Performs device I program able writes J where
  ends memory state before isAble accepts := by
    rw [same memory state before]
    exact performs.ends before isAble accepts
  stops memory state before cannot := by
    rw [same memory state before]
    exact performs.stops before cannot

theorem pure {value : α} (holds : ∀ memory, I memory → J value memory) :
    Performs device I (Pure.pure value : EStateM ε (Attached μ δ) α) True [] J where
  ends memory _ before _ _ := ⟨value, memory, rfl, holds memory before⟩
  stops _ _ _ cannot := absurd ⟨trivial, trivial⟩ cannot

theorem throw {code : ε} :
    Performs device I (throw code : EStateM ε (Attached μ δ) α) False [] J where
  ends _ _ _ isAble := isAble.elim
  stops memory state _ _ := ⟨code, ⟨memory, state⟩, rfl⟩

theorem failIf {condition : Prop} [Decidable condition] {code : ε} :
    Performs device I (failIf condition code : EStateM ε (Attached μ δ) Unit) (¬condition) []
      fun _ => I := by
  by_cases holds : condition
  · rw [Lib.failIf, if_pos holds]
    exact throw.weaken (fun _ before => before) (iff_of_false (not_not.mpr holds) not_false)
      fun _ _ after => after
  · rw [Lib.failIf, if_neg holds]
    exact (pure fun _ before => before).weaken (fun _ before => before) (iff_true_intro holds)
      fun _ _ after => after

theorem modifyMemory {change : μ → μ} {J : PUnit → μ → Prop}
    (holds : ∀ memory, I memory → J ⟨⟩ (change memory)) :
    Performs device I (modifyMemory change : EStateM ε (Attached μ δ) PUnit) True [] J where
  ends memory _ before _ _ := ⟨⟨⟩, change memory, rfl, holds memory before⟩
  stops _ _ _ cannot := absurd ⟨trivial, trivial⟩ cannot

theorem regWrite {reg : ρ} {value : BitVec 32} {code : Nat → ε} :
    Performs device I (regWrite device reg value code : EStateM ε (Attached μ δ) Unit) True
      [(reg, value)] fun _ => I where
  ends memory state before _ accepts := by
    refine ⟨(), memory, ?_, before⟩
    simp only [EStateM.run, Lib.regWrite]
    obtain ⟨passed, -⟩ := accepts
    cases answered : device.write reg value state with
    | mk failure next =>
      rw [answered] at passed
      cases failure with
      | none => simp only [RegDevice.after, answered]
      | some _ => cases passed
  stops memory state before cannot := by
    simp only [EStateM.run, Lib.regWrite]
    cases answered : device.write reg value state with
    | mk failure next =>
      cases failure with
      | none => exact absurd ⟨trivial, by rw [answered], trivial⟩ cannot
      | some failure => exact ⟨code failure, ⟨memory, next⟩, rfl⟩

theorem getBind {next : Attached μ δ → EStateM ε (Attached μ δ) α}
    (tail : ∀ start : Attached μ δ, I start.memory →
      Performs device (fun memory => memory = start.memory) (next start) able writes J) :
    Performs device I (get >>= next) able writes J where
  ends memory state before isAble accepts := by
    rw [get_bind_run]
    exact (tail ⟨memory, state⟩ before).ends rfl isAble accepts
  stops memory state before cannot := by
    rw [get_bind_run]
    exact (tail ⟨memory, state⟩ before).stops rfl cannot

theorem bind {next : α → EStateM ε (Attached μ δ) β} {value : α}
    (first : Performs device I program able writes fun result memory => result = value ∧ K memory)
    (rest : Performs device K (next value) able' writes' L) :
    Performs device I (program >>= next) (able ∧ able') (writes ++ writes') L where
  ends memory state before isAble accepts := by
    obtain ⟨early, late⟩ := RegDevice.accepts_append.mp accepts
    obtain ⟨result, middle, ran, rfl, after⟩ := first.ends before isAble.1 early
    obtain ⟨last, final, restRan, holds⟩ := rest.ends after isAble.2 late
    refine ⟨last, final, ?_, holds⟩
    rw [EStateM.run_bind, ran, RegDevice.after_append]
    exact restRan
  stops memory state before cannot := by
    rw [EStateM.run_bind]
    by_cases can : able ∧ device.Accepts writes state
    · obtain ⟨result, middle, ran, rfl, after⟩ := first.ends before can.1 can.2
      rw [ran]
      apply rest.stops after
      intro later
      exact cannot ⟨⟨can.1, later.1⟩, RegDevice.accepts_append.mpr ⟨can.2, later.2⟩⟩
    · obtain ⟨code, final, stopped⟩ := first.stops before can
      rw [stopped]
      exact ⟨code, final, rfl⟩

/-- The writes of two programs, one after the other. -/
theorem andThen {program : EStateM ε (Attached μ δ) PUnit}
    {next : PUnit → EStateM ε (Attached μ δ) β}
    (first : Performs device I program able writes fun _ => K)
    (rest : Performs device K (next ⟨⟩) able' writes' L) :
    Performs device I (program >>= next) (able ∧ able') (writes ++ writes') L :=
  bind (first.weaken (fun _ before => before) Iff.rfl fun _ _ after => ⟨rfl, after⟩) rest

/-- A loop makes the writes of its turns; each turn knows what was done before it. -/
theorem forM {body : ι → EStateM ε (Attached μ δ) PUnit} {I : List ι → μ → Prop}
    {ables : ι → Prop} {turnWrites : ι → List (ρ × BitVec 32)} {cells : List ι}
    (turn : ∀ done idx left, cells = done ++ idx :: left →
      Performs device (I done) (body idx) (ables idx) (turnWrites idx)
        fun _ => I (done ++ [idx])) :
    Performs device (I []) (cells.forM body) (∀ idx ∈ cells, ables idx)
      (cells.flatMap turnWrites) fun _ => I cells := by
  suffices rest : ∀ left done, cells = done ++ left →
      Performs device (I done) (left.forM body) (∀ idx ∈ left, ables idx)
        (left.flatMap turnWrites) fun _ => I cells from rest cells [] rfl
  intro left
  induction left with
  | nil =>
    intro done all
    rw [all, List.append_nil]
    exact (pure fun _ before => before).weaken (fun _ before => before)
      (iff_true_intro (List.forall_mem_nil _)) fun _ _ after => after
  | cons idx left ih =>
    intro done all
    rw [show (idx :: left).forM body = body idx >>= fun _ => left.forM body from rfl]
    have rest := ih (done ++ [idx]) (all.trans (List.append_cons done idx left))
    have both : Performs device (I done) (body idx >>= fun _ => left.forM body)
        (ables idx ∧ ∀ other ∈ left, ables other) (turnWrites idx ++ left.flatMap turnWrites)
        fun _ => I cells := (turn done idx left all).andThen rest
    exact both.weaken (fun _ before => before) List.forall_mem_cons fun _ _ after => after

end Performs

/-- The writes as they are traced when they succeed. -/
def accepted (writes : List (ρ × BitVec 32)) : List (RegAttempt ρ) :=
  writes.map fun write => .write write.1 write.2 none

section Traced

variable {device : RegDevice ρ δ} {writes : List (ρ × BitVec 32)} {state : δ}
  {trace : List (RegAttempt ρ)}

theorem accepts_traced_iff :
    (traced device).Accepts writes (state, trace) ↔ device.Accepts writes state := by
  induction writes generalizing state trace with
  | nil => exact Iff.rfl
  | cons write writes ih => exact and_congr_right fun _ => ih

theorem after_traced (accepts : device.Accepts writes state) :
    (traced device).after writes (state, trace) =
      (device.after writes state, trace ++ accepted writes) := by
  induction writes generalizing state trace with
  | nil => exact congrArg (Prod.mk state) (List.append_nil trace).symm
  | cons write writes ih =>
    obtain ⟨passed, rest⟩ := accepts
    have traceIs : ((traced device).write write.1 write.2 (state, trace)).2 =
        ((device.write write.1 write.2 state).2, trace ++ [.write write.1 write.2 none]) := by
      rw [← passed]
      rfl
    show (traced device).after writes ((traced device).write write.1 write.2 (state, trace)).2 = _
    rw [traceIs, ih rest, List.append_assoc]
    rfl

theorem regWrite_traced {reg : ρ} {value : BitVec 32} {code : Nat → ε}
    {Pre : Attached μ (δ × List (RegAttempt ρ)) → Prop}
    {Post : Unit → Attached μ (δ × List (RegAttempt ρ)) → Prop}
    {Fail : ε → Attached μ (δ × List (RegAttempt ρ)) → Prop}
    (ok : ∀ before after, Pre before →
      Post () ⟨before.memory, (after, before.device.2 ++ [.write reg value none])⟩)
    (fails : ∀ before after failure, Pre before →
      Fail (code failure)
        ⟨before.memory, (after, before.device.2 ++ [.write reg value (some failure)])⟩) :
    Meets Pre (regWrite (traced device) reg value code) Post Fail := by
  apply regWrite_meets
  · intro before after holds answered
    obtain ⟨noFailure, same⟩ := Prod.mk.inj answered
    rw [← same, noFailure]
    exact ok before _ holds
  · intro before failure after holds answered
    obtain ⟨failed, same⟩ := Prod.mk.inj answered
    rw [← same, failed]
    exact fails before _ failure holds

end Traced

theorem forM_run_of_error {σ : Type} {body : ι → EStateM ε σ PUnit} {done left : List ι} {idx : ι}
    {state middle final : σ} {code : ε} (ran : (done.forM body).run state = .ok ⟨⟩ middle)
    (turn : (body idx).run middle = .error code final) :
    ((done ++ idx :: left).forM body).run state = .error code final := by
  rw [show (done ++ idx :: left).forM body = (done.forM body >>= fun _ => (idx :: left).forM body)
    from List.forM_append, EStateM.run_bind, ran]
  show (body idx >>= fun _ => left.forM body).run middle = _
  rw [EStateM.run_bind, turn]

end RioFabric.Lib

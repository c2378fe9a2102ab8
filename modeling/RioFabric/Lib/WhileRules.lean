import RioFabric.Lib.While

/-!
# Rules for programs with loops

Two judgements about programs with loops.  `Prog.Meets` says what holds after a run, however
much fuel it had, and what its trace is like; `Prog.Ends` says that enough fuel is enough,
provided that all events the program records are acceptable.
-/

namespace RioFabric.Lib

variable {ε σ τ α β : Type}

/-! ## What runs do -/

/-- Properties of traces that pass from two traces to one after the other: `always` is
required of every run, `atEnd` only of those that end. -/
structure TraceSpec (τ : Type) where
  always : List τ → Prop
  atEnd : List τ → Prop
  always_nil : always []
  always_append : ∀ {first rest}, always first → always rest → always (first ++ rest)
  atEnd_nil : atEnd []
  atEnd_append : ∀ {first rest}, atEnd first → atEnd rest → atEnd (first ++ rest)

/-- The same without a requirement for runs that end. -/
def TraceSpec.lax (spec : TraceSpec τ) : TraceSpec τ :=
  { spec with atEnd := fun _ => True, atEnd_nil := trivial, atEnd_append := fun _ _ => trivial }

/-- Nothing is required of traces. -/
def TraceSpec.any : TraceSpec τ where
  always _ := True
  atEnd _ := True
  always_nil := trivial
  always_append _ _ := trivial
  atEnd_nil := trivial
  atEnd_append _ _ := trivial

namespace Outcome

/-- The trace is as required, and the state too if the run has ended. -/
def Satisfies (spec : TraceSpec τ) (Post : α → σ → Prop) (Fail : ε → σ → Prop)
    (outcome : Outcome ε σ τ α) : Prop :=
  spec.always outcome.trace ∧
    match outcome.ending with
    | .done value => spec.atEnd outcome.trace ∧ Post value outcome.state
    | .stopped code => spec.atEnd outcome.trace ∧ Fail code outcome.state
    | .unfinished => True

variable {spec : TraceSpec τ} {Fail Fail' : ε → σ → Prop} {outcome : Outcome ε σ τ α}
  {Post : α → σ → Prop}

theorem Satisfies.weaken {Post' : α → σ → Prop} (satisfies : outcome.Satisfies spec Post Fail)
    (post : ∀ value state, Post value state → Post' value state)
    (fail : ∀ code state, Fail code state → Fail' code state) :
    outcome.Satisfies spec Post' Fail' := by
  unfold Satisfies at satisfies ⊢
  cases ended : outcome.ending with
  | done value =>
    rw [ended] at satisfies
    exact ⟨satisfies.1, satisfies.2.1, post value _ satisfies.2.2⟩
  | stopped code =>
    rw [ended] at satisfies
    exact ⟨satisfies.1, satisfies.2.1, fail code _ satisfies.2.2⟩
  | unfinished => exact ⟨satisfies.1, trivial⟩

theorem Satisfies.append {trace : List τ} (always : spec.always trace) (atEnd : spec.atEnd trace)
    (satisfies : outcome.Satisfies spec Post Fail) :
    Satisfies spec Post Fail ⟨outcome.ending, outcome.state, trace ++ outcome.trace⟩ := by
  unfold Satisfies at satisfies ⊢
  refine ⟨spec.always_append always satisfies.1, ?_⟩
  cases ended : outcome.ending with
  | done value =>
    rw [ended] at satisfies
    exact ⟨spec.atEnd_append atEnd satisfies.2.1, satisfies.2.2⟩
  | stopped code =>
    rw [ended] at satisfies
    exact ⟨spec.atEnd_append atEnd satisfies.2.1, satisfies.2.2⟩
  | unfinished => trivial

theorem Satisfies.andThen {Mid : α → σ → Prop} {Post : β → σ → Prop}
    {next : α → σ → Outcome ε σ τ β} (head : outcome.Satisfies spec Mid Fail)
    (tail : ∀ value state, Mid value state → (next value state).Satisfies spec Post Fail) :
    (outcome.andThen next).Satisfies spec Post Fail := by
  unfold Outcome.andThen
  cases ended : outcome.ending with
  | done value =>
    simp only [Satisfies, ended] at head
    exact (tail value _ head.2.2).append head.1 head.2.1
  | stopped code =>
    simp only [Satisfies, ended] at head
    exact ⟨head.1, head.2⟩
  | unfinished => exact ⟨head.1, trivial⟩

theorem Satisfies.orElse {Mid : ε → σ → Prop} {handler : ε → σ → Outcome ε σ τ α}
    (body : outcome.Satisfies spec Post Mid)
    (tail : ∀ code state, Mid code state → (handler code state).Satisfies spec Post Fail) :
    (outcome.orElse handler).Satisfies spec Post Fail := by
  unfold Outcome.orElse
  cases ended : outcome.ending with
  | done value =>
    simp only [Satisfies, ended] at body ⊢
    exact body
  | stopped code =>
    simp only [Satisfies, ended] at body
    exact (tail code _ body.2.2).append body.1 body.2.1
  | unfinished =>
    simp only [Satisfies, ended] at body ⊢
    exact body

theorem Satisfies.of_never (never : outcome.Satisfies spec.lax (fun _ _ => False) fun _ _ => False)
    :
    outcome.Satisfies spec Post Fail := by
  unfold Satisfies at never ⊢
  refine ⟨never.1, ?_⟩
  cases ended : outcome.ending with
  | done value =>
    rw [ended] at never
    exact never.2.2.elim
  | stopped code =>
    rw [ended] at never
    exact never.2.2.elim
  | unfinished => trivial

end Outcome

section Iterate

variable {spec : TraceSpec τ} {Post : α → σ → Prop} {Fail : ε → σ → Prop}
  {body : β → σ → Outcome ε σ τ (β ⊕ α)} {Inv Bad : β → σ → Prop}

theorem iterate_never (turn : ∀ carried state, Inv carried state →
      (body carried state).Satisfies spec (Sum.elim Inv fun _ _ => False) fun _ _ => False)
    (turns : Nat) {carried : β} {state : σ} (before : Inv carried state) :
    (iterate body turns carried state).Satisfies spec (fun _ _ => False) fun _ _ => False := by
  induction turns generalizing carried state with
  | zero => exact ⟨spec.always_nil, trivial⟩
  | succ turns ih =>
    refine (turn carried state before).andThen fun result state after => ?_
    cases result with
    | inl next => exact ih after
    | inr value => exact after.elim

/-- A loop keeps what each turn keeps.  Turns that lead to no end may break what is required
of runs that end. -/
theorem iterate_satisfies (turn : ∀ carried state, Inv carried state → ¬Bad carried state →
      (body carried state).Satisfies spec (Sum.elim Inv Post) Fail)
    (bad : ∀ carried state, Bad carried state →
      (body carried state).Satisfies spec.lax (Sum.elim Bad fun _ _ => False) fun _ _ => False)
    (turns : Nat) {carried : β} {state : σ} (before : Inv carried state) :
    (iterate body turns carried state).Satisfies spec Post Fail := by
  induction turns generalizing carried state with
  | zero => exact ⟨spec.always_nil, trivial⟩
  | succ turns ih =>
    by_cases isBad : Bad carried state
    · exact .of_never (iterate_never bad (turns + 1) isBad)
    · refine (turn carried state before isBad).andThen fun result state after => ?_
      cases result with
      | inl next => exact ih after
      | inr value => exact ⟨spec.always_nil, spec.atEnd_nil, after⟩

end Iterate

namespace Prog

/-! ### Small programs -/

/-- Look at the state. -/
def read (view : σ → α) : Prog ε σ τ α := .act fun state => .ok (view state) state

def change (f : σ → σ) : Prog ε σ τ Unit := .act fun state => .ok () (f state)

/-- Stop early. -/
def stop (code : ε) : Prog ε σ τ α := .act fun state => .error code state

section Runs

variable {fuel : Nat} {state : σ}

theorem run_pure (value : α) :
    (pure value : Prog ε σ τ α).run fuel state = ⟨.done value, state, []⟩ := rfl

theorem run_read (view : σ → α) :
    (read view : Prog ε σ τ α).run fuel state = ⟨.done (view state), state, []⟩ := rfl

theorem run_change (f : σ → σ) :
    (change f : Prog ε σ τ Unit).run fuel state = ⟨.done (), f state, []⟩ := rfl

theorem run_emit (event : τ) :
    (emit event : Prog ε σ τ Unit).run fuel state = ⟨.done (), state, [event]⟩ := rfl

theorem run_bind (first : Prog ε σ τ α) (next : α → Prog ε σ τ β) :
    (first >>= next).run fuel state =
      (first.run fuel state).andThen fun value => (next value).run fuel := rfl

theorem andThen_done (value : α) (trace : List τ) (next : α → σ → Outcome ε σ τ β) :
    (Outcome.mk (.done value) state trace).andThen next =
      ⟨(next value state).ending, (next value state).state,
        trace ++ (next value state).trace⟩ := rfl

end Runs

/-- Started where `Pre` holds, every run ends with `Post`, stops early with `Fail` or does not
end, and leaves a trace as required. -/
def Meets (spec : TraceSpec τ) (Pre : σ → Prop) (program : Prog ε σ τ α) (Post : α → σ → Prop)
    (Fail : ε → σ → Prop) : Prop :=
  ∀ ⦃fuel : Nat⦄ ⦃state : σ⦄, Pre state → (program.run fuel state).Satisfies spec Post Fail

namespace Meets

variable {spec : TraceSpec τ} {Pre Pre' : σ → Prop} {Post Post' : α → σ → Prop}
  {Fail Fail' : ε → σ → Prop} {program : Prog ε σ τ α} {view : σ → α} {next : α → Prog ε σ τ β}

section

variable (meets : Meets spec Pre program Post Fail)
include meets

theorem weaken (pre : ∀ state, Pre' state → Pre state)
    (post : ∀ value state, Post value state → Post' value state)
    (fail : ∀ code state, Fail code state → Fail' code state) :
    Meets spec Pre' program Post' Fail' :=
  fun _ _ before => (meets (pre _ before)).weaken post fail

theorem weakenPre (pre : ∀ state, Pre' state → Pre state) : Meets spec Pre' program Post Fail :=
  fun _ _ before => meets (pre _ before)

theorem weakenPost (post : ∀ value state, Post value state → Post' value state) :
    Meets spec Pre program Post' Fail :=
  meets.weaken (fun _ before => before) post fun _ _ after => after

end

/-- What does not depend on the state may be assumed before the program starts. -/
theorem assume {fact : Prop} (meets : fact → Meets spec Pre program Post Fail) :
    Meets spec (fun state => Pre state ∧ fact) program Post Fail :=
  fun _ _ before => meets before.2 before.1

theorem startingAt
    (meets : ∀ start, Pre start → Meets spec (fun state => state = start) program Post Fail) :
    Meets spec Pre program Post Fail :=
  fun _ state before => meets state before rfl

theorem pure {value : α} (holds : ∀ state, Pre state → Post value state) :
    Meets spec Pre (Pure.pure value : Prog ε σ τ α) Post Fail :=
  fun _ state before => ⟨spec.always_nil, spec.atEnd_nil, holds state before⟩

theorem read (holds : ∀ state, Pre state → Post (view state) state) :
    Meets spec Pre (Prog.read view : Prog ε σ τ α) Post Fail :=
  fun _ state before => ⟨spec.always_nil, spec.atEnd_nil, holds state before⟩

theorem change {f : σ → σ} {Post : Unit → σ → Prop}
    (holds : ∀ state, Pre state → Post () (f state)) :
    Meets spec Pre (Prog.change f : Prog ε σ τ Unit) Post Fail :=
  fun _ state before => ⟨spec.always_nil, spec.atEnd_nil, holds state before⟩

theorem stop {code : ε} (holds : ∀ state, Pre state → Fail code state) :
    Meets spec Pre (Prog.stop code : Prog ε σ τ α) Post Fail :=
  fun _ state before => ⟨spec.always_nil, spec.atEnd_nil, holds state before⟩

theorem emit {event : τ} {Post : Unit → σ → Prop} (always : spec.always [event])
    (atEnd : spec.atEnd [event]) (holds : ∀ state, Pre state → Post () state) :
    Meets spec Pre (Prog.emit event : Prog ε σ τ Unit) Post Fail :=
  fun _ state before => ⟨always, atEnd, holds state before⟩

theorem bind {Mid : α → σ → Prop} {Post : β → σ → Prop} (head : Meets spec Pre program Mid Fail)
    (tail : ∀ value, Meets spec (Mid value) (next value) Post Fail) :
    Meets spec Pre (program >>= next) Post Fail :=
  fun _ _ before => (head before).andThen fun value _ middle => tail value middle

theorem emitBind {event : τ} {Post : β → σ → Prop} {next : Unit → Prog ε σ τ β}
    (always : spec.always [event]) (atEnd : spec.atEnd [event])
    (tail : Meets spec Pre (next ()) Post Fail) :
    Meets spec Pre (Prog.emit event >>= next) Post Fail :=
  bind (emit always atEnd fun _ before => before) fun _ => tail

theorem readBind {Post : β → σ → Prop}
    (tail : ∀ value, Meets spec (fun state => Pre state ∧ view state = value) (next value)
      Post Fail) :
    Meets spec Pre (Prog.read view >>= next) Post Fail :=
  bind (read fun _ before => ⟨before, rfl⟩) tail

theorem ite {condition : Prop} [Decidable condition] {other : Prog ε σ τ α}
    (yes : condition → Meets spec Pre program Post Fail)
    (no : ¬condition → Meets spec Pre other Post Fail) :
    Meets spec Pre (if condition then program else other) Post Fail := by
  split
  next holds => exact yes holds
  next fails => exact no fails

theorem handle {Mid : ε → σ → Prop} {handler : ε → Prog ε σ τ α}
    (body : Meets spec Pre program Post Mid)
    (tail : ∀ code, Meets spec (Mid code) (handler code) Post Fail) :
    Meets spec Pre (Prog.handle program handler) Post Fail :=
  fun _ _ before => (body before).orElse fun code _ middle => tail code middle

section Loops

variable {body : β → Prog ε σ τ (β ⊕ α)} {I B : β → σ → Prop}

theorem loop_unless (turn : ∀ carried, Meets spec (fun state => I carried state ∧ ¬B carried state)
      (body carried) (Sum.elim I Post) Fail)
    (bad : ∀ carried, Meets spec.lax (B carried) (body carried)
      (Sum.elim B fun _ _ => False) fun _ _ => False)
    (start : β) : Meets spec (I start) (Prog.loop body start) Post Fail :=
  fun _ _ before => iterate_satisfies
    (fun carried _ holds good => turn carried ⟨holds, good⟩)
    (fun carried _ isBad => bad carried isBad) _ before

/-- The rule of loops: each turn goes on within the invariant, or gives the result. -/
theorem loop (turn : ∀ carried, Meets spec (I carried) (body carried) (Sum.elim I Post) Fail)
    (start : β) : Meets spec (I start) (Prog.loop body start) Post Fail :=
  fun _ _ before => @iterate_satisfies _ _ _ _ _ spec Post Fail _ I (fun _ _ => False)
    (fun carried _ holds _ => turn carried holds) (fun _ _ never => never.elim) _ _ _ before

theorem forM {ι : Type} {body : ι → Prog ε σ τ PUnit} {I : σ → Prop} {cells : List ι}
    (turn : ∀ idx ∈ cells, Meets spec I (body idx) (fun _ => I) Fail) :
    Meets spec I (cells.forM body) (fun _ => I) Fail := by
  induction cells with
  | nil => exact pure fun _ holds => holds
  | cons idx cells ih =>
    refine bind (turn idx List.mem_cons_self) fun _ => ?_
    exact ih fun other isMember => turn other (List.mem_cons_of_mem idx isMember)

theorem forM_prefix {ι : Type} {body : ι → Prog ε σ τ PUnit} {I : List ι → σ → Prop}
    {cells : List ι}
    (turn : ∀ taken, ∀ idx ∈ cells, Meets spec (I taken) (body idx) (fun _ => I (taken ++ [idx]))
      Fail) :
    Meets spec (I []) (cells.forM body) (fun _ => I cells) Fail := by
  suffices rest : ∀ taken, Meets spec (I taken) (cells.forM body) (fun _ => I (taken ++ cells)) Fail
    from rest []
  induction cells with
  | nil =>
    intro taken
    exact pure fun _ holds => (List.append_nil taken).symm ▸ holds
  | cons idx cells ih =>
    intro taken
    refine bind (turn taken idx List.mem_cons_self) fun _ => ?_
    have rest := ih (fun taken other isMember =>
      turn taken other (List.mem_cons_of_mem idx isMember)) (taken ++ [idx])
    rwa [List.append_assoc] at rest

end Loops

end Meets

/-! ## Programs that end -/

/-- Started where `Pre` holds, the program ends if it records acceptable events only. -/
def EndsFrom (accept : τ → Prop) (Pre : σ → Prop) (program : Prog ε σ τ α) : Prop :=
  ∀ ⦃state : σ⦄, Pre state → (∀ event, program.Records state event → accept event) →
    program.Stops state

/-- The program ends wherever it starts, if it records acceptable events only. -/
def Ends (accept : τ → Prop) (program : Prog ε σ τ α) : Prop :=
  EndsFrom accept (fun _ => True) program

variable {first : Prog ε σ τ α} {next : α → Prog ε σ τ β} {state : σ} {program : Prog ε σ τ α}
  {fuel : Nat} {value : α} {spec : TraceSpec τ} {Pre : σ → Prop} {Post : α → σ → Prop}
  {Fail : ε → σ → Prop}

/-- What a program records, it records also as the first part of a longer one. -/
theorem Records.bind_left {event : τ} (records : first.Records state event) :
    (first >>= next).Records state event := by
  obtain ⟨fuel, recorded⟩ := records
  exact ⟨fuel, (Outcome.trace_prefix_andThen _ _).subset recorded⟩

/-- More fuel does not change a run that has ended. -/
theorem run_of_done {more : Nat} (done : (program.run fuel state).ending = .done value)
    (fewer : fuel ≤ more) :
    program.run more state = program.run fuel state := by
  refine ((program.run_approx fewer state).eq_of_ended ?_).symm
  simp [Outcome.Ended, done]

theorem andThen_of_done {outcome : Outcome ε σ τ α} {next : α → σ → Outcome ε σ τ β}
    (done : outcome.ending = .done value) :
    outcome.andThen next = ⟨(next value outcome.state).ending, (next value outcome.state).state,
      outcome.trace ++ (next value outcome.state).trace⟩ := by
  simp [Outcome.andThen, done]

theorem Records.bind_right {event : τ} (done : (first.run fuel state).ending = .done value)
    (records : (next value).Records (first.run fuel state).state event) :
    (first >>= next).Records state event := by
  obtain ⟨other, recorded⟩ := records
  refine ⟨max fuel other, ?_⟩
  have sameFirst := run_of_done done (Nat.le_max_left fuel other)
  have more := (next value).run_approx (Nat.le_max_right fuel other) (first.run fuel state).state
  rw [show (first >>= next).run (max fuel other) state =
    (first.run (max fuel other) state).andThen fun value => (next value).run (max fuel other)
    from rfl, sameFirst, andThen_of_done done]
  exact List.mem_append_right _ (more.isPrefix_trace.subset recorded)

theorem Meets.any (Pre : σ → Prop) (program : Prog ε σ τ α) :
    Meets .any Pre program (fun _ _ => True) fun _ _ => True := by
  intro fuel state _
  refine ⟨trivial, ?_⟩
  cases (program.run fuel state).ending with
  | done value => exact ⟨trivial, trivial⟩
  | stopped code => exact ⟨trivial, trivial⟩
  | unfinished => trivial

theorem Meets.toAny (meets : Meets spec Pre program Post Fail) :
    Meets .any Pre program Post Fail := by
  intro fuel state before
  have satisfies := @meets fuel state before
  refine ⟨trivial, ?_⟩
  unfold Outcome.Satisfies at satisfies
  cases ended : (program.run fuel state).ending with
  | done value =>
    rw [ended] at satisfies
    exact ⟨trivial, satisfies.2.2⟩
  | stopped code =>
    rw [ended] at satisfies
    exact ⟨trivial, satisfies.2.2⟩
  | unfinished => trivial

theorem Meets.of_done (meets : Meets spec Pre program Post Fail) (before : Pre state)
    (done : (program.run fuel state).ending = .done value) :
    Post value (program.run fuel state).state := by
  have satisfies := @meets fuel state before
  simp only [Outcome.Satisfies, done] at satisfies
  exact satisfies.2.2

namespace EndsFrom

variable {accept : τ → Prop} {Pre : σ → Prop} {program : Prog ε σ τ α}

theorem weakenPre {Pre' : σ → Prop} (ends : EndsFrom accept Pre program)
    (pre : ∀ state, Pre' state → Pre state) : EndsFrom accept Pre' program :=
  fun _ before => ends (pre _ before)

theorem bind {spec : TraceSpec τ} {Mid : α → σ → Prop} {Fail : ε → σ → Prop}
    {next : α → Prog ε σ τ β} (head : EndsFrom accept Pre program)
    (meets : Meets spec Pre program Mid Fail)
    (tail : ∀ value, EndsFrom accept (Mid value) (next value)) :
    EndsFrom accept Pre (program >>= next) := by
  intro state before accepted
  obtain ⟨fuel, ended⟩ := head before fun event records => accepted event records.bind_left
  cases done : (program.run fuel state).ending with
  | unfinished => exact absurd done (fun cut => Outcome.not_ended_iff.mpr cut ended)
  | stopped code =>
    refine ⟨fuel, ?_⟩
    show ((program.run fuel state).andThen _).Ended
    simp [Outcome.andThen, done, Outcome.Ended]
  | done value =>
    obtain ⟨other, tailEnded⟩ := tail value (meets.of_done before done) fun event records =>
      accepted event (records.bind_right done)
    refine ⟨max fuel other, ?_⟩
    show ((program.run (max fuel other) state).andThen _).Ended
    rw [run_of_done done (Nat.le_max_left fuel other), andThen_of_done done]
    have same := ((next value).run_approx (Nat.le_max_right fuel other) _).eq_of_ended tailEnded
    show ((next value).run (max fuel other) (program.run fuel state).state).Ended
    rwa [← same]

theorem ite {condition : Prop} [Decidable condition] {other : Prog ε σ τ α}
    (yes : condition → EndsFrom accept Pre program) (no : ¬condition → EndsFrom accept Pre other) :
    EndsFrom accept Pre (if condition then program else other) := by
  split
  next holds => exact yes holds
  next fails => exact no fails

theorem handle {handler : ε → Prog ε σ τ α} (body : EndsFrom accept Pre program)
    (tail : ∀ code, Ends accept (handler code)) :
    EndsFrom accept Pre (Prog.handle program handler) := by
  intro state before accepted
  obtain ⟨fuel, ended⟩ := body before fun event ⟨fuel, recorded⟩ =>
    accepted event ⟨fuel, (Outcome.trace_prefix_orElse _ _).subset recorded⟩
  cases done : (program.run fuel state).ending with
  | unfinished => exact absurd done (fun cut => Outcome.not_ended_iff.mpr cut ended)
  | done value =>
    refine ⟨fuel, ?_⟩
    show ((program.run fuel state).orElse _).Ended
    simpa [Outcome.orElse, done] using ended
  | stopped code =>
    have orElse_eq : ∀ more, fuel ≤ more →
        (Prog.handle program handler).run more state =
          ⟨((handler code).run more (program.run fuel state).state).ending,
            ((handler code).run more (program.run fuel state).state).state,
            (program.run fuel state).trace ++
              ((handler code).run more (program.run fuel state).state).trace⟩ := by
      intro more fewer
      have same := (program.run_approx fewer state).eq_of_ended ended
      show (program.run more state).orElse _ = _
      rw [← same]
      simp [Outcome.orElse, done]
    have tailAccepted : ∀ event, (handler code).Records (program.run fuel state).state event →
        accept event := by
      rintro event ⟨other, recorded⟩
      refine accepted event ⟨max fuel other, ?_⟩
      rw [orElse_eq _ (Nat.le_max_left fuel other)]
      exact List.mem_append_right _ (((handler code).run_approx
        (Nat.le_max_right fuel other) _).isPrefix_trace.subset recorded)
    obtain ⟨other, tailEnded⟩ := tail code trivial tailAccepted
    refine ⟨max fuel other, ?_⟩
    rw [orElse_eq _ (Nat.le_max_left fuel other)]
    have same := ((handler code).run_approx (Nat.le_max_right fuel other) _).eq_of_ended tailEnded
    show ((handler code).run (max fuel other) _).Ended
    rwa [← same]

end EndsFrom

/-! ### Loops that end -/

section Loop

variable {accept : τ → Prop} {body : β → Prog ε σ τ (β ⊕ α)} {I : β → σ → Prop}

theorem loop_run_succ (body : β → Prog ε σ τ (β ⊕ α)) (fuel : Nat) (carried : β) (state : σ) :
    (Prog.loop body carried).run (fuel + 1) state =
      ((body carried).run (fuel + 1) state).andThen fun
        | .inl next, state =>
          iterate (fun carried => (body carried).run (fuel + 1)) fuel next state
        | .inr value, state => ⟨.done value, state, []⟩ := rfl

theorem loop_run_of_inl {fuel more : Nat} {carried next : β} {state : σ}
    (done : ((body carried).run fuel state).ending = .done (.inl next)) (fewer : fuel ≤ more + 1) :
    (Prog.loop body carried).run (more + 1) state =
      let rest := iterate (fun carried => (body carried).run (more + 1)) more next
        ((body carried).run fuel state).state
      ⟨rest.ending, rest.state, ((body carried).run fuel state).trace ++ rest.trace⟩ := by
  rw [loop_run_succ, run_of_done done fewer, andThen_of_done done]

theorem iterate_of_run_approx (body : β → Prog ε σ τ (β ⊕ α)) {fuel more : Nat}
    (fewer : fuel ≤ more) (carried : β) (state : σ) :
    ((Prog.loop body carried).run fuel state).Approx
      (iterate (fun carried => (body carried).run (more + 1)) more carried state) :=
  iterate_approx (fun carried state => (body carried).run_approx (by omega) state) fewer _ _

/-- Each turn that goes on keeps the invariant and makes the value of `variant` smaller. -/
def Decreases (accept : τ → Prop) (I : β → σ → Prop) (body : β → Prog ε σ τ (β ⊕ α))
    (variant : β → σ → Nat) : Prop :=
  ∀ fuel carried state next, I carried state →
    ((body carried).run fuel state).ending = .done (.inl next) →
      (∀ event ∈ ((body carried).run fuel state).trace, accept event) →
        I next ((body carried).run fuel state).state ∧
          variant next ((body carried).run fuel state).state < variant carried state

/-- A loop ends if each turn that goes on makes a measure smaller. -/
theorem EndsFrom.loop (variant : β → σ → Nat)
    (turn : ∀ carried, EndsFrom accept (I carried) (body carried))
    (decreases : Decreases accept I body variant) (start : β) :
    EndsFrom accept (I start) (Prog.loop body start) := by
  intro state before accepted
  -- by induction on what the variant may still lose
  obtain ⟨bound, below⟩ : ∃ bound, variant start state < bound := ⟨_, Nat.lt_succ_self _⟩
  induction bound generalizing start state with
  | zero => omega
  | succ bound ih =>
    have turnRecords : ∀ fuel, ∀ event ∈ ((body start).run fuel state).trace, accept event := by
      intro fuel event recorded
      refine accepted event ⟨fuel + 1, ?_⟩
      have longer := ((body start).run_approx (Nat.le_succ fuel) state).isPrefix_trace
      exact (Outcome.trace_prefix_andThen _ _).subset (longer.subset recorded)
    obtain ⟨fuel, ended⟩ := turn start before fun event ⟨fuel, recorded⟩ =>
      turnRecords fuel event recorded
    cases done : ((body start).run fuel state).ending with
    | unfinished => exact absurd done (fun cut => Outcome.not_ended_iff.mpr cut ended)
    | stopped code =>
      refine ⟨fuel + 1, ?_⟩
      have same := ((body start).run_approx (Nat.le_succ fuel) state).eq_of_ended ended
      rw [loop_run_succ, ← same]
      simp [Outcome.andThen, done, Outcome.Ended]
    | done result =>
      cases result with
      | inr value =>
        refine ⟨fuel + 1, ?_⟩
        rw [loop_run_succ, run_of_done done (Nat.le_succ fuel), andThen_of_done done]
        trivial
      | inl next =>
        obtain ⟨kept, smaller⟩ :=
          decreases fuel start state next before done (turnRecords fuel)
        have restAccepted : ∀ event, (Prog.loop body next).Records
            ((body start).run fuel state).state event → accept event := by
          rintro event ⟨other, recorded⟩
          refine accepted event ⟨max fuel other + 1, ?_⟩
          rw [loop_run_of_inl done (by omega)]
          exact List.mem_append_right _ ((iterate_of_run_approx body
            (Nat.le_max_right fuel other) _ _).isPrefix_trace.subset recorded)
        obtain ⟨other, restEnded⟩ := ih next kept restAccepted (by omega)
        refine ⟨max fuel other + 1, ?_⟩
        rw [loop_run_of_inl done (by omega)]
        have same := (iterate_of_run_approx body (Nat.le_max_right fuel other) next
          ((body start).run fuel state).state).eq_of_ended restEnded
        show (iterate (fun carried => (body carried).run (max fuel other + 1))
          (max fuel other) next ((body start).run fuel state).state).Ended
        rwa [← same]

/-- To show that a turn makes the variant smaller, what the turn meets may depend on the events
that it records. -/
theorem decreases_of_meets {variant : β → σ → Nat} (spec : TraceSpec τ)
    (turn : ∀ fuel carried start, I carried start →
      (∀ event ∈ ((body carried).run fuel start).trace, accept event) →
        Prog.Meets spec (fun state => state = start) (body carried)
          (Sum.elim (fun next state => I next state ∧ variant next state < variant carried start)
            fun _ _ => True)
          fun _ _ => True) :
    Decreases accept I body variant := by
  intro fuel carried state next before done accepted
  exact (turn fuel carried state before accepted).of_done rfl done

end Loop

/-! ### Programs that end wherever they start -/

namespace Ends

variable {accept : τ → Prop} {program : Prog ε σ τ α} {body : β → Prog ε σ τ (β ⊕ α)}

theorem endsFrom {Pre : σ → Prop} (ends : Ends accept program) : EndsFrom accept Pre program :=
  ends.weakenPre fun _ _ => trivial

theorem act (action : EStateM ε σ α) : Ends accept (Prog.act action : Prog ε σ τ α) := by
  intro state _ _
  refine ⟨0, ?_⟩
  simp only [Prog.run]
  split <;> trivial

theorem emit (event : τ) : Ends accept (Prog.emit event : Prog ε σ τ Unit) :=
  fun _ _ _ => ⟨0, trivial⟩

theorem bind {next : α → Prog ε σ τ β} (head : Ends accept program)
    (tail : ∀ value, Ends accept (next value)) : Ends accept (program >>= next) :=
  EndsFrom.bind head (.any _ program) tail

theorem handle {handler : ε → Prog ε σ τ α} (body : Ends accept program)
    (tail : ∀ code, Ends accept (handler code)) :
    Ends accept (Prog.handle program handler) :=
  EndsFrom.handle body tail

theorem ite {condition : Prop} [Decidable condition] {other : Prog ε σ τ α}
    (yes : Ends accept program) (no : Ends accept other) :
    Ends accept (if condition then program else other) :=
  EndsFrom.ite (fun _ => yes) fun _ => no

theorem forM {ι : Type} {body : ι → Prog ε σ τ PUnit} (turn : ∀ idx, Ends accept (body idx))
    (cells : List ι) : Ends accept (cells.forM body) := by
  induction cells with
  | nil => exact act _
  | cons idx cells ih => exact bind (turn idx) fun _ => ih

theorem loop (variant : β → σ → Nat) (turn : ∀ carried, Ends accept (body carried))
    (decreases : Decreases accept (fun _ _ => True) body variant) (start : β) :
    Ends accept (Prog.loop body start) :=
  EndsFrom.loop variant turn decreases start

/-- A loop ends if each turn that goes on makes a measure of the state smaller. -/
theorem loop_of_meets (measure : σ → Nat) (turn : ∀ carried, Ends accept (body carried))
    (smaller : ∀ carried bound, Meets .any (fun state => measure state ≤ bound) (body carried)
      (Sum.elim (fun _ state => measure state < bound) fun _ _ => True) fun _ _ => True)
    (start : β) : Ends accept (Prog.loop body start) := by
  apply loop (fun _ => measure) turn
  apply decreases_of_meets .any
  intro fuel carried start _ _
  apply (smaller carried (measure start)).weaken
  · intro state same
    rw [same]
  · intro result state less
    cases result with
    | inl next => exact ⟨trivial, less⟩
    | inr value => trivial
  · exact fun _ _ _ => trivial

end Ends

/-! ## Loops turn by turn -/

section Turns

variable {body : β → Prog ε σ τ (β ⊕ α)} {carried : Nat → β} {states : Nat → σ} {turns : Nat}

/-- A turn, numbered, goes on to the next one and records nothing. -/
def GoesOn (body : β → Prog ε σ τ (β ⊕ α)) (carried : Nat → β) (states : Nat → σ)
    (turn : Nat) : Prop :=
  ∀ fuel, (body (carried turn)).run fuel (states turn) =
    ⟨.done (.inl (carried (turn + 1))), states (turn + 1), []⟩

theorem iterate_of_goesOn (passes : ∀ turn < turns, GoesOn body carried states turn)
    (fuel more : Nat) :
    iterate (fun value => (body value).run fuel) (turns + more) (carried 0) (states 0) =
      iterate (fun value => (body value).run fuel) more (carried turns) (states turns) := by
  induction turns generalizing more with
  | zero => rw [Nat.zero_add]
  | succ turns ih =>
    have before := ih (fun turn earlier => passes turn (Nat.lt_succ_of_lt earlier)) (more + 1)
    rw [Nat.add_right_comm, Nat.add_assoc, before, iterate, passes turns (Nat.lt_succ_self turns)]
    rfl

theorem not_stops_of_goesOn (passes : ∀ turn, GoesOn body carried states turn) :
    ¬(Prog.loop body (carried 0)).Stops (states 0) := by
  intro ⟨fuel, ended⟩
  have before : ∀ turn < fuel, GoesOn body carried states turn := fun turn _ => passes turn
  have cut := iterate_of_goesOn before fuel 0
  rw [Nat.add_zero] at cut
  rw [Prog.run, cut] at ended
  exact ended

theorem loop_run_of_goesOn {ending : Ending ε α} {final : σ}
    (passes : ∀ turn < turns, GoesOn body carried states turn)
    (leaves : ∀ fuel, (body (carried turns)).run fuel (states turns) =
      ⟨ending.leaving, final, []⟩) :
    (Prog.loop body (carried 0)).run (turns + 1) (states 0) = ⟨ending, final, []⟩ := by
  rw [Prog.run, iterate_of_goesOn passes, iterate, leaves]
  cases ending with
  | done value => rfl
  | stopped code => rfl
  | unfinished => rfl

end Turns

end Prog

end RioFabric.Lib

import RioFabric.Lib.Exec

/-!
# Pre- and postconditions

Rules to follow what a program that may stop early does to its state.  A program has a
precondition, a postcondition for a normal end and one for an early stop; the rules go
through a program from its first statement to its last.
-/

namespace RioFabric.Lib

variable {ε σ α β : Type}

/-- Started where `Pre` holds, the program ends with `Post` or stops early with `Fail`. -/
def Meets (Pre : σ → Prop) (program : EStateM ε σ α) (Post : α → σ → Prop)
    (Fail : ε → σ → Prop) : Prop :=
  ∀ ⦃state : σ⦄, Pre state →
    (∀ ⦃value final⦄, program.run state = .ok value final → Post value final) ∧
      ∀ ⦃code final⦄, program.run state = .error code final → Fail code final

/-- What holds of the result of a run. -/
def Ends (Post : α → σ → Prop) (Fail : ε → σ → Prop) : EStateM.Result ε σ α → Prop
  | .ok value final => Post value final
  | .error code final => Fail code final

/-- A triple says in what every run from its precondition ends. -/
theorem meets_iff_ends {Pre : σ → Prop} {program : EStateM ε σ α} {Post : α → σ → Prop}
    {Fail : ε → σ → Prop} :
    Meets Pre program Post Fail ↔ ∀ state, Pre state → Ends Post Fail (program state) := by
  constructor
  · intro meets state before
    obtain ⟨normal, early⟩ := meets before
    cases ran : program state with
    | ok value final => exact normal ran
    | error code final => exact early ran
  · intro ends state before
    have result := ends state before
    constructor
    · intro value final ran
      rwa [show program state = _ from ran] at result
    · intro code final ran
      rwa [show program state = _ from ran] at result

namespace Meets

variable {Pre Pre' : σ → Prop} {Post Post' : α → σ → Prop} {Fail Fail' : ε → σ → Prop}
  {program : EStateM ε σ α} {ι : Type} {code : ε} {change : σ → σ} {condition : Prop}
  {next : σ → EStateM ε σ β} {cells : List ι} {body : β → ι → EStateM ε σ β} {I J : σ → Prop}
  {cell : ι} {Inv : List ι → β → σ → Prop}

section

variable (meets : Meets Pre program Post Fail)
include meets

theorem weaken (pre : ∀ state, Pre' state → Pre state)
    (post : ∀ value state, Post value state → Post' value state)
    (fail : ∀ code state, Fail code state → Fail' code state) :
    Meets Pre' program Post' Fail' := by
  intro state holds
  obtain ⟨normal, early⟩ := meets (pre state holds)
  exact ⟨fun value final ran => post value final (normal ran),
    fun code final ran => fail code final (early ran)⟩

theorem weakenPre (pre : ∀ state, Pre' state → Pre state) :
    Meets Pre' program Post Fail :=
  meets.weaken pre (fun _ _ holds => holds) fun _ _ holds => holds

theorem weakenPost (post : ∀ value state, Post value state → Post' value state) :
    Meets Pre program Post' Fail :=
  meets.weaken (fun _ holds => holds) post fun _ _ holds => holds

theorem weakenFail (fail : ∀ code state, Fail code state → Fail' code state) :
    Meets Pre program Post Fail' :=
  meets.weaken (fun _ holds => holds) (fun _ _ holds => holds) fail

end

theorem anything (Pre : σ → Prop) (program : EStateM ε σ α) :
    Meets Pre program (fun _ _ => True) fun _ _ => True :=
  fun _ _ => ⟨fun _ _ _ => trivial, fun _ _ _ => trivial⟩

theorem called {ε' σ' β : Type} {inner : EStateM ε' σ' β} {PreIn : σ' → Prop}
    {PostIn : β → σ' → Prop} {FailIn : ε' → σ' → Prop} (meets : Meets PreIn inner PostIn FailIn)
    (enter : σ → σ') (pre : ∀ state, Pre state → PreIn (enter state))
    (ends : ∀ state, Ends PostIn FailIn (inner (enter state)) → Ends Post Fail (program state)) :
    Meets Pre program Post Fail :=
  meets_iff_ends.mpr fun state before =>
    ends state (meets_iff_ends.mp meets (enter state) (pre state before))

theorem unreached : Meets (fun _ => False) program Post Fail := fun _ reached => reached.elim

/-- What does not depend on the state may be assumed before the program starts. -/
theorem assume {fact : Prop} (meets : fact → Meets Pre program Post Fail) :
    Meets (fun state => fact ∧ Pre state) program Post Fail :=
  fun _ holds => meets holds.1 holds.2

theorem assumeRight {fact : Prop} (meets : fact → Meets Pre program Post Fail) :
    Meets (fun state => Pre state ∧ fact) program Post Fail :=
  fun _ holds => meets holds.2 holds.1

theorem ofExists {Pre : ι → σ → Prop} (meets : ∀ idx, Meets (Pre idx) program Post Fail) :
    Meets (fun state => ∃ idx, Pre idx state) program Post Fail := by
  rintro state ⟨idx, before⟩
  exact meets idx before

theorem startingAt
    (meets : ∀ start, Pre start → Meets (fun state => state = start) program Post Fail) :
    Meets Pre program Post Fail :=
  fun state before => meets state before rfl

theorem pure {value : α} (holds : ∀ state, Pre state → Post value state) :
    Meets Pre (Pure.pure value : EStateM ε σ α) Post Fail := by
  intro state before
  constructor
  · intro result final ran
    obtain ⟨rfl, rfl⟩ := pure_ok_iff.mp ran
    exact holds state before
  · intro code final ran
    cases ran

theorem throw (holds : ∀ state, Pre state → Fail code state) :
    Meets Pre (throw code : EStateM ε σ α) Post Fail := by
  intro state before
  constructor
  · intro value final ran
    cases ran
  · intro other final ran
    cases ran
    exact holds state before

theorem get {Post : σ → σ → Prop} (holds : ∀ state, Pre state → Post state state) :
    Meets Pre (get : EStateM ε σ σ) Post Fail := by
  intro state before
  constructor
  · intro value final ran
    obtain ⟨rfl, rfl⟩ := get_ok_iff.mp ran
    exact holds state before
  · intro code final ran
    cases ran

theorem modifyBind {Post : β → σ → Prop} {next : PUnit → EStateM ε σ β} (Mid : σ → Prop)
    (holds : ∀ state, Pre state → Mid (change state)) (tail : Meets Mid (next ⟨⟩) Post Fail) :
    Meets Pre (modify change >>= next) Post Fail := by
  intro state before
  exact tail (holds state before)

theorem modify {Post : PUnit → σ → Prop} (holds : ∀ state, Pre state → Post ⟨⟩ (change state)) :
    Meets Pre (modify change : EStateM ε σ PUnit) Post Fail := by
  intro state before
  constructor
  · intro value final ran
    rw [modify_ok_iff.mp ran]
    exact holds state before
  · intro code final ran
    cases ran

theorem failIf [Decidable condition] {Post : Unit → σ → Prop}
    (passes : ∀ state, Pre state → ¬condition → Post () state)
    (fails : ∀ state, Pre state → condition → Fail code state) :
    Meets Pre (failIf condition code) Post Fail := by
  intro state before
  rw [failIf_run]
  split
  next stops => exact ⟨nofun, fun other final ran => by cases ran; exact fails state before stops⟩
  next goesOn =>
    exact ⟨fun value final ran => by cases ran; exact passes state before goesOn, nofun⟩

theorem orFail {result : Option α}
    (present : ∀ value state, result = some value → Pre state → Post value state)
    (absent : ∀ state, result = none → Pre state → Fail code state) :
    Meets Pre (orFail result code) Post Fail := by
  cases result with
  | none => exact throw fun state before => absent state rfl before
  | some value => exact pure fun state before => present value state rfl before

theorem bind {Mid : α → σ → Prop} {Post : β → σ → Prop} {next : α → EStateM ε σ β}
    (head : Meets Pre program Mid Fail) (tail : ∀ value, Meets (Mid value) (next value) Post Fail) :
    Meets Pre (program >>= next) Post Fail := by
  intro state before
  obtain ⟨normal, early⟩ := head before
  rw [EStateM.run_bind]
  cases ran : program.run state with
  | ok value middle => exact tail value (normal ran)
  | error code middle =>
    exact ⟨nofun, fun other final stopped => by cases stopped; exact early ran⟩

theorem ofRun (runs : ∀ state, Pre state →
    ∃ value final, program.run state = .ok value final ∧ Post value final) :
    Meets Pre program Post Fail := by
  intro state before
  obtain ⟨value, final, ran, after⟩ := runs state before
  rw [ran]
  exact ⟨fun _ _ same => by cases same; exact after, nofun⟩

theorem getBind {Post : β → σ → Prop}
    (tail : ∀ start, Pre start → Meets Pre (next start) Post Fail) :
    Meets Pre (MonadState.get >>= next) Post Fail := by
  intro state before
  rw [get_bind_run]
  exact tail state before before

theorem getBindAt {Post : β → σ → Prop}
    (tail : ∀ start, Pre start → Meets (fun state => state = start) (next start) Post Fail) :
    Meets Pre (MonadState.get >>= next) Post Fail := by
  intro state before
  rw [get_bind_run]
  exact tail state before rfl

theorem failIfBind [Decidable condition] {Post : β → σ → Prop} {next : Unit → EStateM ε σ β}
    (fails : ∀ state, Pre state → condition → Fail code state)
    (tail : ¬condition → Meets Pre (next ()) Post Fail) :
    Meets Pre (Lib.failIf condition code >>= next) Post Fail :=
  bind (failIf (fun _ before passes => And.intro passes before) fails) fun _ => assume tail

theorem ite [Decidable condition] {other : EStateM ε σ α}
    (yes : condition → Meets Pre program Post Fail) (no : ¬condition → Meets Pre other Post Fail) :
    Meets Pre (if condition then program else other) Post Fail := by
  split
  next holds => exact yes holds
  next fails => exact no fails

theorem forM {body : ι → EStateM ε σ PUnit} {Inv : σ → Prop}
    (turn : ∀ idx ∈ cells, Meets Inv (body idx) (fun _ => Inv) Fail) :
    Meets Inv (cells.forM body) (fun _ => Inv) Fail := by
  induction cells with
  | nil => exact pure fun _ holds => holds
  | cons idx cells ih =>
    rw [show (idx :: cells).forM body = body idx >>= fun _ => cells.forM body from rfl]
    apply bind (turn idx List.mem_cons_self)
    intro _
    exact ih fun other isMember => turn other (List.mem_cons_of_mem idx isMember)

theorem mapM {body : ι → EStateM ε σ β} {Inv : σ → Prop} {result : ι → β} (turn : ∀ idx ∈ cells,
      Meets Inv (body idx) (fun value state => value = result idx ∧ Inv state) Fail) :
    Meets Inv (cells.mapM body) (fun values state => values = cells.map result ∧ Inv state)
      Fail := by
  induction cells with
  | nil => exact pure fun _ holds => ⟨rfl, holds⟩
  | cons idx cells ih =>
    rw [List.mapM_cons]
    apply bind (turn idx List.mem_cons_self)
    intro value
    apply assume
    rintro rfl
    apply bind (ih fun other isMember => turn other (List.mem_cons_of_mem idx isMember))
    intro values
    apply assume
    rintro rfl
    exact pure fun _ rest => ⟨rfl, rest⟩

/-- A loop that carries a value; the invariant says what holds of the value between two turns. -/
theorem foldlM {Inv : β → σ → Prop}
    (turn : ∀ carried, ∀ idx ∈ cells, Meets (Inv carried) (body carried idx) Inv Fail)
    (carried : β) : Meets (Inv carried) (cells.foldlM body carried) Inv Fail := by
  induction cells generalizing carried with
  | nil => exact pure fun _ holds => holds
  | cons idx cells ih =>
    rw [List.foldlM_cons]
    apply bind (turn carried idx List.mem_cons_self)
    exact ih fun next other isMember => turn next other (List.mem_cons_of_mem idx isMember)

/-- A loop that carries a value, in which the turn for a cell leads from `I` to `J`. -/
theorem foldlM_of_mem (isMember : cell ∈ cells)
    (before : ∀ carried, ∀ idx ∈ cells, Meets I (body carried idx) (fun _ => I) Fail)
    (turn : ∀ carried, Meets I (body carried cell) (fun _ => J) Fail)
    (after : ∀ carried, ∀ idx ∈ cells, Meets J (body carried idx) (fun _ => J) Fail) (carried : β) :
    Meets I (cells.foldlM body carried) (fun _ => J) Fail := by
  obtain ⟨earlier, later, rfl⟩ := List.append_of_mem isMember
  rw [List.foldlM_append]
  apply bind (foldlM (fun next idx isEarlier =>
    before next idx (List.mem_append_left _ isEarlier)) carried)
  intro next
  rw [List.foldlM_cons]
  apply bind (turn next)
  exact foldlM fun next idx isLater =>
    after next idx (List.mem_append_right _ (List.mem_cons_of_mem cell isLater))

/-- A loop that carries a value; the invariant says what holds after the turns for a list. -/
theorem foldlM_prefix (turn : ∀ done carried, ∀ idx ∈ cells,
      Meets (Inv done carried) (body carried idx) (Inv (done ++ [idx])) Fail) (done : List ι)
    (carried : β) :
    Meets (Inv done carried) (cells.foldlM body carried) (Inv (done ++ cells)) Fail := by
  induction cells generalizing done carried with
  | nil => exact pure fun _ holds => (List.append_nil done).symm ▸ holds
  | cons idx cells ih =>
    rw [List.foldlM_cons, List.append_cons]
    apply bind (turn done carried idx List.mem_cons_self)
    exact ih (fun done carried other isMember =>
      turn done carried other (List.mem_cons_of_mem idx isMember)) _

/-- A loop that carries a value; each turn knows what was done before it and what is left. -/
theorem foldlM_split (turn : ∀ done carried idx left, cells = done ++ idx :: left →
      Meets (Inv done carried) (body carried idx) (Inv (done ++ [idx])) Fail) (carried : β) :
    Meets (Inv [] carried) (cells.foldlM body carried) (Inv cells) Fail := by
  have rest : ∀ left done carried, cells = done ++ left →
      Meets (Inv done carried) (left.foldlM body carried) (Inv cells) Fail := by
    intro left
    induction left with
    | nil =>
      intro done carried all
      rw [all, List.append_nil]
      exact pure fun _ holds => holds
    | cons idx left ih =>
      intro done carried all
      rw [List.foldlM_cons]
      apply bind (turn done carried idx left all)
      intro next
      exact ih (done ++ [idx]) next (all.trans (List.append_cons done idx left))
  exact rest cells [] carried rfl

/-- A loop with a turn that always fails does not succeed. -/
theorem forM_stops {body : ι → EStateM ε σ PUnit} {Inv : σ → Prop} (isMember : cell ∈ cells)
    (turn : ∀ idx ∈ cells, Meets Inv (body idx) (fun _ => Inv) Fail)
    (stops : Meets Inv (body cell) (fun _ _ => False) Fail) :
    Meets Inv (cells.forM body) (fun _ _ => False) Fail := by
  induction cells with
  | nil => cases isMember
  | cons idx cells ih =>
    rw [show (idx :: cells).forM body = body idx >>= fun _ => cells.forM body from rfl]
    cases List.mem_cons.mp isMember with
    | inl same =>
      subst same
      exact bind stops fun _ => unreached
    | inr inRest =>
      apply bind (turn idx List.mem_cons_self)
      intro _
      exact ih inRest fun other inCells => turn other (List.mem_cons_of_mem idx inCells)

/-- A loop over numbers in order; the invariant says what holds before each turn. -/
theorem forM_range {body : Nat → EStateM ε σ PUnit} {Inv : Nat → σ → Prop} {count : Nat}
    (turn : ∀ idx < count, Meets (Inv idx) (body idx) (fun _ => Inv (idx + 1)) Fail) :
    Meets (Inv 0) ((List.range count).forM body) (fun _ => Inv count) Fail := by
  induction count with
  | zero => exact pure fun _ holds => holds
  | succ count ih =>
    rw [List.range_succ, show (List.range count ++ [count]).forM body =
      ((List.range count).forM body >>= fun _ => [count].forM body) from List.forM_append]
    apply bind (ih fun idx smaller => turn idx (Nat.lt_succ_of_lt smaller))
    intro _
    rw [show [count].forM body = body count >>= fun _ => Pure.pure ⟨⟩ from rfl]
    exact bind (turn count (Nat.lt_succ_self count)) fun _ => pure fun _ holds => holds

/-- A loop in which one turn, for a cell that is met once, leads from `I` to `J`. -/
theorem forM_once {body : ι → EStateM ε σ PUnit} (nodup : cells.Nodup) (isMember : cell ∈ cells)
    (first : ∀ idx ∈ cells, idx ≠ cell → Meets I (body idx) (fun _ => I) Fail)
    (turn : Meets I (body cell) (fun _ => J) Fail)
    (last : ∀ idx ∈ cells, idx ≠ cell → Meets J (body idx) (fun _ => J) Fail) :
    Meets I (cells.forM body) (fun _ => J) Fail := by
  induction cells with
  | nil => cases isMember
  | cons idx cells ih =>
    obtain ⟨fresh, rest⟩ := List.nodup_cons.mp nodup
    rw [show (idx :: cells).forM body = body idx >>= fun _ => cells.forM body from rfl]
    cases List.mem_cons.mp isMember with
    | inl same =>
      subst same
      apply bind turn
      intro _
      apply forM
      intro other inRest
      exact last other (List.mem_cons_of_mem _ inRest) fun same => fresh (same ▸ inRest)
    | inr inRest =>
      apply bind (first idx List.mem_cons_self fun same => fresh (same ▸ inRest))
      intro _
      exact ih rest inRest
        (fun other isOther => first other (List.mem_cons_of_mem idx isOther))
        (fun other isOther => last other (List.mem_cons_of_mem idx isOther))

section Cells

variable {ι : Type} {Inv : Set ι → σ → Prop} {cells : List ι}

/-- A loop over cells; the invariant says what holds once the cells of a set are handled. -/
theorem foldlM_cells {body : β → ι → EStateM ε σ β}
    (turn : ∀ done carried, ∀ idx ∈ cells,
      Meets (Inv done) (body carried idx) (fun _ => Inv (insert idx done)) Fail)
    (done : Set ι) (carried : β) :
    Meets (Inv done) (cells.foldlM body carried)
      (fun _ => Inv (done ∪ {idx | idx ∈ cells})) Fail := by
  induction cells generalizing done carried with
  | nil => exact pure fun state holds => by simpa using holds
  | cons idx cells ih =>
    rw [List.foldlM_cons, ← insert_union_cells]
    apply bind (turn done carried idx List.mem_cons_self)
    intro next
    exact ih (fun done carried other isMember =>
      turn done carried other (List.mem_cons_of_mem idx isMember)) _ next

theorem forM_cells {body : ι → EStateM ε σ PUnit}
    (turn : ∀ done, ∀ idx ∈ cells,
      Meets (Inv done) (body idx) (fun _ => Inv (insert idx done)) Fail)
    (done : Set ι) :
    Meets (Inv done) (cells.forM body) (fun _ => Inv (done ∪ {idx | idx ∈ cells})) Fail := by
  induction cells generalizing done with
  | nil => exact pure fun state holds => by simpa using holds
  | cons idx cells ih =>
    rw [show (idx :: cells).forM body = body idx >>= fun _ => cells.forM body from rfl,
      ← insert_union_cells]
    apply bind (turn done idx List.mem_cons_self)
    intro _
    exact ih (fun done other isMember => turn done other (List.mem_cons_of_mem idx isMember)) _

end Cells

theorem forM_finRange {n : Nat} {body : Fin n → EStateM ε σ PUnit} {Inv : Set (Fin n) → σ → Prop}
    (turn : ∀ done idx, Meets (Inv done) (body idx) (fun _ => Inv (insert idx done)) Fail) :
    Meets (Inv ∅) ((List.finRange n).forM body) (fun _ => Inv Set.univ) Fail := by
  have all := @forM_cells _ _ Fail _ Inv (List.finRange n) body (fun done idx _ => turn done idx) ∅
  rwa [empty_union_finRange] at all

theorem finalState {Inv : σ → Prop} (meets : Meets Pre program (fun _ => Inv) fun _ => Inv)
    {state : σ} (before : Pre state) : Inv (Lib.finalState (program.run state)) := by
  obtain ⟨normal, early⟩ := meets before
  cases ran : program.run state with
  | ok value final => exact normal ran
  | error code final => exact early ran

theorem ends (meets : Meets Pre program Post fun _ _ => False) {state : σ} (before : Pre state) :
    ∃ value final, program.run state = .ok value final ∧ Post value final := by
  obtain ⟨normal, early⟩ := meets before
  cases ran : program.run state with
  | ok value final => exact ⟨value, final, rfl, normal ran⟩
  | error code final => exact (early ran).elim

end Meets

end RioFabric.Lib

import Mathlib.Data.Set.Insert
import RioFabric.Lib.Exec

/-!
# Tables that are written back

A table is edited in memory and written to a backing store later.  Every cell has a value
and a mark that asks for it to be written.  Writing the marked cells does as much as writing
all of them, provided that unmarked cells have their stored values; so an edit has to mark
whatever it changes, and must not take a mark away.
-/

namespace RioFabric.Lib

variable {γ δ : Type}

/-- How a cell shows its value and its mark. -/
structure Marking (γ δ : Type) where
  value : γ → δ
  marked : γ → Bool

namespace Marking

variable (M : Marking γ δ)

/-- An unmarked cell has the stored value. -/
def InStep (cell : γ) (stored : δ) : Prop := M.marked cell = false → M.value cell = stored

/-- The edit leaves a mark, or there was none and the value is the same. -/
def Noted (before after : γ) : Prop :=
  M.marked after = false → M.marked before = false ∧ M.value after = M.value before

/-- Write a cell back if it is marked or all cells are written.  How the value is stored may
depend on what the store holds. -/
def writeBack (write : δ → δ → δ) (all : Bool) (cell : γ) (stored : δ) : δ :=
  if M.marked cell || all then write (M.value cell) stored else stored

variable {M}

theorem Noted.refl (cell : γ) : M.Noted cell cell := fun unmarked => ⟨unmarked, rfl⟩

theorem noted_of_marked {before after : γ} (marked : M.marked after = true) :
    M.Noted before after := fun unmarked => by simp [marked] at unmarked

theorem Noted.trans {first second third : γ} (early : M.Noted first second)
    (late : M.Noted second third) : M.Noted first third := fun unmarked =>
  ⟨(early (late unmarked).1).1, (late unmarked).2.trans (early (late unmarked).1).2⟩

theorem InStep.edit {before after : γ} {stored : δ} (inStep : M.InStep before stored)
    (noted : M.Noted before after) : M.InStep after stored := fun unmarked =>
  (noted unmarked).2.trans (inStep (noted unmarked).1)

theorem writeBack_marked_eq_all {write : δ → δ → δ} {cell : γ} {stored : δ}
    (inStep : M.InStep cell stored) (again : ∀ value, write value value = value) :
    M.writeBack write false cell stored = M.writeBack write true cell stored := by
  cases marked : M.marked cell with
  | true => simp [writeBack, marked]
  | false => simp [writeBack, marked, inStep marked, again]

end Marking

variable {ε σ ι : Type} {body : ι → EStateM ε σ Unit} {passes : ι → Prop}

/-- A loop whose body handles one cell at a time.  `after done` is the state with the cells
of `done` handled, and `passes` says which cells the body accepts. -/
theorem forM_ok_iff (after : Set ι → σ)
    (step : ∀ done idx final, idx ∉ done →
      ((body idx).run (after done) = .ok () final ↔
        passes idx ∧ after (insert idx done) = final))
    {cells : List ι} (distinct : cells.Nodup) {done : Set ι} (fresh : ∀ idx ∈ cells, idx ∉ done)
    {final : σ} :
    (cells.forM body).run (after done) = .ok () final ↔
      (∀ idx ∈ cells, passes idx) ∧ after (done ∪ {idx | idx ∈ cells}) = final := by
  induction cells generalizing done with
  | nil => simp [List.forM]
  | cons idx cells ih =>
    obtain ⟨notAgain, distinct⟩ := List.nodup_cons.mp distinct
    have rest := @ih distinct (insert idx done) fun other mem => by
      rintro (rfl | mem')
      · exact notAgain mem
      · exact fresh other (List.mem_cons_of_mem idx mem) mem'
    have union : insert idx done ∪ {other | other ∈ cells} =
        done ∪ {other | other ∈ idx :: cells} := by
      ext other
      simp only [Set.mem_union, Set.mem_insert_iff, Set.mem_ofPred_eq, List.mem_cons]
      tauto
    rw [union] at rest
    rw [show (idx :: cells).forM body = body idx >>= fun _ => cells.forM body from rfl,
      bind_ok_iff, List.forall_mem_cons]
    constructor
    · rintro ⟨value, middle, first, others⟩
      obtain ⟨passed, rfl⟩ := (step done idx middle (fresh idx List.mem_cons_self)).mp first
      exact ⟨⟨passed, (rest.mp others).1⟩, (rest.mp others).2⟩
    · rintro ⟨⟨passed, others⟩, rfl⟩
      refine ⟨(), after (insert idx done), ?_, rest.mpr ⟨others, rfl⟩⟩
      exact (step done idx _ (fresh idx List.mem_cons_self)).mpr ⟨passed, rfl⟩

theorem forM_finRange_ok_iff {n : Nat} {body : Fin n → EStateM ε σ Unit} {passes : Fin n → Prop}
    (after : Set (Fin n) → σ)
    (step : ∀ done idx final, idx ∉ done →
      ((body idx).run (after done) = .ok () final ↔
        passes idx ∧ after (insert idx done) = final)) {final : σ} :
    ((List.finRange n).forM body).run (after ∅) = .ok () final ↔
      (∀ idx, passes idx) ∧ after Set.univ = final := by
  rw [forM_ok_iff after step (List.nodup_finRange n) fun idx _ => Set.notMem_empty idx]
  simp

end RioFabric.Lib

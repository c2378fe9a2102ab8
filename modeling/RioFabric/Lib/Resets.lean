import Mathlib.Logic.Basic

/-!
# Changes that reset

A change of a state that makes some of what is seen of it zero, and nothing else.  Such changes are
composed by the union of the places that they make zero.
-/

namespace RioFabric.Lib

variable {σ ι κ β : Type} [Zero β]

/-- After a change, what is seen is zero at these places and the same at others. -/
def Resets (view : σ → ι → β) (change : σ → σ) (which : ι → Bool) : Prop :=
  ∀ state idx, view (change state) idx = if which idx then 0 else view state idx

namespace Resets

variable {view : σ → ι → β} {change other : σ → σ} {which more : ι → Bool}

theorem nothing : Resets view id fun _ => false :=
  fun _ _ => (if_neg Bool.false_ne_true).symm

theorem comp (second : Resets view other more) (first : Resets view change which) :
    Resets view (fun state => other (change state)) fun idx => which idx || more idx := by
  intro state idx
  rw [second, first]
  by_cases isFirst : which idx = true
  · rw [if_pos isFirst, ite_self, if_pos (Bool.or_eq_true_iff.mpr (.inl isFirst))]
  · rw [if_neg isFirst]
    exact if_congr (Bool.or_eq_true_iff.trans (or_iff_right isFirst)).symm rfl rfl

theorem ite {condition : Prop} [Decidable condition] (yes : Resets view change which)
    (no : Resets view other more) :
    Resets view (fun state => if condition then change state else other state)
      fun idx => if condition then which idx else more idx := by
  intro state idx
  dsimp only
  split
  · exact yes state idx
  · exact no state idx

theorem congr (resets : Resets view change which) (same : ∀ idx, which idx = more idx) :
    Resets view change more := by
  intro state idx
  rw [resets state idx, same]

theorem foldl {body : σ → κ → σ} {each : κ → ι → Bool} {cells : List κ}
    (turn : ∀ cell ∈ cells, Resets view (fun state => body state cell) (each cell)) :
    Resets view (fun state => cells.foldl body state)
      fun idx => cells.any fun cell => each cell idx := by
  induction cells with
  | nil => exact nothing
  | cons cell cells ih =>
    have rest := ih fun other isMember => turn other (List.mem_cons_of_mem cell isMember)
    exact rest.comp (turn cell List.mem_cons_self)

end Resets

end RioFabric.Lib

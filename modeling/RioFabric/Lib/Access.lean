import Mathlib.Logic.Basic

/-!
# Programs that access a shared store

A program makes requests of type `ω`, one after the other, and continues with the answer of
type `ρ` to each of them.  It can be run alone on a store, or step by step beside other
programs.  What a program may request, given what the answers can be, is found by looking at
the program alone.
-/

namespace RioFabric.Lib

/-- Programs that end with a value, or request something and continue with the answer. -/
inductive Access (ω ρ α : Type) where
  | pure (value : α)
  | request (op : ω) (next : ρ → Access ω ρ α)

namespace Access

variable {ω ρ σ α β : Type}

/-- Sequencing. -/
protected def bind : Access ω ρ α → (α → Access ω ρ β) → Access ω ρ β
  | .pure value, f => f value
  | .request op next, f => .request op fun answer => (next answer).bind f

instance : Monad (Access ω ρ) where
  pure := .pure
  bind := Access.bind

/-- A single request. -/
def perform (op : ω) : Access ω ρ ρ := .request op .pure

/-- The run of a program that has the store to itself. -/
def run (answer : ω → σ → ρ × σ) : Access ω ρ α → σ → α × σ
  | .pure value, store => (value, store)
  | .request op next, store =>
    let (reply, store) := answer op store
    (next reply).run answer store

variable {answer : ω → σ → ρ × σ}

@[simp] theorem run_pure (value : α) (store : σ) :
    (Pure.pure value : Access ω ρ α).run answer store = (value, store) := rfl

@[simp] theorem run_perform (op : ω) (store : σ) :
    (perform op : Access ω ρ ρ).run answer store = answer op store := rfl

@[simp] theorem run_bind (x : Access ω ρ α) (f : α → Access ω ρ β) (store : σ) :
    (x >>= f).run answer store = (f (x.run answer store).1).run answer (x.run answer store).2 := by
  induction x generalizing store with
  | pure value => rfl
  | request op next ih => exact ih _ _

variable (may : ω → Prop) (gives : ω → ρ → Prop)

/-- Every request of the program is allowed and its value meets `post`, whatever the answers
are, as long as they are among those that the requests can have. -/
def Safe (post : α → Prop) : Access ω ρ α → Prop
  | .pure value => post value
  | .request op next => may op ∧ ∀ reply, gives op reply → Safe post (next reply)

variable {may gives} {post : α → Prop}

theorem Safe.of_pure {value : α} (holds : post value) :
    Safe may gives post (Pure.pure value : Access ω ρ α) := holds

theorem Safe.perform {op : ω} {post : ρ → Prop} (allowed : may op)
    (holds : ∀ reply, gives op reply → post reply) : Safe may gives post (Access.perform op) :=
  ⟨allowed, holds⟩

theorem Safe.bind {x : Access ω ρ α} {f : α → Access ω ρ β} {result : β → Prop}
    (first : Safe may gives post x)
    (second : ∀ value, post value → Safe may gives result (f value)) :
    Safe may gives result (x >>= f) := by
  induction x with
  | pure value => exact second value first
  | request op next ih => exact ⟨first.1, fun reply given => ih reply (first.2 reply given)⟩

theorem Safe.mono {x : Access ω ρ α} {weaker : α → Prop} (safe : Safe may gives post x)
    (implies : ∀ value, post value → weaker value) : Safe may gives weaker x := by
  induction x with
  | pure value => exact implies value safe
  | request op next ih => exact ⟨safe.1, fun reply given => ih reply (safe.2 reply given)⟩

theorem Safe.run {x : Access ω ρ α} (I : σ → Prop) (safe : Safe may gives post x)
    (given : ∀ op store, I store → gives op (answer op store).1)
    (kept : ∀ op store, may op → I store → I (answer op store).2) {store : σ} (holds : I store) :
    I (x.run answer store).2 ∧ post (x.run answer store).1 := by
  induction x generalizing store with
  | pure value => exact ⟨holds, safe⟩
  | request op next ih =>
    exact ih _ (safe.2 _ (given op store holds)) (kept op store safe.1 holds)

end Access

end RioFabric.Lib

import RioFabric.Lib.Hoare

/-!
# Two runs of a program

That a program does not depend on some part of its state is a statement about two runs from states
that differ only there.  The rules follow both runs at once and carry what is known of the left
one, so that they also show what `Meets` shows.
-/

namespace RioFabric.Lib

variable {ε σ α β : Type}

/-- Two runs that end in the same way, in related states. -/
inductive Alike (R : σ → σ → Prop) (Post : α → σ → Prop) (Fail : ε → σ → Prop) :
    EStateM.Result ε σ α → EStateM.Result ε σ α → Prop where
  | ok {value : α} {left right : σ} :
      R left right → Post value left → Alike R Post Fail (.ok value left) (.ok value right)
  | error {code : ε} {left right : σ} :
      R left right → Fail code left → Alike R Post Fail (.error code left) (.error code right)

/-- From related states, the left one in `Pre`, the two programs end alike. -/
def Agrees (R : σ → σ → Prop) (Pre : σ → Prop) (first second : EStateM ε σ α)
    (Post : α → σ → Prop) (Fail : ε → σ → Prop) : Prop :=
  ∀ ⦃left right : σ⦄, R left right → Pre left →
    Alike R Post Fail (first.run left) (second.run right)

namespace Agrees

variable {R : σ → σ → Prop} {Pre Pre' : σ → Prop} {Post Post' : α → σ → Prop}
  {Fail Fail' : ε → σ → Prop} {first second : EStateM ε σ α} {code : ε}
  {next other : α → EStateM ε σ β} {condition : Prop}

theorem weaken (agrees : Agrees R Pre first second Post Fail)
    (pre : ∀ state, Pre' state → Pre state)
    (post : ∀ value state, Post value state → Post' value state)
    (fail : ∀ code state, Fail code state → Fail' code state) :
    Agrees R Pre' first second Post' Fail' := by
  intro left right related before
  have both := agrees related (pre left before)
  generalize first.run left = ran, second.run right = other at both ⊢
  cases both with
  | ok after holds => exact .ok after (post _ _ holds)
  | error after holds => exact .error after (fail _ _ holds)

theorem weakenPre (agrees : Agrees R Pre first second Post Fail)
    (pre : ∀ state, Pre' state → Pre state) : Agrees R Pre' first second Post Fail :=
  agrees.weaken pre (fun _ _ holds => holds) fun _ _ holds => holds

theorem meets (refl : ∀ state, R state state) (agrees : Agrees R Pre first first Post Fail) :
    Meets Pre first Post Fail := by
  intro state before
  cases ran : first.run state with
  | ok value final =>
    have both := agrees (refl state) before
    rw [ran] at both
    cases both with
    | ok _ holds => exact ⟨fun _ _ same => by cases same; exact holds, nofun⟩
  | error code final =>
    have both := agrees (refl state) before
    rw [ran] at both
    cases both with
    | error _ holds => exact ⟨nofun, fun _ _ same => by cases same; exact holds⟩

theorem pure {value : α} (holds : ∀ state, Pre state → Post value state) :
    Agrees R Pre (Pure.pure value) (Pure.pure value) Post Fail :=
  fun _ _ related before => .ok related (holds _ before)

theorem throw (holds : ∀ state, Pre state → Fail code state) :
    Agrees R Pre (throw code : EStateM ε σ α) (throw code) Post Fail :=
  fun _ _ related before => .error related (holds _ before)

theorem bind {Mid : α → σ → Prop} {Post : β → σ → Prop} (head : Agrees R Pre first second Mid Fail)
    (tail : ∀ value, Agrees R (Mid value) (next value) (other value) Post Fail) :
    Agrees R Pre (first >>= next) (second >>= other) Post Fail := by
  intro left right related before
  have both := head related before
  rw [EStateM.run_bind, EStateM.run_bind]
  generalize first.run left = ran, second.run right = other at both ⊢
  cases both with
  | ok middle holds => exact tail _ middle holds
  | error stopped holds => exact .error stopped holds

theorem getBind {Post : β → σ → Prop} {next other : σ → EStateM ε σ β}
    (tail : ∀ left right, R left right → Pre left →
      Agrees R Pre (next left) (other right) Post Fail) :
    Agrees R Pre (MonadState.get >>= next) (MonadState.get >>= other) Post Fail := by
  intro left right related before
  rw [get_bind_run, get_bind_run]
  exact tail left right related before related before

theorem getBindAt {Post : β → σ → Prop} {next other : σ → EStateM ε σ β}
    (tail : ∀ left right, R left right → Pre left →
      Agrees R (fun state => state = left) (next left) (other right) Post Fail) :
    Agrees R Pre (MonadState.get >>= next) (MonadState.get >>= other) Post Fail := by
  intro left right related before
  rw [get_bind_run, get_bind_run]
  exact tail left right related before related rfl

theorem modify {change : σ → σ} {Post : PUnit → σ → Prop}
    (keeps : ∀ left right, R left right → R (change left) (change right))
    (holds : ∀ state, Pre state → Post ⟨⟩ (change state)) :
    Agrees R Pre (modify change : EStateM ε σ PUnit) (modify change) Post Fail :=
  fun left right related before => .ok (keeps left right related) (holds left before)

theorem failIf [Decidable condition] {Post : Unit → σ → Prop}
    (passes : ∀ state, Pre state → ¬condition → Post () state)
    (fails : ∀ state, Pre state → condition → Fail code state) :
    Agrees R Pre (Lib.failIf condition code) (Lib.failIf condition code) Post Fail := by
  unfold Lib.failIf
  split
  next stops => exact throw fun state before => fails state before stops
  next goesOn => exact pure fun state before => passes state before goesOn

theorem failIfBind [Decidable condition] {Post : β → σ → Prop} {next other : Unit → EStateM ε σ β}
    (fails : ∀ state, Pre state → condition → Fail code state)
    (tail : ¬condition → Agrees R Pre (next ()) (other ()) Post Fail) :
    Agrees R Pre (Lib.failIf condition code >>= next) (Lib.failIf condition code >>= other) Post
      Fail := by
  unfold Lib.failIf
  split
  next stops => exact fun _ _ related before => .error related (fails _ before stops)
  next goesOn => exact tail goesOn

theorem orFailBind {result : Option α} {Post : β → σ → Prop}
    (absent : ∀ state, Pre state → result = none → Fail code state)
    (tail : ∀ value, result = some value → Agrees R Pre (next value) (other value) Post Fail) :
    Agrees R Pre (Lib.orFail result code >>= next) (Lib.orFail result code >>= other) Post
      Fail := by
  cases result with
  | none => exact fun _ _ related before => .error related (absent _ before rfl)
  | some value => exact tail value rfl

theorem ite [Decidable condition] {first' second' : EStateM ε σ α}
    (yes : condition → Agrees R Pre first second Post Fail)
    (no : ¬condition → Agrees R Pre first' second' Post Fail) :
    Agrees R Pre (if condition then first else first') (if condition then second else second') Post
      Fail := by
  split
  next holds => exact yes holds
  next fails => exact no fails

end Agrees

end RioFabric.Lib

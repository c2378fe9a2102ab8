import Mathlib.Logic.Function.Basic

/-!
# Links between ends

Every end of a link remembers the end at the other side.  Connecting two ends and disconnecting
one of them write both sides, without a look at what else the ends were connected to.
-/

namespace RioFabric.Lib

variable {ε : Type} [DecidableEq ε]

/-- The other end of every end that is linked. -/
abbrev Links (ε : Type) := ε → Option ε

namespace Links

/-- The other end of a link remembers this one. -/
def Symmetric (links : Links ε) : Prop := ∀ a b, links a = some b → links b = some a

/-- Write the two sides of a link, the second after the first. -/
def connect (links : Links ε) (a b : ε) : Links ε :=
  Function.update (Function.update links a (some b)) b (some a)

/-- Clear an end and the end that it remembers. -/
def disconnect (links : Links ε) (a : ε) : Links ε :=
  match links a with
  | none => Function.update links a none
  | some b => Function.update (Function.update links a none) b none

/-- An end that is free, linked to itself or linked to `other`. -/
def MayJoin (links : Links ε) (a other : ε) : Prop :=
  links a = none ∨ links a = some a ∨ links a = some other

variable {links : Links ε} {a b : ε}

theorem connect_left : links.connect a b a = some b := by
  by_cases same : a = b
  · subst b
    exact Function.update_self _ _ _
  · rw [connect, Function.update_of_ne same, Function.update_self]

theorem connect_right : links.connect a b b = some a := Function.update_self _ _ _

theorem connect_of_ne {c : ε} (notLeft : c ≠ a) (notRight : c ≠ b) :
    links.connect a b c = links c := by
  rw [connect, Function.update_of_ne notRight, Function.update_of_ne notLeft]

/-- An end that is linked after a connection is one of its ends or was linked before. -/
theorem connect_eq_some {c d : ε} (linked : links.connect a b c = some d) :
    (c = b ∧ d = a) ∨ (c = a ∧ d = b) ∨ (c ≠ a ∧ c ≠ b ∧ links c = some d) := by
  by_cases isRight : c = b
  · subst c
    exact .inl ⟨rfl, (Option.some.inj (connect_right.symm.trans linked)).symm⟩
  · by_cases isLeft : c = a
    · subst c
      exact .inr (.inl ⟨rfl, (Option.some.inj (connect_left.symm.trans linked)).symm⟩)
    · exact .inr (.inr ⟨isLeft, isRight, (connect_of_ne isLeft isRight).symm.trans linked⟩)

theorem connect_ne_none {c : ε} (linked : links c ≠ none) : links.connect a b c ≠ none := by
  by_cases isRight : c = b
  · rw [isRight, connect_right]
    exact Option.some_ne_none a
  · by_cases isLeft : c = a
    · rw [isLeft, connect_left]
      exact Option.some_ne_none b
    · rw [connect_of_ne isLeft isRight]
      exact linked

theorem Symmetric.mayJoin_of_connect (symmetric : links.Symmetric)
    (after : (links.connect a b).Symmetric) {c other : ε}
    (linked : (links.connect a b) c = some other) (isEnd : ∀ d, d ≠ c → d ≠ other →
      (links.connect a b) d = links d) : links.MayJoin c other := by
  cases before : links c with
  | none => exact .inl before
  | some d =>
    right
    by_cases isSelf : d = c
    · exact .inl (isSelf ▸ before)
    · right
      by_cases isOther : d = other
      · exact isOther ▸ before
      · have kept : (links.connect a b) d = some c :=
          (isEnd d isSelf isOther).trans (symmetric c d before)
        have equal := (after d c kept).symm.trans linked
        exact absurd (Option.some.inj equal) isOther

/-- A new link keeps the links symmetric exactly when neither of its ends is linked elsewhere. -/
theorem Symmetric.connect_iff (symmetric : links.Symmetric) :
    (links.connect a b).Symmetric ↔ links.MayJoin a b ∧ links.MayJoin b a := by
  constructor
  · intro after
    constructor
    · exact symmetric.mayJoin_of_connect after connect_left fun d => connect_of_ne
    · exact symmetric.mayJoin_of_connect after connect_right fun d notRight notLeft =>
        connect_of_ne notLeft notRight
  · intro ⟨joinsLeft, joinsRight⟩ c d linked
    by_cases isLeft : c = a
    · subst c
      rw [connect_left] at linked
      rw [← Option.some.inj linked]
      exact connect_right
    · by_cases isRight : c = b
      · subst c
        rw [connect_right] at linked
        rw [← Option.some.inj linked]
        exact connect_left
      · rw [connect_of_ne isLeft isRight] at linked
        have back := symmetric c d linked
        have notLeft : d ≠ a := by
          intro same
          subst d
          rcases joinsLeft with free | self | other
          · cases free.symm.trans back
          · exact isLeft (Option.some.inj (back.symm.trans self))
          · exact isRight (Option.some.inj (back.symm.trans other))
        have notRight : d ≠ b := by
          intro same
          subst d
          rcases joinsRight with free | self | other
          · cases free.symm.trans back
          · exact isRight (Option.some.inj (back.symm.trans self))
          · exact isLeft (Option.some.inj (back.symm.trans other))
        rw [connect_of_ne notLeft notRight]
        exact back

theorem Symmetric.disconnect (symmetric : links.Symmetric) : (links.disconnect a).Symmetric := by
  intro c d linked
  unfold Links.disconnect at linked ⊢
  cases before : links a with
  | none =>
    simp only [before] at linked ⊢
    by_cases isEnd : c = a
    · rw [isEnd, Function.update_self] at linked
      cases linked
    · rw [Function.update_of_ne isEnd] at linked
      have back := symmetric c d linked
      have notEnd : d ≠ a := by
        intro same
        rw [same, before] at back
        cases back
      rw [Function.update_of_ne notEnd]
      exact back
  | some b =>
    simp only [before] at linked ⊢
    by_cases isRight : c = b
    · rw [isRight, Function.update_self] at linked
      cases linked
    · by_cases isLeft : c = a
      · rw [isLeft, Function.update_of_ne (isLeft ▸ isRight), Function.update_self] at linked
        cases linked
      · rw [Function.update_of_ne isRight, Function.update_of_ne isLeft] at linked
        have back := symmetric c d linked
        have notLeft : d ≠ a := by
          intro same
          rw [same, before] at back
          exact isRight (Option.some.inj back).symm
        have notRight : d ≠ b := by
          intro same
          rw [same, symmetric a b before] at back
          exact isLeft (Option.some.inj back).symm
        rw [Function.update_of_ne notRight, Function.update_of_ne notLeft]
        exact back

end Links

end RioFabric.Lib

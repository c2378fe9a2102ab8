import Mathlib.Data.Nat.Digits.Defs
import RioFabric.Libcfg.Text

/-!
# Numbers in strings

The conversions `strtoull` and `strtoll` of the C library, and the integer literals that they
are meant for.  A conversion passes over leading white space and stops at the first character
that does not belong to the number.
-/

namespace RioFabric.Libcli

open Libcfg

/-- The values of `errno`. -/
inductive Errno where
  | einval | erange
  deriving DecidableEq, Repr

/-- What a conversion leaves: its value, the string at `end`, which is `none` if it was not
set, and `errno` if it was set. -/
structure Converted where
  value : BitVec 64
  rest : Option (List Char)
  errno : Option Errno
  deriving DecidableEq, Repr

/-- The bases that the conversions know. -/
def ValidBase (base : Int) : Prop := base = 0 ∨ 2 ≤ base ∧ base ≤ 36

instance (base : Int) : Decidable (ValidBase base) := inferInstanceAs (Decidable (_ ∨ _))

/-- The value of a string of digits. -/
def numeral (base : Nat) (digits : List Char) : Nat :=
  digits.foldl (fun value digit => value * base + (digitValue digit).getD 0) 0

/-- The number at the beginning of a string: whether it has a minus sign, its magnitude and
what follows it. -/
def scanNumber (base : Nat) (chars : List Char) : Option (Bool × Nat × List Char) :=
  let (negative, chars) := sign (chars.dropWhile isSpace)
  let (base, chars) := radix base chars
  let digits := chars.takeWhile (isDigitIn base)
  if digits = [] then none
  else some (negative, numeral base digits, chars.dropWhile (isDigitIn base))

/-- `strtoull`: a number with a minus sign wraps around. -/
def strtoull (chars : List Char) (base : Int) : Converted :=
  if ¬ValidBase base then ⟨0, none, some .einval⟩
  else
    match scanNumber base.toNat chars with
    | none => ⟨0, some chars, none⟩
    | some (negative, magnitude, rest) =>
      let value := BitVec.ofNat 64 magnitude
      if magnitude ≥ 2 ^ 64 then ⟨BitVec.allOnes 64, some rest, some .erange⟩
      else ⟨if negative then -value else value, some rest, none⟩

def strtoll (chars : List Char) (base : Int) : Converted :=
  if ¬ValidBase base then ⟨0, none, some .einval⟩
  else
    match scanNumber base.toNat chars with
    | none => ⟨0, some chars, none⟩
    | some (negative, magnitude, rest) =>
      let value := BitVec.ofNat 64 magnitude
      if negative then
        if magnitude > 2 ^ 63 then ⟨BitVec.intMin 64, some rest, some .erange⟩
        else ⟨-value, some rest, none⟩
      else if magnitude ≥ 2 ^ 63 then ⟨BitVec.intMax 64, some rest, some .erange⟩
      else ⟨value, some rest, none⟩

/-- The digits of the string, the first of them the most significant. -/
def digitsOf (chars : List Char) : List Nat := chars.map fun c => (digitValue c).getD 0

/-- The string is a number without a sign, in the given base.  In base 16 it may have a prefix,
and base 0 stands for hexadecimal, octal and decimal numbers. -/
inductive Magnitude : Nat → List Char → Nat → Prop where
  | ofBase {base : Nat} {chars : List Char} (positional : base ≠ 0) (nonempty : chars ≠ [])
      (digits : ∀ c ∈ chars, isDigitIn base c = true) :
      Magnitude base chars (Nat.ofDigits base (digitsOf chars).reverse)
  | hexadecimal {base : Nat} {chars : List Char} {x : Char} (prefixed : base = 0 ∨ base = 16)
      (isX : x = 'x' ∨ x = 'X') (nonempty : chars ≠ [])
      (digits : ∀ c ∈ chars, isDigitIn 16 c = true) :
      Magnitude base ('0' :: x :: chars) (Nat.ofDigits 16 (digitsOf chars).reverse)
  | octal {chars : List Char} (digits : ∀ c ∈ chars, isDigitIn 8 c = true) :
      Magnitude 0 ('0' :: chars) (Nat.ofDigits 8 (digitsOf ('0' :: chars)).reverse)
  | decimal {first : Char} {chars : List Char} (notZero : first ≠ '0')
      (digits : ∀ c ∈ first :: chars, isDigitIn 10 c = true) :
      Magnitude 0 (first :: chars) (Nat.ofDigits 10 (digitsOf (first :: chars)).reverse)

/-- The string is an integer literal of the base, with the given value. -/
inductive IntLiteral (base : Nat) : List Char → Int → Prop where
  | unsigned {chars : List Char} {magnitude : Nat} (number : Magnitude base chars magnitude) :
      IntLiteral base chars magnitude
  | plus {chars : List Char} {magnitude : Nat} (number : Magnitude base chars magnitude) :
      IntLiteral base ('+' :: chars) magnitude
  | minus {chars : List Char} {magnitude : Nat} (number : Magnitude base chars magnitude) :
      IntLiteral base ('-' :: chars) (-magnitude)

/-! ### Digits -/

theorem numeral_eq_ofDigits (base : Nat) (chars : List Char) :
    numeral base chars = Nat.ofDigits base (digitsOf chars).reverse := by
  rw [Nat.ofDigits_eq_foldr, List.foldr_reverse, digitsOf, List.foldl_map, numeral]
  congr 1
  funext value digit
  simp [Nat.mul_comm, Nat.add_comm]

variable {base : Nat} {chars : List Char} {magnitude : Nat} {value : Int}

theorem zero_le_of_isDigitIn {c : Char} (isDigit : isDigitIn base c = true) :
    '0' ≤ c := by
  by_contra below
  have small : c < '0' := Char.not_le.mp below
  have none : digitValue c = none := by
    unfold digitValue
    rw [if_neg fun range => below range.1,
      if_neg fun range => below (Char.le_trans (by decide : '0' ≤ 'a') range.1),
      if_neg fun range => below (Char.le_trans (by decide : '0' ≤ 'A') range.1)]
  rw [isDigitIn, none] at isDigit
  contradiction

theorem isDigitIn_kind {c : Char} (isDigit : isDigitIn base c = true) :
    isSpace c = false ∧ c ≠ '+' ∧ c ≠ '-' := by
  have least := zero_le_of_isDigitIn isDigit
  refine ⟨?_, ?_, ?_⟩
  · rw [isSpace, Bool.or_eq_false_iff]
    constructor
    · refine beq_eq_false_iff_ne.mpr ?_
      rintro rfl
      revert least
      decide
    · rw [Bool.and_eq_false_iff]
      refine .inr (decide_eq_false fun upTo => ?_)
      exact absurd (Char.le_trans least upTo) (by decide)
  · rintro rfl
    revert least
    decide
  · rintro rfl
    revert least
    decide

theorem not_isDigitIn_of_isX {x : Char} (isX : x = 'x' ∨ x = 'X') (small : base ≤ 16) :
    isDigitIn base x = false := by
  have letter : digitValue x = some 33 := by
    obtain rfl | rfl := isX <;> decide
  rw [isDigitIn, letter]
  exact decide_eq_false (by omega)

/-! ### The prefix -/

/-- All characters of the string are digits, of which there is at least one. -/
def AllDigits (base : Nat) (chars : List Char) : Prop :=
  chars ≠ [] ∧ ∀ c ∈ chars, isDigitIn base c = true

/-- The value of the number that a prefix leaves. -/
def radixValue (base : Nat) (chars : List Char) : Nat :=
  Nat.ofDigits (radix base chars).1 (digitsOf (radix base chars).2).reverse

theorem Magnitude.of_leadingZero (digits : AllDigits (if base = 0 then 8 else base) ('0' :: chars))
    :
    Magnitude base ('0' :: chars)
      (Nat.ofDigits (if base = 0 then 8 else base) (digitsOf ('0' :: chars)).reverse) := by
  by_cases implicit : base = 0
  · subst implicit
    exact .octal fun c isMember => digits.2 c (List.mem_cons_of_mem _ isMember)
  · rw [if_neg implicit] at digits ⊢
    exact .ofBase implicit digits.1 digits.2

theorem Magnitude.of_radix (digits : AllDigits (radix base chars).1 (radix base chars).2) :
    Magnitude base chars (radixValue base chars) := by
  revert digits
  unfold radixValue radix
  split
  next x digit rest =>
    split
    next isPrefix => exact fun digits => .hexadecimal isPrefix.1 isPrefix.2.1 digits.1 digits.2
    next => exact .of_leadingZero
  next => exact .of_leadingZero
  next noZero =>
    intro digits
    by_cases implicit : base = 0
    · subst implicit
      cases chars with
      | nil => exact absurd rfl digits.1
      | cons first rest =>
        refine .decimal ?_ digits.2
        rintro rfl
        exact noZero rest rfl
    · rw [if_neg implicit] at digits ⊢
      exact .ofBase implicit digits.1 digits.2

theorem radix_of_digits {actual : Nat} (isActual : (if base = 0 then 8 else base) = actual)
    (small : base = 0 ∨ base = 16 → actual ≤ 16) (digits : ∀ c ∈ chars, isDigitIn actual c = true)
    (octal : base = 0 → chars.head? = some '0') :
    radix base chars = (actual, chars) := by
  unfold radix
  split
  next x digit rest =>
    rw [if_neg, isActual]
    rintro ⟨prefixed, isX, -⟩
    have isDigit := digits x (by simp)
    rw [not_isDigitIn_of_isX isX (small prefixed)] at isDigit
    contradiction
  next => rw [isActual]
  next noZero =>
    by_cases implicit : base = 0
    · obtain ⟨rest, rfl⟩ := List.head?_eq_some_iff.mp (octal implicit)
      exact absurd rfl (noZero rest)
    · rw [if_neg implicit] at isActual ⊢
      rw [isActual]

theorem Magnitude.radix (number : Magnitude base chars magnitude) :
    AllDigits (radix base chars).1 (radix base chars).2 ∧ radixValue base chars = magnitude := by
  unfold radixValue
  cases number with
  | ofBase positional nonempty digits =>
    rw [radix_of_digits (if_neg positional) (by omega) digits fun implicit =>
      absurd implicit positional]
    exact ⟨⟨nonempty, digits⟩, rfl⟩
  | @hexadecimal _ chars x prefixed isX nonempty digits =>
    cases chars with
    | nil => exact absurd rfl nonempty
    | cons digit rest =>
      have isPrefix : Libcfg.radix base ('0' :: x :: digit :: rest) = (16, digit :: rest) :=
        if_pos ⟨prefixed, isX, digits digit List.mem_cons_self⟩
      rw [isPrefix]
      exact ⟨⟨nonempty, digits⟩, rfl⟩
  | @octal chars digits =>
    have zeroToo : ∀ c ∈ '0' :: chars, isDigitIn 8 c = true :=
      List.forall_mem_cons.mpr ⟨by decide, digits⟩
    rw [radix_of_digits (if_pos rfl) (by omega) zeroToo fun _ => rfl]
    exact ⟨⟨List.cons_ne_nil _ _, zeroToo⟩, rfl⟩
  | @decimal first chars notZero digits =>
    have plain : Libcfg.radix 0 (first :: chars) = (10, first :: chars) := by
      unfold Libcfg.radix
      split
      next same => exact absurd (List.cons.inj same).1 notZero
      next same => exact absurd (List.cons.inj same).1 notZero
      next => rfl
    rw [plain]
    exact ⟨⟨List.cons_ne_nil _ _, digits⟩, rfl⟩

/-! ### The sign -/

/-- The value of a number with its sign. -/
def signedValue (negative : Bool) (magnitude : Nat) : Int :=
  if negative then -magnitude else magnitude

theorem Magnitude.head_isDigit {first : Char} (number : Magnitude base (first :: chars) magnitude) :
    ∃ actual, isDigitIn actual first = true := by
  cases number with
  | ofBase positional nonempty digits => exact ⟨base, digits first List.mem_cons_self⟩
  | hexadecimal prefixed isX nonempty digits => exact ⟨16, by decide⟩
  | octal digits => exact ⟨8, by decide⟩
  | decimal notZero digits => exact ⟨10, digits first List.mem_cons_self⟩

theorem Magnitude.sign (number : Magnitude base chars magnitude) : sign chars = (false, chars) := by
  unfold Libcfg.sign
  split
  next rest =>
    obtain ⟨actual, isDigit⟩ := number.head_isDigit
    exact absurd rfl (isDigitIn_kind isDigit).2.2
  next rest =>
    obtain ⟨actual, isDigit⟩ := number.head_isDigit
    exact absurd rfl (isDigitIn_kind isDigit).2.1
  next => rfl

theorem intLiteral_iff :
    IntLiteral base chars value ↔
      ∃ magnitude, Magnitude base (sign chars).2 magnitude ∧
        signedValue (sign chars).1 magnitude = value := by
  constructor
  · intro literal
    cases literal with
    | unsigned number =>
      rw [number.sign]
      exact ⟨_, number, rfl⟩
    | plus number => exact ⟨_, number, rfl⟩
    | minus number => exact ⟨_, number, rfl⟩
  · rintro ⟨magnitude, number, rfl⟩
    revert number
    unfold sign
    split
    · exact .minus
    · exact .plus
    · exact .unsigned

theorem Magnitude.unique {first second : Nat} (one : Magnitude base chars first)
    (two : Magnitude base chars second) : first = second :=
  one.radix.2.symm.trans two.radix.2

theorem IntLiteral.unique {first second : Int} (one : IntLiteral base chars first)
    (two : IntLiteral base chars second) : first = second := by
  obtain ⟨_, firstNumber, rfl⟩ := intLiteral_iff.mp one
  obtain ⟨_, secondNumber, rfl⟩ := intLiteral_iff.mp two
  rw [firstNumber.unique secondNumber]

theorem IntLiteral.dropWhile (literal : IntLiteral base chars value) :
    chars.dropWhile isSpace = chars := by
  cases literal with
  | unsigned number =>
    cases chars with
    | nil => rfl
    | cons first rest =>
      obtain ⟨actual, isDigit⟩ := number.head_isDigit
      simp [(isDigitIn_kind isDigit).1]
  | plus number => rfl
  | minus number => rfl

/-! ### Whole strings -/

theorem allDigits_iff :
    AllDigits base chars ↔
      chars.takeWhile (isDigitIn base) ≠ [] ∧ chars.dropWhile (isDigitIn base) = [] := by
  rw [AllDigits, List.dropWhile_eq_nil_iff]
  refine and_congr_left fun digits => ?_
  rw [List.takeWhile_eq_self_iff.mpr digits]

theorem scanNumber_whole_iff {negative : Bool} :
    scanNumber base chars = some (negative, magnitude, []) ↔
      (sign (chars.dropWhile isSpace)).1 = negative ∧
        Magnitude base (sign (chars.dropWhile isSpace)).2 magnitude := by
  unfold scanNumber
  generalize sign (chars.dropWhile isSpace) = signed
  have number : Magnitude base signed.2 magnitude ↔
      AllDigits (radix base signed.2).1 (radix base signed.2).2 ∧
        radixValue base signed.2 = magnitude :=
    ⟨Magnitude.radix, fun ⟨digits, value⟩ => value ▸ .of_radix digits⟩
  rw [number, allDigits_iff, radixValue]
  dsimp only
  generalize radix base signed.2 = based
  rw [Option.ite_none_left_eq_some, Option.some.injEq, Prod.mk.injEq, Prod.mk.injEq]
  constructor
  · rintro ⟨nonempty, sameSign, value, whole⟩
    rw [List.takeWhile_eq_self_iff.mpr (List.dropWhile_eq_nil_iff.mp whole),
      numeral_eq_ofDigits] at value
    exact ⟨sameSign, ⟨nonempty, whole⟩, value⟩
  · rintro ⟨sameSign, ⟨nonempty, whole⟩, value⟩
    rw [List.takeWhile_eq_self_iff.mpr (List.dropWhile_eq_nil_iff.mp whole),
      numeral_eq_ofDigits]
    rw [List.takeWhile_eq_self_iff.mpr (List.dropWhile_eq_nil_iff.mp whole)] at nonempty
    exact ⟨nonempty, sameSign, value, whole⟩

theorem exists_scanNumber_iff :
    (∃ negative magnitude, scanNumber base chars = some (negative, magnitude, []) ∧
        signedValue negative magnitude = value) ↔
      IntLiteral base (chars.dropWhile isSpace) value := by
  rw [intLiteral_iff]
  constructor
  · rintro ⟨negative, magnitude, whole, same⟩
    obtain ⟨rfl, number⟩ := scanNumber_whole_iff.mp whole
    exact ⟨magnitude, number, same⟩
  · rintro ⟨magnitude, number, same⟩
    exact ⟨_, magnitude, scanNumber_whole_iff.mpr ⟨rfl, number⟩, same⟩

end RioFabric.Libcli

import RioFabric.Libcli.Numbers

/-!
# Tokens as bounded numbers

The functions of `tok_parse.c` for bounded numbers of 64, 32 and 16 bits.  They convert the
token to 64 bits, ask for the whole token to be used up, compare with the bounds, and store
the value in the width of their output parameter.
-/

namespace RioFabric.Libcli

open Libcfg

/-- What a function returns, the value that it stores, and `errno` if it was set. -/
structure Parsed (w : Nat) where
  rc : Int
  value : BitVec w
  errno : Option Errno
  deriving DecidableEq, Repr

/-- The value is stored in another width. -/
def Parsed.stored (parsed : Parsed 64) (w : Nat) : Parsed w :=
  ⟨parsed.rc, parsed.value.setWidth w, parsed.errno⟩

section

variable (token : Token)

def tokParseUlonglong (min max : BitVec 64) (base : Int) : Parsed 64 :=
  let data := strtoull token base
  if data.errno.isSome then ⟨-1, 0, data.errno⟩
  else if data.rest = some token ∨ (data.rest ≠ none ∧ data.rest ≠ some []) then
    ⟨-1, 0, some .einval⟩
  else if data.value < min ∨ data.value > max then ⟨-1, 0, some .erange⟩
  else ⟨0, data.value, none⟩

def tokParseUlong (min max : BitVec 32) (base : Int) : Parsed 32 :=
  (tokParseUlonglong token (min.setWidth 64) (max.setWidth 64) base).stored 32

def tokParseUshort (min max : BitVec 16) (base : Int) : Parsed 16 :=
  (tokParseUlonglong token (min.setWidth 64) (max.setWidth 64) base).stored 16

def tokParseLonglong (min max : BitVec 64) (base : Int) : Parsed 64 :=
  let data := strtoll token base
  if data.errno.isSome then ⟨-1, 0, data.errno⟩
  else if data.rest = some token ∨ (data.rest ≠ none ∧ data.rest ≠ some []) then
    ⟨-1, 0, some .einval⟩
  else if data.value.slt min ∨ max.slt data.value then ⟨-1, 0, some .erange⟩
  else ⟨0, data.value, none⟩

def tokParseLong (min max : BitVec 32) (base : Int) : Parsed 32 :=
  (tokParseLonglong token (min.signExtend 64) (max.signExtend 64) base).stored 32

def tokParseShort (min max : BitVec 16) (base : Int) : Parsed 16 :=
  (tokParseLonglong token (min.signExtend 64) (max.signExtend 64) base).stored 16

def tokParseUll (base : Int) : Parsed 64 :=
  tokParseUlonglong token 0 (BitVec.allOnes 64) base

end

/-- The token is a literal of the base, which is one that numbers can have. -/
def IsLiteral (base : Int) (token : Token) (value : Int) : Prop :=
  ValidBase base ∧ IntLiteral base.toNat token value

/-- A function succeeds exactly for the literals between the bounds, stores their value, and
stores 0 when it fails. -/
structure Means (base : Int) (token : Token) (lower upper rc stored : Int) : Prop where
  succeeds : rc = 0 ↔ ∃ value, IsLiteral base token value ∧ lower ≤ value ∧ value ≤ upper
  stores : ∀ value, rc = 0 → IsLiteral base token value → stored = value
  fails : rc ≠ 0 → stored = 0

/-- Without the white space before it the token is a literal that is accepted, but there is
white space, or the value is not between the bounds. -/
def Misread (base : Int) (token : Token) (lower upper : Int) (Accepted : Int → Prop) : Prop :=
  ∃ value, IsLiteral base (token.dropWhile isSpace) value ∧ Accepted value ∧
    (token.dropWhile isSpace ≠ token ∨ ¬(lower ≤ value ∧ value ≤ upper))

/-- The outcome of a function that passes over white space and accepts certain values. -/
def Reads (base : Int) (token : Token) (Accepted : Int → Prop) {w : Nat} (parsed : Parsed w) :
    Prop :=
  (∃ value, IsLiteral base (token.dropWhile isSpace) value ∧ Accepted value ∧ parsed.rc = 0 ∧
      parsed.value = BitVec.ofInt w value) ∨
    ((∀ value, IsLiteral base (token.dropWhile isSpace) value → ¬Accepted value) ∧
      parsed.rc = -1 ∧ parsed.value = 0)

variable {base : Int} {token : Token}

theorem IsLiteral.unique {first second : Int} (one : IsLiteral base token first)
    (two : IsLiteral base token second) : first = second :=
  one.2.unique two.2

theorem IsLiteral.dropWhile {value : Int} (literal : IsLiteral base token value) :
    token.dropWhile isSpace = token :=
  literal.2.dropWhile

theorem means_iff {lower upper : Int} {Accepted : Int → Prop} {w : Nat} {parsed : Parsed w}
    {toInt : BitVec w → Int} (reads : Reads base token Accepted parsed)
    (inRange : ∀ value, lower ≤ value → value ≤ upper →
      Accepted value ∧ toInt (BitVec.ofInt w value) = value) (zero : toInt 0 = 0) :
    Means base token lower upper parsed.rc (toInt parsed.value) ↔
      ¬Misread base token lower upper Accepted := by
  obtain ⟨value, literal, accepted, rc, stored⟩ | ⟨refused, rc, stored⟩ := reads
  · rw [rc, stored]
    constructor
    · rintro means ⟨other, otherLiteral, -, misread⟩
      obtain ⟨meant, meantLiteral, lowest, highest⟩ := means.succeeds.mp rfl
      rw [meantLiteral.dropWhile] at otherLiteral misread
      obtain rfl := meantLiteral.unique otherLiteral
      exact misread.elim (absurd rfl) fun outside => outside ⟨lowest, highest⟩
    · intro noMisread
      have whole : token.dropWhile isSpace = token := by
        by_contra spaced
        exact noMisread ⟨value, literal, accepted, .inl spaced⟩
      have between : lower ≤ value ∧ value ≤ upper := by
        by_contra outside
        exact noMisread ⟨value, literal, accepted, .inr outside⟩
      rw [whole] at literal
      refine ⟨iff_of_true rfl ⟨value, literal, between⟩, fun other _ otherLiteral => ?_,
        fun failed => absurd rfl failed⟩
      rw [← literal.unique otherLiteral]
      exact (inRange value between.1 between.2).2
  · rw [rc, stored, zero]
    refine iff_of_true ⟨?_, fun _ => nofun, fun _ => rfl⟩ ?_
    · refine iff_of_false (by decide) ?_
      rintro ⟨value, literal, lowest, highest⟩
      exact refused value (literal.dropWhile.symm ▸ literal) (inRange value lowest highest).1
    · rintro ⟨value, literal, accepted, -⟩
      exact refused value literal accepted

/-- A conversion gives a literal that fits, after white space, or does not use the token up. -/
def Converts (base : Int) (token : Token) (Fits : Int → Prop) (data : Converted) : Prop :=
  (∃ value, IsLiteral base (token.dropWhile isSpace) value ∧ Fits value ∧ token ≠ [] ∧
      data = ⟨BitVec.ofInt 64 value, some [], none⟩) ∨
    ((∀ value, IsLiteral base (token.dropWhile isSpace) value → ¬Fits value) ∧
      (data.errno.isSome ∨ data.rest = some token ∨ (data.rest ≠ none ∧ data.rest ≠ some [])))

theorem ofInt_signedValue (w : Nat) (negative : Bool) (magnitude : Nat) :
    BitVec.ofInt w (signedValue negative magnitude) =
      if negative then -BitVec.ofNat w magnitude else BitVec.ofNat w magnitude := by
  cases negative with
  | true => exact BitVec.ofInt_neg
  | false => rfl

theorem scanNumber_nil (base : Nat) : scanNumber base [] = none := rfl

theorem scanNumber_of_isLiteral {value : Int}
    (literal : IsLiteral base (token.dropWhile isSpace) value) :
    ∃ negative magnitude, scanNumber base.toNat token = some (negative, magnitude, []) ∧
      signedValue negative magnitude = value :=
  exists_scanNumber_iff.mpr literal.2

theorem isLiteral_of_scanNumber (valid : ValidBase base) {negative : Bool} {magnitude : Nat}
    (whole : scanNumber base.toNat token = some (negative, magnitude, [])) :
    IsLiteral base (token.dropWhile isSpace) (signedValue negative magnitude) :=
  ⟨valid, exists_scanNumber_iff.mp ⟨negative, magnitude, whole, rfl⟩⟩

theorem converts_of_scanNumber {Fits : Int → Prop} {data : Converted} (valid : ValidBase base)
    (unscanned : scanNumber base.toNat token = none → data.rest = some token)
    (scanned : ∀ negative magnitude rest,
      scanNumber base.toNat token = some (negative, magnitude, rest) →
        data.rest = some rest ∧
          ((Fits (signedValue negative magnitude) ∧ data.errno = none ∧
              data.value = BitVec.ofInt 64 (signedValue negative magnitude)) ∨
            (¬Fits (signedValue negative magnitude) ∧ data.errno.isSome))) :
    Converts base token Fits data := by
  cases scan : scanNumber base.toNat token with
  | none =>
    refine .inr ⟨fun value literal => ?_, .inr (.inl (unscanned scan))⟩
    obtain ⟨_, _, whole, _⟩ := scanNumber_of_isLiteral literal
    rw [scan] at whole
    contradiction
  | some number =>
    obtain ⟨negative, magnitude, rest⟩ := number
    obtain ⟨restIs, ⟨fits, noError, value⟩ | ⟨tooLarge, error⟩⟩ := scanned _ _ _ scan
    · cases rest with
      | nil =>
        refine .inl ⟨_, isLiteral_of_scanNumber valid scan, fits, ?_, ?_⟩
        · rintro rfl
          rw [scanNumber_nil] at scan
          contradiction
        · rw [← value, ← restIs, ← noError]
      | cons next others =>
        refine .inr ⟨fun value literal => ?_, .inr (.inr ?_)⟩
        · obtain ⟨_, _, whole, _⟩ := scanNumber_of_isLiteral literal
          rw [scan] at whole
          simp at whole
        · rw [restIs]
          simp
    · refine .inr ⟨fun value literal => ?_, .inl error⟩
      obtain ⟨_, _, whole, same⟩ := scanNumber_of_isLiteral literal
      rw [scan] at whole
      obtain ⟨rfl, rfl, -⟩ : negative = _ ∧ magnitude = _ ∧ rest = _ := by
        simpa using whole
      rwa [← same]

theorem natAbs_signedValue (negative : Bool) (magnitude : Nat) :
    (signedValue negative magnitude).natAbs = magnitude := by
  cases negative <;> simp [signedValue]

theorem strtoull_converts (token : Token) (base : Int) :
    Converts base token (fun value => value.natAbs < 2 ^ 64) (strtoull token base) := by
  by_cases valid : ValidBase base
  · refine converts_of_scanNumber valid (fun scan => ?_) fun negative magnitude rest scan => ?_
    · simp [strtoull, valid, scan]
    · rw [natAbs_signedValue, ofInt_signedValue]
      simp only [strtoull, valid, not_true_eq_false, if_false, scan]
      split
      next large => exact ⟨rfl, .inr ⟨large.not_gt, rfl⟩⟩
      next small => exact ⟨rfl, .inl ⟨not_le.mp small, rfl, rfl⟩⟩
  · refine .inr ⟨fun value literal => absurd literal.1 valid, .inl ?_⟩
    simp [strtoull, valid]

theorem strtoll_converts (token : Token) (base : Int) :
    Converts base token (fun value => -2 ^ 63 ≤ value ∧ value < 2 ^ 63) (strtoll token base) := by
  by_cases valid : ValidBase base
  · refine converts_of_scanNumber valid (fun scan => ?_) fun negative magnitude rest scan => ?_
    · simp [strtoll, valid, scan]
    · rw [ofInt_signedValue]
      simp only [strtoll, valid, not_true_eq_false, if_false, scan]
      cases negative with
      | true =>
        simp only [if_true, signedValue]
        split
        next large => exact ⟨rfl, .inr ⟨by omega, rfl⟩⟩
        next small => exact ⟨rfl, .inl ⟨by omega, rfl, rfl⟩⟩
      | false =>
        simp only [Bool.false_eq_true, if_false, signedValue]
        split
        next large => exact ⟨rfl, .inr ⟨by omega, rfl⟩⟩
        next small => exact ⟨rfl, .inl ⟨by omega, rfl, rfl⟩⟩
  · refine .inr ⟨fun value literal => absurd literal.1 valid, .inl ?_⟩
    simp [strtoll, valid]

section Functions

variable {base : Int} {token : Token} {w : Nat} {Accepted : Int → Prop} {parsed : Parsed w}
  {lower upper : BitVec w}

theorem Reads.congr {Other : Int → Prop} (reads : Reads base token Accepted parsed)
    (same : ∀ value, Accepted value ↔ Other value) :
    Reads base token Other parsed := by
  obtain rfl : Accepted = Other := funext fun value => propext (same value)
  exact reads

theorem setWidth_ofInt (fewer : w ≤ 64) (value : Int) :
    (BitVec.ofInt 64 value).setWidth w = BitVec.ofInt w value := by
  refine BitVec.eq_of_toNat_eq ?_
  have divides : ((2 ^ w : Nat) : Int) ∣ ((2 ^ 64 : Nat) : Int) :=
    Int.natCast_dvd_natCast.mpr (Nat.pow_dvd_pow 2 fewer)
  have same := Int.emod_emod_of_dvd value divides
  have nonneg : 0 ≤ value % ((2 ^ 64 : Nat) : Int) := Int.emod_nonneg _ (by decide)
  rw [BitVec.toNat_setWidth, BitVec.toNat_ofInt, BitVec.toNat_ofInt, ← same,
    Int.toNat_emod nonneg (Int.natCast_nonneg _), Int.toNat_natCast]

theorem Reads.stored {parsed : Parsed 64} (reads : Reads base token Accepted parsed)
    (fewer : w ≤ 64) :
    Reads base token Accepted (parsed.stored w) := by
  obtain ⟨value, literal, accepted, rc, stored⟩ | ⟨refused, rc, stored⟩ := reads
  · refine .inl ⟨value, literal, accepted, rc, ?_⟩
    rw [Parsed.stored, stored]
    exact setWidth_ofInt fewer value
  · refine .inr ⟨refused, rc, ?_⟩
    rw [Parsed.stored, stored]
    exact BitVec.setWidth_zero w 64

theorem usedUp (nonempty : token ≠ []) :
    ¬(some [] = some token ∨ (some ([] : Token) ≠ none ∧ some ([] : Token) ≠ some [])) := by
  simp [nonempty.symm]

theorem reads_of_converts {Fits : Int → Prop} {data : Converted}
    (converts : Converts base token Fits data) (outside : BitVec 64 → Prop)
    [DecidablePred outside] :
    Reads base token (fun value => Fits value ∧ ¬outside (BitVec.ofInt 64 value))
      (if data.errno.isSome then ⟨-1, 0, data.errno⟩
      else if data.rest = some token ∨ (data.rest ≠ none ∧ data.rest ≠ some []) then
        ⟨-1, 0, some .einval⟩
      else if outside data.value then ⟨-1, 0, some .erange⟩
      else ⟨0, data.value, none⟩ : Parsed 64) := by
  obtain ⟨value, literal, fits, nonempty, rfl⟩ | ⟨refused, failed⟩ := converts
  · dsimp only
    rw [Option.isSome_none, if_neg Bool.false_ne_true, if_neg (usedUp nonempty)]
    split
    next refused =>
      refine .inr ⟨fun other otherLiteral accepted => ?_, rfl, rfl⟩
      rw [otherLiteral.unique literal] at accepted
      exact accepted.2 refused
    next accepted => exact .inl ⟨value, literal, ⟨fits, accepted⟩, rfl, rfl⟩
  · refine .inr ⟨fun value literal accepted => refused value literal accepted.1, ?_⟩
    split
    · exact ⟨rfl, rfl⟩
    next noError =>
      rw [if_pos (failed.resolve_left noError)]
      exact ⟨rfl, rfl⟩

/-- The literals that the unsigned functions accept: what counts is the value modulo `2 ^ 64`. -/
def AcceptedUnsigned (lower upper : Int) (value : Int) : Prop :=
  value.natAbs < 2 ^ 64 ∧ lower ≤ value % 2 ^ 64 ∧ value % 2 ^ 64 ≤ upper

/-- The literals that the signed functions accept. -/
def AcceptedSigned (lower upper : Int) (value : Int) : Prop := lower ≤ value ∧ value ≤ upper

theorem tokParseUlonglong_reads (token : Token) (min max : BitVec 64) (base : Int) :
    Reads base token (AcceptedUnsigned min.toNat max.toNat)
      (tokParseUlonglong token min max base) := by
  refine (reads_of_converts (strtoull_converts token base)
    fun value => value < min ∨ value > max).congr fun value => and_congr_right fun _ => ?_
  have positive : 0 ≤ value % 2 ^ 64 := Int.emod_nonneg _ (by decide)
  rw [not_or, gt_iff_lt, BitVec.lt_def, BitVec.lt_def, BitVec.toNat_ofInt]
  norm_num only at positive ⊢
  omega

theorem toInt_ofInt_of_fits {value : Int} {w : Nat} (lower : -2 ^ (w - 1) ≤ value)
    (upper : value < 2 ^ (w - 1)) (positive : 0 < w) : (BitVec.ofInt w value).toInt = value := by
  rw [BitVec.toInt_ofInt]
  have double : (2 : Int) ^ w = 2 * 2 ^ (w - 1) := by
    rw [← pow_succ', Nat.sub_add_cancel positive]
  refine Int.bmod_eq_of_le_mul_two ?_ ?_
  · push_cast
    omega
  · push_cast
    omega

theorem tokParseLonglong_reads (token : Token) (min max : BitVec 64) (base : Int) :
    Reads base token (AcceptedSigned min.toInt max.toInt)
      (tokParseLonglong token min max base) := by
  refine (reads_of_converts (strtoll_converts token base)
    fun value => value.slt min = true ∨ max.slt value = true).congr fun value => ?_
  have least := min.le_toInt
  have greatest := max.toInt_lt
  rw [not_or, BitVec.slt_iff_toInt_lt, BitVec.slt_iff_toInt_lt, AcceptedSigned, not_lt, not_lt]
  constructor
  · rintro ⟨fits, inRange⟩
    rwa [toInt_ofInt_of_fits fits.1 fits.2 (by decide)] at inRange
  · intro inRange
    have fits : -2 ^ 63 ≤ value ∧ value < 2 ^ 63 := by
      norm_num only at least greatest ⊢
      omega
    refine ⟨fits, ?_⟩
    rwa [toInt_ofInt_of_fits fits.1 fits.2 (by decide)]

theorem unsigned_means_iff
    (reads : Reads base token (AcceptedUnsigned lower.toNat upper.toNat) parsed) (fewer : w ≤ 64) :
    Means base token lower.toNat upper.toNat parsed.rc parsed.value.toNat ↔
      ¬Misread base token lower.toNat upper.toNat
        (AcceptedUnsigned lower.toNat upper.toNat) := by
  refine @means_iff _ _ _ _ _ _ _ (fun value => value.toNat) reads
    (fun value lowest highest => ?_) rfl
  have most : upper.toNat < 2 ^ w := upper.isLt
  have wide : 2 ^ w ≤ 2 ^ 64 := Nat.pow_le_pow_right (by decide) fewer
  have small : value % 2 ^ 64 = value := Int.emod_eq_of_lt (by omega) (by omega)
  have kept : value % ((2 ^ w : Nat) : Int) = value := Int.emod_eq_of_lt (by omega) (by omega)
  rw [AcceptedUnsigned, small, BitVec.toNat_ofInt, kept]
  exact ⟨⟨by omega, lowest, highest⟩, Int.toNat_of_nonneg (by omega)⟩

theorem signed_means_iff (reads : Reads base token (AcceptedSigned lower.toInt upper.toInt) parsed)
    (positive : 0 < w) :
    Means base token lower.toInt upper.toInt parsed.rc parsed.value.toInt ↔
      ¬Misread base token lower.toInt upper.toInt
        (AcceptedSigned lower.toInt upper.toInt) := by
  refine means_iff reads (fun value lowest highest => ⟨⟨lowest, highest⟩, ?_⟩) BitVec.toInt_zero
  exact toInt_ofInt_of_fits (lower.le_toInt.trans lowest) (highest.trans_lt upper.toInt_lt) positive

end Functions

/-- Each of the six functions takes a token for what it means exactly if the token is not
misread: for an unsigned function that is a literal after white space, or a negative one whose
value modulo `2 ^ 64` lies between the bounds, for a signed function a literal after white
space. -/
theorem tokParse_means_iff (token : Token) (base : Int) :
    (∀ min max : BitVec 64,
      Means base token min.toNat max.toNat (tokParseUlonglong token min max base).rc
          (tokParseUlonglong token min max base).value.toNat ↔
        ¬Misread base token min.toNat max.toNat (AcceptedUnsigned min.toNat max.toNat)) ∧
    (∀ min max : BitVec 32,
      Means base token min.toNat max.toNat (tokParseUlong token min max base).rc
          (tokParseUlong token min max base).value.toNat ↔
        ¬Misread base token min.toNat max.toNat (AcceptedUnsigned min.toNat max.toNat)) ∧
    (∀ min max : BitVec 16,
      Means base token min.toNat max.toNat (tokParseUshort token min max base).rc
          (tokParseUshort token min max base).value.toNat ↔
        ¬Misread base token min.toNat max.toNat (AcceptedUnsigned min.toNat max.toNat)) ∧
    (∀ min max : BitVec 64,
      Means base token min.toInt max.toInt (tokParseLonglong token min max base).rc
          (tokParseLonglong token min max base).value.toInt ↔
        ¬Misread base token min.toInt max.toInt (AcceptedSigned min.toInt max.toInt)) ∧
    (∀ min max : BitVec 32,
      Means base token min.toInt max.toInt (tokParseLong token min max base).rc
          (tokParseLong token min max base).value.toInt ↔
        ¬Misread base token min.toInt max.toInt (AcceptedSigned min.toInt max.toInt)) ∧
    (∀ min max : BitVec 16,
      Means base token min.toInt max.toInt (tokParseShort token min max base).rc
          (tokParseShort token min max base).value.toInt ↔
        ¬Misread base token min.toInt max.toInt (AcceptedSigned min.toInt max.toInt)) := by
  have wider : ∀ {v : Nat}, v ≤ 64 → ∀ bound : BitVec v, (bound.setWidth 64).toNat = bound.toNat :=
    fun fewer _ => BitVec.toNat_setWidth_of_le fewer
  have widerInt : ∀ {v : Nat}, v ≤ 64 → ∀ bound : BitVec v,
      (bound.signExtend 64).toInt = bound.toInt := fun fewer _ =>
    BitVec.toInt_signExtend_of_le fewer
  refine ⟨fun min max => ?_, fun min max => ?_, fun min max => ?_, fun min max => ?_,
    fun min max => ?_, fun min max => ?_⟩
  · exact unsigned_means_iff (tokParseUlonglong_reads token min max base) le_rfl
  · have reads := tokParseUlonglong_reads token (min.setWidth 64) (max.setWidth 64) base
    rw [wider (by decide), wider (by decide)] at reads
    exact unsigned_means_iff (reads.stored (by decide)) (by decide)
  · have reads := tokParseUlonglong_reads token (min.setWidth 64) (max.setWidth 64) base
    rw [wider (by decide), wider (by decide)] at reads
    exact unsigned_means_iff (reads.stored (by decide)) (by decide)
  · exact signed_means_iff (tokParseLonglong_reads token min max base) (by decide)
  · have reads := tokParseLonglong_reads token (min.signExtend 64) (max.signExtend 64) base
    rw [widerInt (by decide), widerInt (by decide)] at reads
    exact signed_means_iff (reads.stored (by decide)) (by decide)
  · have reads := tokParseLonglong_reads token (min.signExtend 64) (max.signExtend 64) base
    rw [widerInt (by decide), widerInt (by decide)] at reads
    exact signed_means_iff (reads.stored (by decide)) (by decide)

/-- The token `-18446744073709551615` is read as 1, a value between 0 and 10. -/
theorem tokParseUlonglong_wraps :
    tokParseUlonglong "-18446744073709551615".toList 0 10 10 = ⟨0, 1, none⟩ ∧
      IsLiteral 10 "-18446744073709551615".toList (-18446744073709551615) ∧
      ¬Means 10 "-18446744073709551615".toList 0 10
        (tokParseUlonglong "-18446744073709551615".toList 0 10 10).rc
        (tokParseUlonglong "-18446744073709551615".toList 0 10 10).value.toNat := by
  have parsed : tokParseUlonglong "-18446744073709551615".toList 0 10 10 = ⟨0, 1, none⟩ := by
    decide +kernel
  have scanned : scanNumber (10 : Int).toNat "-18446744073709551615".toList =
      some (true, 18446744073709551615, []) := by
    decide +kernel
  have literal : IsLiteral 10 "-18446744073709551615".toList (-18446744073709551615) :=
    isLiteral_of_scanNumber (by decide) scanned
  refine ⟨parsed, literal, fun means => ?_⟩
  rw [parsed] at means
  obtain ⟨value, meant, lowest, -⟩ := means.succeeds.mp rfl
  rw [meant.unique literal] at lowest
  omega

end RioFabric.Libcli

import Mathlib.Data.List.TakeWhile
import Mathlib.Tactic.Common
import RioFabric.Lib.Bits

/-!
# The text of a configuration file

The C library routines through which the configuration parser reads its file, and the
routines of `libcli` that turn a word into a number or into its index in a list.  Strings are
lists of characters without the terminating NUL.
-/

namespace RioFabric.Libcfg

/-- A word of the text. -/
abbrev Token := List Char

/-- The delimiters handed to `strtok_r`. -/
def isDelim (c : Char) : Bool := c == ' ' || c == '\t'

/-- The C string in a buffer ends at the first NUL. -/
def cString (chars : List Char) : List Char := chars.takeWhile (· ≠ '\x00')

def stripCrlf (chars : List Char) : List Char :=
  (chars.takeWhile (· ≠ '\n')).takeWhile (· ≠ '\r')

/-- `strtok_r`: the first word of a string, and the string after the delimiter that ends it. -/
def strtokR (chars : List Char) : Option (Token × List Char) :=
  match chars.dropWhile isDelim with
  | [] => none
  | word => some (word.takeWhile (!isDelim ·), (word.dropWhile (!isDelim ·)).tail)

/-- `strchr` with a dot: what stands before the first dot of a word, and what after it. -/
def splitAtDot (tok : Token) : Option (Token × Token) :=
  if '.' ∈ tok then some (tok.takeWhile (· ≠ '.'), (tok.dropWhile (· ≠ '.')).tail) else none

/-- The file, the line buffer and the place in it.  `strtok_r` ends the string in the buffer
after its first word, so this word is all that can be read from the buffer again. -/
structure Source where
  /-- What `getline` has not read yet. -/
  text : List Char
  /-- The first word in the buffer `line`, empty if there is none; `none` for `NULL`. -/
  line : Option Token
  /-- The string at `save_ptr`. -/
  save : List Char
  /-- Whether the last token is the first word in the buffer. -/
  isFirst : Bool
  deriving DecidableEq, Repr

namespace Source

/-- Before the first call. -/
def opened (text : List Char) : Source := ⟨text, none, [], false⟩

/-- The first word in the buffer, if there is one. -/
def word (src : Source) : Option Token :=
  match src.line with
  | none | some [] => none
  | some tok => some tok

/-- `getline`: the next line with its newline, and the text after it. -/
def getline (text : List Char) : List Char × List Char :=
  (text.takeWhile (· ≠ '\n') ++ (text.dropWhile (· ≠ '\n')).take 1,
    (text.dropWhile (· ≠ '\n')).tail)

/-- `getline`, `strip_crlf` and `strtok_r` on the line: the count of characters that `getline`
returns, the first word of the line and the new state.  At the end of the file the count is -1
in a variable of type `size_t`, and `strtok_r` goes through the old buffer once more. -/
def refill (src : Source) : (Nat × Option Token) × Source :=
  if src.text = [] then
    ((2 ^ 64 - 1, src.word), ⟨[], some (src.line.getD []), [], true⟩)
  else
    let (line, text) := getline src.text
    match strtokR (stripCrlf (cString line)) with
    | none => ((line.length, none), ⟨text, some [], [], true⟩)
    | some (tok, save) => ((line.length, some tok), ⟨text, some tok, save, true⟩)

/-- `strtok_r(NULL, delim, &save_ptr)`. -/
def nextWord (src : Source) : Option Token × Source :=
  match strtokR src.save with
  | none => (none, { src with save := [] })
  | some (tok, save) => (some tok, { src with save := save, isFirst := false })

/-- A NUL in place of the first dot of the last token, which shows in the buffer if the token
is its first word. -/
def cutAtDot (src : Source) : Source :=
  if src.isFirst then { src with line := src.line.map fun word => word.takeWhile (· ≠ '.') }
  else src

end Source

/-- `parm_idx`: the place of a word in a list, and the number of words if it is not there.
A list of the source is given as the list of its words. -/
def parmIdx (tok : Token) (tokenList : List String) : Nat :=
  tokenList.findIdx fun word => word.toList = tok

/-- `get_v_str` with the check for a slash. -/
def getVStr (parm : Token) : Option Token :=
  match parm with
  | first :: second :: _ => if first ≠ '/' ∨ second = '/' then none else some parm
  | _ => none

/-- `strncmp(rc, "//", 2)`. -/
def isComment (tok : Token) : Bool := tok.take 2 == ['/', '/']

def isSpace (c : Char) : Bool := c == ' ' || ('\t' ≤ c && c ≤ '\r')

/-- The value of a digit or letter. -/
def digitValue (c : Char) : Option Nat :=
  if '0' ≤ c ∧ c ≤ '9' then some (c.toNat - '0'.toNat)
  else if 'a' ≤ c ∧ c ≤ 'z' then some (c.toNat - 'a'.toNat + 10)
  else if 'A' ≤ c ∧ c ≤ 'Z' then some (c.toNat - 'A'.toNat + 10)
  else none

/-- A digit in the given base. -/
def isDigitIn (base : Nat) (c : Char) : Bool := (digitValue c).any (· < base)

/-- The base of a number, from the base asked for and its prefix, and the number without the
prefix. -/
def radix (base : Nat) (chars : List Char) : Nat × List Char :=
  match chars with
  | '0' :: x :: digit :: rest =>
    if (base = 0 ∨ base = 16) ∧ (x = 'x' ∨ x = 'X') ∧ isDigitIn 16 digit then
      (16, digit :: rest)
    else (if base = 0 then 8 else base, chars)
  | '0' :: _ => (if base = 0 then 8 else base, chars)
  | _ => (if base = 0 then 10 else base, chars)

/-- The sign of a number, and the number without it. -/
def sign (chars : List Char) : Bool × List Char :=
  match chars with
  | '-' :: rest => (true, rest)
  | '+' :: rest => (false, rest)
  | _ => (false, chars)

/-- `strtoull`: the number and what follows it; `none` if there are no digits or the number
does not fit. -/
def strtoull (chars : List Char) (base : Nat) : Option (Nat × List Char) :=
  let (negative, chars) := sign (chars.dropWhile isSpace)
  let (base, chars) := radix base chars
  let digits := chars.takeWhile (isDigitIn base)
  let value := digits.foldl (fun value digit => value * base + (digitValue digit).getD 0) 0
  if digits = [] ∨ value ≥ 2 ^ 64 then none
  else
    some (if negative then (2 ^ 64 - value) % 2 ^ 64 else value, chars.dropWhile (isDigitIn base))

def tokParseUlonglong (tok : Token) (min max base : Nat) : Option Nat :=
  match strtoull tok base with
  | some (value, []) => if value < min ∨ value > max then none else some value
  | _ => none

def tokParseUlong (tok : Token) (min max base : Nat) : Option Nat :=
  tokParseUlonglong tok min max base

def tokParseUl (tok : Token) (base : Nat) : Option Nat := tokParseUlonglong tok 0 (2 ^ 32 - 1) base

def tokParseDid (tok : Token) (base : Nat) : Option Nat := tokParseUlonglong tok 0 0xFFFF base

/-- `tok_parse_port_num`, for the `RIO_MAX_DEV_PORT` = 24 ports a device can have. -/
def tokParsePortNum (tok : Token) (base : Nat) : Option Nat := tokParseUlonglong tok 0 23 base

variable {tok : Token} {chars rest : List Char}

theorem tokParseUlonglong_le {min max base value : Nat}
    (parsed : tokParseUlonglong tok min max base = some value) : value ≤ max := by
  unfold tokParseUlonglong at parsed
  split at parsed
  · split at parsed
    · cases parsed
    · next inRange =>
        cases parsed
        omega
  · cases parsed

theorem tokParsePortNum_lt {base value : Nat} (parsed : tokParsePortNum tok base = some value) :
    value < 24 :=
  Nat.lt_succ_of_le (tokParseUlonglong_le parsed)

theorem eq_of_parmIdx {tokenList : List String} {idx : Nat} (found : parmIdx tok tokenList = idx)
    (inList : idx < tokenList.length) :
    tok = (tokenList.get ⟨idx, inList⟩).toList := by
  subst found
  have holds := @List.findIdx_getElem _ (fun word : String => decide (word.toList = tok)) tokenList
    inList
  exact (of_decide_eq_true holds).symm

theorem length_strtokR (found : strtokR chars = some (tok, rest)) : rest.length < chars.length := by
  unfold strtokR at found
  have shorter := (List.dropWhile_suffix isDelim (l := chars)).length_le
  split at found
  · cases found
  · next word nonempty =>
      obtain ⟨-, rfl⟩ := Prod.mk.inj (Option.some.inj found)
      have rest := (List.dropWhile_suffix (!isDelim ·) (l := chars.dropWhile isDelim)).length_le
      have positive : 0 < (chars.dropWhile isDelim).length :=
        List.length_pos_iff.mpr fun empty => nonempty empty
      rw [List.length_tail]
      omega

theorem strtokR_ne_nil (found : strtokR chars = some (tok, rest)) : tok ≠ [] := by
  unfold strtokR at found
  split at found
  · cases found
  · next word nonempty =>
      obtain ⟨rfl, -⟩ := Prod.mk.inj (Option.some.inj found)
      cases chopped : chars.dropWhile isDelim with
      | nil => exact absurd chopped nonempty
      | cons first others =>
        have notDelim : isDelim first = false := by
          have head := List.head_dropWhile_not isDelim (l := chars) (by simp [chopped])
          simpa [chopped] using head
        simp [notDelim]

end RioFabric.Libcfg

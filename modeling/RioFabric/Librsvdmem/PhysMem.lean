import RioFabric.Lib.WhileRules
import RioFabric.Libcli.TokParse

/-!
# Memory that is set aside

`librsvdmem.c`: a file has one line for each region of physical memory, with a name, an address
and a size.  The file is read a byte at a time into a buffer for one line, and the first line
with the name that is asked for gives the region.

The events of a run are the lines that are handed to `strtok_r`.
-/

namespace RioFabric.Librsvdmem

open Lib Libcfg Libcli

def memCfgMaxLineLen : Nat := 255

def rioAnyAddr : BitVec 64 := BitVec.allOnes 64

def edom : Int := 33

def efbig : Int := 27

/-- What `read_a_line` returns, the bytes it put at the start of the buffer, and what is left of
the file.  The rest of the buffer is NUL. -/
structure LineRead where
  count : Nat
  buff : List Char
  rest : List Char
  deriving DecidableEq, Repr

/-- The loop of `read_a_line`, with the byte that was read to `pos`: the last position, the bytes
from `pos` on, and what is left of the file. -/
def readOn (max pos : Nat) (byte : Char) : List Char → Nat × List Char × List Char
  | [] => if pos < max - 2 ∧ byte ≠ '\n' then (pos + 1, [byte], []) else (pos, [byte], [])
  | next :: text =>
    if pos < max - 2 ∧ byte ≠ '\n' then
      let (last, bytes, rest) := readOn max (pos + 1) next text
      (last, byte :: bytes, rest)
    else (pos, [byte], next :: text)

def readALine (max : Nat) : List Char → LineRead
  | [] => ⟨0, [], []⟩
  | byte :: text =>
    let (last, bytes, rest) := readOn max 0 byte text
    ⟨if last = 0 then 0 else last + 1, bytes, rest⟩

/-- The byte at a place of the buffer. -/
def LineRead.byteAt (line : LineRead) (place : Nat) : Char := line.buff.getD place '\x00'

/-- The delimiters handed to `strtok_r`. -/
def isDelim (c : Char) : Bool := c == ' ' || c == '\r' || c == '\n'

/-- The words that `strtok_r` finds in a buffer, one after the other. -/
def strtokR (buff : List Char) : List Token :=
  ((cString buff).splitOnP isDelim).filter (· ≠ [])

/-- The rest of a list after each of its spaces. -/
def afterSpaces : List Char → List (List Char)
  | [] => []
  | c :: chars => if c = ' ' then chars :: afterSpaces chars else afterSpaces chars

/-- `parm_idx`: the first word of a list that is the token, and the number of words if there is
none. -/
def parmIdx (token : Token) (tokenList : List Char) : Nat :=
  (tokenList :: afterSpaces tokenList).findIdx fun list =>
    token.isPrefixOf list && (list.drop token.length).head?.all (· == ' ')

/-- The words after the one that is the name. -/
def findParm (parmName : List Char) : List Token → Option (List Token)
  | [] => none
  | token :: tokens => if parmIdx token parmName ≠ 0 then findParm parmName tokens else some tokens

/-- What is in `*sa` and `*sz`. -/
structure Region where
  sa : BitVec 64
  sz : BitVec 64
  deriving DecidableEq, Repr

/-- Whether a line ends the search, and how. -/
inductive Progress where
  | goesOn
  | fails (errno : Int)
  | isDone
  deriving DecidableEq, Repr

/-- The address and the size after the name. -/
def parseRegion (tokens : List Token) (region : Region) : Region × Progress :=
  match tokens with
  | [] => (region, .fails edom)
  | address :: tokens =>
    let sa := tokParseUll address 0
    if sa.rc ≠ 0 then ({ region with sa := sa.value }, .fails edom)
    else
      match tokens with
      | [] => ({ region with sa := rioAnyAddr }, .fails edom)
      | size :: _ =>
        let sz := tokParseUll size 0
        if sz.rc ≠ 0 then (⟨rioAnyAddr, sz.value⟩, .fails edom)
        else if (sz.value - 1) &&& sa.value ≠ 0 then (⟨sa.value, sz.value⟩, .fails edom)
        else (⟨sa.value, sz.value⟩, .isDone)

/-- What a line says about the name. -/
def parseLine (parmName buff : List Char) (region : Region) : Region × Progress :=
  match findParm parmName (strtokR buff) with
  | none => (region, .goesOn)
  | some tokens => parseRegion tokens region

/-- What `get_phys_mem` works on. -/
structure Search where
  /-- What is not read yet. -/
  text : List Char
  region : Region
  errno : Int
  deriving DecidableEq, Repr

/-- Programs of this library. -/
abbrev MemProg (α : Type) := Prog Int Search (List Char) α

/-- Read a line of the file. -/
def nextLine : MemProg LineRead :=
  .act fun search =>
    let line := readALine memCfgMaxLineLen search.text
    .ok line { search with text := line.rest }

/-- Take what a line says. -/
def takeLine (parmName buff : List Char) : MemProg (Unit ⊕ Bool) :=
  .act fun search =>
    let (region, progress) := parseLine parmName buff search.region
    match progress with
    | .goesOn => .ok (.inl ()) { search with region := region }
    | .fails errno => .error errno { search with region := region }
    | .isDone => .ok (.inr true) { search with region := region }

/-- One turn of the loop of `get_phys_mem`.  The loop is left with whether it is done. -/
def lineTurn (parmName : List Char) : MemProg (Unit ⊕ Bool) := do
  let line ← nextLine
  -- no bytes are returned for a blank line either
  if line.count = 0 then pure (.inr false)
  else if memCfgMaxLineLen - 1 = line.count ∧ line.byteAt (memCfgMaxLineLen - 1) ≠ '\n' then
    Prog.stop efbig
  else do
    Prog.emit line.buff
    takeLine parmName line.buff

/-- `get_phys_mem`, for a file that `open` opens with its text or refuses with `errno`. -/
def getPhysMem (file : Except Int (List Char)) (parmName : List Char) : MemProg Int := do
  Prog.change fun search => { search with region := ⟨rioAnyAddr, 0⟩, errno := 0 }
  match file with
  | .error errno => do
      Prog.change fun search => { search with errno := errno }
      pure (-1)
  | .ok text => do
      Prog.change fun search => { search with text := text }
      Prog.handle
        (do
          let done ← Prog.loop (fun _ => lineTurn parmName) ()
          pure (if done then 0 else -1))
        fun errno => do
          Prog.change fun search => { search with errno := errno }
          pure (-1)

end RioFabric.Librsvdmem

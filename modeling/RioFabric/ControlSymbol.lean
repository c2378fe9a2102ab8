import RioFabric.Packet.Core
import RioFabric.Lib.Bits

/-!
# Control symbols

Composition and parsing of the small (24 bit) and large (48 bit) control symbols, with
their five and thirteen bit CRCs.  In both formats some fields straddle bytes and the CRC
shares a byte with the payload; the two routines are inverse to each other all the same.
-/

namespace RioFabric.ControlSymbol

open Lib
open Packet (Byte u8 countBits)

/-- `rio_cs_size`. -/
inductive RioCsSize where
  | csInvalid | csSmall | csLarge
  deriving DecidableEq, Repr

/-- `stype0`. -/
inductive Stype0 where
  | pa | rty | pna | rsvd | status | vcStatus | lresp | imp
  deriving DecidableEq, Repr

/-- `stype1`. -/
inductive Stype1 where
  | sop | stomp | eop | rfr | lreq | mecs | rsvd | nop
  deriving DecidableEq, Repr

/-- `stype2`. -/
inductive Stype2 where
  | nop | vcStat | rsvd2 | rsvd3 | rsvd4 | rsvd5 | rsvd6 | rsvd7
  deriving DecidableEq, Repr

def Stype0.code : Stype0 → Nat
  | .pa => 0
  | .rty => 1
  | .pna => 2
  | .rsvd => 3
  | .status => 4
  | .vcStatus => 5
  | .lresp => 6
  | .imp => 7

/-- The cast `(stype0)` of a three-bit field. -/
def Stype0.ofCode : Nat → Stype0
  | 0 => .pa
  | 1 => .rty
  | 2 => .pna
  | 3 => .rsvd
  | 4 => .status
  | 5 => .vcStatus
  | 6 => .lresp
  | _ => .imp

def Stype1.code : Stype1 → Nat
  | .sop => 0
  | .stomp => 1
  | .eop => 2
  | .rfr => 3
  | .lreq => 4
  | .mecs => 5
  | .rsvd => 6
  | .nop => 7

/-- The cast `(stype1)` of a three-bit field. -/
def Stype1.ofCode : Nat → Stype1
  | 0 => .sop
  | 1 => .stomp
  | 2 => .eop
  | 3 => .rfr
  | 4 => .lreq
  | 5 => .mecs
  | 6 => .rsvd
  | _ => .nop

def Stype2.code : Stype2 → Nat
  | .nop => 0
  | .vcStat => 1
  | .rsvd2 => 2
  | .rsvd3 => 3
  | .rsvd4 => 4
  | .rsvd5 => 5
  | .rsvd6 => 6
  | .rsvd7 => 7

/-- The cast `(stype2)` of a three-bit field. -/
def Stype2.ofCode : Nat → Stype2
  | 0 => .nop
  | 1 => .vcStat
  | 2 => .rsvd2
  | 3 => .rsvd3
  | 4 => .rsvd4
  | 5 => .rsvd5
  | 6 => .rsvd6
  | _ => .rsvd7

/-- `CS_field_t`.  Neither routine reads or writes `cs_crc`. -/
structure CsField where
  csSize : RioCsSize
  csT0 : Stype0
  parm0 : Nat
  parm1 : Nat
  csT1 : Stype1
  csT1Cmd : Nat
  csT2 : Stype2
  csT2Val : Nat
  csCrc : Nat
  csCrcCorrect : Bool
  deriving DecidableEq, Repr

/-- `CS_bytes_t`. -/
structure CsBytes where
  csTypeValid : RioCsSize
  csBytes : Vector Byte 8
  deriving DecidableEq

/-- The return codes of the two routines. -/
inductive CsRc where
  | rioSuccess
  | rioErrInvalidParameter
  | darFirstImpSpecWarning
  deriving DecidableEq, Repr

def cs13bitCrcBitMask : List Nat :=
  [0x0888, 0x0444, 0x0222, 0x0111, 0x121A, 0x090D, 0x1614, 0x0B0A, 0x0585, 0x1050, 0x0828,
   0x0414, 0x020A, 0x0105, 0x1210, 0x0908, 0x0484, 0x0242, 0x0121, 0x1202, 0x0901, 0x1612,
   0x0B09, 0x1716, 0x0B8B, 0x1757, 0x1939, 0x1E0E, 0x0F07, 0x1511, 0x181A, 0x0C0D, 0x1494,
   0x0A4A, 0x0525]

/-- One round of the loop of `compute_13bit_crc`; rows behind the end of the table are
excluded by its guard. -/
def crc13Round (msbits lsbits crc i : Nat) : Nat :=
  let bit := 0x80000000 >>> i
  let crc := if msbits &&& bit ≠ 0 then crc ^^^ cs13bitCrcBitMask.getD i 0 else crc
  if lsbits &&& bit ≠ 0 ∧ i + 32 < 35 then crc ^^^ cs13bitCrcBitMask.getD (i + 32) 0 else crc

def compute13bitCrc (msbits lsbits : Nat) : Nat :=
  (List.range 32).foldl (crc13Round msbits (lsbits &&& 0xE0000000)) 0x1FFF

/-- `CS_5bit_crc_bit_mask` and `CS_5bit_crc_invert_mask`, row by row. -/
def cs5bitCrcMasks : List (Nat × Nat) :=
  [(0xB8536, 0x00000), (0x70A67, 0x00002), (0x591EA, 0x00002), (0xB23B6, 0x00002),
   (0xDC29A, 0x00000)]

/-- The parity bit that row `i` of the mask tables selects. -/
def crc5Bit (smallCsData i : Nat) : Nat :=
  let masks := cs5bitCrcMasks.getD i (0, 0)
  countBits ((smallCsData ^^^ masks.2) &&& masks.1) &&& 1

def compute5bitCrc (smallCsData : Nat) : Nat :=
  (List.range 5).foldl (fun crc i => crc + crc5Bit smallCsData i <<< (4 - i)) 0

def shortCsValue (x y z : Byte) : Nat :=
  (x.toNat <<< 11) + (y.toNat <<< 3) + ((z.toNat &&& 0xE0) >>> 5)

def longCsValueMs (w x y z : Byte) : Nat :=
  (w.toNat <<< 24) + (x.toNat <<< 16) + (y.toNat <<< 8) + z.toNat

def longCsValueLs (x : Byte) : Nat := (x.toNat &&& 0xE0) <<< 24

/-- Symbols that start or end a packet. -/
def delimitsPacket (csT1 : Stype1) : Bool :=
  csT1 = .sop || csT1 = .stomp || csT1 = .eop || csT1 = .lreq

/-- `PD_CONTROL_SYMBOL` or `SC_START_CONTROL_SYMBOL`, as the symbol requires. -/
def delimiter (csT1 : Stype1) : Byte := if delimitsPacket csT1 then 0x7C else 0x1C

/-- Bytes 1 to 3 of a small symbol. -/
def smallBytes (fields : CsField) : Byte × Byte × Byte :=
  let byte1 := u8 (((fields.csT0.code &&& 7) <<< 5) ||| (fields.parm0 &&& 0x1F))
  let byte2 := u8 (((fields.parm1 &&& 0x1F) <<< 3) ||| (fields.csT1.code &&& 7))
  let byte3 := u8 ((fields.csT1Cmd &&& 7) <<< 5)
  (byte1, byte2, byte3 + u8 (compute5bitCrc (shortCsValue byte1 byte2 byte3)))

/-- Bytes 1 to 6 of a large symbol. -/
def largeBytes (fields : CsField) : Vector Byte 6 :=
  let byte1 := u8 (((fields.csT0.code &&& 7) <<< 5) ||| ((fields.parm0 &&& 0x3E) >>> 1))
  let byte2 := u8 (((fields.parm0 &&& 1) <<< 7) ||| ((fields.parm1 &&& 0x3F) <<< 1) |||
    ((fields.csT1.code &&& 4) >>> 2))
  let byte3 := u8 (((fields.csT1.code &&& 3) <<< 6) ||| ((fields.csT1Cmd &&& 7) <<< 3) |||
    (fields.csT2.code &&& 7))
  let byte4 := u8 ((fields.csT2Val &&& 0x7F8) >>> 3)
  let byte5 := u8 ((fields.csT2Val &&& 7) <<< 5)
  let largeCrc := compute13bitCrc (longCsValueMs byte1 byte2 byte3 byte4) (longCsValueLs byte5)
  #v[byte1, byte2, byte3, byte4, byte5 + u8 ((largeCrc &&& 0x1F00) >>> 8),
    u8 (largeCrc &&& 0x00FF)]

/-- `CS_fields_to_bytes`; `bytesOut` is what the caller's structure holds before. -/
def csFieldsToBytes (fieldsIn : CsField) (bytesOut : CsBytes) : CsRc × CsBytes :=
  let first := delimiter fieldsIn.csT1
  match fieldsIn.csSize with
  | .csInvalid => (.rioErrInvalidParameter, { bytesOut with csTypeValid := .csInvalid })
  | .csSmall =>
    let (byte1, byte2, byte3) := smallBytes fieldsIn
    (.rioSuccess,
      ⟨.csSmall,
        (((bytesOut.csBytes.set 0 first).set 1 byte1).set 2 byte2).set 3 byte3⟩)
  | .csLarge =>
    let bytes := largeBytes fieldsIn
    (.rioSuccess,
      ⟨.csLarge,
        #v[first, bytes[0], bytes[1], bytes[2], bytes[3], bytes[4], bytes[5], first]⟩)

/-- Fields of a small symbol whose payload starts with `byte0`. -/
def smallFields (fieldsOut : CsField) (byte0 byte1 byte2 : Byte) : CsField :=
  { fieldsOut with
    csSize := .csSmall
    csT0 := .ofCode ((byte0.toNat &&& 0xE0) >>> 5)
    parm0 := byte0.toNat &&& 0x1F
    parm1 := (byte1.toNat &&& 0xF8) >>> 3
    csT1 := .ofCode (byte1.toNat &&& 0x07)
    csT1Cmd := (byte2.toNat &&& 0xE0) >>> 5
    csT2 := .ofCode 0
    csT2Val := 0
    csCrcCorrect := compute5bitCrc (shortCsValue byte0 byte1 byte2) = byte2.toNat &&& 0x1F }

/-- Fields of a large symbol whose payload starts with `byte0`. -/
def largeFields (fieldsOut : CsField) (byte0 byte1 byte2 byte3 byte4 byte5 : Byte) : CsField :=
  { fieldsOut with
    csSize := .csLarge
    csT0 := .ofCode ((byte0.toNat &&& 0xE0) >>> 5)
    parm0 := ((byte0.toNat &&& 0x1F) <<< 1) + ((byte1.toNat &&& 0x80) >>> 7)
    parm1 := (byte1.toNat &&& 0x7E) >>> 1
    csT1 := .ofCode (((byte1.toNat &&& 0x01) <<< 2) + ((byte2.toNat &&& 0xC0) >>> 6))
    csT1Cmd := (byte2.toNat &&& 0x38) >>> 3
    csT2 := .ofCode (byte2.toNat &&& 0x07)
    csT2Val := (byte3.toNat <<< 3) + ((byte4.toNat &&& 0xE0) >>> 5)
    csCrcCorrect :=
      compute13bitCrc (longCsValueMs byte0 byte1 byte2 byte3) (longCsValueLs byte4) =
        ((byte4.toNat &&& 0x1F) <<< 8) + byte5.toNat }

/-- The symbol starts with a special character. -/
def CsBytes.delimited (bytes : CsBytes) : Bool :=
  bytes.csBytes[0] = 0x7C || bytes.csBytes[0] = 0x1C

/-- A special character other than the one the symbol requires is worth a warning. -/
def delimiterRc (bytes : CsBytes) (csT1 : Stype1) : CsRc :=
  if bytes.delimited ∧ bytes.csBytes[0] ≠ delimiter csT1 then .darFirstImpSpecWarning
  else .rioSuccess

/-- `CS_bytes_to_fields`; `fieldsOut` is what the caller's structure holds before. -/
def csBytesToFields (bytesIn : CsBytes) (fieldsOut : CsField) : CsRc × CsField :=
  let bytes := bytesIn.csBytes
  match bytesIn.csTypeValid with
  | .csInvalid => (.rioSuccess, { fieldsOut with csSize := .csInvalid })
  | .csSmall =>
    let fields :=
      if bytesIn.delimited then smallFields fieldsOut bytes[1] bytes[2] bytes[3]
      else smallFields fieldsOut bytes[0] bytes[1] bytes[2]
    (delimiterRc bytesIn fields.csT1, fields)
  | .csLarge =>
    let fields :=
      if bytesIn.delimited then
        largeFields fieldsOut bytes[1] bytes[2] bytes[3] bytes[4] bytes[5] bytes[6]
      else largeFields fieldsOut bytes[0] bytes[1] bytes[2] bytes[3] bytes[4] bytes[5]
    (delimiterRc bytesIn fields.csT1, fields)

/-- Payload and CRC of a small symbol: the 24 bits behind the delimiter. -/
def CsBytes.smallWord (bytes : CsBytes) : BitVec 24 :=
  bytes.csBytes[1] ++ bytes.csBytes[2] ++ bytes.csBytes[3]

/-- The byte of a word that starts at bit `shift`. -/
abbrev smallWordByte (word : BitVec 24) (shift : Nat) : Byte := word.extractLsb' shift 8

/-- The same delimiter before another word. -/
def CsBytes.withSmallWord (bytes : CsBytes) (word : BitVec 24) : CsBytes :=
  { bytes with
    csBytes := ((bytes.csBytes.set 1 (smallWordByte word 16)).set 2 (smallWordByte word 8)).set 3
      (smallWordByte word 0) }

/-- Payload and CRC of a large symbol: the 48 bits between the delimiters. -/
def CsBytes.word (bytes : CsBytes) : BitVec 48 :=
  .ofNat 48 ((bytes.csBytes[1].toNat <<< 40) + (bytes.csBytes[2].toNat <<< 32) +
    (bytes.csBytes[3].toNat <<< 24) + (bytes.csBytes[4].toNat <<< 16) +
    (bytes.csBytes[5].toNat <<< 8) + bytes.csBytes[6].toNat)

/-- The byte of a word that starts at bit `shift`. -/
def wordByte (word : BitVec 48) (shift : Nat) : Byte := u8 (word.toNat >>> shift)

/-- The same delimiters around another word. -/
def CsBytes.withWord (bytes : CsBytes) (word : BitVec 48) : CsBytes where
  csTypeValid := bytes.csTypeValid
  csBytes := #v[bytes.csBytes[0], wordByte word 40, wordByte word 32, wordByte word 24,
    wordByte word 16, wordByte word 8, wordByte word 0, bytes.csBytes[7]]

/-- A symbol with its first byte cut off. -/
def CsBytes.tail (bytes : CsBytes) : CsBytes where
  csTypeValid := bytes.csTypeValid
  csBytes := #v[bytes.csBytes[1], bytes.csBytes[2], bytes.csBytes[3], bytes.csBytes[4],
    bytes.csBytes[5], bytes.csBytes[6], bytes.csBytes[7], 0]

theorem crc13Round_lt {msbits lsbits crc i : Nat} (bounded : crc < 2 ^ 13) :
    crc13Round msbits lsbits crc i < 2 ^ 13 := by
  have entry : ∀ row, cs13bitCrcBitMask.getD row 0 < 2 ^ 13 := by
    intro row
    rw [List.getD_eq_getElem?_getD]
    cases found : cs13bitCrcBitMask[row]? with
    | none => decide
    | some mask =>
      have all : ∀ mask ∈ cs13bitCrcBitMask, mask < 2 ^ 13 := by decide
      exact all mask (List.mem_of_getElem? found)
  simp only [crc13Round]
  split <;> split <;> first
    | exact Nat.xor_lt_two_pow (Nat.xor_lt_two_pow bounded (entry _)) (entry _)
    | exact Nat.xor_lt_two_pow bounded (entry _)
    | exact bounded

theorem compute13bitCrc_lt (msbits lsbits : Nat) : compute13bitCrc msbits lsbits < 2 ^ 13 := by
  have rounds : ∀ (indices : List Nat) (crc : Nat), crc < 2 ^ 13 →
      indices.foldl (crc13Round msbits (lsbits &&& 0xE0000000)) crc < 2 ^ 13 := by
    intro indices
    induction indices with
    | nil => exact fun _ bounded => bounded
    | cons i rest ih => exact fun crc bounded => ih _ (crc13Round_lt bounded)
  exact rounds _ _ (by decide)

theorem compute5bitCrc_lt (smallCsData : Nat) : compute5bitCrc smallCsData < 2 ^ 5 := by
  have bit : ∀ i, crc5Bit smallCsData i ≤ 1 := fun i => Nat.and_le_right
  have bit0 := bit 0
  have bit1 := bit 1
  have bit2 := bit 2
  have bit3 := bit 3
  have bit4 := bit 4
  simp only [compute5bitCrc, List.range, List.range.loop, List.foldl, Nat.shiftLeft_eq]
  omega

@[simp] theorem Stype0.ofCode_code (t0 : Stype0) : Stype0.ofCode t0.code = t0 := by
  cases t0 <;> rfl

@[simp] theorem Stype1.ofCode_code (t1 : Stype1) : Stype1.ofCode t1.code = t1 := by
  cases t1 <;> rfl

@[simp] theorem Stype2.ofCode_code (t2 : Stype2) : Stype2.ofCode t2.code = t2 := by
  cases t2 <;> rfl

theorem Stype0.code_lt (t0 : Stype0) : t0.code < 2 ^ 3 := by cases t0 <;> decide

theorem Stype1.code_lt (t1 : Stype1) : t1.code < 2 ^ 3 := by cases t1 <;> decide

theorem Stype2.code_lt (t2 : Stype2) : t2.code < 2 ^ 3 := by cases t2 <;> decide

theorem Stype0.code_ofCode : ∀ code < 2 ^ 3, (Stype0.ofCode code).code = code := by decide

theorem Stype1.code_ofCode : ∀ code < 2 ^ 3, (Stype1.ofCode code).code = code := by decide

theorem Stype2.code_ofCode : ∀ code < 2 ^ 3, (Stype2.ofCode code).code = code := by decide

-- Facts about single bytes are decided case by case.
set_option maxRecDepth 5000

theorem three_five_fields : ∀ high < 2 ^ 3, ∀ low < 2 ^ 5,
    ((u8 (((high &&& 7) <<< 5) ||| (low &&& 0x1F))).toNat &&& 0xE0) >>> 5 = high ∧
      (u8 (((high &&& 7) <<< 5) ||| (low &&& 0x1F))).toNat &&& 0x1F = low := by
  decide

theorem three_five_byte : ∀ byte : Byte,
    u8 (((((byte.toNat &&& 0xE0) >>> 5) &&& 7) <<< 5) |||
      ((byte.toNat &&& 0x1F) &&& 0x1F)) = byte := by
  decide

theorem crc_byte : ∀ high < 2 ^ 3, ∀ crc < 2 ^ 5,
    (u8 (high <<< 5) + u8 crc).toNat &&& 0xE0 = (u8 (high <<< 5)).toNat &&& 0xE0 ∧
      ((u8 (high <<< 5) + u8 crc).toNat &&& 0xE0) >>> 5 = high ∧
      (u8 (high <<< 5) + u8 crc).toNat &&& 0x1F = crc := by
  decide

theorem byte_crc : ∀ byte : Byte,
    (u8 (((byte.toNat &&& 0xE0) >>> 5) <<< 5)).toNat &&& 0xE0 = byte.toNat &&& 0xE0 ∧
      u8 (((byte.toNat &&& 0xE0) >>> 5) <<< 5) + u8 (byte.toNat &&& 0x1F) = byte := by
  decide

theorem five_three_fields : ∀ high < 2 ^ 5, ∀ low < 2 ^ 3,
    ((u8 (((high &&& 0x1F) <<< 3) ||| (low &&& 7))).toNat &&& 0xF8) >>> 3 = high ∧
      (u8 (((high &&& 0x1F) <<< 3) ||| (low &&& 7))).toNat &&& 0x07 = low := by
  decide

theorem five_three_byte : ∀ byte : Byte,
    u8 (((((byte.toNat &&& 0xF8) >>> 3) &&& 0x1F) <<< 3) ||| ((byte.toNat &&& 0x07) &&& 7)) =
      byte := by
  decide

theorem three_upper_fields : ∀ high < 2 ^ 3, ∀ parm < 2 ^ 6,
    ((u8 (((high &&& 7) <<< 5) ||| ((parm &&& 0x3E) >>> 1))).toNat &&& 0xE0) >>> 5 = high ∧
      ((u8 (((high &&& 7) <<< 5) ||| ((parm &&& 0x3E) >>> 1))).toNat &&& 0x1F) <<< 1 =
        parm - parm % 2 := by
  decide

theorem one_six_one_fields : ∀ first < 2, ∀ parm < 2 ^ 6, ∀ last < 2,
    let byte := u8 ((first <<< 7) ||| ((parm &&& 0x3F) <<< 1) ||| last)
    (byte.toNat &&& 0x80) >>> 7 = first ∧ (byte.toNat &&& 0x7E) >>> 1 = parm ∧
      byte.toNat &&& 0x01 = last := by
  decide

theorem two_three_three_fields : ∀ first < 4, ∀ cmd < 2 ^ 3, ∀ last < 2 ^ 3,
    let byte := u8 ((first <<< 6) ||| ((cmd &&& 7) <<< 3) ||| (last &&& 7))
    (byte.toNat &&& 0xC0) >>> 6 = first ∧ (byte.toNat &&& 0x38) >>> 3 = cmd ∧
      byte.toNat &&& 0x07 = last := by
  decide

theorem crc13_split {crc : Nat} (bounded : crc < 2 ^ 13) :
    (crc &&& 0x1F00) >>> 8 < 2 ^ 5 ∧
      (((crc &&& 0x1F00) >>> 8) <<< 8) + (u8 (crc &&& 0x00FF)).toNat = crc := by
  rw [and_field_shiftRight crc 0x1F00 8 5 rfl, BitVec.toNat_ofNat, low_byte, Nat.shiftLeft_eq]
  omega

/-- Fields that fit their widths; the last two are valid in large symbols only. -/
structure CsField.Fits (fields : CsField) : Prop where
  valid : fields.csSize ≠ .csInvalid
  parm0 : fields.parm0 < if fields.csSize = .csLarge then 2 ^ 6 else 2 ^ 5
  parm1 : fields.parm1 < if fields.csSize = .csLarge then 2 ^ 6 else 2 ^ 5
  csT1Cmd : fields.csT1Cmd < 2 ^ 3
  csT2Val : fields.csSize = .csLarge → fields.csT2Val < 2 ^ 11

/-- What parsing leaves in a structure that held `out`: all the same fields.  A small symbol
has no third type, which parsing clears. -/
def CsField.returned (fields out : CsField) : CsField :=
  { fields with
    csT2 := if fields.csSize = .csLarge then fields.csT2 else .nop
    csT2Val := if fields.csSize = .csLarge then fields.csT2Val else 0
    csCrc := out.csCrc
    csCrcCorrect := true }

section Compose

variable {fields : CsField}

theorem shortCsValue_congr {x y z z' : Byte} (same : z.toNat &&& 0xE0 = z'.toNat &&& 0xE0) :
    shortCsValue x y z = shortCsValue x y z' := by
  rw [shortCsValue, shortCsValue, same]

theorem longCsValueLs_congr {z z' : Byte} (same : z.toNat &&& 0xE0 = z'.toNat &&& 0xE0) :
    longCsValueLs z = longCsValueLs z' :=
  congrArg (· <<< 24) same

theorem delimited_delimiter (csT1 : Stype1) (size : RioCsSize) (bytes : Vector Byte 8)
    (first : bytes[0] = delimiter csT1) :
    CsBytes.delimited ⟨size, bytes⟩ = true ∧ delimiterRc ⟨size, bytes⟩ csT1 = .rioSuccess := by
  constructor
  · simp only [CsBytes.delimited, first, delimiter]
    cases csT1 <;> rfl
  · simp [delimiterRc, first]

theorem smallFields_smallBytes (fits : fields.Fits) (small : fields.csSize = .csSmall)
    (out : CsField) :
    smallFields out (smallBytes fields).1 (smallBytes fields).2.1 (smallBytes fields).2.2 =
      fields.returned out := by
  have parm0 := fits.parm0
  have parm1 := fits.parm1
  simp only [small, reduceCtorEq, if_false] at parm0 parm1
  obtain ⟨t0_eq, parm0_eq⟩ := three_five_fields _ fields.csT0.code_lt _ parm0
  obtain ⟨parm1_eq, t1_eq⟩ := five_three_fields _ parm1 _ fields.csT1.code_lt
  have cmd : fields.csT1Cmd &&& 7 = fields.csT1Cmd :=
    Nat.and_two_pow_sub_one_of_lt_two_pow fits.csT1Cmd
  obtain ⟨room, cmd_eq, crc_eq⟩ :=
    crc_byte _ fits.csT1Cmd _ (compute5bitCrc_lt (shortCsValue (smallBytes fields).1
      (smallBytes fields).2.1 (u8 (fields.csT1Cmd <<< 5))))
  simp only [smallFields, smallBytes, CsField.returned, small, reduceCtorEq, if_false, cmd]
    at room cmd_eq crc_eq ⊢
  simp only [shortCsValue_congr room, t0_eq, parm0_eq, parm1_eq, t1_eq, cmd_eq, crc_eq,
    Stype0.ofCode_code, Stype1.ofCode_code, decide_true]
  rfl

theorem largeBytes_crc (fields : CsField) :
    ((largeBytes fields)[4].toNat &&& 0xE0) >>> 5 = fields.csT2Val &&& 7 ∧
      compute13bitCrc
          (longCsValueMs (largeBytes fields)[0] (largeBytes fields)[1] (largeBytes fields)[2]
            (largeBytes fields)[3]) (longCsValueLs (largeBytes fields)[4]) =
        (((largeBytes fields)[4].toNat &&& 0x1F) <<< 8) + (largeBytes fields)[5].toNat := by
  let byte5 := u8 ((fields.csT2Val &&& 7) <<< 5)
  let crc := compute13bitCrc
    (longCsValueMs (largeBytes fields)[0] (largeBytes fields)[1] (largeBytes fields)[2]
      (largeBytes fields)[3]) (longCsValueLs byte5)
  obtain ⟨crc_lt, crc_eq⟩ := crc13_split (show crc < 2 ^ 13 from compute13bitCrc_lt _ _)
  obtain ⟨room, low_eq, high_eq⟩ :=
    crc_byte (fields.csT2Val &&& 7) (Nat.lt_succ_of_le Nat.and_le_right) _ crc_lt
  have shared : (largeBytes fields)[4] = byte5 + u8 ((crc &&& 0x1F00) >>> 8) := rfl
  have last : (largeBytes fields)[5] = u8 (crc &&& 0x00FF) := rfl
  rw [shared, last]
  exact ⟨low_eq, by rw [longCsValueLs_congr room, high_eq, crc_eq]⟩

theorem largeFields_largeBytes (fits : fields.Fits) (large : fields.csSize = .csLarge)
    (out : CsField) :
    largeFields out (largeBytes fields)[0] (largeBytes fields)[1] (largeBytes fields)[2]
        (largeBytes fields)[3] (largeBytes fields)[4] (largeBytes fields)[5] =
      fields.returned out := by
  have parm0 := fits.parm0
  have parm1 := fits.parm1
  have t2Val := fits.csT2Val large
  simp only [large, if_true] at parm0 parm1
  have parmBit : fields.parm0 &&& 1 = fields.parm0 % 2 := Nat.and_one_is_mod _
  have t1High : (fields.csT1.code &&& 4) >>> 2 < 2 ∧ fields.csT1.code &&& 3 < 4 ∧
      (((fields.csT1.code &&& 4) >>> 2) <<< 2) + (fields.csT1.code &&& 3) =
        fields.csT1.code := by
    cases fields.csT1 <;> decide
  obtain ⟨t0_eq, upper_eq⟩ := three_upper_fields _ fields.csT0.code_lt _ parm0
  obtain ⟨bit_eq, parm1_eq, t1High_eq⟩ :=
    one_six_one_fields (fields.parm0 &&& 1) (by omega) _ parm1 _ t1High.1
  obtain ⟨t1Low_eq, cmd_eq, t2_eq⟩ :=
    two_three_three_fields _ t1High.2.1 _ fits.csT1Cmd _ fields.csT2.code_lt
  obtain ⟨low_eq, crc_ok⟩ := largeBytes_crc fields
  have t2Val_eq : ((u8 ((fields.csT2Val &&& 0x7F8) >>> 3)).toNat <<< 3) +
      (fields.csT2Val &&& 7) = fields.csT2Val := by
    rw [and_field_shiftRight _ 0x7F8 3 8 rfl, and_field _ 7 0 3 rfl, BitVec.toNat_ofNat,
      Nat.shiftLeft_eq]
    omega
  have value_ok : ((largeBytes fields)[3].toNat <<< 3) +
      (((largeBytes fields)[4].toNat &&& 0xE0) >>> 5) = fields.csT2Val := by
    rw [low_eq]
    exact t2Val_eq
  have parm0_eq : fields.parm0 - fields.parm0 % 2 + (fields.parm0 &&& 1) = fields.parm0 := by
    omega
  simp only [largeFields, CsField.returned, crc_ok, value_ok, large, if_true, decide_true]
  simp only [largeBytes, Vector.getElem_mk, List.getElem_toArray, List.getElem_cons_zero,
    List.getElem_cons_succ, t0_eq, upper_eq, bit_eq, parm0_eq, parm1_eq, t1High_eq, t1Low_eq,
    t1High.2.2, cmd_eq, t2_eq, Stype0.ofCode_code, Stype1.ofCode_code, Stype2.ofCode_code]

theorem csBytesToFields_csFieldsToBytes (fits : fields.Fits) (bytes : CsBytes) (out : CsField) :
    (csFieldsToBytes fields bytes).1 = .rioSuccess ∧
      csBytesToFields (csFieldsToBytes fields bytes).2 out =
        (.rioSuccess, fields.returned out) := by
  have t1_eq : (fields.returned out).csT1 = fields.csT1 := rfl
  cases size : fields.csSize with
  | csInvalid => exact absurd size fits.valid
  | csSmall =>
    have parsed := smallFields_smallBytes fits size out
    let composed := (((bytes.csBytes.set 0 (delimiter fields.csT1)).set 1
      (smallBytes fields).1).set 2 (smallBytes fields).2.1).set 3 (smallBytes fields).2.2
    have composed_eq : csFieldsToBytes fields bytes = (.rioSuccess, ⟨.csSmall, composed⟩) := by
      simp only [csFieldsToBytes, size, composed]
    obtain ⟨delimited, rc⟩ := delimited_delimiter fields.csT1 .csSmall composed
      (by simp [composed])
    have byte1 : composed[1] = (smallBytes fields).1 := by simp [composed]
    have byte2 : composed[2] = (smallBytes fields).2.1 := by simp [composed]
    have byte3 : composed[3] = (smallBytes fields).2.2 := by simp [composed]
    rw [composed_eq]
    simp [csBytesToFields, delimited, byte1, byte2, byte3, parsed, t1_eq, rc]
  | csLarge =>
    have parsed := largeFields_largeBytes fits size out
    have composed_eq : csFieldsToBytes fields bytes = (.rioSuccess, ⟨.csLarge,
        #v[delimiter fields.csT1, (largeBytes fields)[0], (largeBytes fields)[1],
          (largeBytes fields)[2], (largeBytes fields)[3], (largeBytes fields)[4],
          (largeBytes fields)[5], delimiter fields.csT1]⟩) := by
      simp only [csFieldsToBytes, size]
    obtain ⟨delimited, rc⟩ := delimited_delimiter fields.csT1 .csLarge
      #v[delimiter fields.csT1, (largeBytes fields)[0], (largeBytes fields)[1],
        (largeBytes fields)[2], (largeBytes fields)[3], (largeBytes fields)[4],
        (largeBytes fields)[5], delimiter fields.csT1] rfl
    rw [composed_eq]
    simp [csBytesToFields, delimited, parsed, t1_eq, rc]

end Compose

section Parse

variable {bytes : CsBytes} {out : CsField}

theorem three_bits_lt (byte : Byte) :
    (byte.toNat &&& 0xE0) >>> 5 < 2 ^ 3 ∧ byte.toNat &&& 0x07 < 2 ^ 3 := by
  rw [and_field_shiftRight _ 0xE0 5 3 rfl, and_field _ 0x07 0 3 rfl]
  omega

theorem smallBytes_smallFields {byte1 byte2 byte3 : Byte}
    (correct : (smallFields out byte1 byte2 byte3).csCrcCorrect = true) :
    smallBytes (smallFields out byte1 byte2 byte3) = (byte1, byte2, byte3) := by
  have crc_eq : compute5bitCrc (shortCsValue byte1 byte2 byte3) = byte3.toNat &&& 0x1F :=
    of_decide_eq_true correct
  have t0_eq := Stype0.code_ofCode _ (three_bits_lt byte1).1
  have t1_eq := Stype1.code_ofCode _ (three_bits_lt byte2).2
  have cmd_eq : ((byte3.toNat &&& 0xE0) >>> 5) &&& 7 = (byte3.toNat &&& 0xE0) >>> 5 :=
    Nat.and_two_pow_sub_one_of_lt_two_pow (three_bits_lt byte3).1
  obtain ⟨room, whole⟩ := byte_crc byte3
  simp only [smallBytes, smallFields, t0_eq, t1_eq, cmd_eq, three_five_byte, five_three_byte,
    shortCsValue_congr room, crc_eq, whole]

theorem upper_byte : ∀ byte : Byte, ∀ bit < 2,
    u8 (((((byte.toNat &&& 0xE0) >>> 5) &&& 7) <<< 5) |||
        (((((byte.toNat &&& 0x1F) <<< 1) + bit) &&& 0x3E) >>> 1)) = byte ∧
      (((byte.toNat &&& 0x1F) <<< 1) + bit) &&& 1 = bit := by
  decide

theorem one_six_one_byte : ∀ byte : Byte,
    u8 ((((byte.toNat &&& 0x80) >>> 7) <<< 7) |||
      ((((byte.toNat &&& 0x7E) >>> 1) &&& 0x3F) <<< 1) ||| (byte.toNat &&& 0x01)) = byte := by
  decide

theorem two_three_three_byte : ∀ byte : Byte,
    u8 ((((byte.toNat &&& 0xC0) >>> 6) <<< 6) |||
      ((((byte.toNat &&& 0x38) >>> 3) &&& 7) <<< 3) ||| ((byte.toNat &&& 0x07) &&& 7)) =
        byte := by
  decide

theorem one_two_bits : ∀ high < 2, ∀ low < 4,
    (high <<< 2) + low < 2 ^ 3 ∧ (((high <<< 2) + low) &&& 4) >>> 2 = high ∧
      ((high <<< 2) + low) &&& 3 = low := by
  decide

theorem largeBytes_largeFields {byte1 byte2 byte3 byte4 byte5 byte6 : Byte}
    (correct : (largeFields out byte1 byte2 byte3 byte4 byte5 byte6).csCrcCorrect = true) :
    largeBytes (largeFields out byte1 byte2 byte3 byte4 byte5 byte6) =
      #v[byte1, byte2, byte3, byte4, byte5, byte6] := by
  have crc_eq : compute13bitCrc (longCsValueMs byte1 byte2 byte3 byte4) (longCsValueLs byte5) =
      ((byte5.toNat &&& 0x1F) <<< 8) + byte6.toNat := of_decide_eq_true correct
  have bit_lt : (byte2.toNat &&& 0x80) >>> 7 < 2 := by
    rw [and_field_shiftRight _ 0x80 7 1 rfl]
    omega
  have last_lt : byte2.toNat &&& 0x01 < 2 := Nat.lt_succ_of_le Nat.and_le_right
  have low_lt : (byte3.toNat &&& 0xC0) >>> 6 < 4 := by
    rw [and_field_shiftRight _ 0xC0 6 2 rfl]
    omega
  have high_lt := (three_bits_lt byte5).1
  have t0_eq := Stype0.code_ofCode _ (three_bits_lt byte1).1
  have t2_eq := Stype2.code_ofCode _ (three_bits_lt byte3).2
  obtain ⟨upper_eq, bit_eq⟩ := upper_byte byte1 _ bit_lt
  obtain ⟨t1_lt, t1High, t1Low⟩ := one_two_bits _ last_lt _ low_lt
  have t1_eq := Stype1.code_ofCode _ t1_lt
  have byte4_lt := byte4.isLt
  have byte6_lt := byte6.isLt
  have value_high : u8 ((((byte4.toNat <<< 3) + ((byte5.toNat &&& 0xE0) >>> 5)) &&& 0x7F8) >>> 3) =
      byte4 := by
    rw [and_field_shiftRight _ 0x7F8 3 8 rfl, Nat.shiftLeft_eq]
    apply BitVec.eq_of_toNat_eq
    rw [BitVec.toNat_ofNat]
    omega
  have value_low : ((byte4.toNat <<< 3) + ((byte5.toNat &&& 0xE0) >>> 5)) &&& 7 =
      (byte5.toNat &&& 0xE0) >>> 5 := by
    rw [and_field _ 7 0 3 rfl, Nat.shiftLeft_eq]
    omega
  have five_lt : byte5.toNat &&& 0x1F < 2 ^ 5 := Nat.lt_succ_of_le Nat.and_le_right
  have crc_high : ((((byte5.toNat &&& 0x1F) <<< 8) + byte6.toNat) &&& 0x1F00) >>> 8 =
      byte5.toNat &&& 0x1F := by
    rw [and_field_shiftRight _ 0x1F00 8 5 rfl, Nat.shiftLeft_eq]
    omega
  have crc_low : u8 ((((byte5.toNat &&& 0x1F) <<< 8) + byte6.toNat) &&& 0x00FF) = byte6 := by
    apply BitVec.eq_of_toNat_eq
    rw [BitVec.toNat_ofNat, low_byte, Nat.shiftLeft_eq]
    omega
  obtain ⟨room, whole⟩ := byte_crc byte5
  simp only [largeBytes, largeFields, t0_eq, t1_eq, t2_eq, upper_eq, bit_eq, t1High, t1Low,
    one_six_one_byte, two_three_three_byte, value_high, value_low, longCsValueLs_congr room,
    crc_eq, crc_high, crc_low, whole]

/-- Bytes of a symbol: delimiter, payload and CRC, without the delimiter that ends a large
one. -/
def CsBytes.symbol (bytes : CsBytes) : List Byte :=
  match bytes.csTypeValid with
  | .csInvalid => []
  | .csSmall => bytes.csBytes.toList.take 4
  | .csLarge => bytes.csBytes.toList.take 7

theorem take_four (bytes : Vector Byte 8) :
    bytes.toList.take 4 = [bytes[0], bytes[1], bytes[2], bytes[3]] := by
  obtain ⟨⟨list⟩, length_eq⟩ := bytes
  match list, length_eq with
  | [_, _, _, _, _, _, _, _], _ => rfl

theorem take_seven (bytes : Vector Byte 8) :
    bytes.toList.take 7 =
      [bytes[0], bytes[1], bytes[2], bytes[3], bytes[4], bytes[5], bytes[6]] := by
  obtain ⟨⟨list⟩, length_eq⟩ := bytes
  match list, length_eq with
  | [_, _, _, _, _, _, _, _], _ => rfl

theorem first_eq_delimiter {csT1 : Stype1} (delimited : bytes.delimited = true)
    (success : delimiterRc bytes csT1 = .rioSuccess) : bytes.csBytes[0] = delimiter csT1 := by
  by_contra other
  rw [delimiterRc, if_pos ⟨delimited, other⟩] at success
  cases success

theorem csFieldsToBytes_csBytesToFields {fields : CsField} (valid : bytes.csTypeValid ≠ .csInvalid)
    (delimited : bytes.delimited = true)
    (parsed : csBytesToFields bytes out = (.rioSuccess, fields))
    (correct : fields.csCrcCorrect = true) (other : CsBytes) :
    (csFieldsToBytes fields other).1 = .rioSuccess ∧
      (csFieldsToBytes fields other).2.csTypeValid = bytes.csTypeValid ∧
      (csFieldsToBytes fields other).2.symbol = bytes.symbol := by
  cases type : bytes.csTypeValid with
  | csInvalid => exact absurd type valid
  | csSmall =>
    simp only [csBytesToFields, type, delimited, if_true, Prod.mk.injEq] at parsed
    obtain ⟨success, rfl⟩ := parsed
    have first := first_eq_delimiter delimited success
    have composed := smallBytes_smallFields correct
    have size : (smallFields out bytes.csBytes[1] bytes.csBytes[2] bytes.csBytes[3]).csSize =
        .csSmall := rfl
    simp only [csFieldsToBytes, size, composed, ← first, CsBytes.symbol, type, take_four,
      true_and]
    simp
  | csLarge =>
    simp only [csBytesToFields, type, delimited, if_true, Prod.mk.injEq] at parsed
    obtain ⟨success, rfl⟩ := parsed
    have first := first_eq_delimiter delimited success
    have composed := largeBytes_largeFields correct
    have size : (largeFields out bytes.csBytes[1] bytes.csBytes[2] bytes.csBytes[3]
        bytes.csBytes[4] bytes.csBytes[5] bytes.csBytes[6]).csSize = .csLarge := rfl
    simp only [csFieldsToBytes, size, composed, ← first, CsBytes.symbol, type, take_seven,
      true_and]
    simp

end Parse

/-- On valid symbols the two routines are inverse to each other. -/
theorem cs_codec_inverse :
    (∀ fields : CsField, fields.Fits → ∀ bytes out,
      (csFieldsToBytes fields bytes).1 = .rioSuccess ∧
        csBytesToFields (csFieldsToBytes fields bytes).2 out =
          (.rioSuccess, fields.returned out)) ∧
    (∀ (bytes : CsBytes) (out fields : CsField), bytes.csTypeValid ≠ .csInvalid →
      bytes.delimited = true → csBytesToFields bytes out = (.rioSuccess, fields) →
      fields.csCrcCorrect = true → ∀ other,
        (csFieldsToBytes fields other).1 = .rioSuccess ∧
          (csFieldsToBytes fields other).2.csTypeValid = bytes.csTypeValid ∧
          (csFieldsToBytes fields other).2.symbol = bytes.symbol) :=
  ⟨fun _ fits bytes out => csBytesToFields_csFieldsToBytes fits bytes out,
    fun _ _ _ valid delimited parsed correct other =>
      csFieldsToBytes_csBytesToFields valid delimited parsed correct other⟩

/-- The large symbol of the source's tests, with all the fields it can hold. -/
def largeSample : CsField :=
  ⟨.csLarge, .vcStatus, 0x0B, 0x12, .rsvd, 4, .rsvd5, 0x52D, 0, true⟩

theorem cs_codec_inverse_largeSample :
    largeSample.Fits ∧
      csBytesToFields (csFieldsToBytes largeSample ⟨.csInvalid, Vector.replicate 8 0⟩).2
        largeSample = (.rioSuccess, largeSample) ∧
      (csFieldsToBytes largeSample ⟨.csLarge, Vector.replicate 8 0⟩).2.symbol =
        (csFieldsToBytes largeSample ⟨.csInvalid, Vector.replicate 8 0⟩).2.symbol := by
  have fits : largeSample.Fits := ⟨by decide, by decide, by decide, by decide, fun _ => by decide⟩
  have parsed := (cs_codec_inverse.1 largeSample fits ⟨.csInvalid, Vector.replicate 8 0⟩
    largeSample).2
  have returned : largeSample.returned largeSample = largeSample := rfl
  rw [returned] at parsed
  exact ⟨fits, parsed, (cs_codec_inverse.2 _ largeSample largeSample (by decide)
    (by decide +kernel) parsed rfl _).2.2⟩

end RioFabric.ControlSymbol

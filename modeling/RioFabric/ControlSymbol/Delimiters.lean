import RioFabric.ControlSymbol

/-!
# Symbols without their delimiter

`CS_bytes_to_fields` takes a symbol with its delimiter or without, and tells the two apart by the
value of the first byte.  A payload that starts with the value of a delimiter is taken for a symbol
that has one.
-/

namespace RioFabric.ControlSymbol

open Packet (Byte u8)

/-- The bytes of a symbol between its delimiters. -/
def RioCsSize.payloadLength : RioCsSize → Nat
  | .csInvalid => 0
  | .csSmall => 3
  | .csLarge => 6

/-- The payload of `bytes` without the delimiter before it; any bytes may follow. -/
structure Undelimited (bytes bare : CsBytes) : Prop where
  type : bare.csTypeValid = bytes.csTypeValid
  payload : ∀ i < bytes.csTypeValid.payloadLength, bare.csBytes[i]? = bytes.csBytes[i + 1]?

/-- The first byte of the payload has the value of a delimiter: its type is `stype0_pa` or
`stype0_rsvd`, and the five bits behind it are 0x1C.  In a large symbol they are not the whole of
the first parameter. -/
def CsField.StartsLikeDelimiter (fields : CsField) : Prop :=
  (fields.csT0 = .pa ∨ fields.csT0 = .rsvd) ∧
    fields.parm0 / (if fields.csSize = .csLarge then 2 else 1) = 0x1C

instance (fields : CsField) : Decidable fields.StartsLikeDelimiter :=
  inferInstanceAs (Decidable (_ ∧ _))

/-- The value of a special character. -/
def isDelimiter (byte : Byte) : Bool := byte = 0x7C || byte = 0x1C

theorem small_first_byte : ∀ t0 < 2 ^ 3, ∀ parm < 2 ^ 5,
    isDelimiter (u8 (((t0 &&& 7) <<< 5) ||| (parm &&& 0x1F))) = true ↔
      (t0 = 0 ∨ t0 = 3) ∧ parm / 1 = 0x1C := by
  decide +kernel

theorem large_first_byte : ∀ t0 < 2 ^ 3, ∀ parm < 2 ^ 6,
    isDelimiter (u8 (((t0 &&& 7) <<< 5) ||| ((parm &&& 0x3E) >>> 1))) = true ↔
      (t0 = 0 ∨ t0 = 3) ∧ parm / 2 = 0x1C := by
  decide +kernel

theorem Stype0.code_delimiter_iff (t0 : Stype0) :
    t0.code = 0 ∨ t0.code = 3 ↔ t0 = .pa ∨ t0 = .rsvd := by
  cases t0 <;> decide

theorem repeated_delimiter {byte : Byte} (delimits : isDelimiter byte = true) (out : CsField) :
    (smallFields out byte byte byte).csCrcCorrect = false ∧
      (largeFields out byte byte byte byte byte byte).csCrcCorrect = false := by
  simp only [isDelimiter, Bool.or_eq_true, decide_eq_true_eq] at delimits
  simp only [smallFields, largeFields]
  obtain rfl | rfl := delimits <;> decide +kernel

section Small

variable {fields : CsField} {bare : CsBytes}

theorem small_isDelimiter_iff (fits : fields.Fits) (small : fields.csSize = .csSmall) :
    isDelimiter (smallBytes fields).1 = true ↔ fields.StartsLikeDelimiter := by
  have parm0 := fits.parm0
  simp only [small, reduceCtorEq, if_false] at parm0
  have first := small_first_byte _ fields.csT0.code_lt _ parm0
  rw [Stype0.code_delimiter_iff] at first
  simp only [CsField.StartsLikeDelimiter, small, reduceCtorEq, if_false]
  exact first

theorem parse_small_iff (fits : fields.Fits) (small : fields.csSize = .csSmall)
    (type : bare.csTypeValid = .csSmall)
    (payload : ∀ i (inRange : i < 3), bare.csBytes[i] =
      ([(smallBytes fields).1, (smallBytes fields).2.1, (smallBytes fields).2.2].getD i 0))
    (out : CsField) :
    (csBytesToFields bare out).2 = fields.returned out ↔ ¬fields.StartsLikeDelimiter := by
  have byte0 : bare.csBytes[0] = (smallBytes fields).1 := payload 0 (by decide)
  have byte1 : bare.csBytes[1] = (smallBytes fields).2.1 := payload 1 (by decide)
  have byte2 : bare.csBytes[2] = (smallBytes fields).2.2 := payload 2 (by decide)
  have whole := smallFields_smallBytes fits small out
  have delimited : bare.delimited = isDelimiter (smallBytes fields).1 := by
    rw [CsBytes.delimited, byte0]
    rfl
  rw [← small_isDelimiter_iff fits small, Bool.not_eq_true]
  cases delimits : isDelimiter (smallBytes fields).1 with
  | false =>
    simp [csBytesToFields, type, delimited, delimits, byte0, byte1, byte2, whole]
  | true =>
    refine iff_of_false (fun same => ?_) Bool.noConfusion
    simp only [csBytesToFields, type, delimited, delimits, if_true] at same
    -- the same fields with the right CRC are the same bytes, so that all equal the first
    rw [← whole, byte1, byte2] at same
    have correct : (smallFields out (smallBytes fields).1 (smallBytes fields).2.1
        (smallBytes fields).2.2).csCrcCorrect = true := by rw [whole]; rfl
    have moved := smallBytes_smallFields (same ▸ correct)
    rw [same, smallBytes_smallFields correct, Prod.mk.injEq, Prod.mk.injEq] at moved
    obtain ⟨first, second, -⟩ := moved
    rw [← second, ← first] at correct
    rw [(repeated_delimiter delimits out).1] at correct
    cases correct

end Small

section Large

variable {fields : CsField} {bare : CsBytes}

theorem large_isDelimiter_iff (fits : fields.Fits) (large : fields.csSize = .csLarge)
    (inRange : 0 < 6) :
    isDelimiter (largeBytes fields)[0] = true ↔ fields.StartsLikeDelimiter := by
  have parm0 := fits.parm0
  simp only [large, if_true] at parm0
  have first := large_first_byte _ fields.csT0.code_lt _ parm0
  rw [Stype0.code_delimiter_iff] at first
  simp only [CsField.StartsLikeDelimiter, large, if_true]
  exact first

theorem parse_large_iff (fits : fields.Fits) (large : fields.csSize = .csLarge)
    (type : bare.csTypeValid = .csLarge)
    (payload : ∀ i (inRange : i < 6), bare.csBytes[i] = (largeBytes fields)[i]) (out : CsField) :
    (csBytesToFields bare out).2 = fields.returned out ↔ ¬fields.StartsLikeDelimiter := by
  have whole := largeFields_largeBytes fits large out
  have byte0 := payload 0 (by decide)
  have byte1 := payload 1 (by decide)
  have byte2 := payload 2 (by decide)
  have byte3 := payload 3 (by decide)
  have byte4 := payload 4 (by decide)
  have byte5 := payload 5 (by decide)
  have delimited : bare.delimited = isDelimiter (largeBytes fields)[0] := by
    rw [CsBytes.delimited, byte0]
    rfl
  rw [← large_isDelimiter_iff fits large (by decide), Bool.not_eq_true]
  cases delimits : isDelimiter (largeBytes fields)[0] with
  | false =>
    simp [csBytesToFields, type, delimited, delimits, byte0, byte1, byte2, byte3, byte4, byte5,
      whole]
  | true =>
    refine iff_of_false (fun same => ?_) Bool.noConfusion
    simp only [csBytesToFields, type, delimited, delimits, if_true] at same
    rw [← whole, byte1, byte2, byte3, byte4, byte5] at same
    have correct : (largeFields out (largeBytes fields)[0] (largeBytes fields)[1]
        (largeBytes fields)[2] (largeBytes fields)[3] (largeBytes fields)[4]
        (largeBytes fields)[5]).csCrcCorrect = true := by rw [whole]; rfl
    have moved := largeBytes_largeFields (same ▸ correct)
    rw [same, largeBytes_largeFields correct] at moved
    have moved_at : ∀ i (inRange : i < 5),
        (largeBytes fields)[i] = (largeBytes fields)[i + 1] := by
      intro i inRange
      have entry := congrArg (fun bytes => bytes.toList[i]?) moved
      interval_cases i <;> exact Option.some.inj entry
    have first := moved_at 0 (by decide)
    have second := moved_at 1 (by decide)
    have third := moved_at 2 (by decide)
    have fourth := moved_at 3 (by decide)
    have fifth := moved_at 4 (by decide)
    rw [← fifth, ← fourth, ← third, ← second, ← first] at correct
    rw [(repeated_delimiter delimits out).2] at correct
    cases correct

end Large

/-- With its delimiter and without, a valid symbol is parsed to the same fields, with the CRC found
correct, exactly if its payload does not start like a delimiter. -/
theorem parse_undelimited_iff (fields : CsField) (fits : fields.Fits) (before bare : CsBytes)
    (undelimited : Undelimited (csFieldsToBytes fields before).2 bare) (out : CsField) :
    ((csBytesToFields (csFieldsToBytes fields before).2 out).2.csCrcCorrect = true ∧
        (csBytesToFields bare out).2.csCrcCorrect = true ∧
          (csBytesToFields bare out).2 =
            (csBytesToFields (csFieldsToBytes fields before).2 out).2) ↔
      ¬fields.StartsLikeDelimiter := by
  rw [(csBytesToFields_csFieldsToBytes fits before out).2]
  have parsed : (csBytesToFields bare out).2 = fields.returned out ↔
      ¬fields.StartsLikeDelimiter := by
    obtain ⟨type, payload⟩ := undelimited
    cases size : fields.csSize with
    | csInvalid => exact absurd size fits.valid
    | csSmall =>
      simp only [csFieldsToBytes, size] at type payload
      apply parse_small_iff fits size type
      intro i inRange
      have byte := payload i inRange
      interval_cases i <;> simpa using byte
    | csLarge =>
      simp only [csFieldsToBytes, size] at type payload
      apply parse_large_iff fits size type
      intro i inRange
      have byte := payload i inRange
      interval_cases i <;> simpa using byte
  rw [← parsed]
  constructor
  · exact fun all => all.2.2
  · exact fun same => ⟨rfl, by rw [same]; rfl, same⟩

theorem undelimited_tail (bytes : CsBytes) : Undelimited bytes bytes.tail where
  type := rfl
  payload i inPayload := by
    have inRange : i < 6 := by
      cases size : bytes.csTypeValid <;> simp [size, RioCsSize.payloadLength] at inPayload <;> omega
    interval_cases i <;> simp [CsBytes.tail]

/-- A packet is accepted. -/
def acceptedSample : CsField := ⟨.csSmall, .pa, 1, 2, .nop, 0, .nop, 0, 0, true⟩

theorem acceptedSample_fits : acceptedSample.Fits :=
  ⟨by decide, by decide, by decide, by decide, nofun⟩

theorem parse_undelimited_acceptedSample :
    acceptedSample.Fits ∧
      (csBytesToFields (csFieldsToBytes acceptedSample ⟨.csSmall, Vector.replicate 8 0⟩).2.tail
        acceptedSample).2.csCrcCorrect = true :=
  ⟨acceptedSample_fits,
    ((parse_undelimited_iff acceptedSample acceptedSample_fits ⟨.csSmall, Vector.replicate 8 0⟩ _
      (undelimited_tail _) acceptedSample).mpr (by decide)).2.1⟩

/-- The packet with number 0x1C is accepted: without its delimiter, the symbol is read from its
second byte on. -/
theorem parse_undelimited_misread :
    ¬∀ fields : CsField, fields.Fits → ∀ before bare : CsBytes,
      Undelimited (csFieldsToBytes fields before).2 bare → ∀ out : CsField,
        (csBytesToFields (csFieldsToBytes fields before).2 out).2.csCrcCorrect = true ∧
          (csBytesToFields bare out).2.csCrcCorrect = true ∧
            (csBytesToFields bare out).2 =
              (csBytesToFields (csFieldsToBytes fields before).2 out).2 := by
  intro same
  have fits : CsField.Fits { acceptedSample with parm0 := 0x1C } :=
    ⟨by decide, by decide, by decide, by decide, nofun⟩
  have misread := (same { acceptedSample with parm0 := 0x1C } fits ⟨.csSmall, Vector.replicate 8 0⟩
    _ (undelimited_tail _) acceptedSample).2.1
  exact absurd misread (by decide +kernel)

end RioFabric.ControlSymbol

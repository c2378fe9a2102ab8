import Mathlib.Tactic.IntervalCases
import RioFabric.Dar.PortList
import RioFabric.Lib.BitTable

/-!
# Error-rate information

What is counted as an error of a port, at which rate errors are forgotten and how many are too many
are parts of three registers.  They are packed into one word, two of them through tables, and read
back from it.
-/

namespace RioFabric.ErrorManagement

open Lib
open Dar (rioErrInvalidParameter)

/-- `rec_err_spx_err_table`: consecutive bits, and the bits of `RIO_EMHS_SPX_ERR_DET`. -/
def recErrSpxErrTable : BitTable 32 32 :=
  [(0x0001, 0x00000001), (0x0002, 0x00000002), (0x0004, 0x00000004), (0x0008, 0x00000010),
    (0x0010, 0x00000020), (0x0020, 0x00020000), (0x0040, 0x00040000), (0x0080, 0x00080000),
    (0x0100, 0x00100000), (0x0200, 0x00200000), (0x0400, 0x00400000)]

/-- `rio_spx_err_rate_err_rb_vals`, with the value of `RB` at its index. -/
def rioSpxErrRateErrRbVals : List (BitVec 32) :=
  [0x00000000, 0x01000000, 0x02000000, 0x04000000, 0x08000000, 0x10000000, 0x20000000, 0x40000000,
    0x80000000]

/-- `RIO_EMHS_SPX_RATE_RR`. -/
def rateRr : BitVec 32 := 0x00030000

/-- `RIO_EMHS_SPX_RATE_RB`. -/
def rateRb : BitVec 32 := 0xff000000

/-- `RIO_EMHS_SPX_THRESH_FAIL`. -/
def threshFail : BitVec 32 := 0xff000000

def rbShiftAmt : Nat := 20

/-- The index of `RB`, in place. -/
def infoRb : BitVec 32 := 0x00F00000

/-- The bits that errors have. -/
def infoErrs : BitVec 32 := 0x000007FF

/-- The bits that no part has. -/
def infoUnused : BitVec 32 := ~~~(infoErrs ||| rateRr ||| threshFail ||| infoRb)

/-- `spx_rate_en`, `spx_err_rate` and `spx_err_thresh`. -/
structure RateParts where
  spxRateEn : BitVec 32
  spxErrRate : BitVec 32
  spxErrThresh : BitVec 32
  deriving DecidableEq

/-- The fields that are kept of the parts. -/
def RateParts.fields (parts : RateParts) : RateParts where
  spxRateEn := parts.spxRateEn
  spxErrRate := parts.spxErrRate &&& (rateRr ||| rateRb)
  spxErrThresh := parts.spxErrThresh &&& threshFail

/-- `rio_em_compute_f_err_rate_info`: its code, and `info`. -/
def rioEmComputeFErrRateInfo (parts : RateParts) : Nat × BitVec 32 :=
  let info := recErrSpxErrTable.swap.translate parts.spxRateEn
  if parts.spxRateEn &&& ~~~recErrSpxErrTable.swap.domain ≠ 0 then (rioErrInvalidParameter, info)
  else
    let info := info ||| (rateRr &&& parts.spxErrRate) ||| (threshFail &&& parts.spxErrThresh)
    match rioSpxErrRateErrRbVals.findIdx? fun val => val = parts.spxErrRate &&& rateRb with
    | some idx => (0, info ||| BitVec.ofNat 32 idx <<< rbShiftAmt)
    | none => (rioErrInvalidParameter, info)

/-- `rio_em_get_f_err_rate_info`: its code, and the parts. -/
def rioEmGetFErrRateInfo (info : BitVec 32) : Nat × RateParts :=
  let parts : RateParts := {
    spxRateEn := recErrSpxErrTable.translate info
    spxErrRate := info &&& rateRr
    spxErrThresh := info &&& threshFail }
  match rioSpxErrRateErrRbVals[((info &&& infoRb) >>> rbShiftAmt).toNat]? with
  | some rb => (0, { parts with spxErrRate := parts.spxErrRate ||| rb })
  | none => (rioErrInvalidParameter, parts)

theorem recErrSpxErrTable_reversible : recErrSpxErrTable.Reversible where
  single := List.forall_iff_forall_mem.mp (by decide +kernel)
  nonempty := List.forall_iff_forall_mem.mp (by decide +kernel)
  apart := by decide +kernel

theorem recErrSpxErrTable_swap_reversible : recErrSpxErrTable.swap.Reversible where
  single := List.forall_iff_forall_mem.mp (by decide +kernel)
  nonempty := List.forall_iff_forall_mem.mp (by decide +kernel)
  apart := by decide +kernel

theorem recErrSpxErrTable_domain : recErrSpxErrTable.domain = infoErrs := by decide

variable {idx : Nat} {rb info : BitVec 32} {parts : RateParts}

theorem findIdx?_rbVals (isRb : rioSpxErrRateErrRbVals[idx]? = some rb) :
    rioSpxErrRateErrRbVals.findIdx? (fun val => val = rb) = some idx := by
  have inRange : idx < 9 := (List.getElem?_eq_some_iff.mp isRb).1
  interval_cases idx <;> cases isRb <;> decide

theorem getElem?_rbVals (isIdx : rioSpxErrRateErrRbVals.findIdx? (fun val => val = rb) = some idx) :
    rioSpxErrRateErrRbVals[idx]? = some rb := by
  obtain ⟨inRange, same, -⟩ := List.findIdx?_eq_some_iff_getElem.mp isIdx
  rw [List.getElem?_eq_getElem inRange]
  exact congrArg some (of_decide_eq_true same)

theorem rbVals_within (isRb : rioSpxErrRateErrRbVals[idx]? = some rb) :
    rb &&& rateRb = rb := by
  have inRange : idx < 9 := (List.getElem?_eq_some_iff.mp isRb).1
  interval_cases idx <;> cases isRb <;> decide

theorem rbField_of_idx (isRb : rioSpxErrRateErrRbVals[idx]? = some rb) :
    BitVec.ofNat 32 idx <<< rbShiftAmt &&& infoRb = BitVec.ofNat 32 idx <<< rbShiftAmt ∧
      ((BitVec.ofNat 32 idx <<< rbShiftAmt) >>> rbShiftAmt).toNat = idx := by
  have inRange : idx < 9 := (List.getElem?_eq_some_iff.mp isRb).1
  interval_cases idx <;> decide

theorem ofNat_rbField (info : BitVec 32) :
    BitVec.ofNat 32 ((info &&& infoRb) >>> rbShiftAmt).toNat <<< rbShiftAmt = info &&& infoRb := by
  have low : ∀ idx < rbShiftAmt, infoRb.getLsbD idx = false := by decide
  rw [BitVec.ofNat_toNat, BitVec.setWidth_eq]
  apply BitVec.eq_of_getLsbD_eq
  intro idx inRange
  rw [BitVec.getLsbD_shiftLeft, BitVec.getLsbD_ushiftRight]
  by_cases below : idx < rbShiftAmt
  · simp [below, low idx below]
  · rw [Nat.add_sub_cancel' (Nat.le_of_not_lt below)]
    simp [below, inRange]

/-- A word with its four parts. -/
structure Packed (errs rr fail rb : BitVec 32) : Prop where
  errs : errs &&& infoErrs = errs
  rr : rr &&& rateRr = rr
  fail : fail &&& threshFail = fail
  rb : rb &&& infoRb = rb

namespace Packed

variable {errs rr fail rb : BitVec 32} (packed : Packed errs rr fail rb)

include packed

theorem and_infoErrs : (errs ||| rr ||| fail ||| rb) &&& infoErrs = errs := by
  rw [BitVec.and_or_distrib_right, BitVec.and_or_distrib_right, BitVec.and_or_distrib_right,
    packed.errs, and_eq_zero_of_within packed.rr rfl, and_eq_zero_of_within packed.fail rfl,
    and_eq_zero_of_within packed.rb rfl]
  simp

theorem and_rateRr : (errs ||| rr ||| fail ||| rb) &&& rateRr = rr := by
  rw [BitVec.and_or_distrib_right, BitVec.and_or_distrib_right, BitVec.and_or_distrib_right,
    packed.rr, and_eq_zero_of_within packed.errs rfl, and_eq_zero_of_within packed.fail rfl,
    and_eq_zero_of_within packed.rb rfl]
  simp

theorem and_threshFail : (errs ||| rr ||| fail ||| rb) &&& threshFail = fail := by
  rw [BitVec.and_or_distrib_right, BitVec.and_or_distrib_right, BitVec.and_or_distrib_right,
    packed.fail, and_eq_zero_of_within packed.errs rfl, and_eq_zero_of_within packed.rr rfl,
    and_eq_zero_of_within packed.rb rfl]
  simp

theorem and_infoRb : (errs ||| rr ||| fail ||| rb) &&& infoRb = rb := by
  rw [BitVec.and_or_distrib_right, BitVec.and_or_distrib_right, BitVec.and_or_distrib_right,
    packed.rb, and_eq_zero_of_within packed.errs rfl, and_eq_zero_of_within packed.rr rfl,
    and_eq_zero_of_within packed.fail rfl]
  simp

end Packed

theorem union_of_parts (noUnused : info &&& infoUnused = 0) :
    info &&& infoErrs ||| (rateRr &&& info) ||| (threshFail &&& info) ||| (info &&& infoRb) =
      info := by
  rw [BitVec.and_comm rateRr, BitVec.and_comm threshFail, ← BitVec.and_or_distrib_left,
    ← BitVec.and_or_distrib_left, ← BitVec.and_or_distrib_left]
  apply BitVec.eq_of_getLsbD_eq
  intro idx inRange
  rw [BitVec.getLsbD_and, Bool.and_eq_left_iff_imp]
  intro isSet
  have unused := @getLsbD_of_apart _ infoUnused _ (by rw [BitVec.and_comm, noUnused]) _ isSet
  rw [infoUnused, BitVec.getLsbD_not] at unused
  simpa [inRange, or_iff_not_imp_left] using unused

theorem rioEmGetFErrRateInfo_of_compute (computed : rioEmComputeFErrRateInfo parts = (0, info)) :
    rioEmGetFErrRateInfo info = (0, parts.fields) := by
  rw [rioEmComputeFErrRateInfo] at computed
  split at computed
  · cases computed
  next inDomain =>
    simp only at computed
    split at computed
    next idx isIdx =>
      cases computed
      have isRb := getElem?_rbVals isIdx
      obtain ⟨within, back⟩ := rbField_of_idx isRb
      have packed : Packed (recErrSpxErrTable.swap.translate parts.spxRateEn)
          (rateRr &&& parts.spxErrRate) (threshFail &&& parts.spxErrThresh)
          (BitVec.ofNat 32 idx <<< rbShiftAmt) := {
        errs := BitTable.translate_within
        rr := by rw [BitVec.and_comm rateRr, BitVec.and_assoc, BitVec.and_self]
        fail := by rw [BitVec.and_comm threshFail, BitVec.and_assoc, BitVec.and_self]
        rb := within }
      have errs : recErrSpxErrTable.translate (recErrSpxErrTable.swap.translate parts.spxRateEn) =
          parts.spxRateEn :=
        recErrSpxErrTable_swap_reversible.translate_swap_translate.trans
          (within_of_and_not_eq_zero (not_not.mp inDomain))
      rw [rioEmGetFErrRateInfo]
      simp only
      rw [← @BitTable.translate_and_domain _ _ recErrSpxErrTable, recErrSpxErrTable_domain,
        packed.and_infoErrs, packed.and_rateRr, packed.and_threshFail, packed.and_infoRb, back,
        isRb, errs, BitVec.and_comm rateRr, BitVec.and_comm threshFail, RateParts.fields,
        BitVec.and_or_distrib_left]
    next => cases computed

theorem rioEmComputeFErrRateInfo_of_get (noUnused : info &&& infoUnused = 0)
    (got : rioEmGetFErrRateInfo info = (0, parts)) :
    rioEmComputeFErrRateInfo parts = (0, info) := by
  rw [rioEmGetFErrRateInfo] at got
  simp only at got
  split at got
  next rb isRb =>
    cases got
    have within := rbVals_within isRb
    have errs : recErrSpxErrTable.swap.translate (recErrSpxErrTable.translate info) =
        info &&& infoErrs := by
      rw [recErrSpxErrTable_reversible.translate_swap_translate, recErrSpxErrTable_domain]
    have inDomain : recErrSpxErrTable.translate info &&& ~~~recErrSpxErrTable.swap.domain = 0 := by
      rw [← BitTable.translate_within, BitVec.and_assoc, BitVec.and_not_self]
      exact BitVec.and_zero
    have rr : rateRr &&& (info &&& rateRr ||| rb) = rateRr &&& info := by
      rw [BitVec.and_or_distrib_left, BitVec.and_comm rateRr rb,
        and_eq_zero_of_within within rfl, BitVec.and_comm info, ← BitVec.and_assoc,
        BitVec.and_self]
      exact BitVec.or_zero
    have isRate : (info &&& rateRr ||| rb) &&& rateRb = rb := by
      rw [BitVec.and_or_distrib_right, within, BitVec.and_assoc]
      simp [rateRr, rateRb]
    have fail : threshFail &&& (info &&& threshFail) = threshFail &&& info := by
      rw [BitVec.and_comm info, ← BitVec.and_assoc, BitVec.and_self]
    rw [rioEmComputeFErrRateInfo]
    simp only
    rw [if_neg (not_not.mpr inDomain), isRate, findIdx?_rbVals isRb, errs, rr, fail]
    simp only
    rw [ofNat_rbField, union_of_parts noUnused]
  next => cases got

/-- The word and the parts determine each other, but for unused bits of the word and for the fields
of the parts that are not packed. -/
theorem errRateInfo_roundTrip :
    (∀ parts info, rioEmComputeFErrRateInfo parts = (0, info) →
      rioEmGetFErrRateInfo info = (0, parts.fields)) ∧
    ∀ info parts, info &&& infoUnused = 0 → rioEmGetFErrRateInfo info = (0, parts) →
      rioEmComputeFErrRateInfo parts = (0, info) :=
  ⟨fun _ _ computed => rioEmGetFErrRateInfo_of_compute computed,
    fun _ _ noUnused got => rioEmComputeFErrRateInfo_of_get noUnused got⟩

theorem errRateInfo_roundTrip_linkTimeouts :
    rioEmGetFErrRateInfo 0x10130001 = (0, RateParts.fields ⟨0x00000001, 0x01030000, 0x10000000⟩) ∧
    rioEmComputeFErrRateInfo ⟨0x00000001, 0x01030000, 0x10000000⟩ = (0, 0x10130001) :=
  ⟨errRateInfo_roundTrip.1 ⟨0x00000001, 0x01030000, 0x10000000⟩ 0x10130001 (by decide),
    errRateInfo_roundTrip.2 0x10130001 ⟨0x00000001, 0x01030000, 0x10000000⟩ (by decide)
      (by decide)⟩

end RioFabric.ErrorManagement

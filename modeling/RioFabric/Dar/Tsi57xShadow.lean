import RioFabric.Dar.Cache
import RioFabric.Lib.Masks

/-!
# The scratchpad of the Tsi57x

The scratchpad has copies of registers, and the effect of the multicast commands on the masks and
the destinations is worked out on the copies.  The copies keep to the registers.  But the routine
that reads them at first ends at the mark behind the last copy with an error, and the elements
behind the mark answer for offset 0.
-/

namespace RioFabric.Dar

open Lib

/-- `TSI578_RIO_MC_MASK_CFG_MASK_CMD`, `TSI578_RIO_MC_MASK_CFG_EG_PORT_NUM` and
`TSI578_RIO_MC_MASK_CFG_MC_MASK_NUM`. -/
def mcMaskCfgMaskCmd : BitVec 32 := 0x00000070
def mcMaskCfgEgPortNum : BitVec 32 := 0x00000f00
def mcMaskCfgMcMaskNum : BitVec 32 := 0x00070000

/-- `TSI578_RIO_MC_DESTID_CFG_MASK_NUM_BASE`, and `TSI578_RIO_MC_DESTID_CFG_DESTID_BASE` with
`TSI578_RIO_MC_DESTID_CFG_DESTID_BASE_LT`. -/
def mcDestidCfgMaskNumBase : BitVec 32 := 0x00000007
def mcDestidCfgDestidBase : BitVec 32 := 0x00ff0000 ||| 0xff000000

/-- `TSI578_RIO_MC_DESTID_ASSOC_CMD` and `TSI578_RIO_MC_DESTID_ASSOC_LARGE`. -/
def mcDestidAssocCmd : BitVec 32 := 0x00000060
def mcDestidAssocLarge : BitVec 32 := 0x00000080

/-- What a write does to the registers of a Tsi578: the registers for commands have an effect on
the masks and the destinations. -/
def tsi578Effect : WriteEffect (BitVec 32) := fun offset writedata values =>
  let values := Function.update values offset writedata
  if offset = tsi578RioMcMaskCfg then
    let mask := tsi578RioMcMskx ((writedata &&& mcMaskCfgMcMaskNum) >>> 16).toNat
    Function.update values mask (maskAfter (writedata &&& mcMaskCfgMaskCmd)
      ((writedata &&& mcMaskCfgEgPortNum) >>> 8).toNat (values mask))
  else if offset = tsi578RioMcDestidAssoc then
    let destid := values tsi578RioMcDestidCfg
    let idx := tsi578RioMcIdx (destid &&& mcDestidCfgMaskNumBase).toNat
    Function.update values idx (idxAfter (writedata &&& mcDestidAssocCmd)
      (destid &&& mcDestidCfgDestidBase) (writedata &&& mcDestidAssocLarge ≠ 0) (values idx))
  else values

/-- The number of registers with copies. -/
def shadowed : Nat := 25

theorem offset_injOn {idx other : Nat} (small : idx < shadowed) (smallOther : other < shadowed)
    (same : (scratchpadConst idx).offset = (scratchpadConst other).offset) : idx = other := by
  have table : ∀ idx < shadowed, ∀ other < shadowed,
      (scratchpadConst idx).offset = (scratchpadConst other).offset → idx = other := by
    decide +kernel
  exact table idx small other smallOther same

theorem scrpadIdxs_offset {idx : Nat} (small : idx < shadowed) :
    scrpadIdxs (scratchpadConst idx).offset = [idx] := by
  have table : ∀ idx < shadowed, scrpadIdxs (scratchpadConst idx).offset = [idx] := by
    decide +kernel
  exact table idx small

variable {offset cmd mask other : BitVec 32}

theorem scrpadIdxs_eq_nil (other : ∀ idx < shadowed, (scratchpadConst idx).offset ≠ offset)
    (notZero : offset ≠ 0) (notEof : offset ≠ scrpadEofOffset) : scrpadIdxs offset = [] := by
  have rest : ∀ idx < maxDarScrpadIdx, shadowed ≤ idx →
      (scratchpadConst idx).offset = 0 ∨ (scratchpadConst idx).offset = scrpadEofOffset := by
    decide +kernel
  apply List.filter_eq_nil_iff.mpr
  intro idx inRange
  rw [decide_eq_true_iff]
  intro same
  by_cases small : idx < shadowed
  · exact other idx small same
  · rcases rest idx (List.mem_range.mp inRange) (Nat.le_of_not_lt small) with isZero | isEof
    · exact notZero (same.symm.trans isZero)
    · exact notEof (same.symm.trans isEof)

theorem offset_mskx {mask : Nat} (small : mask < tsi578MaxMcMasks) :
    scratchpadConst (mask + scrpadMaskIdx) = ⟨tsi578RioMcMskx mask, mcMskxMcMsk⟩ := by
  have table : ∀ mask < tsi578MaxMcMasks,
      scratchpadConst (mask + scrpadMaskIdx) = ⟨tsi578RioMcMskx mask, mcMskxMcMsk⟩ := by
    decide +kernel
  exact table mask small

theorem offset_idx {mask : Nat} (small : mask < tsi578MaxMcMasks) :
    scratchpadConst mask = ⟨tsi578RioMcIdx mask, mcIdxMask⟩ := by
  have table : ∀ mask < tsi578MaxMcMasks,
      scratchpadConst mask = ⟨tsi578RioMcIdx mask, mcIdxMask⟩ := by
    decide +kernel
  exact table mask small

theorem maskAfter_and {port : Nat} (same : mask &&& mcMskxMcMsk = other &&& mcMskxMcMsk) :
    maskAfter cmd port mask &&& mcMskxMcMsk = maskAfter cmd port other &&& mcMskxMcMsk := by
  have set : ∀ bits : BitVec 32,
      (mask ||| bits) &&& mcMskxMcMsk = (other ||| bits) &&& mcMskxMcMsk := by
    intro bits
    rw [BitVec.and_comm, BitVec.and_or_distrib_left, BitVec.and_comm, same,
      BitVec.and_comm (other ||| bits), BitVec.and_or_distrib_left, BitVec.and_comm other]
  have clear : ∀ bits : BitVec 32,
      (mask &&& bits) &&& mcMskxMcMsk = (other &&& bits) &&& mcMskxMcMsk := by
    intro bits
    rw [BitVec.and_assoc, BitVec.and_comm bits, ← BitVec.and_assoc, same, BitVec.and_assoc,
      BitVec.and_comm mcMskxMcMsk, ← BitVec.and_assoc]
  rw [maskAfter, maskAfter]
  repeat' split
  · exact set _
  · exact clear _
  · exact clear _
  · exact set _
  · exact same

theorem idxAfter_and {destid idx : BitVec 32} {large : Bool}
    (same : idx &&& mask = other &&& mask) :
    idxAfter cmd destid large idx &&& mask = idxAfter cmd destid large other &&& mask := by
  rw [idxAfter, idxAfter]
  split
  · rfl
  split
  · rfl
  · exact same

/-- The index of `TSI578_RIO_MC_MASK_CFG`; the other registers for commands come behind it. -/
def maskCfgIdx : Nat := 22

/-- The copies agree with the registers in the bits that can be written, as far as they are looked
at again. -/
structure Shadow (scratchpad : Nat → BitVec 32) (values : BitVec 32 → BitVec 32) : Prop where
  plain : ∀ idx < maskCfgIdx, scratchpad idx &&& (scratchpadConst idx).rwMask =
    values (scratchpadConst idx).offset &&& (scratchpadConst idx).rwMask
  destid : scratchpad 23 &&& 0xffff0000 = values tsi578RioMcDestidCfg &&& 0xffff0000
  maskNum : scratchpad 23 &&& 0x0000ffff = values tsi578RioMcDestidCfg &&& mcDestidCfgMaskNumBase

/-- The scratchpad after a register was written. -/
def copiesAfter (offset writedata : BitVec 32) (scratchpad : Nat → BitVec 32) : Nat → BitVec 32 :=
  match (scrpadIdxs offset).head? with
  | some idx => scratchpadAfter idx writedata scratchpad
  | none => scratchpad

section Writes

variable {scratchpad : Nat → BitVec 32} {values : BitVec 32 → BitVec 32}

section

variable (shadow : Shadow scratchpad values)
include shadow

theorem Shadow.update_plain {idx : Nat} (small : idx < maskCfgIdx) {copy value : BitVec 32}
    (same : copy &&& (scratchpadConst idx).rwMask = value &&& (scratchpadConst idx).rwMask) :
    Shadow (Function.update scratchpad idx copy)
      (Function.update values (scratchpadConst idx).offset value) := by
  have inTable : idx < shadowed := small.trans (by decide)
  have notDestid : tsi578RioMcDestidCfg ≠ (scratchpadConst idx).offset := by
    intro isDestid
    have isIdx : 23 = idx := offset_injOn (by decide) inTable isDestid
    exact absurd small (isIdx ▸ by decide)
  have notIdx : 23 ≠ idx := by
    rintro rfl
    exact notDestid rfl
  constructor
  · intro other otherSmall
    by_cases isOther : other = idx
    · subst isOther
      rw [Function.update_self, Function.update_self]
      exact same
    · have apart : (scratchpadConst other).offset ≠ (scratchpadConst idx).offset := by
        intro sameOffset
        exact isOther (offset_injOn (otherSmall.trans (by decide)) inTable sameOffset)
      rw [Function.update_of_ne isOther, Function.update_of_ne apart]
      exact shadow.plain other otherSmall
  · rw [Function.update_of_ne notIdx, Function.update_of_ne notDestid]
    exact shadow.destid
  · rw [Function.update_of_ne notIdx, Function.update_of_ne notDestid]
    exact shadow.maskNum

theorem Shadow.plain_at {idx : Nat} (small : idx < maskCfgIdx) {offset mask : BitVec 32}
    (place : scratchpadConst idx = ⟨offset, mask⟩) :
    scratchpad idx &&& mask = values offset &&& mask := by
  have same := shadow.plain idx small
  rw [place] at same
  exact same

theorem Shadow.update_at {idx : Nat} (small : idx < maskCfgIdx) {offset mask copy value : BitVec 32}
    (place : scratchpadConst idx = ⟨offset, mask⟩) (same : copy &&& mask = value &&& mask) :
    Shadow (Function.update scratchpad idx copy) (Function.update values offset value) := by
  have after := @Shadow.update_plain _ _ shadow idx small copy value
  rw [place] at after
  exact after same

theorem Shadow.update_copy {idx : Nat} (behind : idx = maskCfgIdx ∨ 23 < idx) (copy : BitVec 32) :
    Shadow (Function.update scratchpad idx copy) values := by
  have notPlain : ∀ other < maskCfgIdx, other ≠ idx := by
    rintro other otherSmall rfl
    rcases behind with isMaskCfg | later
    · exact absurd isMaskCfg (Nat.ne_of_lt otherSmall)
    · exact absurd (later.trans otherSmall) (by decide)
  have notDestid : 23 ≠ idx := by
    rintro rfl
    rcases behind with isMaskCfg | later
    · exact absurd isMaskCfg (by decide)
    · exact Nat.lt_irrefl _ later
  constructor
  · intro other otherSmall
    rw [Function.update_of_ne (notPlain other otherSmall)]
    exact shadow.plain other otherSmall
  · rw [Function.update_of_ne notDestid]
    exact shadow.destid
  · rw [Function.update_of_ne notDestid]
    exact shadow.maskNum

theorem Shadow.update_value {offset : BitVec 32}
    (notPlain : ∀ idx < maskCfgIdx, (scratchpadConst idx).offset ≠ offset)
    (notDestid : offset ≠ tsi578RioMcDestidCfg) (value : BitVec 32) :
    Shadow scratchpad (Function.update values offset value) := by
  constructor
  · intro idx small
    rw [Function.update_of_ne (notPlain idx small)]
    exact shadow.plain idx small
  · rw [Function.update_of_ne notDestid.symm]
    exact shadow.destid
  · rw [Function.update_of_ne notDestid.symm]
    exact shadow.maskNum

theorem Shadow.update_destid (writedata : BitVec 32) :
    Shadow (Function.update scratchpad 23 (writedata &&& mcDestidMask))
      (Function.update values tsi578RioMcDestidCfg writedata) := by
  constructor
  · intro idx small
    have notDestid : (scratchpadConst idx).offset ≠ tsi578RioMcDestidCfg := by
      intro isDestid
      have isIdx : idx = 23 := offset_injOn (small.trans (by decide)) (by decide) isDestid
      exact absurd small (isIdx ▸ by decide)
    have notIdx : idx ≠ 23 := by
      rintro rfl
      exact notDestid rfl
    rw [Function.update_of_ne notIdx, Function.update_of_ne notDestid]
    exact shadow.plain idx small
  · rw [Function.update_self, Function.update_self]
    exact and_within (by decide)
  · rw [Function.update_self, Function.update_self, BitVec.and_assoc]
    rfl

theorem Shadow.maskCfg (writedata : BitVec 32) :
    Shadow (scratchpadAfter maskCfgIdx writedata scratchpad)
      (tsi578Effect tsi578RioMcMaskCfg writedata values) := by
  have maskCfg_ne : ∀ idx < maskCfgIdx, (scratchpadConst idx).offset ≠ tsi578RioMcMaskCfg := by
    decide +kernel
  have written := (shadow.update_copy (.inl rfl) (writedata &&& mcMaskCfgMask)).update_value
    maskCfg_ne (by decide) writedata
  have number : ((writedata &&& mcMaskCfgMcMaskNum) >>> 16).toNat < tsi578MaxMcMasks := by
    rw [BitVec.toNat_ushiftRight, BitVec.toNat_and, Nat.shiftRight_eq_div_pow]
    exact Nat.lt_of_le_of_lt (Nat.div_le_div_right Nat.and_le_right) (by decide)
  have inPlain : ((writedata &&& mcMaskCfgMcMaskNum) >>> 16).toNat + scrpadMaskIdx < maskCfgIdx :=
    (Nat.add_lt_add_right number _).trans (by decide)
  have same := written.plain_at inPlain (offset_mskx number)
  have isNumber : writedata &&& mcMaskCfgMask &&& 0x00070000 = writedata &&& mcMaskCfgMcMaskNum :=
    and_within (by decide)
  have isPort : writedata &&& mcMaskCfgMask &&& 0x0000ff00 = writedata &&& mcMaskCfgEgPortNum := by
    rw [BitVec.and_assoc]
    rfl
  have isCmd : writedata &&& mcMaskCfgMask &&& mcMskCfgCmd = writedata &&& mcMaskCfgMaskCmd :=
    and_within (by decide)
  have place : scratchpadConst maskCfgIdx = ⟨tsi578RioMcMaskCfg, mcMaskCfgMask⟩ := rfl
  rw [scratchpadAfter, place]
  dsimp only
  rw [if_pos rfl, tsi578Effect, if_pos rfl, tsi57xWriteRegMaskCfg, isNumber, isPort, isCmd]
  exact written.update_at inPlain (offset_mskx number) (maskAfter_and same)

theorem Shadow.destidAssoc (writedata : BitVec 32) :
    Shadow (scratchpadAfter 24 writedata scratchpad)
      (tsi578Effect tsi578RioMcDestidAssoc writedata values) := by
  have assoc_ne : ∀ idx < maskCfgIdx, (scratchpadConst idx).offset ≠ tsi578RioMcDestidAssoc := by
    decide +kernel
  have behind : 24 = maskCfgIdx ∨ 23 < 24 := .inr (by decide)
  have written := (shadow.update_copy behind (writedata &&& mcAssocMask)).update_value
    assoc_ne (by decide) writedata
  have number : (values tsi578RioMcDestidCfg &&& mcDestidCfgMaskNumBase).toNat <
      tsi578MaxMcMasks := by
    rw [BitVec.toNat_and]
    exact Nat.lt_of_le_of_lt Nat.and_le_right (by decide)
  have inPlain : (values tsi578RioMcDestidCfg &&& mcDestidCfgMaskNumBase).toNat < maskCfgIdx :=
    number.trans (by decide)
  have same := written.plain_at inPlain (offset_idx number)
  have isCmd : writedata &&& mcAssocMask &&& mcConOpCmd = writedata &&& mcDestidAssocCmd :=
    and_within (by decide)
  have isLarge : writedata &&& mcAssocMask &&& mcConOpDev16M = writedata &&& mcDestidAssocLarge :=
    and_within (by decide)
  have isNumber : (scratchpad 23 &&& 0x0000ffff).toNat % 2 ^ 8 =
      (values tsi578RioMcDestidCfg &&& mcDestidCfgMaskNumBase).toNat := by
    rw [shadow.maskNum]
    exact Nat.mod_eq_of_lt (number.trans (by decide))
  have isDestid : scratchpad 23 &&& 0xffff0000 =
      values tsi578RioMcDestidCfg &&& mcDestidCfgDestidBase := shadow.destid
  have copy : Function.update scratchpad 24 (writedata &&& mcAssocMask) (24 - 1) = scratchpad 23 :=
    Function.update_of_ne (by decide) _ _
  have value : Function.update values tsi578RioMcDestidAssoc writedata tsi578RioMcDestidCfg =
      values tsi578RioMcDestidCfg := Function.update_of_ne (by decide) _ _
  have place : scratchpadConst 24 = ⟨tsi578RioMcDestidAssoc, mcAssocMask⟩ := rfl
  rw [scratchpadAfter, place]
  dsimp only
  rw [if_neg (by decide), if_pos rfl, tsi578Effect, if_neg (by decide), if_pos rfl,
    tsi57xWriteRegDestidAssoc, copy, value, Function.update_self, isNumber, isDestid, isCmd,
    isLarge]
  exact written.update_at inPlain (offset_idx number) (idxAfter_and same)

theorem Shadow.written (offset writedata : BitVec 32) :
    Shadow (copiesAfter offset writedata scratchpad) (tsi578Effect offset writedata values) := by
  by_cases shadowedOffset : ∃ idx < shadowed, (scratchpadConst idx).offset = offset
  · obtain ⟨idx, small, rfl⟩ := shadowedOffset
    have copies : copiesAfter (scratchpadConst idx).offset writedata scratchpad =
        scratchpadAfter idx writedata scratchpad := by
      rw [copiesAfter, scrpadIdxs_offset small]
      rfl
    rw [copies]
    rcases Nat.lt_or_ge idx maskCfgIdx with plain | command
    · have notCommand : ∀ idx < maskCfgIdx, (scratchpadConst idx).offset ≠ tsi578RioMcMaskCfg ∧
          (scratchpadConst idx).offset ≠ tsi578RioMcDestidAssoc := by
        decide +kernel
      obtain ⟨notMaskCfg, notAssoc⟩ := notCommand idx plain
      rw [scratchpadAfter, if_neg notMaskCfg, if_neg notAssoc, tsi578Effect, if_neg notMaskCfg,
        if_neg notAssoc]
      exact shadow.update_plain plain (by rw [BitVec.and_assoc, BitVec.and_self])
    · have three : idx = maskCfgIdx ∨ idx = 23 ∨ idx = 24 := by
        rw [shadowed] at small
        rw [maskCfgIdx] at command ⊢
        omega
      rcases three with rfl | rfl | rfl
      · exact shadow.maskCfg writedata
      · exact shadow.update_destid writedata
      · exact shadow.destidAssoc writedata
  · have other : ∀ idx < shadowed, (scratchpadConst idx).offset ≠ offset :=
      fun idx small same => shadowedOffset ⟨idx, small, same⟩
    have notMaskCfg : offset ≠ tsi578RioMcMaskCfg := (other maskCfgIdx (by decide)).symm
    have notDestid : offset ≠ tsi578RioMcDestidCfg := (other 23 (by decide)).symm
    have notAssoc : offset ≠ tsi578RioMcDestidAssoc := (other 24 (by decide)).symm
    have plain : ∀ idx < maskCfgIdx, (scratchpadConst idx).offset ≠ offset :=
      fun idx small => other idx (small.trans (by decide))
    rw [tsi578Effect, if_neg notMaskCfg, if_neg notAssoc]
    have stored := shadow.update_value plain notDestid writedata
    rw [copiesAfter]
    split
    next idx found =>
      have inTable := List.mem_filter.mp (List.mem_of_mem_head? found)
      have isOffset : (scratchpadConst idx).offset = offset := of_decide_eq_true inTable.2
      have behind : 23 < idx := by
        have notSmall : ¬idx < shadowed := fun small => other idx small isOffset
        rw [shadowed] at notSmall
        omega
      rw [scratchpadAfter, isOffset, if_neg notMaskCfg, if_neg notAssoc]
      exact stored.update_copy (.inr behind) _
    next => exact stored

end

end Writes

/-- A Tsi578 and what is known of it. -/
abbrev Tsi57xState := Attached DarDevInfo (RegisterFile (BitVec 32))

abbrev tsi578 : RegDevice (BitVec 32) (RegisterFile (BitVec 32)) := registerFile tsi578Effect

/-- No read fails; writes may. -/
def ReadsSucceed (file : RegisterFile (BitVec 32)) : Prop :=
  ∀ reg count, file.faults (.read reg) count = 0

theorem ReadsSucceed.pass {file : RegisterFile (BitVec 32)} (reads : ReadsSucceed file)
    (access : RegAccess (BitVec 32)) : ReadsSucceed (file.pass access) := by
  intro reg count
  by_cases same : RegAccess.read reg = access
  · subst same
    exact (congrFun (Function.update_self _ _ _) count).trans (reads reg (count + 1))
  · exact (congrFun (Function.update_of_ne same _ _) count).trans (reads reg count)

/-- The copies agree with the registers, which can be read. -/
structure Shadowed (state : Tsi57xState) : Prop where
  shadow : Shadow state.memory.scratchpad state.device.value
  reads : ReadsSucceed state.device

theorem tsi57xWriteReg_shadowed {writedata : BitVec 32} :
    Meets Shadowed (tsi57xWriteReg tsi578 offset writedata) (fun _ => Shadowed)
      fun _ => Shadowed := by
  have writes : Meets Shadowed (regWrite tsi578 offset writedata id : DarProgram _ Unit)
      (fun _ state => Shadowed { state with memory := { state.memory with
        scratchpad := copiesAfter offset writedata state.memory.scratchpad } })
      fun _ => Shadowed := by
    apply regWrite_file_meets
    · intro state before _
      refine ⟨before.shadow.written offset writedata, fun reg count => ?_⟩
      exact before.reads.pass (.write offset) reg count
    · intro state failure before _ _
      exact ⟨before.shadow, before.reads.pass _⟩
  apply Meets.bind writes
  intro _
  split
  next idx found =>
    apply Meets.modifyBind Shadowed
    · intro state after
      rw [copiesAfter, found] at after
      exact after
    · exact Meets.failIf (fun _ after _ => after) fun _ after _ => after
  next absent =>
    apply Meets.pure
    intro state after
    rw [copiesAfter, absent] at after
    exact after

/-- The bits of a register that can be written. -/
def writableBits (offset : BitVec 32) : BitVec 32 :=
  match (scrpadIdxs offset).head? with
  | some idx => (scratchpadConst idx).rwMask
  | none => 0xffffffff

/-- A read gives what a direct read of the device gives, in the bits that can be written. -/
def ReadAgrees (state : Tsi57xState) (offset : BitVec 32) : Prop :=
  ∃ value direct final directFinal,
    (tsi57xReadReg tsi578 offset).run state = .ok value final ∧
    (regRead tsi578 offset id : DarProgram _ _).run state = .ok direct directFinal ∧
    value &&& writableBits offset = direct &&& writableBits offset

variable {state : Tsi57xState}

theorem readAgrees (shadowed : Shadowed state) (notZero : offset ≠ 0)
    (notEof : offset ≠ scrpadEofOffset) : ReadAgrees state offset := by
  have direct := (@regRead_file_ok_iff _ _ _ _ tsi578Effect offset id state _ _).mpr
    ⟨shadowed.reads offset 0, rfl, rfl⟩
  by_cases isCommand : offset ∈ scrpadCommands
  · rw [ReadAgrees, tsi57xReadReg, if_pos isCommand]
    exact ⟨_, _, _, _, direct, direct, rfl⟩
  · by_cases hasCopy : ∃ idx < Dar.shadowed, (scratchpadConst idx).offset = offset
    · obtain ⟨idx, small, rfl⟩ := hasCopy
      have plain : idx < maskCfgIdx := by
        have command : ∀ idx < Dar.shadowed, ¬idx < maskCfgIdx →
            (scratchpadConst idx).offset ∈ scrpadCommands := by
          decide +kernel
        by_contra notPlain
        exact isCommand (command idx small notPlain)
      refine ⟨state.memory.scratchpad idx, _, state, _, ?_, direct, ?_⟩
      · rw [tsi57xReadReg, if_neg isCommand, scrpadIdxs_offset small]
        rfl
      · rw [writableBits, scrpadIdxs_offset small]
        exact shadowed.shadow.plain idx plain
    · have absent := scrpadIdxs_eq_nil (fun idx small same => hasCopy ⟨idx, small, same⟩) notZero
        notEof
      rw [ReadAgrees, tsi57xReadReg, if_neg isCommand, absent]
      exact ⟨_, _, _, _, direct, direct, rfl⟩

section Init

variable {values : BitVec 32 → BitVec 32}

/-- The copies before an index are read. -/
structure CopiedTo (values : BitVec 32 → BitVec 32) (idx : Nat) (state : Tsi57xState) :
    Prop where
  holds : state.device.value = values
  reads : ReadsSucceed state.device
  copied : ∀ copy < idx, state.memory.scratchpad copy = values (scratchpadConst copy).offset

theorem initScratchpadFrom_stops {left : Nat} :
    ∀ {idx : Nat}, idx + left = maxDarScrpadIdx → idx ≤ shadowed →
      Meets (CopiedTo values idx) (initScratchpadFrom tsi578 idx left) (fun _ _ => False)
        fun code state => code = rioErrRegAccessFail ∧ CopiedTo values shadowed state := by
  induction left with
  | zero =>
    intro idx total small
    have last : idx = maxDarScrpadIdx := total
    exact absurd (last ▸ small) (by decide)
  | succ left ih =>
    intro idx total small
    have eof : ∀ idx ≤ shadowed,
        ((scratchpadConst idx).offset = scrpadEofOffset ↔ idx = shadowed) := by
      decide +kernel
    apply Meets.failIfBind
    · intro state before isEof
      obtain rfl := (eof idx small).mp isEof
      exact ⟨rfl, before⟩
    · intro notEof
      have further : idx < shadowed :=
        Nat.lt_of_le_of_ne small fun same => notEof ((eof idx small).mpr same)
      have read : Meets (CopiedTo values idx)
          (regRead tsi578 (scratchpadConst idx).offset id : DarProgram _ _)
          (fun data state => data = values (scratchpadConst idx).offset ∧
            CopiedTo values idx state)
          fun code state => code = rioErrRegAccessFail ∧ CopiedTo values shadowed state := by
        apply regRead_file_meets
        · intro state before _
          exact ⟨congrFun before.holds _, before.holds, before.reads.pass _, before.copied⟩
        · intro state failure before isFault fails
          exact absurd (isFault.symm.trans (before.reads _ 0)) fails
      apply Meets.bind read
      intro data
      apply Meets.assume
      rintro rfl
      apply Meets.modifyBind (CopiedTo values (idx + 1))
      · intro state before
        refine ⟨before.holds, before.reads, fun copy copySmall => ?_⟩
        rcases Nat.lt_succ_iff_lt_or_eq.mp copySmall with earlier | rfl
        · exact (Function.update_of_ne (Nat.ne_of_lt earlier) _ _).trans
            (before.copied copy earlier)
        · exact Function.update_self _ _ _
      · exact ih (by omega) further

theorem CopiedTo.shadowed {state : Tsi57xState} (copied : CopiedTo values shadowed state)
    (maskNum : (values tsi578RioMcDestidCfg &&& 0x0000ffff).toNat < tsi578MaxMcMasks) :
    Shadowed state := by
  have destid : state.memory.scratchpad 23 = values tsi578RioMcDestidCfg :=
    copied.copied 23 (by decide)
  refine ⟨⟨fun idx small => ?_, ?_, ?_⟩, copied.reads⟩
  · rw [copied.copied idx (small.trans (by decide)), copied.holds]
  · rw [destid, copied.holds]
  · rw [destid, copied.holds]
    apply BitVec.eq_of_toNat_eq
    have low : values tsi578RioMcDestidCfg &&& mcDestidCfgMaskNumBase =
        values tsi578RioMcDestidCfg &&& 0x0000ffff &&& mcDestidCfgMaskNumBase :=
      (and_within (by decide)).symm
    rw [low, BitVec.toNat_and _ mcDestidCfgMaskNumBase]
    exact ((Nat.and_two_pow_sub_one_eq_mod _ 3).trans (Nat.mod_eq_of_lt maskNum)).symm

end Init

/-- A write of a run. -/
structure TsiWrite where
  offset : BitVec 32
  writedata : BitVec 32

/-- The state after a write, whether it succeeds or not. -/
def TsiWrite.step (state : Tsi57xState) (call : TsiWrite) : Tsi57xState :=
  finalState ((tsi57xWriteReg tsi578 call.offset call.writedata).run state)

/-- The copies are read with success, and after any writes reads agree with the device. -/
def ShadowRefines (start : Tsi57xState) : Prop :=
  ∃ final, (tsi57xInitScratchpad tsi578).run start = .ok () final ∧
    ∀ writes offset, ReadAgrees (run TsiWrite.step final writes) offset

/-- After any writes, the shadow is read as the device would be. -/
theorem readAgrees_run (shadowed : Shadowed state) (writes : List TsiWrite) (notZero : offset ≠ 0)
    (notEof : offset ≠ scrpadEofOffset) :
    ReadAgrees (run TsiWrite.step state writes) offset := by
  have after : Shadowed (run TsiWrite.step state writes) :=
    run_invariant Shadowed
      (fun _ _ before _ => tsi57xWriteReg_shadowed.finalState before) shadowed
      (@guarded_of_forall _ _ _ (fun _ _ => True) (fun _ _ => trivial) state writes)
  exact readAgrees after notZero notEof

/-- The copies are never read with success, although all reads of registers succeed; but they are
read, and after any writes reads agree with the device but for offset 0 and the mark. -/
theorem not_shadowRefines {start : Tsi57xState} (reads : ReadsSucceed start.device) :
    ¬ShadowRefines start ∧
      ∃ final, (tsi57xInitScratchpad tsi578).run start = .error rioErrRegAccessFail final ∧
        ((start.device.value tsi578RioMcDestidCfg &&& 0x0000ffff).toNat < tsi578MaxMcMasks →
          ∀ writes offset, offset ≠ 0 → offset ≠ scrpadEofOffset →
            ReadAgrees (run TsiWrite.step final writes) offset) := by
  have stops := @initScratchpadFrom_stops start.device.value maxDarScrpadIdx 0 (Nat.zero_add _)
    (Nat.zero_le _) start ⟨rfl, reads, fun _ early => absurd early (Nat.not_lt_zero _)⟩
  constructor
  · rintro ⟨final, succeeded, -⟩
    exact stops.1 succeeded
  · cases ran : (tsi57xInitScratchpad tsi578).run start with
    | ok value final => exact (stops.1 ran).elim
    | error code final =>
      obtain ⟨rfl, copied⟩ := stops.2 ran
      refine ⟨final, rfl, fun maskNum writes offset notZero notEof => ?_⟩
      exact readAgrees_run (copied.shadowed maskNum) writes notZero notEof

/-- A Tsi578 whose registers are all 0. -/
def zeroDevice : Tsi57xState where
  memory := { plainDevice.memory with driverFamily := .tsi57x }
  device := ⟨fun _ => 0, fun _ _ => 0⟩

theorem not_shadowRefines_zeroDevice :
    ReadsSucceed zeroDevice.device ∧ ¬ShadowRefines zeroDevice := by
  refine ⟨fun _ _ => rfl, ?_⟩
  rintro ⟨final, succeeded, -⟩
  have fails :
      endsWith (fun _ _ => true) ((tsi57xInitScratchpad tsi578).run zeroDevice) = false := by
    decide +kernel
  rw [succeeded] at fails
  cases fails

/-- Port 2 is added to the first mask. -/
theorem not_shadowRefines_addPort :
    ¬ShadowRefines zeroDevice ∧
      ∃ final, (tsi57xInitScratchpad tsi578).run zeroDevice = .error rioErrRegAccessFail final ∧
        ReadAgrees (run TsiWrite.step final [⟨tsi578RioMcMaskCfg, 0x00000210⟩])
          (tsi578RioMcMskx 0) := by
  have reads : ReadsSucceed zeroDevice.device := fun _ _ => rfl
  obtain ⟨notRefines, final, fails, agrees⟩ := not_shadowRefines reads
  exact ⟨notRefines, final, fails, agrees (by decide) _ _ (by decide) (by decide)⟩

end RioFabric.Dar

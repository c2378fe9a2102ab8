import RioFabric.Lib.WriteRuns
import RioFabric.RouteTable.LocalDomain

/-!
# Programming the masks of a Tsi57x

The loop of `program_mc_masks` programs the masks that it selects before the first one with a port
that does not exist.  A mask loses its mark before its two registers are written, so one whose
write fails has lost it without being in the device.
-/

namespace RioFabric.RouteTable

open Lib

/-- The value for `TSI578_RIO_MC_IDX`. -/
def mcIdxValue (mask : RioRtMcInfo) : BitVec 32 :=
  BitVec.ofNat 32 mask.mcDestId ||| (if mask.tt = .ttDev16 then 0x40000000 else 0) |||
    if mask.inUse then 0x80000000 else 0

/-- The value for `TSI578_RIO_MC_MSKX`. -/
def mcMskxValue (mask : RioRtMcInfo) : BitVec 32 := mask.mcMask <<< 16 &&& 0xFFFF0000

/-- What is written for a mask. -/
def maskWrites (rt : RioRtState) (idx : RtIdx) : List (TsiReg × BitVec 32) :=
  [(.mcIdx idx, mcIdxValue (rt.mcMasks idx)), (.mcMskx idx, mcMskxValue (rt.mcMasks idx))]

/-- All ports of the mask exist. -/
def PortsExist (devInfo : DarDevInfo) (rt : RioRtState) (idx : RtIdx) : Prop :=
  ~~~(BitVec.ofNat 32 (2 ^ devInfo.tsi57xNumPorts) - 1) &&& (rt.mcMasks idx).mcMask = 0

instance (devInfo : DarDevInfo) (rt : RioRtState) (idx : RtIdx) :
    Decidable (PortsExist devInfo rt idx) := inferInstanceAs (Decidable (_ = _))

/-- The masks of `maskIdxs` that the loop programs. -/
def selectedMasks (devInfo : DarDevInfo) (progAll : Bool) (rt : RioRtState)
    (maskIdxs : List RtIdx) : List RtIdx :=
  (maskIdxs.takeWhile fun idx => PortsExist devInfo rt idx).filter fun idx =>
    progAll || (rt.mcMasks idx).changed

def deviceMasks : List RtIdx :=
  (List.finRange 256).filter fun maskIdx => maskIdx.val < tsi578MaxMcMasks

/-- The masks that a call programs. -/
def programmedMasks (devInfo : DarDevInfo) (progAll : Bool) (rt : RioRtState) : List RtIdx :=
  selectedMasks devInfo progAll rt deviceMasks

section Selected

variable {devInfo : DarDevInfo} {progAll : Bool} {rt : RioRtState} {maskIdx : RtIdx}
  {maskIdxs : List RtIdx}

theorem selectedMasks_cons_of_not (missing : ¬PortsExist devInfo rt maskIdx) :
    selectedMasks devInfo progAll rt (maskIdx :: maskIdxs) = [] := by
  rw [selectedMasks, List.takeWhile_cons_of_neg (by simpa using missing)]
  rfl

theorem selectedMasks_cons_of_selected (exist : PortsExist devInfo rt maskIdx)
    (selected : (progAll || (rt.mcMasks maskIdx).changed) = true) :
    selectedMasks devInfo progAll rt (maskIdx :: maskIdxs) =
      maskIdx :: selectedMasks devInfo progAll rt maskIdxs := by
  rw [selectedMasks, List.takeWhile_cons_of_pos (by simpa using exist),
    List.filter_cons_of_pos (p := fun idx => progAll || (rt.mcMasks idx).changed) selected]
  rfl

theorem selectedMasks_cons_of_unselected (exist : PortsExist devInfo rt maskIdx)
    (unselected : ¬(progAll || (rt.mcMasks maskIdx).changed) = true) :
    selectedMasks devInfo progAll rt (maskIdx :: maskIdxs) =
      selectedMasks devInfo progAll rt maskIdxs := by
  rw [selectedMasks, List.takeWhile_cons_of_pos (by simpa using exist),
    List.filter_cons_of_neg (p := fun idx => progAll || (rt.mcMasks idx).changed) unselected]
  rfl

end Selected

section Loop

variable {δ : Type} (device : RegDevice TsiReg δ) {devInfo : DarDevInfo} {progAll : Bool}
  {rt : RioRtState} {maskIdx : RtIdx} {maskIdxs : List RtIdx} {state : Attached RioRtState δ}

/-- What a turn of the loop does for a mask that it programs. -/
def writeMask (rt : RioRtState) (maskIdx : RtIdx) : RtProgram δ Unit := do
  modifyMemory fun rt => rt.unmarkMcMask maskIdx
  darWrite device (.mcIdx maskIdx) (mcIdxValue (rt.mcMasks maskIdx)) (.programMcMasks 3)
  darWrite device (.mcMskx maskIdx) (mcMskxValue (rt.mcMasks maskIdx)) (.programMcMasks 4)

/-- What the loop does after the masks that it programs. -/
def afterMasks (devInfo : DarDevInfo) (progAll : Bool) (rt : RioRtState) (written : Bool)
    (maskIdxs : List RtIdx) : RtProgram δ Unit :=
  failIf (written = false ∧ selectedMasks devInfo progAll rt maskIdxs = [] ∧
    ¬∀ idx ∈ maskIdxs, PortsExist devInfo rt idx) (.rioErrInvalidParameter, .programMcMasks 2)

theorem failIf_congr {ε σ : Type} {condition other : Prop} [Decidable condition] [Decidable other]
    {code : ε} (same : condition ↔ other) :
    (failIf condition code : EStateM ε σ Unit) = failIf other code :=
  if_congr same rfl rfl

theorem afterMasks_written :
    afterMasks (δ := δ) devInfo progAll rt true maskIdxs = pure () := by
  rw [afterMasks, failIf, if_neg]
  exact fun stops => absurd stops.1 (by decide)

theorem afterMasks_cons_of_not (missing : ¬PortsExist devInfo rt maskIdx) (written : Bool) :
    afterMasks (δ := δ) devInfo progAll rt written (maskIdx :: maskIdxs) =
      failIf (written = false) (.rioErrInvalidParameter, .programMcMasks 2) := by
  apply failIf_congr
  rw [selectedMasks_cons_of_not missing, List.forall_mem_cons]
  exact and_iff_left ⟨rfl, fun all => missing all.1⟩

theorem afterMasks_cons_of_selected (exist : PortsExist devInfo rt maskIdx)
    (selected : (progAll || (rt.mcMasks maskIdx).changed) = true) (written : Bool) :
    afterMasks (δ := δ) devInfo progAll rt written (maskIdx :: maskIdxs) = pure () := by
  rw [afterMasks, failIf, if_neg]
  rw [selectedMasks_cons_of_selected exist selected]
  exact fun stops => absurd stops.2.1 (List.cons_ne_nil _ _)

theorem afterMasks_cons_of_unselected (exist : PortsExist devInfo rt maskIdx)
    (unselected : ¬(progAll || (rt.mcMasks maskIdx).changed) = true) (written : Bool) :
    afterMasks (δ := δ) devInfo progAll rt written (maskIdx :: maskIdxs) =
      afterMasks devInfo progAll rt written maskIdxs := by
  apply failIf_congr
  rw [selectedMasks_cons_of_unselected exist unselected, List.forall_mem_cons, and_iff_right exist]

variable {device}

theorem writeMask_memory {final : Attached RioRtState δ}
    (ran : (writeMask device rt maskIdx).run state = .ok () final) :
    final.memory = state.memory.unmarkMcMask maskIdx := by
  have meets : Meets (fun before : Attached RioRtState δ => before.memory = state.memory)
      (writeMask device rt maskIdx)
      (fun _ after => after.memory = state.memory.unmarkMcMask maskIdx) fun _ _ => True := by
    have write : ∀ reg value impRc,
        Meets (fun before => before.memory = state.memory.unmarkMcMask maskIdx)
          (darWrite device reg value impRc)
          (fun _ after => after.memory = state.memory.unmarkMcMask maskIdx) fun _ _ => True :=
      fun reg value impRc => @meets_regWrite RtRc TsiReg RioRtState δ device reg _
        (fun memory => memory = state.memory.unmarkMcMask maskIdx) _ value fun _ _ _ => trivial
    have unmark : Meets (fun before : Attached RioRtState δ => before.memory = state.memory)
        (modifyMemory fun rt => rt.unmarkMcMask maskIdx)
        (fun _ after => after.memory = state.memory.unmarkMcMask maskIdx)
        fun (_ : RtRc) _ => True :=
      Meets.modify fun before same => congrArg (fun memory => memory.unmarkMcMask maskIdx) same
    apply Meets.bind unmark
    intro _
    apply Meets.bind (write _ _ _)
    exact fun _ => write _ _ _
  exact (meets rfl).1 ran

theorem tsi57xProgramMcMaskLoop_cons (written : Bool)
    (here : state.memory.mcMasks maskIdx = rt.mcMasks maskIdx) :
    (tsi57xProgramMcMaskLoop device devInfo progAll written (maskIdx :: maskIdxs)).run state =
      (if ¬PortsExist devInfo rt maskIdx then
        failIf (written = false) (.rioErrInvalidParameter, .programMcMasks 2)
      else if progAll || (rt.mcMasks maskIdx).changed then
        writeMask device rt maskIdx >>= fun _ =>
          tsi57xProgramMcMaskLoop device devInfo progAll true maskIdxs
      else tsi57xProgramMcMaskLoop device devInfo progAll written maskIdxs).run state := by
  rw [tsi57xProgramMcMaskLoop, get_bind_run, here]
  simp only [writeMask, bind_assoc]
  rfl

theorem tsi57xProgramMcMaskLoop_run (nodup : maskIdxs.Nodup) (written : Bool)
    (same : ∀ idx ∈ maskIdxs, state.memory.mcMasks idx = rt.mcMasks idx) :
    (tsi57xProgramMcMaskLoop device devInfo progAll written maskIdxs).run state =
      ((selectedMasks devInfo progAll rt maskIdxs).forM (writeMask device rt) >>= fun _ =>
        afterMasks devInfo progAll rt written maskIdxs).run state := by
  induction maskIdxs generalizing state written with
  | nil =>
    rw [afterMasks, failIf, if_neg (fun stops => stops.2.2 (List.forall_mem_nil _))]
    rfl
  | cons maskIdx maskIdxs ih =>
    obtain ⟨fresh, nodup⟩ := List.nodup_cons.mp nodup
    obtain ⟨here, rest⟩ := List.forall_mem_cons.mp same
    rw [tsi57xProgramMcMaskLoop_cons written here]
    by_cases exist : PortsExist devInfo rt maskIdx
    · rw [if_neg (not_not.mpr exist)]
      by_cases selected : (progAll || (rt.mcMasks maskIdx).changed) = true
      · rw [if_pos selected, selectedMasks_cons_of_selected exist selected,
          afterMasks_cons_of_selected exist selected]
        show _ = ((writeMask device rt maskIdx >>= fun _ =>
          (selectedMasks devInfo progAll rt maskIdxs).forM (writeMask device rt)) >>= _).run state
        rw [bind_assoc, EStateM.run_bind, EStateM.run_bind]
        cases ran : (writeMask device rt maskIdx).run state with
        | error code final => rfl
        | ok _ middle =>
          have later : ∀ idx ∈ maskIdxs, middle.memory.mcMasks idx = rt.mcMasks idx := by
            intro idx ahead
            have other : idx ≠ maskIdx := fun same => fresh (same ▸ ahead)
            rw [writeMask_memory ran]
            exact (Function.update_of_ne other _ _).trans (rest idx ahead)
          have goesOn := ih nodup true later
          rw [afterMasks_written] at goesOn
          exact goesOn
      · rw [if_neg selected, selectedMasks_cons_of_unselected exist selected,
          afterMasks_cons_of_unselected exist selected]
        exact ih nodup written rest
    · rw [if_pos exist, selectedMasks_cons_of_not exist, afterMasks_cons_of_not exist]
      rfl

end Loop

/-- Some cells of a table are cleared. -/
def clearCells {γ : Type} (clear : γ → γ) (cells : List RtIdx) (table : RtIdx → γ) : RtIdx → γ :=
  fun idx => if idx ∈ cells then clear (table idx) else table idx

section ClearCells

variable {γ : Type} {clear : γ → γ} {cells : List RtIdx} {table : RtIdx → γ} {idx : RtIdx}

theorem clearCells_of_not_mem (ahead : idx ∉ cells) :
    clearCells clear cells table idx = table idx :=
  if_neg ahead

theorem update_clearCells (again : ∀ cell, clear (clear cell) = clear cell) :
    Function.update (clearCells clear cells table) idx (clear (clearCells clear cells table idx)) =
      clearCells clear (cells ++ [idx]) table := by
  funext other
  by_cases here : other = idx
  · subst here
    rw [Function.update_self]
    by_cases earlier : other ∈ cells
    · simp [clearCells, earlier, again]
    · simp [clearCells, earlier]
  · rw [Function.update_of_ne here]
    simp [clearCells, here]

theorem clearCells_concat_of_clear (isClear : clear (table idx) = table idx) :
    clearCells clear (cells ++ [idx]) table = clearCells clear cells table := by
  funext other
  by_cases here : other = idx
  · subst here
    simp [clearCells, isClear]
  · simp [clearCells, here]

end ClearCells

/-- A mask without its mark. -/
def RioRtMcInfo.unmarked (mask : RioRtMcInfo) : RioRtMcInfo := { mask with changed := false }

/-- The table once some masks have lost their marks. -/
def RioRtState.unmarkMcMasks (rt : RioRtState) (masks : List RtIdx) : RioRtState :=
  { rt with mcMasks := clearCells RioRtMcInfo.unmarked masks rt.mcMasks }

theorem unmarkMcMasks_concat (rt : RioRtState) (masks : List RtIdx) (idx : RtIdx) :
    (rt.unmarkMcMasks masks).unmarkMcMask idx = rt.unmarkMcMasks (masks ++ [idx]) :=
  congrArg (fun masks => { rt with mcMasks := masks })
    (update_clearCells fun (mask : RioRtMcInfo) => (rfl : mask.unmarked.unmarked = mask.unmarked))

section Writes

variable {δ : Type} {device : RegDevice TsiReg δ} {rt : RioRtState} {idx : RtIdx}
  {masks : List RtIdx}

theorem writeMask_performs :
    Performs device (fun memory => memory = rt.unmarkMcMasks masks) (writeMask device rt idx) True
      (maskWrites rt idx) fun _ memory => memory = rt.unmarkMcMasks (masks ++ [idx]) := by
  have unmark : Performs device (fun memory => memory = rt.unmarkMcMasks masks)
      (modifyMemory fun rt => rt.unmarkMcMask idx : RtProgram δ PUnit) True []
      fun _ memory => memory = rt.unmarkMcMasks (masks ++ [idx]) :=
    Performs.modifyMemory fun memory same => by rw [same, unmarkMcMasks_concat]
  have all : Performs device (fun memory => memory = rt.unmarkMcMasks masks)
      (writeMask device rt idx) (True ∧ True ∧ True) (maskWrites rt idx)
      fun _ memory => memory = rt.unmarkMcMasks (masks ++ [idx]) :=
    unmark.andThen (Performs.andThen Performs.regWrite Performs.regWrite)
  exact all.weaken (fun _ before => before) (by simp) fun _ _ after => after

theorem writeMasks_performs (masks : List RtIdx) :
    Performs device (fun memory => memory = rt) (masks.forM (writeMask device rt)) True
      (masks.flatMap (maskWrites rt)) fun _ memory => memory = rt.unmarkMcMasks masks := by
  have all : Performs device (fun memory => memory = rt.unmarkMcMasks [])
      (masks.forM (writeMask device rt)) (∀ idx ∈ masks, True) (masks.flatMap (maskWrites rt))
      fun _ memory => memory = rt.unmarkMcMasks masks :=
    Performs.forM (I := fun masks memory => memory = rt.unmarkMcMasks masks)
      fun _ _ _ _ => writeMask_performs
  exact all.weaken (fun _ before => before) (by simp) fun _ _ after => after

theorem writeMask_error {state final : Attached RioRtState (δ × List (RegAttempt TsiReg))}
    {rc : RtRc} (stopped : (writeMask (traced device) rt idx).run state = .error rc final) :
    final.memory = state.memory.unmarkMcMask idx ∧
      ∃ tail, final.device.2 = state.device.2 ++ tail ∧
        ∀ value, .write (.mcMskx idx) value none ∉ tail := by
  have unmark : Meets (fun before => before = state)
      (modifyMemory fun rt => rt.unmarkMcMask idx)
      (fun _ after => after.memory = state.memory.unmarkMcMask idx ∧
        after.device.2 = state.device.2) fun (_ : RtRc) _ => False :=
    Meets.modify fun before same => by rw [same]; exact ⟨rfl, rfl⟩
  have first : Meets
      (fun before => before.memory = state.memory.unmarkMcMask idx ∧
        before.device.2 = state.device.2)
      (darWrite (traced device) (.mcIdx idx) (mcIdxValue (rt.mcMasks idx)) (.programMcMasks 3))
      (fun _ after => after.memory = state.memory.unmarkMcMask idx ∧
        after.device.2 =
          state.device.2 ++ [.write (.mcIdx idx) (mcIdxValue (rt.mcMasks idx)) none])
      fun _ after => after.memory = state.memory.unmarkMcMask idx ∧
        ∃ tail, after.device.2 = state.device.2 ++ tail ∧
          ∀ value, .write (.mcMskx idx) value none ∉ tail := by
    apply regWrite_traced
    · rintro before after ⟨memory, trace⟩
      exact ⟨memory, by rw [trace]⟩
    · rintro before after failure ⟨memory, trace⟩
      exact ⟨memory, _, by rw [trace], by simp⟩
  have meets : Meets (fun before => before = state) (writeMask (traced device) rt idx)
      (fun _ _ => True) fun _ after => after.memory = state.memory.unmarkMcMask idx ∧
        ∃ tail, after.device.2 = state.device.2 ++ tail ∧
          ∀ value, .write (.mcMskx idx) value none ∉ tail := by
    apply Meets.bind (unmark.weakenFail fun _ _ never => never.elim)
    intro _
    apply Meets.bind first
    intro _
    apply regWrite_traced
    · exact fun _ _ _ => trivial
    · rintro before after failure ⟨memory, trace⟩
      exact ⟨memory, _, by rw [trace, List.append_assoc], by simp⟩
  exact (meets rfl).2 stopped

end Writes

end RioFabric.RouteTable

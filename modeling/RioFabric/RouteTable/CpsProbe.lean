import RioFabric.RouteTable.CpsReachable

/-!
# Reading a CPS table back

`CPS_rio_rt_set_all` followed by `CPS_rio_rt_probe_all` on a device whose registers hold what
was last written to them.  The codes of the registers are translated back to the values they
came from because ports, masks and special codes do not overlap.
-/

namespace RioFabric.RouteTable

open Lib

/-! ## Codes -/

theorem and_of_and_not {value mask : BitVec 32} (outside : value &&& ~~~mask = 0) :
    value &&& mask = value := by
  calc value &&& mask = (value &&& mask) ||| (value &&& ~~~mask) := by
        rw [outside]
        exact BitVec.or_zero.symm
    _ = value &&& (mask ||| ~~~mask) := BitVec.and_or_distrib_left.symm
    _ = value := by rw [BitVec.or_not_self, BitVec.and_allOnes]

variable {value : PeRtVal}

theorem stdValue_cases (known : value &&& ~~~0x3FF = 0) :
    ∃ n : Fin 1024, value = BitVec.ofNat 32 n.val := by
  have low := and_of_and_not known
  have bounded : value.toNat < 1024 := by
    rw [← low, BitVec.toNat_and]
    exact Nat.lt_of_le_of_lt Nat.and_le_right (by decide)
  exact ⟨⟨value.toNat, bounded⟩, by simp⟩

theorem port_of_known : ∀ n : Fin 1024, rioRtvIsPort (BitVec.ofNat 32 n.val) = true →
    BitVec.ofNat 32 n.val &&& 0xFF = BitVec.ofNat 32 n.val := by
  decide +kernel

theorem mask_of_known : ∀ n : Fin 1024, rioRtvIsMcMsk (BitVec.ofNat 32 n.val) = true →
    rioRtvMcMsk (rioRteIdx (BitVec.ofNat 32 n.val)) = BitVec.ofNat 32 n.val := by
  decide +kernel

theorem cpsMcPort_facts : ∀ maskNo : RtIdx, maskNo.val < cpsMaxMcMask →
    cpsMcPort maskNo &&& 0xFF = cpsMcPort maskNo ∧ cpsMcPort maskNo ≠ cpsRtUseDefaultRoute ∧
      cpsMcPort maskNo ≠ cpsRtNoRoute ∧ cpsMcPort maskNo ≠ cpsRtUseDeviceTable ∧
      (cpsMcPort maskNo).toNat = maskNo.val + 0x40 := by
  decide +kernel

variable {devInfo : CpsDevInfo}

theorem cpsToStd_port (isByte : value &&& 0xFF = value) (exists_ : value.toNat < devInfo.numPorts) :
    cpsRteTranslateCpsToStd devInfo value = some value := by
  have small := devInfo.portsExist
  have notCode (code : BitVec 32) (large : 24 ≤ code.toNat) : value ≠ code := by
    rintro rfl
    omega
  have noHighBits : value &&& ~~~0xFF = 0 := by
    rw [← isByte, BitVec.and_assoc]
    exact BitVec.and_zero
  rw [cpsRteTranslateCpsToStd, if_neg (notCode cpsRtUseDefaultRoute (by decide)),
    if_neg (notCode cpsRtNoRoute (by decide)), if_neg (notCode cpsRtUseDeviceTable (by decide)),
    if_pos exists_, if_neg (not_not.mpr noHighBits)]

theorem cpsToStd_mask {maskNo : RtIdx} (exists_ : maskNo.val < cpsMaxMcMask) :
    cpsRteTranslateCpsToStd devInfo (cpsMcPort maskNo) = some (rioRtvMcMsk maskNo) := by
  have small := devInfo.portsExist
  obtain ⟨_, notDefault, notNone, notTable, toNat⟩ := cpsMcPort_facts maskNo exists_
  have notPort : ¬(cpsMcPort maskNo).toNat < devInfo.numPorts := by omega
  have isMask : 0x40 ≤ (cpsMcPort maskNo).toNat ∧
      (cpsMcPort maskNo).toNat < 0x40 + cpsMaxMcMask := by
    omega
  rw [cpsRteTranslateCpsToStd, if_neg notDefault, if_neg notNone, if_neg notTable, if_neg notPort,
    if_pos isMask, toNat, Nat.add_sub_cancel]
  simp

theorem cpsToStd_stdToCps {code : BitVec 32}
    (translated : cpsRteTranslateStdToCps devInfo value = some code) :
    cpsRteTranslateCpsToStd devInfo (code &&& 0xFF) = some value := by
  unfold cpsRteTranslateStdToCps at translated
  split at translated
  next isDefault =>
    cases translated
    rw [isDefault]
    rfl
  split at translated
  next isDrop =>
    cases translated
    rw [isDrop]
    rfl
  split at translated
  next isLocal =>
    cases translated
    rw [isLocal]
    rfl
  split at translated
  next => contradiction
  next known =>
    obtain ⟨n, rfl⟩ := stdValue_cases (not_not.mp known)
    split at translated
    next isPort =>
      cases translated
      have isByte := port_of_known n isPort.1
      have exists_ := isPort.2
      rw [isByte] at exists_ ⊢
      exact cpsToStd_port isByte exists_
    split at translated
    next isMask =>
      cases translated
      rw [(cpsMcPort_facts _ isMask.2).1, cpsToStd_mask isMask.2, mask_of_known n isMask.1]
    next => contradiction

/-! ## The device -/

/-- What the registers hold. -/
abbrev CpsHw := CpsReg → BitVec 32

/-- A write to the first register reaches the second. -/
def CpsReg.Reaches : CpsReg → CpsReg → Prop
  | .domRte setOnPort idx, .domRte port other => RouteTable.Reaches setOnPort port ∧ other = idx
  | .devRte setOnPort idx, .devRte port other => RouteTable.Reaches setOnPort port ∧ other = idx
  | .mcastMask setOnPort idx, .mcastMask port other =>
    RouteTable.Reaches setOnPort port ∧ other = idx
  | reg, other => reg = other

instance : ∀ reg other, Decidable (CpsReg.Reaches reg other) := by
  intro reg other
  unfold CpsReg.Reaches
  split <;> infer_instance

/-- The device after a write. -/
def CpsReg.written (reg : CpsReg) (value : BitVec 32) (hw : CpsHw) : CpsHw := fun other =>
  if reg.Reaches other then value else hw other

/-- A device whose registers hold what was last written to them.  Writes may fail. -/
def cpsStore (fails : CpsReg → Option Nat) : RegDevice CpsReg CpsHw where
  read reg hw := (.ok (hw reg), hw)
  write reg value hw :=
    match fails reg with
    | some code => (some code, hw)
    | none => (none, reg.written value hw)

section Store

variable {fails : CpsReg → Option Nat} {reg : CpsReg} {value : BitVec 32} {impRc : ImpRc}
  {Pre : Attached RioRtState CpsHw → Prop} {Fail : RtRc → Attached RioRtState CpsHw → Prop}

theorem cpsStore_write {Post : Unit → Attached RioRtState CpsHw → Prop}
    (stored : ∀ state, Pre state → Post () ⟨state.memory, reg.written value state.device⟩) :
    Meets Pre (darWrite (cpsStore fails) reg value impRc) Post fun _ _ => True := by
  intro state before
  refine ⟨fun result final ran => ?_, fun _ _ _ => trivial⟩
  simp only [EStateM.run, darWrite, regWrite, cpsStore] at ran
  cases failed : fails reg with
  | some code =>
    rw [failed] at ran
    cases ran
  | none =>
    rw [failed] at ran
    cases ran
    exact stored state before

theorem cpsStore_read {α : Type} {next : BitVec 32 → RtProgram CpsHw α}
    {Post : α → Attached RioRtState CpsHw → Prop}
    (known : ∀ state, Pre state → state.device reg = value)
    (tail : Meets Pre (next value) Post Fail) :
    Meets Pre (darRead (cpsStore fails) reg impRc >>= next) Post Fail := by
  intro state before
  rw [← known state before] at tail
  exact tail before

theorem cpsStore_readCode {α : Type} {next : BitVec 32 → RtProgram CpsHw α}
    {Post : α → Attached RioRtState CpsHw → Prop} {value : PeRtVal} (known : ∀ state, Pre state →
      cpsRteTranslateStdToCps devInfo value = some (state.device reg))
    (tail : ∀ code, cpsRteTranslateStdToCps devInfo value = some code →
      Meets Pre (next code) Post Fail) :
    Meets Pre (darRead (cpsStore fails) reg impRc >>= next) Post Fail := by
  intro state before
  exact tail _ (known state before) before

end Store

/-! ## Programming -/

section Written

variable (devInfo : CpsDevInfo) (rt : RioRtState) (port : Nat)

/-- A value for the default route that `cps_rt_set_common` accepts. -/
def CpsDfltRoute (value : PeRtVal) : Prop :=
  value.toNat < devInfo.numCpsPorts ∨ value = rioRteDrop

/-- A value for an entry that `cps_program_rte_entries` accepts. -/
def CpsEntry (domEntry : Bool) (value : PeRtVal) : Prop :=
  value.toNat < devInfo.numCpsPorts ∨ value = rioRteDfltPort ∨ value = rioRteDrop ∨
    if domEntry then value = rioRteLvlG0 else rioRtvIsMcMsk value = true

/-- The register of an entry. -/
def cpsRteReg (domEntry : Bool) (idx : RtIdx) : CpsReg :=
  if domEntry then .domRte port idx else .devRte port idx

/-- The registers hold the default route if `dflt`, and the masks and entries of some sets. -/
structure CpsWritten (dflt : Prop) (masks : Set RtIdx) (entries : Bool → Set RtIdx)
    (state : Attached RioRtState CpsHw) : Prop where
  same : SameValues rt state.memory
  dflt : dflt → cpsRteTranslateStdToCps devInfo rt.defaultRoute =
    some (state.device .rteDefaultPort)
  masks : ∀ mcIdx ∈ masks, state.device (.mcastMask port mcIdx) = (rt.mcMasks mcIdx).mcMask
  entries : ∀ domEntry, ∀ idx ∈ entries domEntry,
    CpsEntry devInfo domEntry (rt.target domEntry idx).rteVal ∧
      cpsRteTranslateStdToCps devInfo (rt.target domEntry idx).rteVal =
        some (state.device (cpsRteReg port domEntry idx))

end Written

section Program

variable {rt : RioRtState} {port setOnPort : Nat} {dflt : Prop} {masks : Set RtIdx}
  {entries : Bool → Set RtIdx} {state : Attached RioRtState CpsHw}

namespace CpsWritten

theorem writeMask (written : CpsWritten devInfo rt port dflt masks entries state)
    (reached : Reaches setOnPort port) (mcIdx : RtIdx) :
    CpsWritten devInfo rt port dflt (insert mcIdx masks) entries
      ⟨state.memory,
        (CpsReg.mcastMask setOnPort mcIdx).written (rt.mcMasks mcIdx).mcMask state.device⟩ where
  same := written.same
  dflt := written.dflt
  masks idx isWritten := by
    by_cases here : idx = mcIdx
    · rw [here]
      exact if_pos ⟨reached, rfl⟩
    · rw [← written.masks idx (Set.mem_of_mem_insert_of_ne isWritten here)]
      exact if_neg fun reaches => here reaches.2
  entries domEntry idx isWritten := by
    have before := written.entries domEntry idx isWritten
    cases domEntry <;> exact before

variable {code : BitVec 32}

section

variable (written : CpsWritten devInfo rt port dflt masks entries state)
include written

theorem writeEntry (reached : Reaches setOnPort port) {domEntry : Bool} {idx : RtIdx}
    (accepted : CpsEntry devInfo domEntry (rt.target domEntry idx).rteVal)
    (translated : cpsRteTranslateStdToCps devInfo (rt.target domEntry idx).rteVal = some code) :
    CpsWritten devInfo rt port dflt masks
      (Function.update entries domEntry (insert idx (entries domEntry)))
      ⟨state.memory, (cpsRteReg setOnPort domEntry idx).written code state.device⟩ where
  same := written.same
  dflt := by cases domEntry <;> exact written.dflt
  masks := by cases domEntry <;> exact written.masks
  entries table other isWritten := by
    by_cases here : table = domEntry ∧ other = idx
    · obtain ⟨rfl, rfl⟩ := here
      refine ⟨accepted, translated.trans (congrArg some ?_)⟩
      cases table <;> exact (if_pos ⟨reached, rfl⟩).symm
    · have before : other ∈ entries table := by
        by_cases sameTable : table = domEntry
        · rw [sameTable, Function.update_self] at isWritten
          rw [sameTable]
          exact Set.mem_of_mem_insert_of_ne isWritten fun sameIdx => here ⟨sameTable, sameIdx⟩
        · rwa [Function.update_of_ne sameTable] at isWritten
      obtain ⟨wasAccepted, wasTranslated⟩ := written.entries table other before
      refine ⟨wasAccepted, wasTranslated.trans (congrArg some (Eq.symm (if_neg ?_)))⟩
      intro reaches
      cases table <;> cases domEntry <;> simp_all [cpsRteReg, CpsReg.Reaches]

theorem writeDflt (translated : cpsRteTranslateStdToCps devInfo rt.defaultRoute = some code) :
    CpsWritten devInfo rt port True masks entries
      ⟨state.memory, CpsReg.rteDefaultPort.written code state.device⟩ where
  same := written.same
  dflt _ := translated
  masks := written.masks
  entries domEntry idx isWritten := by
    have before := written.entries domEntry idx isWritten
    cases domEntry <;> exact before

theorem writeDomain (value : BitVec 32) :
    CpsWritten devInfo rt port dflt masks entries
      ⟨state.memory, CpsReg.rioDomain.written value state.device⟩ where
  same := written.same
  dflt := written.dflt
  masks := written.masks
  entries domEntry idx isWritten := by
    have before := written.entries domEntry idx isWritten
    cases domEntry <;> exact before

theorem remember {memory : RioRtState} (same : SameValues rt memory) :
    CpsWritten devInfo rt port dflt masks entries ⟨memory, state.device⟩ :=
  ⟨same, written.dflt, written.masks, written.entries⟩

end

end CpsWritten

variable {fails : CpsReg → Option Nat}

section

variable (reached : Reaches setOnPort port)
include reached

theorem cpsProgramMcMask_written (masks : Set RtIdx) (maskNum : RtIdx) :
    Meets (CpsWritten devInfo rt port dflt masks entries)
      (cpsProgramMcMask (cpsStore fails) devInfo setOnPort true maskNum)
      (fun _ => CpsWritten devInfo rt port dflt (insert maskNum masks) entries)
      fun _ _ => True := by
  apply Meets.getBind
  intro start before
  have mcMask := before.same.mcMask maskNum
  apply Meets.ite
  · intro _
    apply Meets.failIfBind fun _ _ _ => trivial
    intro legal
    have stored := and_of_and_not (not_not.mp legal)
    rw [mcMask] at stored
    rw [mcMask, stored]
    refine Meets.bind (?_ : Meets _ _ (fun _ => CpsWritten devInfo rt port dflt
      (insert maskNum masks) entries) _) fun _ => ?_
    · exact cpsStore_write fun state written => written.writeMask reached maskNum
    exact Meets.modify fun state written => written.remember (written.same.unmarkMcMask maskNum)
  · intro skipped
    simp at skipped

theorem writeEntry_written {domEntry : Bool} {done : Set RtIdx} {idx : RtIdx}
    (accepted : CpsEntry devInfo domEntry (rt.target domEntry idx).rteVal)
    {unmark : RioRtState → RioRtState}
    (sameValues : ∀ memory, SameValues rt memory → SameValues rt (unmark memory)) (rc : RtRc)
    (impRc : ImpRc) :
    Meets (CpsWritten devInfo rt port dflt masks (Function.update entries domEntry done))
      (do
        let cpsVal ← orFail
          (cpsRteTranslateStdToCps devInfo (rt.target domEntry idx).rteVal) rc
        darWrite (cpsStore fails) (cpsRteReg setOnPort domEntry idx) cpsVal impRc
        modifyMemory unmark)
      (fun _ => CpsWritten devInfo rt port dflt masks
        (Function.update entries domEntry (insert idx done)))
      fun _ _ => True := by
  apply Meets.bind (Meets.orFail (fun code _ translated written =>
    And.intro translated written) fun _ _ _ => trivial)
  refine fun code => Meets.assume fun translated => ?_
  refine Meets.bind (?_ : Meets _ _ (fun _ => CpsWritten devInfo rt port dflt masks
    (Function.update entries domEntry (insert idx done))) _) fun _ => ?_
  · apply cpsStore_write
    intro state written
    have wrote := written.writeEntry reached accepted translated
    rwa [Function.update_idem, Function.update_self] at wrote
  · exact Meets.modify fun state written => written.remember (sameValues _ written.same)

theorem cpsProgramDomRte_written (done : Set RtIdx) (rteNum : RtIdx) :
    Meets (CpsWritten devInfo rt port dflt masks (Function.update entries true done))
      (cpsProgramDomRte (cpsStore fails) devInfo setOnPort true rteNum)
      (fun _ => CpsWritten devInfo rt port dflt masks
        (Function.update entries true (insert rteNum done)))
      fun _ _ => True := by
  apply Meets.getBind
  intro start before
  have value : (start.memory.domTable rteNum).rteVal = (rt.target true rteNum).rteVal :=
    before.same.entries true rteNum
  apply Meets.ite
  · intro _
    apply Meets.failIfBind fun _ _ _ => trivial
    intro legal
    rw [value] at legal ⊢
    have accepted : CpsEntry devInfo true (rt.target true rteNum).rteVal := by
      simp only [CpsEntry, if_true]
      by_contra refused
      simp only [not_or, not_lt] at refused
      exact legal ⟨refused.1, refused.2.2.2, refused.2.1, refused.2.2.1⟩
    exact writeEntry_written reached accepted (fun _ same => same.unmarkDomRte rteNum) _ _
  · intro skipped
    simp at skipped

theorem cpsProgramDevRte_written (done : Set RtIdx) (rteNum : RtIdx) :
    Meets (CpsWritten devInfo rt port dflt masks (Function.update entries false done))
      (cpsProgramDevRte (cpsStore fails) devInfo setOnPort true rteNum)
      (fun _ => CpsWritten devInfo rt port dflt masks
        (Function.update entries false (insert rteNum done)))
      fun _ _ => True := by
  apply Meets.getBind
  intro start before
  have value : (start.memory.devTable rteNum).rteVal = (rt.target false rteNum).rteVal :=
    before.same.entries false rteNum
  apply Meets.ite
  · intro _
    apply Meets.failIfBind fun _ _ _ => trivial
    intro legal
    rw [value] at legal ⊢
    have accepted : CpsEntry devInfo false (rt.target false rteNum).rteVal := by
      simp only [CpsEntry, Bool.false_eq_true, if_false]
      by_contra refused
      simp only [not_or, not_lt, Bool.not_eq_true] at refused
      have noMask := rioRtvGetMcMsk_of_not refused.2.2.2
      exact legal ⟨refused.1, noMask, refused.2.1, refused.2.2.1⟩
    exact writeEntry_written reached accepted (fun _ same => same.unmarkDevRte rteNum) _ _
  · intro skipped
    simp at skipped

/-- The registers of a port hold a table. -/
structure CpsHolds (devInfo : CpsDevInfo) (rt : RioRtState) (port : Nat) (hw : CpsHw) : Prop where
  dfltAccepted : CpsDfltRoute devInfo rt.defaultRoute
  dflt : cpsRteTranslateStdToCps devInfo rt.defaultRoute = some (hw .rteDefaultPort)
  masks : ∀ mcIdx, mcIdx.val < devInfo.numCpsMcMasks →
    hw (.mcastMask port mcIdx) = (rt.mcMasks mcIdx).mcMask
  entries : ∀ domEntry idx, CpsEntry devInfo domEntry (rt.target domEntry idx).rteVal ∧
    cpsRteTranslateStdToCps devInfo (rt.target domEntry idx).rteVal =
      some (hw (cpsRteReg port domEntry idx))

theorem cpsRioRtSetAll_holds :
    Meets (fun state => SameValues rt state.memory)
      (cpsRioRtSetAll (cpsStore fails) devInfo setOnPort)
      (fun _ state => CpsHolds devInfo rt port state.device) fun _ _ => True := by
  apply Meets.failIfBind fun _ _ _ => trivial
  intro _
  apply Meets.getBind
  intro start same
  apply Meets.failIfBind fun _ _ _ => trivial
  intro legal
  rw [same.defaultRoute] at legal
  have dfltAccepted : CpsDfltRoute devInfo rt.defaultRoute := by
    unfold CpsDfltRoute
    by_contra refused
    simp only [not_or, not_lt] at refused
    exact legal refused
  refine Meets.bind (?_ : Meets _ _ (fun _ => CpsWritten devInfo rt port False
    {mcIdx | mcIdx.val < devInfo.numCpsMcMasks} fun _ => ∅) _) fun _ => ?_
  · have masks := @Meets.forM_cells _ _ _ _
      (fun masks => CpsWritten devInfo rt port False masks fun _ => ∅)
      ((List.finRange 256).filter fun maskNum => maskNum.val < devInfo.numCpsMcMasks)
      (cpsProgramMcMask (cpsStore fails) devInfo setOnPort true)
      (fun masks maskNum _ => cpsProgramMcMask_written reached masks maskNum) ∅
    refine masks.weaken (fun state same => ?_) (fun _ state written => ?_) fun _ _ _ => trivial
    · exact ⟨same, False.elim, fun _ isWritten => isWritten.elim,
        fun _ _ isWritten => isWritten.elim⟩
    · simpa using written
  apply Meets.getBind
  intro state written
  rw [written.same.defaultRoute]
  apply Meets.bind (Meets.orFail (fun code _ translated written =>
    And.intro translated written) fun _ _ _ => trivial)
  refine fun code => Meets.assume fun translated => ?_
  refine Meets.bind (?_ : Meets _ _ (fun _ => CpsWritten devInfo rt port True
    {mcIdx | mcIdx.val < devInfo.numCpsMcMasks} fun _ => ∅) _) fun _ => ?_
  · exact cpsStore_write fun state written => written.writeDflt translated
  refine Meets.bind (?_ : Meets _ _ (fun _ => CpsWritten devInfo rt port True
    {mcIdx | mcIdx.val < devInfo.numCpsMcMasks}
    (Function.update (fun _ => ∅) true ∅)) _) fun _ => ?_
  · refine cpsStore_write fun state written => ?_
    rw [Function.update_eq_self]
    exact written.writeDomain 0
  apply Meets.bind (Meets.forM_finRange fun done rteNum =>
    cpsProgramDomRte_written reached done rteNum)
  intro _
  have devs := @Meets.forM_finRange _ _ (fun _ _ => True) 256
    (cpsProgramDevRte (cpsStore fails) devInfo setOnPort true) _ fun done rteNum =>
      @cpsProgramDevRte_written devInfo rt port setOnPort True
        {mcIdx | mcIdx.val < devInfo.numCpsMcMasks}
        (Function.update (fun _ => ∅) true Set.univ) fails reached done rteNum
  refine devs.weaken (fun state written => ?_) (fun _ state written => ?_) fun _ _ _ => trivial
  · rwa [Function.update_eq_self_iff.mpr (by simp)]
  · refine ⟨dfltAccepted, written.dflt trivial, written.masks, fun domEntry idx => ?_⟩
    exact written.entries domEntry idx (by cases domEntry <;> simp)

end

end Program

/-! ## Probing -/

section Probe

variable {rt : RioRtState} {port : Nat} {dflt : Prop} {masks : Set RtIdx}
  {entries : Bool → Set RtIdx} {fails : CpsReg → Option Nat} {state : Attached RioRtState CpsHw}
  {value : PeRtVal}

/-- The masks and entries of some sets have been read, and the default route if `dflt`. -/
structure CpsRead (devInfo : CpsDevInfo) (rt : RioRtState) (port : Nat) (dflt : Prop)
    (masks : Set RtIdx) (entries : Bool → Set RtIdx) (state : Attached RioRtState CpsHw) :
    Prop where
  holds : CpsHolds devInfo rt port state.device
  dflt : dflt → state.memory.defaultRoute = rt.defaultRoute
  masks : ∀ mcIdx ∈ masks,
    (state.memory.mcMasks mcIdx).mcMask = (rt.mcMasks mcIdx).mcMask &&& devInfo.portMask
  entries : ∀ domEntry, ∀ idx ∈ entries domEntry,
    (state.memory.target domEntry idx).rteVal = (rt.target domEntry idx).rteVal

theorem CpsRead.setTarget {domEntry : Bool} {done : Set RtIdx}
    (read : CpsRead devInfo rt port dflt masks (Function.update entries domEntry done) state)
    {idx : RtIdx} {rte : RioRtUcInfo} (value : rte.rteVal = (rt.target domEntry idx).rteVal) :
    CpsRead devInfo rt port dflt masks (Function.update entries domEntry (insert idx done))
      ⟨state.memory.setTarget domEntry idx rte, state.device⟩ where
  holds := read.holds
  dflt := by cases domEntry <;> exact read.dflt
  masks := by
    rw [setTarget_mcMasks]
    exact read.masks
  entries table other isRead := by
    rw [target_setTarget]
    split
    next here =>
      rw [here.1, here.2]
      exact value
    next elsewhere =>
      apply read.entries table other
      by_cases sameTable : table = domEntry
      · rw [sameTable, Function.update_self] at isRead ⊢
        exact Set.mem_of_mem_insert_of_ne isRead fun sameIdx => elsewhere ⟨sameTable, sameIdx⟩
      · rwa [Function.update_of_ne sameTable] at isRead ⊢

theorem CpsRead.unmark (read : CpsRead devInfo rt port dflt masks entries state) (domEntry : Bool)
    (idx : RtIdx) :
    CpsRead devInfo rt port dflt masks entries
      ⟨state.memory.setTarget domEntry idx
        { state.memory.target domEntry idx with changed := false }, state.device⟩ where
  holds := read.holds
  dflt := by cases domEntry <;> exact read.dflt
  masks := by
    rw [setTarget_mcMasks]
    exact read.masks
  entries table other isRead := by
    rw [target_setTarget, ← read.entries table other isRead]
    split
    next here => rw [here.1, here.2]
    next => rfl

theorem rioRtvGetMcMsk_rioRtvMcMsk : ∀ idx : RtIdx,
    rioRtvGetMcMsk (rioRtvMcMsk idx) = some idx := by
  decide +kernel

theorem deallocMcMasksFrom_keepsDevice {Holds : CpsHw → Prop} (first : Nat) :
    Meets (fun state => Holds state.device) (deallocMcMasksFrom first)
      (fun _ state => Holds state.device) fun _ _ => False := by
  apply Meets.forM
  intro maskIdx _
  apply Meets.getBind
  intro start holds
  dsimp only [dsfRioRtDeallocMcMask]
  rw [rioRtvGetMcMsk_rioRtvMcMsk]
  refine Meets.bind (?_ : Meets _ _ (fun _ state => Holds state.device) _) fun _ => ?_
  · exact Meets.modify fun state holds => holds
  · exact Meets.failIf (fun _ holds _ => holds) fun _ _ failed => failed rfl

theorem cpsReadMcMask_read {maskIdx : RtIdx} (exists_ : maskIdx.val < devInfo.numCpsMcMasks)
    (masks : Set RtIdx) :
    Meets (CpsRead devInfo rt port dflt masks entries)
      (cpsReadMcMask (cpsStore fails) devInfo port maskIdx)
      (fun _ => CpsRead devInfo rt port dflt (insert maskIdx masks) entries) fun _ _ => False := by
  refine cpsStore_read (fun state read => read.holds.masks maskIdx exists_) ?_
  apply Meets.modify
  intro state read
  refine ⟨read.holds, read.dflt, fun mcIdx isRead => ?_, read.entries⟩
  by_cases here : mcIdx = maskIdx
  · simp [RioRtState.setMcMask, here]
  · simpa [RioRtState.setMcMask, here] using
      read.masks mcIdx (Set.mem_of_mem_insert_of_ne isRead here)

theorem fetch_read {α : Type} {domEntry : Bool} {destId : RtIdx} {impRc : ImpRc} {rc : RtRc}
    {next : PeRtVal → RtProgram CpsHw α} {Post : α → Attached RioRtState CpsHw → Prop}
    {Fail : RtRc → Attached RioRtState CpsHw → Prop}
    (tail : CpsEntry devInfo domEntry (rt.target domEntry destId).rteVal →
      Meets (CpsRead devInfo rt port dflt masks entries)
        (next (rt.target domEntry destId).rteVal) Post Fail) :
    Meets (CpsRead devInfo rt port dflt masks entries)
      (do
        modifyMemory fun rt =>
          rt.setTarget domEntry destId { rt.target domEntry destId with changed := false }
        let regVal ← darRead (cpsStore fails) (cpsRteReg port domEntry destId) impRc
        let rteVal ← orFail (cpsRteTranslateCpsToStd devInfo (regVal &&& 0xFF)) rc
        next rteVal)
      Post Fail := by
  refine Meets.bind (?_ : Meets _ _ (fun _ => CpsRead devInfo rt port dflt masks entries) _)
    fun _ => ?_
  · exact Meets.modify fun state read => read.unmark domEntry destId
  intro state read
  have accepted := (read.holds.entries domEntry destId).1
  refine cpsStore_readCode (fun _ read => (read.holds.entries domEntry destId).2)
    (fun code translated => ?_) read
  rw [cpsToStd_stdToCps translated, orFail_some, pure_bind]
  exact tail accepted

theorem cpsDomRteVal_of_entry (accepted : CpsEntry devInfo true value) :
    cpsDomRteVal devInfo value = value := by
  apply if_neg
  rintro ⟨notLocal, notDefault, notDrop, notPort⟩
  simp only [CpsEntry, if_true] at accepted
  rcases accepted with isPort | isDefault | isDrop | isLocal
  · omega
  · exact notDefault isDefault
  · exact notDrop isDrop
  · exact notLocal isLocal

theorem cpsDevRteVal_of_entry (accepted : CpsEntry devInfo false value) :
    cpsDevRteVal devInfo value = value := by
  apply if_neg
  rintro ⟨notPort, notMask, notDrop, notDefault⟩
  simp only [CpsEntry, Bool.false_eq_true, if_false] at accepted
  rcases accepted with isPort | isDefault | isDrop | isMask
  · omega
  · exact notDefault isDefault
  · exact notDrop isDrop
  · rw [isMask] at notMask
    contradiction

theorem cpsReadDomRte_read (firstMcDestId : Option RtIdx) (done : Set RtIdx) (destId : RtIdx) :
    Meets (CpsRead devInfo rt port dflt masks (Function.update entries true done))
      (cpsReadDomRte (cpsStore fails) devInfo port firstMcDestId destId)
      (fun _ => CpsRead devInfo rt port dflt masks
        (Function.update entries true (insert destId done)))
      fun _ _ => False := by
  apply @fetch_read devInfo rt port dflt masks _ fails _ true
  intro accepted
  rw [cpsDomRteVal_of_entry accepted]
  refine Meets.bind (?_ : Meets _ _ (fun _ => CpsRead devInfo rt port dflt masks
    (Function.update entries true (insert destId done))) _) fun _ => ?_
  · exact Meets.modify fun state read => read.setTarget rfl
  · exact Meets.pure fun state read => read

theorem cpsNoteMcMask_mcMask (firstMcDestId : Option RtIdx) (destId : RtIdx) (rteVal : PeRtVal)
    (rt : RioRtState) (mcIdx : RtIdx) :
    ((cpsNoteMcMask firstMcDestId destId rteVal rt).mcMasks mcIdx).mcMask =
      (rt.mcMasks mcIdx).mcMask := by
  unfold cpsNoteMcMask
  cases rioRtvGetMcMsk rteVal with
  | none => rfl
  | some maskIdx =>
    dsimp only
    split
    · rfl
    · by_cases here : mcIdx = maskIdx
      · simp [RioRtState.setMcMask, here]
      · simp [RioRtState.setMcMask, here]

theorem cpsNoteMcMask_eq (firstMcDestId : Option RtIdx) (destId : RtIdx) (rteVal : PeRtVal)
    (rt : RioRtState) :
    ∃ mcMasks, cpsNoteMcMask firstMcDestId destId rteVal rt = { rt with mcMasks := mcMasks } := by
  unfold cpsNoteMcMask
  cases rioRtvGetMcMsk rteVal with
  | none => exact ⟨rt.mcMasks, rfl⟩
  | some maskIdx =>
    dsimp only
    split
    · exact ⟨rt.mcMasks, rfl⟩
    · exact ⟨_, rfl⟩

theorem CpsRead.note (read : CpsRead devInfo rt port dflt masks entries state)
    (firstMcDestId : Option RtIdx) (destId : RtIdx) (rteVal : PeRtVal) :
    CpsRead devInfo rt port dflt masks entries
      ⟨cpsNoteMcMask firstMcDestId destId rteVal state.memory, state.device⟩ := by
  have mcMask := cpsNoteMcMask_mcMask firstMcDestId destId rteVal state.memory
  obtain ⟨mcMasks, noted⟩ := cpsNoteMcMask_eq firstMcDestId destId rteVal state.memory
  refine ⟨read.holds, ?_, fun mcIdx isRead => (mcMask mcIdx).trans (read.masks mcIdx isRead), ?_⟩
  · rw [noted]
    exact read.dflt
  · rw [noted]
    exact read.entries

theorem cpsReadDevRte_read (firstMcDestId : Option RtIdx) (done : Set RtIdx) (destId : RtIdx) :
    Meets (CpsRead devInfo rt port dflt masks (Function.update entries false done))
      (cpsReadDevRte (cpsStore fails) devInfo port firstMcDestId destId)
      (fun _ => CpsRead devInfo rt port dflt masks
        (Function.update entries false (insert destId done)))
      fun _ _ => False := by
  apply @fetch_read devInfo rt port dflt masks _ fails _ false
  intro accepted
  rw [cpsDevRteVal_of_entry accepted]
  exact Meets.modify fun state read =>
    (read.note firstMcDestId destId (rt.target false destId).rteVal).setTarget rfl

/-- A probed table shows the table that was programmed. -/
structure CpsRecovers (rt probed : RioRtState) : Prop where
  defaultRoute : probed.defaultRoute = rt.defaultRoute
  entries : ∀ domEntry idx,
    (probed.target domEntry idx).rteVal = (rt.target domEntry idx).rteVal
  masks : ∀ mcIdx, (rt.mcMasks mcIdx).inUse = true →
    (probed.mcMasks mcIdx).mcMask = (rt.mcMasks mcIdx).mcMask

theorem numCpsPorts_le (devInfo : CpsDevInfo) : devInfo.numCpsPorts ≤ devInfo.numPorts ∧
    devInfo.numCpsPorts ≤ 18 := by
  unfold CpsDevInfo.numCpsPorts
  split <;> omega

theorem port_facts : ∀ n : Fin 18,
    BitVec.ofNat 32 n.val ≠ rioRteDfltPort ∧ BitVec.ofNat 32 n.val ≠ rioRteDrop ∧
      BitVec.ofNat 32 n.val ≠ rioRteLvlG0 ∧ BitVec.ofNat 32 n.val &&& ~~~0x3FF = 0 ∧
      rioRtvIsPort (BitVec.ofNat 32 n.val) = true ∧
      BitVec.ofNat 32 n.val &&& 0xFF = BitVec.ofNat 32 n.val := by
  decide

theorem stdToCps_port (isPort : value.toNat < devInfo.numCpsPorts) :
    value &&& 0xFF = value ∧ cpsRteTranslateStdToCps devInfo value = some value := by
  have few := numCpsPorts_le devInfo
  obtain ⟨notDefault, notDrop, notLocal, known, port, isByte⟩ :=
    port_facts ⟨value.toNat, isPort.trans_le few.2⟩
  simp only [BitVec.ofNat_toNat, BitVec.setWidth_eq]
    at notDefault notDrop notLocal known port isByte
  have exists_ : (value &&& 0xFF).toNat < devInfo.numPorts := by
    rw [isByte]
    exact isPort.trans_le few.1
  rw [cpsRteTranslateStdToCps, if_neg notDefault, if_neg notDrop, if_neg notLocal,
    if_neg (not_not.mpr known), if_pos ⟨port, exists_⟩]
  exact ⟨isByte, rfl⟩

theorem readDfltRoute {code : BitVec 32} (accepted : CpsDfltRoute devInfo value)
    (translated : cpsRteTranslateStdToCps devInfo value = some code) :
    (if (code &&& 0xFF).toNat ≥ devInfo.numCpsPorts then rioRteDrop else code &&& 0xFF) =
      value := by
  have few := numCpsPorts_le devInfo
  rcases accepted with isPort | rfl
  · obtain ⟨isByte, isCode⟩ := stdToCps_port isPort
    cases translated.symm.trans isCode
    rw [isByte, if_neg (not_le.mpr isPort)]
  · cases translated
    rw [if_pos]
    have large : (cpsRtNoRoute &&& 0xFF).toNat = 0xDF := by decide
    omega

theorem cpsReadMcMasks_read :
    Meets (fun state => CpsHolds devInfo rt port state.device)
      (cpsReadMcMasks (cpsStore fails) devInfo port)
      (fun _ =>
        CpsRead devInfo rt port False {mcIdx | mcIdx.val < devInfo.numCpsMcMasks} fun _ => ∅)
      fun _ _ => False := by
  apply Meets.bind (deallocMcMasksFrom_keepsDevice _)
  intro _
  have masks := @Meets.forM_cells _ _ (fun _ _ => False) _
    (fun masks => CpsRead devInfo rt port False masks fun _ => ∅)
    ((List.finRange 256).filter fun maskIdx => maskIdx.val < devInfo.numCpsMcMasks)
    (cpsReadMcMask (cpsStore fails) devInfo port)
    (fun masks maskIdx exists_ => cpsReadMcMask_read (by simpa using exists_) masks) ∅
  refine masks.weaken (fun state holds => ?_) (fun _ state read => ?_) fun _ _ never => never
  · exact ⟨holds, False.elim, fun _ isRead => isRead.elim, fun _ _ isRead => isRead.elim⟩
  · simpa using read

theorem cpsReadRteEntries_read (localDomain : (rt.domTable 0).rteVal = rioRteLvlG0) :
    Meets (CpsRead devInfo rt port False masks fun _ => ∅)
      (cpsReadRteEntries (cpsStore fails) devInfo port)
      (fun _ => CpsRead devInfo rt port True masks fun _ => Set.univ) fun _ _ => False := by
  intro start before
  refine cpsStore_readCode (fun _ read => read.holds.dflt) (fun code translated => ?_) before
  dsimp only
  rw [readDfltRoute before.holds.dfltAccepted translated]
  refine Meets.bind (?_ : Meets _ _ (fun _ => CpsRead devInfo rt port True masks
    (Function.update (fun _ => ∅) true ∅)) _) fun _ => ?_
  · refine Meets.modify fun state read => ?_
    rw [Function.update_eq_self]
    exact ⟨read.holds, fun _ => rfl, read.masks, read.entries⟩
  refine Meets.bind (?_ : Meets _ _ (fun _ => CpsRead devInfo rt port True masks
    (Function.update (fun _ => ∅) true (insert 0 ∅))) _) fun _ => ?_
  · exact Meets.modify fun state read => read.setTarget localDomain.symm
  have doms := @Meets.foldlM_cells _ _ (Option RtIdx) (fun _ _ => False) _
    (fun done => CpsRead devInfo rt port True masks (Function.update (fun _ => ∅) true done))
    ((List.finRange 256).filter fun destId => destId ≠ 0)
    (cpsReadDomRte (cpsStore fails) devInfo port)
    (fun done firstMcDestId destId _ => cpsReadDomRte_read firstMcDestId done destId)
    (insert 0 ∅) none
  have allDoms : insert 0 ∅ ∪ {idx | idx ∈ (List.finRange 256).filter fun destId => destId ≠ 0} =
      (Set.univ : Set RtIdx) := by
    ext idx
    by_cases first : idx = 0
    · simp [first]
    · simp [first]
  rw [allDoms] at doms
  apply Meets.bind doms
  intro firstMcDestId
  have devs := @Meets.forM_finRange _ _ (fun _ _ => False) 256
    (cpsReadDevRte (cpsStore fails) devInfo port firstMcDestId) _ fun done destId =>
      @cpsReadDevRte_read devInfo rt port True masks
        (Function.update (fun _ => ∅) true Set.univ) fails firstMcDestId done destId
  refine devs.weaken (fun state read => ?_) (fun _ state read => ?_) fun _ _ never => never
  · rwa [Function.update_eq_self_iff.mpr (by simp)]
  · refine ⟨read.holds, read.dflt, read.masks, fun domEntry idx _ => ?_⟩
    exact read.entries domEntry idx (by cases domEntry <;> simp)

theorem cpsRioRtProbeAll_recovers {probeOnPort : Nat} (table : CpsTable devInfo rt)
    (legal : probeOnPort = rioAllPorts ∨ probeOnPort < devInfo.numCpsPorts) :
    Meets (fun state => CpsHolds devInfo rt
        (if probeOnPort = rioAllPorts then 0 else probeOnPort) state.device)
      (cpsRioRtProbeAll (cpsStore fails) devInfo probeOnPort)
      (fun _ state => CpsRecovers rt state.memory) fun _ _ => False := by
  apply Meets.failIfBind fun _ _ refused => by omega
  intro _
  apply Meets.bind cpsReadMcMasks_read
  intro _
  apply (cpsReadRteEntries_read table.localDomain).weakenPost
  intro _ state read
  refine ⟨read.dflt trivial, fun domEntry idx => read.entries domEntry idx trivial, ?_⟩
  intro mcIdx used
  obtain ⟨exists_, existingPorts⟩ := table.masks mcIdx used
  exact (read.masks mcIdx exists_).trans existingPorts

end Probe

/-- Programming a reachable table and reading the same port back recovers its default route,
its entries and the ports of the masks in use. -/
theorem cps_probe_recovers {rt : RioRtState} (reachable : CpsReachable devInfo rt)
    {writeFails : CpsReg → Option Nat} {setOnPort : Nat} {hw : CpsHw}
    {programmed : Attached RioRtState CpsHw}
    (setAll : (cpsRioRtSetAll (cpsStore writeFails) devInfo setOnPort).run ⟨rt, hw⟩ =
      .ok () programmed) (probed : RioRtState) :
    ∃ final, (cpsRioRtProbeAll (cpsStore writeFails) devInfo setOnPort).run
        ⟨probed, programmed.device⟩ = .ok () final ∧
      CpsRecovers rt final.memory := by
  have legal : setOnPort = rioAllPorts ∨ setOnPort < devInfo.numCpsPorts := by
    simp only [cpsRioRtSetAll, cpsRtSetCommon, bind_ok_iff, failIf_ok_iff] at setAll
    obtain ⟨_, _, ⟨accepted, _⟩, _⟩ := setAll
    omega
  have reached : Reaches setOnPort (if setOnPort = rioAllPorts then 0 else setOnPort) := by
    unfold Reaches
    split
    · exact .inl ‹_›
    · exact .inr rfl
  have same := SameValues.refl rt
  have sets := @cpsRioRtSetAll_holds devInfo rt _ setOnPort writeFails reached
  have holds := (@sets ⟨rt, hw⟩ same).1 setAll
  have probes := @cpsRioRtProbeAll_recovers devInfo rt writeFails setOnPort reachable.cpsTable legal
  obtain ⟨_, final, ran, recovers⟩ :=
    @Meets.ends _ _ _ _ _ _ probes ⟨probed, programmed.device⟩ holds
  exact ⟨final, ran, recovers⟩

def cps1848 : CpsDevInfo := ⟨true, 18, 40, by decide⟩

/-- A table with a mask for the destination ID 5 of domain 2. -/
def cpsMaskRt : RioRtState :=
  run (RtCall.cpsExec cps1848) (cpsInitialRt ⟨rioAllPorts, 0, rioRteDrop, false⟩)
    [.allocMcMask 40, .changeMcMask 0x100 ⟨0x205, .ttDev16, 3, true, true, false⟩]

theorem cpsMaskRt_reachable : CpsReachable cps1848 cpsMaskRt := by
  refine ⟨CpsHw, cpsStore fun _ => none, ⟨rioAllPorts, 0, rioRteDrop, false⟩,
    ⟨cpsMaskRt, fun _ => 0⟩, ⟨cpsInitialRt ⟨rioAllPorts, 0, rioRteDrop, false⟩, fun _ => 0⟩, _, ?_,
    rfl⟩
  simp only [cpsRioRtInitialize, bind_ok_iff, failIf_ok_iff]
  exact ⟨(), _, ⟨by decide, rfl⟩, (), _, ⟨by decide, rfl⟩, (), _, ⟨by decide, rfl⟩, (), _, rfl, rfl⟩

/-- The mask and the two entries that lead to it come back on port 0. -/
theorem cps_probe_recovers_mask :
    ∃ final : Attached RioRtState CpsHw, CpsRecovers cpsMaskRt final.memory ∧
      (final.memory.domTable 2).rteVal = rioRteLvlG0 ∧ (final.memory.devTable 5).rteVal = 0x100 ∧
      (final.memory.mcMasks 0).mcMask = 3 := by
  have succeeds : succeeded ((cpsRioRtSetAll (cpsStore fun _ => none) cps1848 rioAllPorts).run
      ⟨cpsMaskRt, fun _ => 0⟩) = true := by decide +kernel
  obtain ⟨programmed, setAll⟩ := exists_ok_of_succeeded succeeds
  obtain ⟨final, _, recovers⟩ := cps_probe_recovers cpsMaskRt_reachable setAll cpsMaskRt
  have dom : (cpsMaskRt.target true 2).rteVal = rioRteLvlG0 := by decide +kernel
  have dev : (cpsMaskRt.target false 5).rteVal = 0x100 := by decide +kernel
  have mask : (cpsMaskRt.mcMasks 0).inUse = true ∧ (cpsMaskRt.mcMasks 0).mcMask = 3 := by
    decide +kernel
  exact ⟨final, recovers, (recovers.entries true 2).trans dom, (recovers.entries false 5).trans dev,
    (recovers.masks 0 mask.1).trans mask.2⟩

end RioFabric.RouteTable

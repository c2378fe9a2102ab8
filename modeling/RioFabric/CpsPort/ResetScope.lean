import RioFabric.CpsPort.ResetPort

/-!
# What resets of CPS ports reach

The port that registers are accessed through is left alone.  Link partners are told to reset
themselves also if that was not asked for.
-/

namespace RioFabric.CpsPort

open Lib Dar PortConfig

/-- A request to a link partner to reset itself was sent, or was tried to be. -/
def SendsReset (log : List (RegEvent Reg)) : Prop :=
  ∃ pnum, .write (.port .linkMaintReq pnum) lreqCmdRstDev ∈ log

/-- A write that resets a port, disables it or may take the power of its lanes away. -/
def Disturbs (pnum : Nat) (reg : Reg) (value : BitVec 32) : Prop :=
  match reg with
  | .dev .softReset => True
  | .dev .resetCtl => value &&& resetCtlPort pnum ≠ 0
  | .dev .quadCfg => True
  | .port .ctl1 other => other = pnum
  | .lane _ _ => True
  | .pllCtl1 _ => True
  | _ => False

/-- The port is left alone. -/
def Spares (pnum : Nat) (log : List (RegEvent Reg)) : Prop :=
  ∀ reg value, .write reg value ∈ log → ¬Disturbs pnum reg value

/-- A request gets as far as resetting a port. -/
structure Reaches {δ : Type} (dev : CpsDevice) (device : RegDevice Reg δ) (state : δ)
    (inParms : PcResetPortIn) : Prop where
  port : inParms.portNum = rioAllPorts ∨ inParms.portNum < dev.numPorts
  access : inParms.oobRegAcc = true ∨ inParms.regAccPort < dev.numPorts
  quadCfg : ∃ value, (device.read (.dev .quadCfg) state).1 = .ok value
  other : inParms.oobRegAcc = true ∨ inParms.regAccPort ≠ inParms.portNum

section Runs

variable {δ : Type} {dev : CpsDevice} {device : RegDevice Reg δ} {inParms : PcResetPortIn}
  {pnum : Nat} {Inv : δ → Prop} {log : List (RegEvent Reg)}
  {Pre : Attached Nat (δ × List (RegEvent Reg)) → Prop}

theorem resetCtl_apart {other : Nat} (few : pnum < 31) (different : other ≠ pnum) :
    (resetCtlPort other ||| deviceResetCtlDoReset) &&& resetCtlPort pnum = 0 := by
  have isBit (idx : Nat) : resetCtlPort idx = BitVec.twoPow 32 idx := (BitVec.twoPow_eq 32 idx).symm
  have doReset : deviceResetCtlDoReset = BitVec.twoPow 32 31 := rfl
  rw [isBit, isBit, doReset]
  apply BitVec.eq_of_getLsbD_eq
  intro idx inWord
  simp only [BitVec.getLsbD_and, BitVec.getLsbD_or, BitVec.getLsbD_twoPow]
  by_cases same : pnum = idx
  · subst same
    simp [different, Nat.ne_of_gt few]
  · simp [same]

/-! ### What is written -/

/-- The port that a turn skips. -/
def Skips (inParms : PcResetPortIn) (pnum : Nat) : Prop :=
  inParms.oobRegAcc = false ∧ inParms.regAccPort = pnum

theorem cpsRioPcResetPort_preserves {allowed : Reg → BitVec 32 → Prop}
    (keeps : device.Keeps Inv allowed) (notWhole : inParms.wholeDevice = false)
    (turn : ∀ pnum ∈ portsToReset dev inParms, ¬Skips inParms pnum →
      allowed (.port .linkMaintReq pnum) lreqCmdRstDev ∧
        allowed (.dev .resetCtl) (resetCtlPort pnum ||| deviceResetCtlDoReset)) :
    Preserves Inv (cpsRioPcResetPort dev device inParms) := by
  apply setImpRc_preserves.bind
  intro _
  apply Preserves.ite (fun _ => leave_preserves)
  intro _
  apply Preserves.ite (fun _ => leave_preserves)
  intro _
  apply (orLeave_preserves keeps.regRead).bind
  intro quadCfg
  rw [notWhole]
  refine Preserves.bind ?_ fun _ => setImpRc_preserves
  apply Preserves.forM
  intro pnum isMember
  apply Preserves.ite (fun _ => Preserves.pure _)
  intro notSkipped
  have isReset : ¬Skips inParms pnum := by simpa [Skips] using notSkipped
  obtain ⟨reqAllowed, resetAllowed⟩ := turn pnum isMember isReset
  apply (writeReg_preserves keeps reqAllowed).bind
  exact fun _ => writeReg_preserves keeps resetAllowed

variable {impRc : Nat} {state : δ}

section

variable (notWhole : inParms.wholeDevice = false)
include notWhole

theorem cpsRioPcResetPort_spares (inBand : inParms.oobRegAcc = false)
    (isPort : inParms.regAccPort < dev.numPorts) :
    Spares inParms.regAccPort
      (logOf (cpsRioPcResetPort dev (logged device) inParms) impRc state) := by
  intro reg value isWrite
  have preserves : Preserves (WritesOnly fun reg value => ¬Disturbs inParms.regAccPort reg value)
      (cpsRioPcResetPort dev (logged device) inParms) := by
    apply cpsRioPcResetPort_preserves logged_keeps notWhole
    intro pnum _ notSkipped
    refine ⟨id, not_not.mpr (resetCtl_apart ?_ ?_)⟩
    · have few : dev.numPorts ≤ 18 := by cases dev <;> decide
      omega
    · exact fun same => notSkipped ⟨inBand, same.symm⟩
  exact allowed_of_preserves preserves isWrite

/-- No write is tried. -/
def NoWrites (log : List (RegEvent Reg)) : Prop := ∀ reg value, .write reg value ∉ log

/-- The accesses of a reset: nothing but the checks, or what the loop over the ports does. -/
theorem cpsRioPcResetPort_meets {P : List (RegEvent Reg) → Prop}
    (empty : ¬Reaches dev device state inParms → P log)
    (rest : inParms.portNum = rioAllPorts ∨ inParms.portNum < dev.numPorts →
      inParms.oobRegAcc = true ∨ inParms.regAccPort < dev.numPorts →
      ∀ value, (device.read (.dev .quadCfg) state).1 = .ok value →
        Meets (fun before => before.device.2 = log ++ [.read (.dev .quadCfg) value])
          ((portsToReset dev inParms).forM (resetPort (logged device) inParms) : Call Nat _ Unit)
          (fun _ after => P after.device.2) fun _ after => P after.device.2) :
    Meets (fun before => before.device = (state, log))
      (cpsRioPcResetPort dev (logged device) inParms) (fun _ after => P after.device.2)
      fun _ after => P after.device.2 := by
  have leaves (notReaches : ¬Reaches dev device state inParms)
      (device : δ × List (RegEvent Reg)) (same : device = (state, log)) : P device.2 :=
    same ▸ empty notReaches
  apply setImpRc_bind (P := fun device => device = (state, log))
  apply Meets.ite
  · intro invalid
    apply leave_meets (P := fun device => device = (state, log)) (F := fun device => P device.2)
    apply leaves
    intro reaches
    rcases reaches.port with all | inDevice
    · exact invalid.1 all
    · exact absurd inDevice (Nat.not_lt.mpr invalid.2)
  intro portValid
  apply Meets.ite
  · intro invalid
    apply leave_meets (P := fun device => device = (state, log)) (F := fun device => P device.2)
    apply leaves
    intro reaches
    rcases reaches.access with outOfBand | inDevice
    · simp [outOfBand] at invalid
    · exact absurd inDevice (Nat.not_lt.mpr invalid.2)
  intro accessValid
  have quadCfgRead : Meets
      (fun before : Attached Nat (δ × List (RegEvent Reg)) => before.device = (state, log))
      (orLeave (pcResetPort 3) (initSwPi (logged device)))
      (fun _ after => ∃ value, (device.read (.dev .quadCfg) state).1 = .ok value ∧
        after.device.2 = log ++ [.read (.dev .quadCfg) value])
      fun _ after => P after.device.2 := by
    apply orLeave_meets (F := fun device : δ × List (RegEvent Reg) => P device.2)
    apply regRead_logged_at.weaken (fun _ before => before)
    · rintro value after ⟨next, read, same⟩
      exact ⟨value, congrArg Prod.fst read, congrArg Prod.snd same⟩
    · rintro _ after ⟨failure, next, read, same⟩
      rw [same]
      apply empty
      rintro ⟨_, _, ⟨value, isRead⟩, _⟩
      rw [read] at isRead
      cases isRead
  apply quadCfgRead.bind
  intro _
  apply Meets.ofExists
  intro value
  apply Meets.assume
  intro isRead
  rw [notWhole]
  have access : inParms.oobRegAcc = true ∨ inParms.regAccPort < dev.numPorts := by
    rwa [Bool.not_eq_true', not_and_or, Bool.not_eq_false, not_le] at accessValid
  apply (rest (by omega) access value isRead).bind
  exact fun _ => Meets.modify fun _ after => after

theorem cpsRioPcResetPort_noWrites (notReaches : ¬Reaches dev device state inParms)
    (noWrites : NoWrites log) :
    Meets (fun before => before.device = (state, log))
      (cpsRioPcResetPort dev (logged device) inParms) (fun _ after => NoWrites after.device.2)
      fun _ after => NoWrites after.device.2 := by
  apply cpsRioPcResetPort_meets notWhole fun _ => noWrites
  intro portValid accessValid value isRead
  have skipped : inParms.oobRegAcc = false ∧ inParms.regAccPort = inParms.portNum := by
    have notOther := mt (Reaches.mk portValid accessValid ⟨value, isRead⟩) notReaches
    rwa [not_or, Bool.not_eq_true, not_not] at notOther
  have only : portsToReset dev inParms = [inParms.portNum] := by
    apply if_neg
    intro all
    have inDevice : inParms.regAccPort < dev.numPorts :=
      accessValid.resolve_left (by simp [skipped.1])
    have few : dev.numPorts < rioAllPorts := by cases dev <;> decide
    omega
  have turn : resetPort (logged device) inParms inParms.portNum = pure () :=
    if_pos ⟨by rw [skipped.1]; rfl, skipped.2⟩
  rw [only, show [inParms.portNum].forM (resetPort (logged device) inParms) =
    (resetPort (logged device) inParms inParms.portNum >>= fun _ => pure ⟨⟩) from rfl, turn,
    pure_bind]
  apply Meets.pure
  intro before same reg value isWrite
  rw [same] at isWrite
  rcases List.mem_append.mp isWrite with earlier | last
  · exact noWrites reg value earlier
  · cases List.mem_singleton.mp last

end

theorem SendsReset.append (sends : SendsReset log) (event : RegEvent Reg) :
    SendsReset (log ++ [event]) :=
  sends.imp fun _ isMember => List.mem_append_left _ isMember

theorem resetPort_preserves (keeps : device.Keeps Inv fun _ _ => True) :
    Preserves Inv (resetPort device inParms pnum) := by
  apply Preserves.ite (fun _ => Preserves.pure _)
  intro _
  apply (writeReg_preserves keeps trivial).bind
  exact fun _ => writeReg_preserves keeps trivial

theorem resetPort_sends (isReset : ¬Skips inParms pnum) :
    Meets Pre (resetPort (logged device) inParms pnum)
      (fun _ after => SendsReset after.device.2) fun _ after => SendsReset after.device.2 := by
  have notSkipped : ¬((!inParms.oobRegAcc) = true ∧ inParms.regAccPort = pnum) := by
    simpa [Skips] using isReset
  have sent (log : List (RegEvent Reg)) :
      SendsReset (log ++ [.write (.port .linkMaintReq pnum) lreqCmdRstDev]) :=
    ⟨pnum, List.mem_append_right _ (List.mem_singleton.mpr rfl)⟩
  rw [resetPort, if_neg notSkipped]
  have request : Meets Pre
      (writeReg (logged device) (.port .linkMaintReq pnum) lreqCmdRstDev (pcResetPort 0x20))
      (fun _ after => SendsReset after.device.2) fun _ after => SendsReset after.device.2 := by
    apply orLeave_meets (F := fun device : δ × List (RegEvent Reg) => SendsReset device.2)
    apply regWrite_logged_meets
    · exact fun _ _ _ => sent _
    · exact fun _ _ _ _ => sent _
  apply request.bind
  intro _
  exact writeReg_preserves (logged_grows fun _ event sends => sends.append event) trivial

theorem forM_resetPort_sends {ports : List Nat} (isReset : ∃ pnum ∈ ports, ¬Skips inParms pnum) :
    Meets Pre (ports.forM (resetPort (logged device) inParms))
      (fun _ after => SendsReset after.device.2) fun _ after => SendsReset after.device.2 := by
  induction ports with
  | nil =>
    obtain ⟨_, isMember, _⟩ := isReset
    cases isMember
  | cons pnum ports ih =>
    rw [show (pnum :: ports).forM (resetPort (logged device) inParms) =
      (resetPort (logged device) inParms pnum >>= fun _ =>
        ports.forM (resetPort (logged device) inParms)) from rfl]
    by_cases skips : Skips inParms pnum
    · have turn : resetPort (logged device) inParms pnum = pure () :=
        if_pos ⟨by rw [skips.1]; rfl, skips.2⟩
      rw [turn, pure_bind]
      apply ih
      obtain ⟨other, isMember, isReset⟩ := isReset
      rcases List.mem_cons.mp isMember with rfl | inRest
      · exact absurd skips isReset
      · exact ⟨other, inRest, isReset⟩
    · apply (resetPort_sends skips).bind
      intro _
      apply Meets.forM
      intro other _
      exact resetPort_preserves (logged_grows fun _ event sends => sends.append event)

theorem cpsRioPcResetPort_sends (notWhole : inParms.wholeDevice = false)
    (reaches : Reaches dev device state inParms) :
    Meets (fun before => before.device = (state, log))
      (cpsRioPcResetPort dev (logged device) inParms) (fun _ after => SendsReset after.device.2)
      fun _ after => SendsReset after.device.2 := by
  apply cpsRioPcResetPort_meets notWhole fun notReaches => absurd reaches notReaches
  intro portValid accessValid value isRead
  have isReset : ∃ pnum ∈ portsToReset dev inParms, ¬Skips inParms pnum := by
    rw [portsToReset]
    split
    next all =>
      obtain ⟨pnum, inDevice, different⟩ :
          ∃ pnum < dev.numPorts, inParms.regAccPort ≠ pnum := by
        have several : 2 ≤ dev.numPorts := by cases dev <;> decide
        by_cases zero : inParms.regAccPort = 0
        · exact ⟨1, several, by omega⟩
        · exact ⟨0, by omega, zero⟩
      exact ⟨pnum, List.mem_range.mpr inDevice, fun skips => different skips.2⟩
    next =>
      refine ⟨inParms.portNum, List.mem_singleton.mpr rfl, ?_⟩
      rintro ⟨inBand, same⟩
      exact reaches.other.elim (by simp [inBand]) fun different => different same
  exact forM_resetPort_sends isReset

/-! ### The calls -/

/-- What the request allows: link partners are told to reset themselves only if that is asked for,
and the port that registers are accessed through is left alone. -/
structure ResetsWithin (inParms : PcResetPortIn) (log : List (RegEvent Reg)) : Prop where
  partners : inParms.resetLp = false → ¬SendsReset log
  access : inParms.oobRegAcc = false → Spares inParms.regAccPort log

theorem cpsRioPcResetPort_within_iff (notWhole : inParms.wholeDevice = false) :
    ResetsWithin inParms (logOf (cpsRioPcResetPort dev (logged device) inParms) impRc state) ↔
      inParms.resetLp = true ∨ ¬Reaches dev device state inParms := by
  constructor
  · intro within
    by_contra neither
    rw [not_or, Bool.not_eq_true, not_not] at neither
    apply within.partners neither.1
    exact logOf_of_meets (cpsRioPcResetPort_sends notWhole neither.2)
  · intro either
    have noWrites (notReaches : ¬Reaches dev device state inParms) :
        NoWrites (logOf (cpsRioPcResetPort dev (logged device) inParms) impRc state) :=
      logOf_of_meets
        (cpsRioPcResetPort_noWrites notWhole notReaches fun _ _ => List.not_mem_nil)
    constructor
    · rintro noPartner ⟨pnum, isWrite⟩
      have notReaches := either.resolve_left (by simp [noPartner])
      exact noWrites notReaches _ _ isWrite
    · intro inBand
      by_cases isPort : inParms.regAccPort < dev.numPorts
      · exact cpsRioPcResetPort_spares notWhole inBand isPort
      · have notReaches : ¬Reaches dev device state inParms := by
          intro reaches
          exact reaches.access.elim (by simp [inBand]) isPort
        exact fun reg value isWrite =>
          absurd isWrite (noWrites notReaches reg value)

end Runs

section ClearErrs

variable {δ : Type} {dev : CpsDevice} {device : RegDevice Reg δ} {inParms : PcClrErrsIn}
  {impRc : Nat} {state : δ}

/-- A request to clear the errors of a port gets as far as resetting it. -/
structure ClearReaches (dev : CpsDevice) (device : RegDevice Reg δ) (state : δ)
    (inParms : PcClrErrsIn) : Prop where
  port : inParms.portNum < dev.numPorts
  errStat : ∃ value, (device.read (.port .errStat inParms.portNum) state).1 = .ok value
  quadCfg : ∃ value, (device.read (.dev .quadCfg)
    (device.read (.port .errStat inParms.portNum) state).2).1 = .ok value

/-- A request to reset itself was sent to a link partner exactly if this holds. -/
def SendsIff {δ : Type} (reaches : Prop) (after : δ × List (RegEvent Reg)) : Prop :=
  SendsReset after.2 ↔ reaches

theorem sendsIff_of_noWrites {reaches : Prop} {after : δ × List (RegEvent Reg)}
    (noWrites : NoWrites after.2) (notReaches : ¬reaches) : SendsIff reaches after :=
  iff_of_false (fun ⟨_, isWrite⟩ => noWrites _ _ isWrite) notReaches

theorem rstPortIn_sendsIff {log : List (RegEvent Reg)} (isPort : inParms.portNum < dev.numPorts)
    (noWrites : NoWrites log) :
    Meets (fun before : Attached Nat (δ × List (RegEvent Reg)) => before.device = (state, log))
      (taking (cpsRioPcResetPort dev (logged device) (rstPortIn inParms false)))
      (fun _ after =>
        SendsIff (∃ value, (device.read (.dev .quadCfg) state).1 = .ok value) after.device)
      fun _ after =>
        SendsIff (∃ value, (device.read (.dev .quadCfg) state).1 = .ok value) after.device := by
  have notWhole : (rstPortIn inParms false).wholeDevice = false := by
    simp [PcResetPortIn.wholeDevice, rstPortIn]
  apply taking_meets (P := fun before : δ × List (RegEvent Reg) => before = (state, log))
    (F := SendsIff (∃ value, (device.read (.dev .quadCfg) state).1 = .ok value))
    (Q := fun _ => SendsIff (∃ value, (device.read (.dev .quadCfg) state).1 = .ok value))
  by_cases isRead : ∃ value, (device.read (.dev .quadCfg) state).1 = .ok value
  · have reaches : Reaches dev device state (rstPortIn inParms false) :=
      ⟨.inr isPort, .inl rfl, isRead, .inl rfl⟩
    apply (cpsRioPcResetPort_sends notWhole reaches).weaken fun _ before => before
    · exact fun _ _ sends => iff_of_true sends isRead
    · exact fun _ _ sends => iff_of_true sends isRead
  · have notReaches : ¬Reaches dev device state (rstPortIn inParms false) :=
      fun reaches => isRead reaches.quadCfg
    apply (cpsRioPcResetPort_noWrites notWhole notReaches noWrites).weaken fun _ before => before
    · exact fun _ _ noWrites => sendsIff_of_noWrites noWrites isRead
    · exact fun _ _ noWrites => sendsIff_of_noWrites noWrites isRead

/-- Without the permission to clear the errors of the link partner it is told to reset itself
exactly if the request reaches the port. -/
theorem cpsRioPcClrErrs_sends_iff (noPartner : inParms.clrLpPortErr = false) :
    SendsReset (logOf (cpsRioPcClrErrs dev (logged device) inParms) impRc state) ↔
      ClearReaches dev device state inParms := by
  apply logOf_of_meets (P := fun log => SendsReset log ↔ ClearReaches dev device state inParms)
  apply setImpRc_bind (P := fun before : δ × List (RegEvent Reg) => before = (state, []))
  apply Meets.ite
  · intro invalid
    apply leave_meets (P := fun before : δ × List (RegEvent Reg) => before = (state, []))
      (F := SendsIff (ClearReaches dev device state inParms))
    rintro _ rfl
    apply sendsIff_of_noWrites fun _ _ => List.not_mem_nil
    exact fun reaches => absurd reaches.port (Nat.not_lt.mpr invalid)
  intro notInvalid
  have isPort : inParms.portNum < dev.numPorts := Nat.lt_of_not_le notInvalid
  have errStatRead : Meets
      (fun before : Attached Nat (δ × List (RegEvent Reg)) => before.device = (state, []))
      (readReg (logged device) (.port .errStat inParms.portNum) (pcClrErrs 2))
      (fun regVal after => ∃ next,
        device.read (.port .errStat inParms.portNum) state = (.ok regVal, next) ∧
          after.device = (next, [] ++ [.read (.port .errStat inParms.portNum) regVal]))
      fun _ after => SendsIff (ClearReaches dev device state inParms) after.device := by
    apply orLeave_meets (F := SendsIff (ClearReaches dev device state inParms))
    apply regRead_logged_at.weaken (fun _ before => before) fun _ _ after => after
    rintro _ after ⟨failure, next, read, same⟩
    rw [same]
    apply sendsIff_of_noWrites fun _ _ => List.not_mem_nil
    rintro ⟨_, ⟨value, isRead⟩, _⟩
    rw [read] at isRead
    cases isRead
  apply errStatRead.bind
  intro regVal
  apply Meets.ofExists
  intro next
  apply Meets.assume
  intro read
  have reaches_iff : (∃ value, (device.read (.dev .quadCfg) next).1 = .ok value) ↔
      ClearReaches dev device state inParms := by
    constructor
    · exact fun isRead => ⟨isPort, ⟨regVal, congrArg Prod.fst read⟩, read ▸ isRead⟩
    · intro reaches
      have isRead := reaches.quadCfg
      rwa [read] at isRead
  have noInfo : mayResetLp inParms regVal = none := if_neg (by simp [noPartner])
  have onlyRead : NoWrites ([] ++ [.read (.port .errStat inParms.portNum) regVal]) :=
    fun _ _ isWrite => by cases List.mem_singleton.mp isWrite
  rw [noInfo, ← reaches_iff]
  exact rstPortIn_sendsIff isPort onlyRead

end ClearErrs

end RioFabric.CpsPort

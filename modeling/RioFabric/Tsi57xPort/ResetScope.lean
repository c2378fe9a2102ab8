import RioFabric.Tsi57xPort.AckIds
import RioFabric.Tsi57xPort.ResetPort

/-!
# What resets of Tsi57x ports reach

The port that registers are accessed through is left alone if it is in use, but not on the Tsi577,
where no port is.
-/

namespace RioFabric.Tsi57xPort

open Lib Dar PortConfig
open RxsPort (RioPcOnePortConfig)

/-- The registers that are written to restore the configuration of a port. -/
def IsRestored : Reg → Prop
  | .port .lmReq _ => False
  | .port _ _ => True
  | .dev _ => True
  | _ => False

theorem isRestored_of_mem {entry : PortReg × BitVec 32} (isMember : entry ∈ regOffsets)
    (pnum : Nat) : IsRestored (.port entry.1 pnum) := by
  have notLmReq : ∀ entry ∈ regOffsets, entry.1 ≠ .lmReq := by decide
  obtain ⟨reg, mask⟩ := entry
  cases reg <;> first | trivial | exact absurd rfl (notLmReq _ isMember)

/-- A port can be reset without a stop, together with the port that is reset with it. -/
structure Resettable (dev : Tsi57xDevice) (pcs : List RioPcOnePortConfig) (pnum : Nat) : Prop where
  isPort : pnum < dev.numPorts
  partner : (dev.pmr pnum).laneCount4x ≠ 0 ∧ dev ≠ .tsi577 →
    (pcs.any fun pc => pc.pnum = pnum + 1) = true ∧ pnum + 1 < dev.numPorts

section Turns

variable {μ δ : Type} [HasImpRc μ] {dev : Tsi57xDevice} {device : RegDevice Reg δ}
  {scratchpad : δ → Nat → BitVec 32} {Inv F : δ → Prop} {allowed : Reg → BitVec 32 → Prop}
  {inParms : PcResetPortIn} {pcs : List RioPcOnePortConfig} {pnum : Nat}

omit [HasImpRc μ] in
theorem preserveRegsForPowerup_holds (holds : device.Holds Inv allowed F) :
    Holds Inv F (preserveRegsForPowerup device pnum : EStateM Nat (Attached μ δ) _) := by
  apply Holds.mapM
  intro entry _
  exact holds.regRead.bind fun _ => Holds.pure _

section

variable (holds : device.Holds Inv allowed F)
include holds

omit [HasImpRc μ] in
theorem restoreRegsFromPowerup_holds (restores : ∀ reg value, IsRestored reg → allowed reg value)
    {saved : Option (List (BitVec 32))} :
    Holds Inv F (restoreRegsFromPowerup device scratchpad pnum saved :
      EStateM Nat (Attached μ δ) Unit) := by
  apply Holds.bind
  · apply Holds.forM
    intro idx _
    apply Holds.ite (fun _ => Holds.pure _)
    intro _
    apply Meets.getBind
    intro state _
    exact holds.regWrite (restores _ _ trivial)
  · intro _
    apply Holds.forM
    intro entry isMember
    have isOffset : entry.1 ∈ regOffsets := (List.of_mem_zip isMember).1
    exact holds.regWrite (restores _ _ (isRestored_of_mem isOffset pnum))

theorem resetLp_holds (early : pnum < dev.numPorts ∨ ∀ device, Inv device → F device)
    (request : allowed (.port .lmReq pnum) lreqCmdRstDev) :
    Holds Inv F (resetLp dev device pnum : Call μ δ Unit) := by
  apply Holds.ite
  · intro notPort
    exact leave_holds (early.resolve_left (Nat.not_lt.mpr notPort))
  · exact fun _ => writeReg_holds holds request

/-- The port whose registers are saved with those of another one can be reset. -/
def DepFits (dev : Tsi57xDevice) (Inv F : δ → Prop) (saved : Option SavedRegs) : Prop :=
  ∀ depPort depSaved, saved.bind (·.2) = some (depPort, depSaved) →
    depPort < dev.numPorts ∨ ∀ device, Inv device → F device

theorem savedRegs_meets (early : Resettable dev pcs pnum ∨ ∀ device, Inv device → F device) :
    Meets (fun state => Inv state.device) (savedRegs dev device inParms pcs pnum : Call μ δ _)
      (fun saved state => DepFits dev Inv F saved ∧ Inv state.device)
      fun _ state => F state.device := by
  apply Meets.ite
  · intro _
    have preserved : Meets (fun state => Inv state.device)
        (preserveForReset dev device pcs pnum : Call μ δ _)
        (fun saved state => DepFits dev Inv F (some saved) ∧ Inv state.device)
        fun _ state => F state.device := by
      apply Meets.bind (orLeave_holds (preserveRegsForPowerup_holds holds))
      intro saved
      apply Meets.ite
      · intro isEven
        apply Meets.ite
        · intro found
          apply Meets.bind (orThrow_holds (preserveRegsForPowerup_holds holds))
          intro depSaved
          apply Meets.pure
          intro state kept
          refine ⟨?_, kept⟩
          rintro _ _ ⟨⟩
          exact early.imp_left fun resettable => (resettable.partner isEven).2
        · intro notFound
          apply leave_meets
          apply early.resolve_left
          exact fun resettable => notFound (resettable.partner isEven).1
      · intro _
        apply Meets.pure
        intro state kept
        exact ⟨nofun, kept⟩
    apply preserved.bind
    intro saved
    exact Meets.pure fun _ fits => fits
  · intro _
    apply Meets.pure
    intro state kept
    exact ⟨nofun, kept⟩

theorem resetPartners_holds (early : pnum < dev.numPorts ∨ ∀ device, Inv device → F device)
    {saved : Option SavedRegs} (fits : DepFits dev Inv F saved)
    (request : inParms.resetLp = true → ∀ pnum, allowed (.port .lmReq pnum) lreqCmdRstDev) :
    Holds Inv F (resetPartners dev device inParms pnum saved : Call μ δ Unit) := by
  apply Holds.ite
  · intro asked
    apply (resetLp_holds holds early (request asked pnum)).bind
    intro _
    split
    next depPort depSaved isDep =>
      exact resetLp_holds holds (fits depPort depSaved isDep) (request asked depPort)
    next => exact Holds.pure _
  · exact fun _ => Holds.pure _

end

theorem restoreDep_holds (keeps : device.Holds Inv allowed Inv)
    (restores : ∀ reg value, IsRestored reg → allowed reg value) {saved : Option SavedRegs} :
    Holds Inv F (restoreDep device scratchpad saved : Call μ δ Nat) := by
  unfold restoreDep
  split
  next depPort depSaved isDep =>
    apply Meets.bind (rcOf_meets (restoreRegsFromPowerup_holds keeps restores))
    intro rc
    apply Holds.ite (fun _ => Holds.pure _)
    exact fun _ => setImpRc_holds.bind fun _ => Holds.pure _
  next => exact Holds.pure _

theorem resetUpPort_meets {Mid : δ → Prop} {allowed' : Reg → BitVec 32 → Prop}
    (holds : device.Holds Inv allowed F)
    (after : device.Holds Mid allowed' F) (keeps : device.Holds Mid allowed' Mid)
    (restores : ∀ reg value, IsRestored reg → allowed' reg value)
    (request : inParms.resetLp = true → ∀ pnum, allowed (.port .lmReq pnum) lreqCmdRstDev)
    (early : Resettable dev pcs pnum ∨ ∀ device, Inv device → F device)
    (cycle : Meets (fun state => Inv state.device) (powerCycle dev device pnum : Call μ δ Unit)
      (fun _ state => Mid state.device) fun _ state => F state.device) :
    Meets (fun state => Inv state.device)
      (resetUpPort dev device scratchpad inParms pcs pnum : Call μ δ Nat)
      (fun _ state => Mid state.device) fun _ state => F state.device := by
  apply Meets.bind (savedRegs_meets holds early)
  intro saved
  apply Meets.assume
  intro fits
  apply Meets.bind (resetPartners_holds holds (early.imp_left Resettable.isPort) fits request)
  intro _
  apply Meets.bind cycle
  intro _
  apply (orLeave_holds (restoreRegsFromPowerup_holds after restores)).bind
  exact fun _ => restoreDep_holds keeps restores

/-- The loop over the ports keeps what each of its turns keeps. -/
theorem foldlM_resetTurn_holds (holds : device.Holds Inv allowed F)
    (keeps : device.Holds Inv allowed Inv)
    (restores : ∀ reg value, IsRestored reg → allowed reg value)
    (request : inParms.resetLp = true → ∀ pnum, allowed (.port .lmReq pnum) lreqCmdRstDev)
    {skip : List Nat} {turns : List RioPcOnePortConfig}
    (early : ∀ pc ∈ turns, Resettable dev pcs pc.pnum ∨ ∀ device, Inv device → F device)
    (cycle : ∀ pc ∈ turns, pc.pnum ∉ skip → pc.portAvailable = true → pc.poweredUp = true →
      Holds Inv F (powerCycle dev device pc.pnum : Call μ δ Unit)) (rc : Nat) :
    Holds Inv F (turns.foldlM (resetTurn dev device scratchpad inParms skip pcs) rc :
      Call μ δ Nat) := by
  apply Holds.foldlM
  intro rc pc isMember
  apply Holds.ite (fun _ => Holds.pure _)
  intro notSkipped
  rw [not_or, not_or, Bool.not_eq_true', Bool.not_eq_true', Bool.not_eq_false,
    Bool.not_eq_false] at notSkipped
  exact resetUpPort_meets holds holds keeps restores request (early pc isMember)
    (cycle pc isMember notSkipped.1 notSkipped.2.1 notSkipped.2.2)

end Turns

/-- A request to a link partner to reset itself was sent, or was tried to be. -/
def SendsReset (log : List (RegEvent Reg)) : Prop :=
  ∃ pnum, .write (.port .lmReq pnum) lreqCmdRstDev ∈ log

section Requests

variable {δ : Type} {dev : Tsi57xDevice} {device : RegDevice Reg δ}
  {scratchpad : δ × List (RegEvent Reg) → Nat → BitVec 32} {Inv : δ → Prop}
  {allowed : Reg → BitVec 32 → Prop} {impRc : Nat} {state : δ}

theorem determinePortsToSkip_preserves {μ : Type} [HasImpRc μ] (keeps : device.Keeps Inv allowed)
    {oobRegAcc resetPort : Bool} :
    Preserves Inv (determinePortsToSkip dev device oobRegAcc resetPort : Call μ δ _) := by
  apply Preserves.ite (fun _ => Preserves.pure _)
  intro _
  apply (readReg_preserves keeps).bind
  intro swPort
  apply (taking_preserves (tsi57xRioPcGetStatus_preserves keeps)).bind
  intro status
  apply Preserves.ite
  · exact fun _ => setImpRc_preserves.bind fun _ => Preserves.pure _
  · exact fun _ => setImpRc_preserves.bind fun _ => Preserves.pure _

theorem powerCycle_preserves {μ : Type} [HasImpRc μ] (keeps : device.Keeps Inv allowed)
    (dloops : ∀ num value, allowed (.dloop num) value) {pnum : Nat} :
    Preserves Inv (powerCycle dev device pnum : Call μ δ Unit) := by
  apply (readReg_preserves keeps).bind
  intro dloop
  apply (writeReg_preserves keeps (dloops _ _)).bind
  exact fun _ => writeReg_preserves keeps (dloops _ _)

theorem tsi57xRioPcResetPort_not_sends {inParms : PcResetPortIn}
    (noPartner : inParms.resetLp = false) :
    ¬SendsReset
      (logOf (tsi57xRioPcResetPort dev (logged device) scratchpad inParms) impRc state) := by
  have keeps : (logged device).Keeps
      (WritesOnly fun reg _ => ∀ pnum, reg ≠ .port .lmReq pnum) _ := logged_keeps
  have preserves : Preserves (WritesOnly fun reg _ => ∀ pnum, reg ≠ .port .lmReq pnum)
      (tsi57xRioPcResetPort dev (logged device) scratchpad inParms : Call Nat _ Unit) := by
    apply setImpRc_preserves.bind
    intro _
    apply Preserves.ite (fun _ => leave_preserves)
    intro _
    apply (determinePortsToSkip_preserves keeps).bind
    intro skip
    apply setImpRc_preserves.bind
    intro _
    apply (taking_preserves (tsi57xRioPcGetConfig_preserves keeps)).bind
    intro cfgOut
    apply Preserves.bind
    · apply foldlM_resetTurn_holds keeps.holds keeps.holds
      · intro reg value restored pnum same
        rw [same] at restored
        exact restored
      · exact fun asked => absurd asked (by simp [noPartner])
      · exact fun _ _ => .inr fun _ before => before
      · exact fun _ _ _ _ _ => powerCycle_preserves keeps nofun
    · exact fun rc => Preserves.ite (fun _ => Preserves.throw _) fun _ => Preserves.pure _
  rintro ⟨pnum, isWrite⟩
  exact allowed_of_preserves preserves isWrite pnum rfl

/-- Without the permission to clear the errors of the link partner, it is not told to reset
itself; nor is it with that permission. -/
theorem tsi57xRioPcClrErrs_not_sends {magic : ControlSymbol.CsBytes} {inParms : PcClrErrsIn} :
    ¬SendsReset (logOf (tsi57xRioPcClrErrs dev (logged device) magic inParms) impRc state) := by
  have keeps : (logged device).Keeps (WritesOnly IsRecovery) IsRecovery := logged_keeps
  have preserves : Preserves (WritesOnly IsRecovery)
      (tsi57xRioPcClrErrs dev (logged device) magic inParms) := by
    apply Preserves.ite
    · exact fun _ => clrErrsWith_preserves keeps fun _ => updateLinkPartner_preserves keeps
    · exact fun _ => clrErrsWith_preserves keeps fun _ => Preserves.pure _
  rintro ⟨pnum, isWrite⟩
  have same : lreqCmdRstDev = lreqCmdPortStat := allowed_of_preserves preserves isWrite
  exact absurd same (by decide)

end Requests

end RioFabric.Tsi57xPort

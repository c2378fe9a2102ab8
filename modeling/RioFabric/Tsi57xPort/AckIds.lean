import RioFabric.Tsi57xPort.ClearErrs

/-!
# AckIDs after the errors of a Tsi57x port were cleared

The word that is written to send the control symbol is a truth value, not the bytes of the symbol.
-/

namespace RioFabric.Tsi57xPort

open Lib Dar PortConfig ControlSymbol

/-- The ackIDs of the link partner are those of the port, which has sent one more packet. -/
structure AckIdsMatch (ackidStat lpAckidStat : BitVec 32) : Prop where
  inbound : (lpAckidStat &&& ackidStatInbound) >>> 24 =
    ((ackidStat &&& ackidStatOutbound) + 1) &&& ackidStatOutbound
  outbound : lpAckidStat &&& ackidStatOutbound = (ackidStat &&& ackidStatInbound) >>> 24
  outstanding : (lpAckidStat &&& ackidStatOutstanding) >>> 8 =
    (ackidStat &&& ackidStatInbound) >>> 24

/-- What was last read from a register, or written to it. -/
def lastSeen (reg : Reg) (attempts : List (RegAttempt Reg)) : Option (BitVec 32) :=
  (attempts.filterMap fun attempt =>
    match attempt with
    | .read other (.ok value) => if other = reg then some value else none
    | .write other value none => if other = reg then some value else none
    | _ => none).getLast?

/-- A port of the link partner is written, with success. -/
def RegAttempt.isUpdate : RegAttempt Reg → Bool
  | .write (.linkPartner _) _ none => true
  | _ => false

/-- The accesses of a call send the symbol, write at most one port of the link partner and give it
ackIDs that match those that the port has then. -/
structure Recovers (pnum : Nat) (bytes : CsBytes) (attempts : List (RegAttempt Reg)) : Prop where
  symbol : ∀ value failure, .write (.port .csTx pnum) value failure ∈ attempts →
    value = csWord bytes
  once : (attempts.filter RegAttempt.isUpdate).length ≤ 1
  agrees : ∀ before lpPortNum value failure after ackidStat,
    attempts = before ++ .write (.linkPartner lpPortNum) value failure :: after →
      lastSeen (.port .ackidStat pnum) before = some ackidStat → AckIdsMatch ackidStat value

section Symbol

variable {fields : CsField} {uninit : CsBytes}

theorem csByte_magicCsBytes : csByte (magicCsBytes fields uninit) 1 = 0x40#32 := by
  have isFirst : (magicCsBytes fields uninit).csBytes[(1 : Fin 8)] =
      (smallBytes (magicCs fields)).1 := by
    simp [magicCsBytes, csFieldsToBytes, magicCs]
  rw [csByte, isFirst]
  simp [smallBytes, magicCs, Stype0.code]

theorem csRegVal_magicCsBytes : csRegVal (magicCsBytes fields uninit) = 1 := by
  apply if_pos
  left
  rw [csByte_magicCsBytes]
  decide

theorem csWord_magicCsBytes_ne_one : csWord (magicCsBytes fields uninit) ≠ 1 := by
  intro same
  have isSet : (csWord (magicCsBytes fields uninit)).getLsbD 30 = true := by
    rw [csWord, csByte_magicCsBytes, BitVec.getLsbD_or]
    exact Bool.or_eq_true_iff.mpr (.inl (by decide))
  rw [same] at isSet
  exact absurd isSet (by decide)

end Symbol

/-- The writes that clear errors. -/
def IsRecovery (reg : Reg) (value : BitVec 32) : Prop :=
  match reg with
  | .port .lmReq _ => value = lreqCmdPortStat
  | .port .csTx _ | .port .ackidStat _ | .port .errStatus _ | .linkPartner _ => True
  | _ => False

section ClearErrs

variable {δ : Type} {dev : Tsi57xDevice} {device : RegDevice Reg δ} {magic : CsBytes}
  {inParms : PcClrErrsIn} {Inv : δ → Prop} {pnum : Nat}

theorem checkClrErrsIn_preserves :
    Preserves Inv (checkClrErrsIn dev inParms : Call Nat δ Unit) := by
  apply Preserves.ite (fun _ => leave_preserves)
  intro _
  refine Preserves.ite (fun _ => ?_) fun _ => Preserves.pure _
  split
  next => exact leave_preserves
  next =>
    apply Preserves.ite (fun _ => leave_preserves)
    exact fun _ => Preserves.ite (fun _ => leave_preserves) fun _ => Preserves.pure _

section

variable (keeps : device.Keeps Inv IsRecovery)
include keeps

theorem checkPortOk_preserves :
    Preserves Inv (checkPortOk dev device pnum) := by
  apply (taking_preserves (tsi57xRioPcGetStatus_preserves keeps)).bind
  intro status
  exact Preserves.ite (fun _ => Preserves.pure _) fun _ => leave_preserves

theorem pollLmResp_preserves {dlay : Nat} :
    Preserves Inv (pollLmResp device pnum dlay) := by
  induction dlay with
  | zero => exact leave_preserves
  | succ dlay ih =>
    apply (readReg_preserves keeps).bind
    exact fun lresp => Preserves.ite (fun _ => Preserves.pure _) fun _ => ih

theorem setAckIds_preserves :
    Preserves Inv (setAckIds device pnum) := by
  refine Preserves.bind (writeReg_preserves keeps ?_) fun _ => ?_
  · rfl
  apply (pollLmResp_preserves keeps).bind
  intro lresp
  apply (readReg_preserves keeps).bind
  intro ackidStat
  refine Preserves.bind (writeReg_preserves keeps ?_) fun _ => Preserves.pure _
  trivial

theorem clearErrStatus_preserves :
    Preserves Inv (clearErrStatus device pnum) := by
  apply (readReg_preserves keeps).bind
  intro errStat
  refine Preserves.bind (writeReg_preserves keeps ?_) fun _ => ?_
  · trivial
  apply (readReg_preserves keeps).bind
  exact fun errStat => Preserves.ite (fun _ => leave_preserves) fun _ => Preserves.pure _

theorem clrErrsWith_preserves {linkPartner : BitVec 32 → Call Nat δ Unit}
    (partner : ∀ ackidStat, Preserves Inv (linkPartner ackidStat)) :
    Preserves Inv (clrErrsWith dev device magic inParms linkPartner) := by
  apply setImpRc_preserves.bind
  intro _
  apply checkClrErrsIn_preserves.bind
  intro _
  apply (checkPortOk_preserves keeps).bind
  intro _
  refine Preserves.bind (writeReg_preserves keeps ?_) fun _ => ?_
  · trivial
  apply (setAckIds_preserves keeps).bind
  intro ackidStat
  apply (partner ackidStat).bind
  exact fun _ => clearErrStatus_preserves keeps

theorem updateLinkPartner_preserves {ackidStat : BitVec 32} :
    Preserves Inv (updateLinkPartner dev device magic inParms ackidStat) := by
  apply Preserves.forM
  intro lpPortNum _
  refine Preserves.bind (tryWrite_preserves keeps ?_) fun written => ?_
  · trivial
  apply Preserves.ite (fun _ => Preserves.pure _)
  intro _
  exact takingAs_preserves (clrErrsWith_preserves keeps fun _ => Preserves.pure _)

end

end ClearErrs

section Resets

variable {δ : Type} {dev : Tsi57xDevice} {device : RegDevice Reg δ} {fields : CsField}
  {uninit : CsBytes} {inParms : PcClrErrsIn}

/-- A call that succeeds has sent its control symbol. -/
theorem tsi57xRioPcClrErrs_meets {magic : CsBytes}
    (Pre : Attached Nat (δ × List (RegAttempt Reg)) → Prop) :
    Meets Pre (tsi57xRioPcClrErrs dev (traced device) magic inParms)
      (fun _ state =>
        HasAttempt (.write (.port .csTx inParms.portNum) (csRegVal magic) none) state.device)
      fun _ _ => True := by
  have tracedKeeps {attempt : RegAttempt Reg} :
      (traced device).Keeps (HasAttempt attempt) IsRecovery :=
    traced_keeps.weaken fun _ _ _ => trivial
  have general (inParms : PcClrErrsIn) (linkPartner : BitVec 32 → Call Nat _ Unit)
      (partner : ∀ attempt ackidStat, Preserves (HasAttempt attempt) (linkPartner ackidStat)) :
      Meets Pre (clrErrsWith dev (traced device) magic inParms linkPartner)
        (fun _ state =>
          HasAttempt (.write (.port .csTx inParms.portNum) (csRegVal magic) none) state.device)
        fun _ _ => True := by
    apply Meets.bind (Meets.anything Pre _)
    intro _
    apply Meets.bind (Meets.anything _ _)
    intro _
    apply Meets.bind (Meets.anything _ _)
    intro _
    apply Meets.bind (orLeave_meets (F := fun _ => True) regWrite_traced_meets)
    intro _
    have rest : Preserves (HasAttempt (.write (.port .csTx inParms.portNum) (csRegVal magic) none))
        (setAckIds (traced device) inParms.portNum >>= fun ackidStat => do
          linkPartner ackidStat
          clearErrStatus (traced device) inParms.portNum) := by
      apply (setAckIds_preserves tracedKeeps).bind
      intro ackidStat
      apply (partner _ ackidStat).bind
      exact fun _ => clearErrStatus_preserves tracedKeeps
    exact rest.weakenFail fun _ _ _ => trivial
  apply Meets.ite
  · intro _
    exact general inParms _ fun _ _ => updateLinkPartner_preserves tracedKeeps
  · intro _
    exact general { inParms with clrLpPortErr := false } _ fun _ _ => Preserves.pure _

theorem truth_value_written {start final : Attached Nat (δ × List (RegAttempt Reg))}
    (ran : (tsi57xRioPcClrErrs dev (traced device) (magicCsBytes fields uninit) inParms).run start =
      .ok () final) :
    .write (.port .csTx inParms.portNum) 1 none ∈ final.device.2 := by
  have written := (tsi57xRioPcClrErrs_meets (fun _ => True) trivial).1 ran
  rwa [csRegVal_magicCsBytes] at written

theorem Recovers.not_mem {pnum : Nat} {attempts : List (RegAttempt Reg)}
    (recovers : Recovers pnum (magicCsBytes fields uninit) attempts) :
    .write (.port .csTx pnum) 1 none ∉ attempts :=
  fun written => csWord_magicCsBytes_ne_one (recovers.symbol 1 none written).symm

/-- In no call that succeeds are the ackIDs recovered as they should be: the symbol is not sent. -/
theorem not_recovers {start final : Attached Nat (δ × List (RegAttempt Reg))}
    (ran : (tsi57xRioPcClrErrs dev (traced device) (magicCsBytes fields uninit) inParms).run start =
      .ok () final) :
    ¬Recovers inParms.portNum (magicCsBytes fields uninit) final.device.2 :=
  fun recovers => recovers.not_mem (truth_value_written ran)

end Resets

/-- The registers of a Tsi578 whose ports are 4x ports that are `PORT_OK` and get a response from
the link partner; no access to them fails. -/
def linkedDevice : RegisterFile Reg where
  value reg :=
    match reg with
    | .port .errStatus _ => errStatusPortOk
    | .port .lmResp _ => lmRespRespVld
    | _ => 0
  faults _ _ := 0

/-- A link partner that has 16 ports. -/
def partnerInfo : DarDevInfo where
  driverFamily := .tsi57x
  dsfH := 0
  extFPtrForPort := 0x100
  extFPtrPortType := 0
  extFPtrForLane := 0
  extFPtrForErr := 0
  extFPtrForVC := 0
  extFPtrForVOQ := 0
  extFPtrForRT := 0
  extFPtrForTS := 0
  extFPtrForMISC := 0
  extFPtrForHS := 0
  devID := 0x0578000d
  devInfo := 0
  assyInfo := 0
  features := 0
  swPortInfo := 0x00001000
  swRtInfo := 0
  srcOps := 0
  dstOps := 0
  swMcastInfo := 0
  ctl1Reg _ := 0
  scratchpad _ := 0
  poregsMax := 0
  poregs := none

/-- A request to clear the errors of port 0 and of port 3 of the link partner. -/
def clearPort0 : PcClrErrsIn := ⟨0, true, some partnerInfo, 1, fun _ => 3⟩

/-- The structures before they are initialised, and the bytes of the symbol. -/
def uninitFields : CsField := ⟨.csInvalid, .pa, 0, 0, .sop, 0, .nop, 0, 0, false⟩

def sentBytes : CsBytes := magicCsBytes uninitFields ⟨.csInvalid, .replicate 8 0⟩

theorem clearPort0_ends :
    endsWith (fun _ _ => true)
      ((tsi57xRioPcClrErrs .tsi578 (traced (registerFile store)) sentBytes clearPort0).run
        ⟨0, (linkedDevice, [])⟩) = true := by
  decide +kernel

/-- The call succeeds, and the control symbol was not sent. -/
theorem symbol_not_sent :
    ∃ final, (tsi57xRioPcClrErrs .tsi578 (traced (registerFile store)) sentBytes clearPort0).run
        ⟨0, (linkedDevice, [])⟩ = .ok () final ∧
      clearPort0.clrLpPortErr = true ∧ ¬Recovers 0 sentBytes final.device.2 := by
  obtain ⟨_, final, ran, _⟩ := exists_of_endsWith clearPort0_ends
  exact ⟨final, ran, rfl, fun recovers => recovers.not_mem (truth_value_written ran)⟩

/-- It is not in this call that the ackIDs are recovered as they should be. -/
theorem not_recovers_clearPort0 :
    ∃ start final, (tsi57xRioPcClrErrs .tsi578 (traced (registerFile store)) sentBytes
        clearPort0).run start = .ok () final ∧ ¬Recovers 0 sentBytes final.device.2 := by
  obtain ⟨_, final, ran, _⟩ := exists_of_endsWith clearPort0_ends
  exact ⟨_, final, ran, not_recovers ran⟩

end RioFabric.Tsi57xPort

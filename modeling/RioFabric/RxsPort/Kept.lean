import RioFabric.RxsPort.Changes

/-!
# What configuring keeps

An invariant of the device that its reads keep, and those writes that are made, is kept by the calls
that read and change the configuration of ports.
-/

namespace RioFabric.RxsPort

open Lib Dar

section Programs

variable {μ δ : Type} {device : RegDevice Reg δ} {Inv : δ → Prop}
  {allowed : Reg → BitVec 32 → Prop} (keeps : device.Keeps Inv allowed)

section

variable {α : Type} {impRc : Nat}

theorem orLeave_preserves {called : RcProgram Nat δ α} (preserves : Preserves Inv called) :
    Preserves Inv (orLeave impRc called) :=
  orLeave_meets preserves fun _ _ before => before

theorem leave_preserves {rc : Nat} : Preserves Inv (leave impRc rc : PcProgram δ α) :=
  leave_meets fun _ before => before

theorem overwriting_preserves {program : PcProgram δ α} (preserves : Preserves Inv program) :
    Preserves Inv (overwriting impRc program) :=
  overwriting_meets preserves fun _ _ before => before

theorem attemptRc_preserves {called : RcProgram Nat δ Unit} (preserves : Preserves Inv called) :
    Preserves Inv (attemptRc called) :=
  attemptRc_meets preserves fun _ _ before => before

theorem attempt_preserves {program : PcProgram δ Unit} (preserves : Preserves Inv program) :
    Preserves Inv (attempt program) := by
  apply attempt_meets
  apply preserves.weakenFail
  exact fun stop state before => ⟨fun _ _ => before, fun _ => before⟩

theorem getPortList_preserves {numPorts : Nat} {ptl : DarPtl} :
    Preserves Inv (getPortList (δ := δ) numPorts ptl impRc) :=
  getPortList_keeps.weakenPost fun _ _ made => made.2

include keeps in
theorem readReg_preserves {reg : Reg} : Preserves Inv (readReg device reg impRc) :=
  orLeave_preserves keeps.regRead

include keeps in
theorem writeReg_preserves {reg : Reg} {value : BitVec 32} (isAllowed : allowed reg value) :
    Preserves Inv (writeReg device reg value impRc) :=
  orLeave_preserves (keeps.regWrite isAllowed)

end

include keeps

theorem rxsRioPcClkPd_preserves :
    Preserves Inv (rxsRioPcClkPd device : RcProgram μ δ Nat) := by
  apply Preserves.bind keeps.regRead
  intro rck
  apply Preserves.bind keeps.regRead
  intro ps
  split
  · exact Preserves.pure _
  · exact Preserves.throw _

theorem rxsGetLrto_preserves : Preserves Inv (rxsGetLrto device : RcProgram μ δ Nat) := by
  apply Preserves.bind keeps.regRead
  intro lrtoReg
  apply Preserves.bind (rxsRioPcClkPd_preserves keeps)
  exact fun srvPd => Preserves.pure _

theorem rxsSetLrto_preserves (isAllowed : ∀ value, allowed (.dev .spLtCtl) value) (lrto : Nat) :
    Preserves Inv (rxsSetLrto device lrto : RcProgram μ δ Unit) := by
  apply Preserves.bind (Preserves.failIf _ _)
  intro _
  apply Preserves.bind (rxsRioPcClkPd_preserves keeps)
  exact fun srvPd => keeps.regWrite (isAllowed _)

theorem getPortConfig_preserves (pnum : Nat) : Preserves Inv (getPortConfig device pnum) := by
  apply Preserves.bind (readReg_preserves keeps)
  intro errStat
  apply Preserves.ite (fun _ => Preserves.pure _)
  intro _
  apply Preserves.bind (readReg_preserves keeps)
  intro pwrDn
  apply Preserves.ite (fun _ => Preserves.pure _)
  intro _
  apply Preserves.bind (readReg_preserves keeps)
  intro ctl
  apply Preserves.bind (readReg_preserves keeps)
  intro ctl2
  apply Preserves.bind (readReg_preserves keeps)
  intro pCtl
  apply Preserves.ite (fun _ => leave_preserves)
  intro _
  apply Preserves.bind (readReg_preserves keeps)
  exact fun pol => Preserves.pure _

theorem rxsRioPcGetConfig_preserves (numPorts : Nat) (ptl : DarPtl) :
    Preserves Inv (rxsRioPcGetConfig device numPorts ptl) := by
  apply Preserves.bind (Preserves.modifyMemory _)
  intro _
  apply Preserves.bind getPortList_preserves
  intro ports
  apply Preserves.bind (orLeave_preserves (rxsGetLrto_preserves keeps))
  intro lrto
  apply Preserves.bind (Preserves.mapM fun pnum _ => getPortConfig_preserves keeps pnum)
  exact fun pc => Preserves.pure _

theorem readPortRegs_preserves (regs : PortRegs) (port : Nat) :
    Preserves Inv (readPortRegs device regs port : RcProgram μ δ PortRegs) := by
  apply Preserves.bind keeps.regRead
  intro plmPwdn
  apply Preserves.bind keeps.regRead
  intro spxCtl
  apply Preserves.bind keeps.regRead
  intro oneWr
  apply Preserves.bind keeps.regRead
  intro plmCtl
  apply Preserves.bind keeps.regRead
  intro plmPol
  apply Preserves.bind keeps.regRead
  intro rtEn
  apply Preserves.bind keeps.regRead
  exact fun mtcRtEn => Preserves.pure _

theorem readNamedRegs_preserves (sorted : PortConfigs) (curr : SetRegs) (port : Nat) :
    Preserves Inv (readNamedRegs device sorted curr port) := by
  apply Preserves.ite (fun _ => Preserves.pure _)
  intro _
  apply Preserves.bind (orLeave_preserves (readPortRegs_preserves keeps _ _))
  exact fun regs => Preserves.pure _

theorem trafficHalted_preserves (port : Nat) (pts : List Nat) :
    Preserves Inv (trafficHalted device port pts) := by
  induction pts with
  | nil => exact Preserves.pure _
  | cons pt pts ih =>
    apply Preserves.bind (readReg_preserves keeps)
    intro voq
    apply Preserves.bind (readReg_preserves keeps)
    intro mVoq
    exact Preserves.ite (fun _ => Preserves.pure _) fun _ => ih

theorem awaitHalted_preserves (rxsPorts port attempts : Nat) :
    Preserves Inv (awaitHalted device rxsPorts port attempts) := by
  induction attempts with
  | zero => exact Preserves.pure _
  | succ attempts ih =>
    apply Preserves.bind (overwriting_preserves (trafficHalted_preserves keeps _ _))
    intro clear
    exact Preserves.ite (fun _ => Preserves.pure _) fun _ => ih

/-- The changes are computed from the registers as they were read. -/
theorem computeChanges_preserves (rxsPorts : Nat) (sorted : PortConfigs) (curr chg : SetRegs) :
    Meets (fun state => Inv state.device) (computeChanges device rxsPorts sorted curr chg)
      (fun regs state => Inv state.device ∧
        changesOf rxsPorts sorted (namedRegs sorted chg regs.1) = .ok regs.2)
      fun _ state => Inv state.device := by
  apply Meets.bind (Preserves.foldlM (fun carried port _ => readNamedRegs_preserves keeps _ _ _) _)
  intro read
  split
  next changed isChanged => exact Meets.pure fun _ before => ⟨before, isChanged⟩
  next => exact leave_meets fun _ before => before

theorem haltTraffic_keeps (routes : ∀ pt value, allowed (.port .routeEn pt) value) {port : Nat}
    (halt : allowed (.port .mtcRouteEn port) 0) (rxsPorts : Nat) (clear : Bool) (chg : SetRegs) :
    Meets (fun state => Inv state.device) (haltTraffic device rxsPorts clear chg port)
      (fun next state => Inv state.device ∧ next = haltRoutes rxsPorts chg port)
      fun _ state => Inv state.device := by
  apply Meets.bind (Preserves.forM fun pt _ => writeReg_preserves keeps (routes pt _))
  intro _
  apply Meets.bind (attemptRc_preserves (keeps.regWrite halt))
  intro rc
  apply Meets.ite
  · intro _
    exact Meets.bind (Preserves.failIf _ _) fun _ => Meets.pure fun _ before => ⟨before, rfl⟩
  · intro _
    apply Meets.bind (awaitHalted_preserves keeps _ _ _)
    intro clear
    exact Meets.bind (Preserves.failIf _ _) fun _ => Meets.pure fun _ before => ⟨before, rfl⟩

/-- Writing back takes leave to write registers of the port alone. -/
theorem writeRegs_preserves {port : Nat}
    (config : ∀ reg ∈ [PortReg.pwdnCtl, .ctl, .impSpecCtl, .oneWr, .polCtl], ∀ value,
      allowed (.port reg port) value) (regs : PortRegs) :
    Preserves Inv (writeRegs device regs port) := by
  apply Preserves.bind (writeReg_preserves keeps (config _ (by simp) _))
  intro _
  apply Preserves.bind (writeReg_preserves keeps (config _ (by simp) _))
  intro _
  apply Preserves.bind (writeReg_preserves keeps (config _ (by simp) _))
  intro _
  apply Preserves.bind (writeReg_preserves keeps (config _ (by simp) _))
  intro _
  exact writeReg_preserves keeps (config _ (by simp) _)

theorem startTraffic_preserves {port : Nat} {regs : PortRegs}
    (route : allowed (.port .routeEn port) regs.rtEn)
    (mtcRoute : allowed (.port .mtcRouteEn port) regs.mtcRtEn) :
    Preserves Inv (startTraffic device regs port) := by
  apply Preserves.bind (writeReg_preserves keeps route)
  exact fun _ => writeReg_preserves keeps mtcRoute

end Programs

end RioFabric.RxsPort

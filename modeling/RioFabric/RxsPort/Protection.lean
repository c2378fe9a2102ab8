import RioFabric.Lib.RegLog
import RioFabric.RxsPort.Kept

/-!
# The port that registers are accessed through

A request that comes in through a port of the device must not cut that port off.  The port and the
other one of its pair are taken out of the request before traffic is halted and the registers are
written; the routes are written for all ports of the request.
-/

namespace RioFabric.RxsPort

open Lib Dar
open StatCounters (numRxsPorts)

/-- The registers that a port is configured with. -/
def configRegsOf : List PortReg := [.pwdnCtl, .ctl, .impSpecCtl, .oneWr, .polCtl]

/-- A write that spares a port and the other one of its pair: it is none to the registers that a
port is configured with, and does not take the route for maintenance packets. -/
def SparesPair (accPort : Nat) (reg : Reg) (value : BitVec 32) : Prop :=
  ∀ port, port = accPort ∨ port = oth accPort →
    (∀ portReg ∈ configRegsOf, reg ≠ .port portReg port) ∧
      (reg = .port .mtcRouteEn port → value ≠ 0)

section Spared

variable {accPort port : Nat} {sorted : PortConfigs} {inParms : PcSetConfigIn} {rxsPorts : Nat}
  {curr chg : SetRegs} {value : BitVec 32}

theorem sparesPair_dev {reg : DevReg} : SparesPair accPort (.dev reg) value :=
  fun _ _ => ⟨fun _ _ same => Reg.noConfusion same, fun same => Reg.noConfusion same⟩

theorem sparesPair_routeEn : SparesPair accPort (.port .routeEn port) value := by
  intro pt _
  refine ⟨fun portReg isConfig same => ?_, fun same => ?_⟩
  · cases same
    simp [configRegsOf] at isConfig
  · cases same

theorem sparesPair_mtcRouteEn (enabled : value ≠ 0) :
    SparesPair accPort (.port .mtcRouteEn port) value := by
  intro pt _
  refine ⟨fun portReg isConfig same => ?_, fun _ => enabled⟩
  cases same
  simp [configRegsOf] at isConfig

theorem sparesPair_of_ne (notPort : port ≠ accPort) (notOther : port ≠ oth accPort)
    {reg : PortReg} : SparesPair accPort (.port reg port) value := by
  intro pt isPair
  refine ⟨fun portReg _ same => ?_, fun same => ?_⟩
  · cases same
    exact isPair.elim notPort notOther
  · cases same
    exact (isPair.elim notPort notOther).elim

theorem pnum_maintainRegAcc (inBand : inParms.oobRegAcc = false)
    (isPair : port = inParms.regAccPort ∨ port = oth inParms.regAccPort) :
    (maintainRegAcc rxsPorts sorted inParms curr chg port).pnum = rioAllPorts := by
  rw [maintainRegAcc, if_neg (Bool.eq_false_iff.mp inBand), eraseConfig]
  by_cases isOther : port = oth inParms.regAccPort
  · rw [isOther, Function.update_self]
  · rw [Function.update_of_ne isOther, isPair.resolve_right isOther, eraseConfig,
      Function.update_self]

theorem isUp_maintainRegAcc :
    (maintainRegAcc rxsPorts sorted inParms curr chg port).isUp = (sorted port).isUp := by
  have erased : ∀ (configs : PortConfigs) (pt : Nat),
      (eraseConfig configs pt port).isUp = (configs port).isUp := by
    intro configs pt
    rw [eraseConfig]
    by_cases same : port = pt
    · subst same
      rw [Function.update_self]
      rfl
    · rw [Function.update_of_ne same]
  have unchanged : (eraseUnchanged rxsPorts sorted curr chg port).isUp = (sorted port).isUp := by
    rw [eraseUnchanged]
    split
    · rfl
    · rfl
  rw [maintainRegAcc]
  split
  · exact unchanged
  · rw [erased, erased, unchanged]

theorem not_isPair_of_changeRequiresReset (inBand : inParms.oobRegAcc = false) {now : SetRegs}
    (reset : changeRequiresReset (maintainRegAcc rxsPorts sorted inParms curr chg) curr now port) :
    port ≠ inParms.regAccPort ∧ port ≠ oth inParms.regAccPort := by
  rw [← not_or]
  intro isPair
  have othIsPair : oth port = inParms.regAccPort ∨ oth port = oth inParms.regAccPort := by
    rcases isPair with rfl | rfl
    · exact .inr rfl
    · exact .inl (oth_oth _)
  rw [changeRequiresReset, if_pos ⟨pnum_maintainRegAcc inBand isPair,
    pnum_maintainRegAcc inBand othIsPair⟩] at reset
  cases reset

@[simp] theorem mtcRtEn_haltRoutes (pt : Nat) :
    (haltRoutes rxsPorts chg port pt).mtcRtEn = (chg pt).mtcRtEn := by
  rw [haltRoutes]
  dsimp only
  split
  · rfl
  · rfl

end Spared

section Protects

variable {δ : Type} {device : RegDevice Reg δ} {Inv : δ → Prop} {inParms : PcSetConfigIn}
  (keeps : device.Keeps Inv (SparesPair inParms.regAccPort)) (inBand : inParms.oobRegAcc = false)

include keeps inBand

variable {rxsPorts : Nat} {sorted : PortConfigs} {curr chg : SetRegs}

theorem haltIfReset_spares (locals : SetCfgLocals) (carried : Nat × SetRegs) (port : Nat) :
    Meets (fun state => Inv state.device)
      (haltIfReset device rxsPorts locals (maintainRegAcc rxsPorts sorted inParms curr chg) curr
        carried port)
      (fun next state => Inv state.device ∧
        ∀ pt, (next.2 pt).mtcRtEn = (carried.2 pt).mtcRtEn)
      fun _ state => Inv state.device := by
  apply Meets.ite
  · intro reset
    obtain ⟨notPort, notOther⟩ := not_isPair_of_changeRequiresReset inBand reset
    apply Meets.bind (haltTraffic_keeps keeps (fun pt value => sparesPair_routeEn)
      (sparesPair_of_ne notPort notOther) _ _ _)
    intro next
    apply Meets.pure
    rintro state ⟨before, rfl⟩
    exact ⟨before, fun pt => mtcRtEn_haltRoutes pt⟩
  · exact fun _ => Meets.pure fun _ before => ⟨before, fun _ => rfl⟩

theorem writeNamedRegs_spares (port : Nat) (notAll : port ≠ rioAllPorts) (now : SetRegs) :
    Preserves Inv
      (writeNamedRegs device (maintainRegAcc rxsPorts sorted inParms curr chg) now port) := by
  apply Preserves.ite
  · intro named
    apply Preserves.bind (attempt_preserves (writeRegs_preserves keeps ?_ _)) fun _ =>
      Preserves.pure _
    intro reg _ value
    apply sparesPair_of_ne
    · intro isPair
      exact notAll (named.symm.trans (pnum_maintainRegAcc inBand (.inl isPair)))
    · intro isPair
      exact notAll (named.symm.trans (pnum_maintainRegAcc inBand (.inr isPair)))
  · exact fun _ => Preserves.pure _

theorem programPair_spares (few : rxsPorts ≤ rioMaxPorts) (locals : SetCfgLocals)
    (carried : Nat × SetRegs) {port : Nat} (isEven : port ∈ evenPorts rxsPorts) :
    Meets (fun state => Inv state.device)
      (programPair device rxsPorts locals (maintainRegAcc rxsPorts sorted inParms curr chg) curr
        carried port)
      (fun next state => Inv state.device ∧
        ∀ pt, (next.2 pt).mtcRtEn = (carried.2 pt).mtcRtEn)
      fun _ state => Inv state.device := by
  simp only [evenPorts, List.mem_filter, List.mem_range, decide_eq_true_eq] at isEven
  have small : port ≠ rioAllPorts ∧ oth port ≠ rioAllPorts := by
    rw [oth_of_even isEven.2, rioAllPorts]
    rw [rioMaxPorts] at few
    omega
  apply Meets.bind (haltIfReset_spares keeps inBand locals carried port)
  intro first
  apply Meets.assumeRight
  intro sameFirst
  apply Meets.bind (haltIfReset_spares keeps inBand locals first (oth port))
  intro second
  apply Meets.assumeRight
  intro sameSecond
  apply Meets.bind (writeNamedRegs_spares keeps inBand port small.1 second.2)
  intro _
  apply Meets.bind (writeNamedRegs_spares keeps inBand (oth port) small.2 second.2)
  intro _
  exact Meets.pure fun _ before => ⟨before, fun pt => (sameSecond pt).trans (sameFirst pt)⟩

theorem programChanges_spares (few : rxsPorts ≤ rioMaxPorts) (locals : SetCfgLocals)
    (enabled : ∀ pt, (sorted pt).isUp → (chg pt).mtcRtEn = mtcRouteEnMtcEn) :
    Preserves Inv (programChanges device rxsPorts locals
      (maintainRegAcc rxsPorts sorted inParms curr chg) curr chg) := by
  have pairs : Meets (fun state => Inv state.device)
      ((evenPorts rxsPorts).foldlM (programPair device rxsPorts locals
        (maintainRegAcc rxsPorts sorted inParms curr chg) curr) (locals.rc, chg))
      (fun last state => Inv state.device ∧ ∀ pt, (last.2 pt).mtcRtEn = (chg pt).mtcRtEn)
      fun _ state => Inv state.device := by
    apply (@Meets.foldlM _ _ _ _ _ _ _ (fun (carried : Nat × SetRegs) (state : Attached Nat δ) =>
      Inv state.device ∧ ∀ pt, (carried.2 pt).mtcRtEn = (chg pt).mtcRtEn) ?_ _).weakenPre
    · exact fun _ before => ⟨before, fun _ => rfl⟩
    · intro carried port isEven
      apply Meets.assumeRight
      intro same
      apply (programPair_spares keeps inBand few locals carried isEven).weakenPost
      exact fun next state after => ⟨after.1, fun pt => (after.2 pt).trans (same pt)⟩
  apply Meets.bind pairs
  rintro ⟨rc, last⟩
  apply Meets.assumeRight
  intro same
  apply Meets.bind (Preserves.foldlM ?_ _) fun _ => Preserves.failIf _ _
  intro rc port _
  apply Preserves.ite
  · intro isUp
    rw [isUp_maintainRegAcc] at isUp
    apply attempt_preserves
    apply startTraffic_preserves keeps sparesPair_routeEn
    rw [same, enabled port isUp]
    exact sparesPair_mtcRouteEn (by decide)
  · exact fun _ => Preserves.pure _

/-- Whatever the device is like, a call with a request that comes in through a port spares it and
the other one of its pair. -/
theorem rxsRioPcSetConfig_preserves (numPorts : Nat) (locals : SetCfgLocals) :
    Preserves Inv (rxsRioPcSetConfig device numPorts locals inParms) := by
  have few := numRxsPorts_le numPorts
  apply Preserves.bind (Preserves.modifyMemory _)
  intro _
  split
  · exact leave_preserves
  next sorted checked =>
    have isSorted := isSorted_of_checkParms few checked
    apply Preserves.bind
      (orLeave_preserves (rxsSetLrto_preserves keeps (fun _ => sparesPair_dev) _))
    intro _
    apply Preserves.bind (rxsRioPcGetConfig_preserves keeps _ _)
    intro currOut
    split
    · exact leave_preserves
    next =>
      apply Meets.bind (computeChanges_preserves keeps _ _ _ _)
      rintro ⟨curr, chg⟩
      apply Meets.assumeRight
      intro changed
      apply Preserves.bind (programChanges_spares keeps inBand few locals ?_) fun _ =>
        rxsRioPcGetConfig_preserves keeps _ _
      intro pt isUp
      obtain ⟨own, inRange, notAll⟩ := isSorted.of_isUp isUp
      obtain ⟨ptwOver, baud, idle, txSwap, rxSwap, -, after⟩ :=
        changedConfig_of_isUp (by rwa [own]) isUp (changesOf_config changed isSorted inRange)
      exact congrArg PortRegs.mtcRtEn after

end Protects

/-- Of a request that comes in through a port, no write is tried that configures that port or the
other one of its pair, or takes the route for maintenance packets of one of them. -/
theorem rxsRioPcSetConfig_spares {δ : Type} (device : RegDevice Reg δ) (numPorts : Nat)
    (locals : SetCfgLocals) {inParms : PcSetConfigIn} (inBand : inParms.oobRegAcc = false) :
    Meets (fun state => state.device.2 = [])
      (rxsRioPcSetConfig (logged device) numPorts locals inParms)
      (fun _ state => WritesOnly (SparesPair inParms.regAccPort) state.device)
      fun _ state => WritesOnly (SparesPair inParms.regAccPort) state.device := by
  apply (rxsRioPcSetConfig_preserves logged_keeps inBand numPorts locals).weakenPre
  intro state none reg value isWrite
  rw [none] at isWrite
  cases isWrite

/-- A request to take the last two ports down that comes in through the last but one. -/
def ownPairDown : PcSetConfigIn where
  lrto := 0
  oobRegAcc := false
  regAccPort := 2
  numPorts := 2
  pc idx := { unknownConfig (idx + 2) with portAvailable := true }

theorem rxsRioPcSetConfig_spares_ownPair :
    Meets (fun state => state.device.2 = [])
      (rxsRioPcSetConfig (logged (registerFile store)) 4 zeroLocals ownPairDown)
      (fun _ state => WritesOnly (SparesPair 2) state.device)
      fun _ state => WritesOnly (SparesPair 2) state.device :=
  rxsRioPcSetConfig_spares (registerFile store) 4 zeroLocals rfl

end RioFabric.RxsPort

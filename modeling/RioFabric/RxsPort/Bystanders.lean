import RioFabric.RxsPort.Protection
import RioFabric.RxsPort.Routes

/-!
# Ports that a request does not name

Which traffic a request halts is seen from the request, from the registers and from what the local
variables hold for the ports that are not named.  With that it is decided whether the routes of
these ports are kept.
-/

namespace RioFabric.RxsPort

open Lib Dar
open StatCounters (numRxsPorts)

/-- A request for a port asks for another speed than the one that is set. -/
def AsksSpeed (sorted : PortConfigs) (values : Reg → BitVec 32) (port : Nat) : Prop :=
  (sorted port).isUp ∧
    baudOfLs (sorted port).ls ≠ some (values (.port .oneWr port) &&& oneWrBaudEn)

/-- A request for a port asks to lock or unlock it, or to enable or disable its transmitter. -/
def AsksLock (sorted : PortConfigs) (values : Reg → BitVec 32) (port : Nat) : Prop :=
  (sorted port).isUp ∧
    (values (.port .ctl port) &&& ctlPortLockout ≠
        (if (sorted port).portLockout then ctlPortLockout else 0) ∨
      values (.port .ctl port) &&& ctlPortDis ≠
        if (sorted port).xmitterDisable then ctlPortDis else 0)

/-- A request for a port asks for what its registers hold.  The routes for the time that traffic is
halted are compared as well, with what the local variables for them hold. -/
structure AsksNothing (rxsPorts : Nat) (sorted : PortConfigs) (values : Reg → BitVec 32)
    (curr : SetRegs) (port : Nat) : Prop where
  config : changedConfig (sorted port) ((curr port).read values port) =
    .ok ((curr port).read values port).config
  rtEn : values (.port .routeEn port) =
    if (sorted port).isUp then upPorts rxsPorts sorted
    else values (.port .routeEn port) &&& ~~~downPorts sorted rxsPorts
  rtEnTemp : (curr port).rtEnTemp = values (.port .routeEn port)
  mtcRtEnTemp : (curr port).mtcRtEnTemp = values (.port .mtcRouteEn port)

/-- A port is outside of the pair that registers are accessed through. -/
def OutsideRegAcc (inParms : PcSetConfigIn) (port : Nat) : Prop :=
  inParms.oobRegAcc = true ∨ ¬(port = inParms.regAccPort ∨ port = oth inParms.regAccPort)

/-- The traffic of a port is halted. -/
def MustHalt (rxsPorts : Nat) (inParms : PcSetConfigIn) (sorted : PortConfigs)
    (values : Reg → BitVec 32) (locals : SetCfgLocals) (port : Nat) : Prop :=
  OutsideRegAcc inParms port ∧
    (AsksSpeed sorted values port ∨ AsksSpeed sorted values (oth port) ∨
      AsksLock sorted values port ∨
      ((sorted port).pnum = rioAllPorts ∧ (sorted (oth port)).pnum ≠ rioAllPorts ∧
        ¬AsksNothing rxsPorts sorted values locals.curr (oth port) ∧
        (locals.curr port).spxCtl &&& (ctlPortLockout ||| ctlPortDis) ≠
          (locals.chg port).spxCtl &&& (ctlPortLockout ||| ctlPortDis)))

section Named

variable {rxsPorts port : Nat} {sorted : PortConfigs} {inParms : PcSetConfigIn} {curr chg : SetRegs}

theorem mem_pairPorts (inRange : port < rxsPorts) : port ∈ pairPorts (evenPorts rxsPorts) := by
  rw [pairPorts, List.mem_flatMap]
  rcases Nat.mod_two_eq_zero_or_one port with even | odd
  · refine ⟨port, ?_, List.mem_cons_self⟩
    simp [evenPorts, inRange, even]
  · refine ⟨port - 1, ?_, ?_⟩
    · simp only [evenPorts, List.mem_filter, List.mem_range, decide_eq_true_eq]
      omega
    · rw [oth_of_even (by omega), Nat.sub_add_cancel (by omega)]
      exact List.mem_cons_of_mem _ List.mem_cons_self

theorem haltedRoutes_of_mem {halted : List Nat} {before : Nat → BitVec 32}
    (isMember : port ∈ halted) : haltedRoutes rxsPorts before chg halted =
      fun pt => (haltAll rxsPorts chg halted pt).rtEnTemp := by
  cases halted with
  | nil => cases isMember
  | cons first rest => rfl

theorem oth_eq_iff {first second : Nat} : oth first = second ↔ first = oth second := by
  constructor
  · rintro rfl
    rw [oth_oth]
  · rintro rfl
    rw [oth_oth]

theorem outsideRegAcc_oth : OutsideRegAcc inParms (oth port) ↔ OutsideRegAcc inParms port := by
  rw [OutsideRegAcc, OutsideRegAcc, oth_eq_iff, oth_eq_iff, oth_oth, or_comm (a := port = _)]

theorem pnum_maintainRegAcc_ne_iff (isSorted : IsSorted rxsPorts sorted) :
    (maintainRegAcc rxsPorts sorted inParms curr chg port).pnum ≠ rioAllPorts ↔
      (sorted port).pnum ≠ rioAllPorts ∧ OutsideRegAcc inParms port ∧ curr port ≠ chg port := by
  have changed : (eraseUnchanged rxsPorts sorted curr chg port).pnum ≠ rioAllPorts ↔
      (sorted port).pnum ≠ rioAllPorts ∧ curr port ≠ chg port := by
    rw [eraseUnchanged]
    split
    next unchanged => simp [unchanged.2]
    next other =>
      constructor
      · exact fun named => ⟨named, fun same => other ⟨(isSorted.of_named named).2, same⟩⟩
      · exact And.left
  by_cases outside : OutsideRegAcc inParms port
  · have stays : maintainRegAcc rxsPorts sorted inParms curr chg port =
        eraseUnchanged rxsPorts sorted curr chg port := by
      rw [maintainRegAcc]
      split
      next => rfl
      next inBand =>
        obtain ⟨notPort, notOther⟩ := not_or.mp (outside.resolve_left inBand)
        rw [eraseConfig, Function.update_of_ne notOther, eraseConfig,
          Function.update_of_ne notPort]
    rw [stays, changed]
    exact ⟨fun both => ⟨both.1, outside, both.2⟩, fun all => ⟨all.1, all.2.2⟩⟩
  · obtain ⟨inBand, isPair⟩ := not_or.mp outside
    have erased := @pnum_maintainRegAcc port sorted inParms rxsPorts curr chg
      (Bool.eq_false_iff.mpr inBand) (not_not.mp isPair)
    exact ⟨fun named => absurd erased named, fun all => absurd all.2.1 outside⟩

theorem mem_baudPorts_iff {pt : Nat} : pt ∈ baudPorts sorted port ↔
    (pt = port ∨ pt = oth port) ∧ (sorted pt).pnum ≠ rioAllPorts := by
  rw [baudPorts]
  by_cases named : (sorted port).pnum = rioAllPorts
  · rw [if_pos named]
    by_cases othNamed : (sorted (oth port)).pnum = rioAllPorts
    · rw [if_pos othNamed]
      constructor
      · exact fun isMember => (List.not_mem_nil isMember).elim
      · rintro ⟨rfl | rfl, isNamed⟩
        · exact absurd named isNamed
        · exact absurd othNamed isNamed
    · rw [if_neg othNamed, List.mem_singleton]
      constructor
      · rintro rfl
        exact ⟨.inr rfl, othNamed⟩
      · rintro ⟨rfl | rfl, isNamed⟩
        · exact absurd named isNamed
        · rfl
  · rw [if_neg named]
    by_cases othNamed : (sorted (oth port)).pnum = rioAllPorts
    · rw [if_pos othNamed, List.mem_singleton]
      constructor
      · rintro rfl
        exact ⟨.inl rfl, named⟩
      · rintro ⟨rfl | rfl, isNamed⟩
        · rfl
        · exact absurd othNamed isNamed
    · rw [if_neg othNamed, List.mem_pair]
      constructor
      · rintro (rfl | rfl)
        · exact ⟨.inl rfl, named⟩
        · exact ⟨.inr rfl, othNamed⟩
      · exact And.left

theorem changeRequiresReset_eq_true_iff : changeRequiresReset sorted curr chg port = true ↔
    (∃ pt, (pt = port ∨ pt = oth port) ∧ (sorted pt).pnum ≠ rioAllPorts ∧
      (curr pt).oneWr &&& oneWrBaudEn ≠ (chg pt).oneWr &&& oneWrBaudEn) ∨
    (((sorted port).pnum ≠ rioAllPorts ∨ (sorted (oth port)).pnum ≠ rioAllPorts) ∧
      (curr port).spxCtl &&& (ctlPortLockout ||| ctlPortDis) ≠
        (chg port).spxCtl &&& (ctlPortLockout ||| ctlPortDis)) := by
  rw [changeRequiresReset]
  split
  next none =>
    constructor
    · exact fun reset => (Bool.false_ne_true reset).elim
    · rintro (⟨pt, rfl | rfl, named, -⟩ | ⟨named | othNamed, -⟩)
      · exact absurd none.1 named
      · exact absurd none.2 named
      · exact absurd none.1 named
      · exact absurd none.2 othNamed
  next some =>
    rw [Bool.or_eq_true, List.any_eq_true]
    simp [mem_baudPorts_iff, not_and_or.mp some, and_assoc]

end Named

section Halts

variable {rxsPorts port : Nat} {sorted : PortConfigs} {values : Reg → BitVec 32}
  {locals : SetCfgLocals} {chg : SetRegs} (isSorted : IsSorted rxsPorts sorted)
  (changed : changesOf rxsPorts sorted
    (namedRegs sorted locals.chg (currentRegs sorted locals.curr values)) = .ok chg)
  {before : Nat → BitVec 32}

include isSorted changed

theorem config_of_named (named : (sorted port).pnum ≠ rioAllPorts) :
    changedConfig (sorted port) ((locals.curr port).read values port) = .ok (chg port).config := by
  have own := changesOf_config changed isSorted (isSorted.of_named named).2
  rwa [namedRegs, if_neg named, currentRegs, if_neg named] at own

theorem config_of_unnamed (unnamed : (sorted port).pnum = rioAllPorts) :
    (chg port).config = (locals.chg port).config := by
  by_cases inRange : port < rxsPorts
  · have own := changesOf_config changed isSorted inRange
    rw [changedConfig, if_pos (.inl unnamed), namedRegs, if_pos unnamed] at own
    exact (Except.ok.inj own).symm
  · obtain ⟨last, upTo, rfl⟩ := changesOf_changedUpTo changed isSorted
    rw [initTemp, if_neg inRange, upTo.waiting port (Nat.le_of_not_lt inRange), namedRegs,
      if_pos unnamed]

omit isSorted changed in
theorem kept_of_notUp {pc : RioPcOnePortConfig} {regs out : PortRegs} (notUp : pc.isUp = false)
    (ok : changedConfig pc regs = .ok out) : out.oneWr = regs.oneWr ∧ out.spxCtl = regs.spxCtl := by
  rw [changedConfig] at ok
  split at ok
  next =>
    cases ok
    exact ⟨rfl, rfl⟩
  next available =>
    split at ok
    next =>
      cases ok
      exact ⟨rfl, rfl⟩
    next poweredUp =>
      simp_all [RioPcOnePortConfig.isUp]

section

variable (named : (sorted port).pnum ≠ rioAllPorts)
include named

theorem oneWr_changed_iff :
    (currentRegs sorted locals.curr values port).oneWr &&& oneWrBaudEn ≠
        (chg port).oneWr &&& oneWrBaudEn ↔
      AsksSpeed sorted values port := by
  have config := config_of_named isSorted changed named
  rw [currentRegs, if_neg named]
  by_cases isUp : (sorted port).isUp
  · obtain ⟨ptwOver, baud, idle, txSwap, rxSwap, fields, after⟩ :=
      changedConfig_of_isUp named isUp config
    have oneWr := congrArg PortRegs.oneWr after
    rw [show (chg port).oneWr = _ from oneWr]
    simp only [AsksSpeed, isUp, true_and, fields.oneWr_baudEn, fields.baud, PortRegs.read, ne_eq,
      Option.some.injEq]
    rw [eq_comm]
  · rw [Bool.not_eq_true] at isUp
    have kept : (chg port).oneWr = _ := (kept_of_notUp isUp config).1
    rw [kept]
    simp [AsksSpeed, isUp]

theorem spxCtl_changed_iff :
    (currentRegs sorted locals.curr values port).spxCtl &&& (ctlPortLockout ||| ctlPortDis) ≠
        (chg port).spxCtl &&& (ctlPortLockout ||| ctlPortDis) ↔
      AsksLock sorted values port := by
  have config := config_of_named isSorted changed named
  rw [currentRegs, if_neg named]
  by_cases isUp : (sorted port).isUp
  · obtain ⟨ptwOver, baud, idle, txSwap, rxSwap, fields, after⟩ :=
      changedConfig_of_isUp named isUp config
    have spxCtl := congrArg PortRegs.spxCtl after
    rw [show (chg port).spxCtl = _ from spxCtl, Ne, and_or_eq_iff, changedCtl_and_portLockout,
      changedCtl_and_portDis, not_and_or]
    simp only [AsksLock, isUp, true_and]
    rfl
  · rw [Bool.not_eq_true] at isUp
    have kept : (chg port).spxCtl = _ := (kept_of_notUp isUp config).2
    rw [kept]
    simp [AsksLock, isUp]

theorem unchanged_iff :
    currentRegs sorted locals.curr values port = chg port ↔
      AsksNothing rxsPorts sorted values locals.curr port := by
  have inRange := (isSorted.of_named named).2
  have config := config_of_named isSorted changed named
  have rtEn := changesOf_rtEn changed isSorted inRange
  rw [namedRegs, if_neg named, currentRegs, if_neg named] at rtEn
  obtain ⟨rtEnTemp, mtcRtEnTemp⟩ := changesOf_temp changed inRange
  rw [currentRegs, if_neg named, PortRegs.eq_iff]
  constructor
  · rintro ⟨sameConfig, sameRtEn, sameTemp, sameMtcTemp⟩
    have sameMtc := congrArg PortRegs.mtcRtEn sameConfig
    exact {
      config := config.trans (congrArg Except.ok sameConfig.symm)
      rtEn := sameRtEn.trans rtEn
      rtEnTemp := sameTemp.trans (rtEnTemp.trans sameRtEn.symm)
      mtcRtEnTemp := sameMtcTemp.trans (mtcRtEnTemp.trans sameMtc.symm) }
  · intro asks
    have sameConfig := Except.ok.inj (asks.config.symm.trans config)
    have sameRtEn := asks.rtEn.trans rtEn.symm
    have sameMtc := congrArg PortRegs.mtcRtEn sameConfig
    exact ⟨sameConfig, sameRtEn, asks.rtEnTemp.trans (sameRtEn.trans rtEnTemp.symm),
      asks.mtcRtEnTemp.trans (sameMtc.trans mtcRtEnTemp.symm)⟩

end

theorem changeRequiresReset_iff {inParms : PcSetConfigIn} :
    changeRequiresReset (maintainRegAcc rxsPorts sorted inParms
        (currentRegs sorted locals.curr values) chg)
      (currentRegs sorted locals.curr values) chg port = true ↔
    MustHalt rxsPorts inParms sorted values locals port := by
  let curr := currentRegs sorted locals.curr values
  have stays : ∀ pt, (maintainRegAcc rxsPorts sorted inParms curr chg pt).pnum ≠ rioAllPorts ↔
      (sorted pt).pnum ≠ rioAllPorts ∧ OutsideRegAcc inParms pt ∧ curr pt ≠ chg pt :=
    fun pt => pnum_maintainRegAcc_ne_iff isSorted
  have ofUp : ∀ pt, (sorted pt).isUp → (sorted pt).pnum ≠ rioAllPorts := by
    intro pt isUp
    obtain ⟨own, -, notAll⟩ := isSorted.of_isUp isUp
    rwa [own]
  have sameOutside : ∀ pt, pt = port ∨ pt = oth port →
      (OutsideRegAcc inParms pt ↔ OutsideRegAcc inParms port) := by
    rintro pt (rfl | rfl)
    · exact Iff.rfl
    · exact outsideRegAcc_oth
  rw [changeRequiresReset_eq_true_iff]
  constructor
  · rintro (⟨pt, isPair, stayed, differs⟩ | ⟨stayed, differs⟩)
    · obtain ⟨named, outside, -⟩ := (stays pt).mp stayed
      have asks := (oneWr_changed_iff isSorted changed named).mp differs
      refine ⟨(sameOutside pt isPair).mp outside, ?_⟩
      rcases isPair with rfl | rfl
      · exact .inl asks
      · exact .inr (.inl asks)
    · have outside : OutsideRegAcc inParms port := by
        rcases stayed with own | other
        · exact ((stays port).mp own).2.1
        · exact outsideRegAcc_oth.mp ((stays (oth port)).mp other).2.1
      refine ⟨outside, .inr (.inr ?_)⟩
      by_cases unnamed : (sorted port).pnum = rioAllPorts
      · have othStayed := stayed.resolve_left fun own => ((stays port).mp own).1 unnamed
        obtain ⟨othNamed, -, othDiffers⟩ := (stays (oth port)).mp othStayed
        have ctl := congrArg PortRegs.spxCtl (config_of_unnamed isSorted changed unnamed)
        rw [show (chg port).spxCtl = _ from ctl, currentRegs, if_pos unnamed] at differs
        refine .inr ⟨unnamed, othNamed, fun nothing => ?_, differs⟩
        exact othDiffers ((unchanged_iff isSorted changed othNamed).mpr nothing)
      · exact .inl ((spxCtl_changed_iff isSorted changed unnamed).mp differs)
  · rintro ⟨outside, asks⟩
    have speed : ∀ pt, pt = port ∨ pt = oth port → AsksSpeed sorted values pt →
        (maintainRegAcc rxsPorts sorted inParms curr chg pt).pnum ≠ rioAllPorts ∧
          (curr pt).oneWr &&& oneWrBaudEn ≠ (chg pt).oneWr &&& oneWrBaudEn := by
      intro pt isPair asksSpeed
      have named := ofUp pt asksSpeed.1
      have differs := (oneWr_changed_iff isSorted changed named).mpr asksSpeed
      refine ⟨(stays pt).mpr ⟨named, (sameOutside pt isPair).mpr outside, fun same => ?_⟩, differs⟩
      exact differs (congrArg (fun regs => regs.oneWr &&& oneWrBaudEn) same)
    rcases asks with own | other | lock | ⟨unnamed, othNamed, something, differs⟩
    · exact .inl ⟨port, .inl rfl, speed port (.inl rfl) own⟩
    · exact .inl ⟨oth port, .inr rfl, speed (oth port) (.inr rfl) other⟩
    · have named := ofUp port lock.1
      have differs := (spxCtl_changed_iff isSorted changed named).mpr lock
      refine .inr ⟨.inl ((stays port).mpr ⟨named, outside, fun same => ?_⟩), differs⟩
      exact differs (congrArg
        (fun regs => regs.spxCtl &&& (ctlPortLockout ||| ctlPortDis)) same)
    · have ctl := congrArg PortRegs.spxCtl (config_of_unnamed isSorted changed unnamed)
      refine .inr ⟨.inr ((stays (oth port)).mpr ⟨othNamed, outsideRegAcc_oth.mpr outside,
        fun same => ?_⟩), ?_⟩
      · exact something ((unchanged_iff isSorted changed othNamed).mp same)
      · rw [show (chg port).spxCtl = _ from ctl, currentRegs, if_pos unnamed]
        exact differs

variable {inParms : PcSetConfigIn}

theorem mem_haltedPorts_iff : port ∈ haltedPorts rxsPorts
      (maintainRegAcc rxsPorts sorted inParms (currentRegs sorted locals.curr values) chg)
      (currentRegs sorted locals.curr values) chg ↔
    port ∈ pairPorts (evenPorts rxsPorts) ∧
      MustHalt rxsPorts inParms sorted values locals port := by
  rw [haltedPorts, List.mem_filter, changeRequiresReset_iff isSorted changed]

theorem finalRoutes_of_none (unnamed : (sorted port).pnum = rioAllPorts)
    (none : ¬∃ pt ∈ pairPorts (evenPorts rxsPorts),
      MustHalt rxsPorts inParms sorted values locals pt) :
    finalRoutes rxsPorts
      (maintainRegAcc rxsPorts sorted inParms (currentRegs sorted locals.curr values) chg) before
      (currentRegs sorted locals.curr values) chg port = before port := by
  have isEmpty : haltedPorts rxsPorts
      (maintainRegAcc rxsPorts sorted inParms (currentRegs sorted locals.curr values) chg)
      (currentRegs sorted locals.curr values) chg = [] := by
    rw [List.eq_nil_iff_forall_not_mem]
    exact fun pt isHalted => none ⟨pt, (mem_haltedPorts_iff isSorted changed).mp isHalted⟩
  rw [finalRoutes, isEmpty, isUp_maintainRegAcc, if_neg (isSorted.not_isUp unnamed)]
  rfl

theorem finalRoutes_of_some (unnamed : (sorted port).pnum = rioAllPorts) (inRange : port < rxsPorts)
    (few : rxsPorts ≤ rioMaxPorts) (some : ∃ pt ∈ pairPorts (evenPorts rxsPorts),
      MustHalt rxsPorts inParms sorted values locals pt) {bit : Nat} (isPort : bit < rxsPorts)
    (notDown : isDown sorted bit = false) :
    (finalRoutes rxsPorts
      (maintainRegAcc rxsPorts sorted inParms (currentRegs sorted locals.curr values) chg) before
      (currentRegs sorted locals.curr values) chg port).getLsbD bit = true ↔
    (locals.chg port).rtEn.getLsbD bit = true ∧
      ¬MustHalt rxsPorts inParms sorted values locals port ∧
      ¬MustHalt rxsPorts inParms sorted values locals bit := by
  have small : bit < 32 := lt_of_lt_of_le isPort (few.trans (by decide))
  have isHalted : ∀ pt < rxsPorts, (pt ∈ haltedPorts rxsPorts
      (maintainRegAcc rxsPorts sorted inParms (currentRegs sorted locals.curr values) chg)
      (currentRegs sorted locals.curr values) chg ↔
        MustHalt rxsPorts inParms sorted values locals pt) := fun pt below =>
    (mem_haltedPorts_iff isSorted changed).trans (and_iff_right (mem_pairPorts below))
  obtain ⟨pt, isPair, halts⟩ := some
  have isMember := (mem_haltedPorts_iff isSorted changed).mpr ⟨isPair, halts⟩
  have rtEn := changesOf_rtEn changed isSorted inRange
  rw [if_neg (isSorted.not_isUp unnamed), namedRegs, if_pos unnamed] at rtEn
  rw [finalRoutes, isUp_maintainRegAcc, if_neg (isSorted.not_isUp unnamed),
    haltedRoutes_of_mem isMember, rtEnTemp_haltAll inRange small,
    (changesOf_temp changed inRange).1, rtEn, BitVec.getLsbD_and, BitVec.getLsbD_not, downPorts,
    getLsbD_portMask, Bool.and_eq_true, decide_eq_true_eq, isHalted port inRange,
    isHalted bit isPort]
  simp [small, notDown]

end Halts

variable {values : Reg → BitVec 32} {sorted : PortConfigs}

theorem rxsSetLrto_settled {μ : Type} (lrto : Nat) :
    Meets (fun state : Attached μ (RegisterFile Reg) => Settled values state.device)
      (rxsSetLrto (registerFile store) lrto)
      (fun _ state => ∃ value, Settled (store (.dev .spLtCtl) value values) state.device)
      fun _ _ => True := by
  apply Meets.bind ((Preserves.failIf _ _).weakenFail fun _ _ _ => trivial)
  intro _
  apply Meets.bind ((rxsRioPcClkPd_preserves settled_keeps).weakenFail fun _ _ _ => trivial)
  intro srvPd
  exact regWrite_settled.weakenPost fun _ state after => ⟨_, after⟩

theorem currentRegs_store {curr : SetRegs} {value : BitVec 32} :
    currentRegs sorted curr (store (.dev .spLtCtl) value values) = currentRegs sorted curr values :=
  rfl

theorem rxsRioPcSetConfig_routes {numPorts : Nat} {locals : SetCfgLocals}
    {inParms : PcSetConfigIn} :
    Meets (fun state => Settled values state.device)
      (rxsRioPcSetConfig (registerFile store) numPorts locals inParms)
      (fun _ state => ∃ sorted chg, checkParms (numRxsPorts numPorts) inParms = .ok sorted ∧
        changesOf (numRxsPorts numPorts) sorted
          (namedRegs sorted locals.chg (currentRegs sorted locals.curr values)) = .ok chg ∧
        RoutesAre (numRxsPorts numPorts)
          (finalRoutes (numRxsPorts numPorts)
            (maintainRegAcc (numRxsPorts numPorts) sorted inParms
              (currentRegs sorted locals.curr values) chg)
            (fun pt => values (.port .routeEn pt)) (currentRegs sorted locals.curr values) chg)
          state.device)
      fun _ _ => True := by
  apply Meets.bind setImpRc_keeps
  intro _
  split
  · exact leave_meets fun _ _ => trivial
  next sorted checked =>
    have isSorted := isSorted_of_checkParms (numRxsPorts_le numPorts) checked
    apply Meets.bind (orLeave_meets (rxsSetLrto_settled inParms.lrto) fun _ _ _ => trivial)
    intro _
    apply Meets.ofExists
    intro value
    apply Meets.bind
      ((rxsRioPcGetConfig_answers settled_answers _ _).weaken (fun _ before => before)
        (fun _ _ after => after.1) fun _ _ _ => trivial)
    intro currOut
    split
    · exact leave_meets fun _ _ => trivial
    next =>
      apply Meets.bind ((computeChanges_answers settled_answers isSorted _ _).weakenFail
        fun _ _ _ => trivial)
      rintro ⟨curr, chg⟩
      apply Meets.assumeRight
      rintro ⟨isCurr, changed⟩
      rw [currentRegs_store] at isCurr changed
      cases isCurr
      have areRoutes : ∀ state : Attached Nat (RegisterFile Reg),
          Settled (store (.dev .spLtCtl) value values) state.device →
            RoutesAre (numRxsPorts numPorts) (fun pt => values (.port .routeEn pt)) state.device :=
        fun state settled => ⟨settled.reliable, fun pt _ => congrFun settled.value_eq _⟩
      apply Meets.bind (programChanges_routes.weakenPre areRoutes)
      intro _
      apply (rxsRioPcGetConfig_preserves routesAre_keeps _ _).weaken (fun _ before => before)
      · exact fun _ state after => ⟨sorted, chg, checked, changed, after⟩
      · exact fun _ _ _ => trivial

/-- The request names a port. -/
def PcSetConfigIn.Names (inParms : PcSetConfigIn) (port : Nat) : Prop :=
  ∃ pc ∈ inParms.requests, pc.pnum = port

/-- The request asks for a port to be available and powered up. -/
def PcSetConfigIn.AsksUp (inParms : PcSetConfigIn) (port : Nat) : Prop :=
  (sortRequests inParms.requests port).isUp = true

/-- Ports that are not named route to each other as before, and to and from the ports that are to
be up if they did. -/
structure RoutesKept (rxsPorts : Nat) (inParms : PcSetConfigIn) (before after : Reg → BitVec 32) :
    Prop where
  unnamed : ∀ first < rxsPorts, ∀ second < rxsPorts, first ≠ second → ¬inParms.Names first →
    ¬inParms.Names second → (after (.port .routeEn first)).getLsbD second =
      (before (.port .routeEn first)).getLsbD second
  fromUp : ∀ up < rxsPorts, inParms.AsksUp up → ∀ port < rxsPorts, ¬inParms.Names port →
    (before (.port .routeEn up)).getLsbD port = true →
      (after (.port .routeEn up)).getLsbD port = true
  toUp : ∀ up < rxsPorts, inParms.AsksUp up → ∀ port < rxsPorts, ¬inParms.Names port →
    (before (.port .routeEn port)).getLsbD up = true →
      (after (.port .routeEn port)).getLsbD up = true

/-- What it takes: the ports that are to be up did not route to one that is not named; and if any
traffic is halted, then no traffic of the ports in question is, and the local variables for the
ports that are not named happen to hold their routes. -/
structure KeepsRoutes (rxsPorts : Nat) (inParms : PcSetConfigIn) (values : Reg → BitVec 32)
    (locals : SetCfgLocals) : Prop where
  fromUp : ∀ up < rxsPorts, inParms.AsksUp up → ∀ port < rxsPorts, ¬inParms.Names port →
    (values (.port .routeEn up)).getLsbD port = false
  unnamed : (∃ port ∈ pairPorts (evenPorts rxsPorts),
      MustHalt rxsPorts inParms (sortRequests inParms.requests) values locals port) →
    ∀ first < rxsPorts, ∀ second < rxsPorts, first ≠ second → ¬inParms.Names first →
      ¬inParms.Names second → ((values (.port .routeEn first)).getLsbD second = true ↔
        (locals.chg first).rtEn.getLsbD second = true ∧
        ¬MustHalt rxsPorts inParms (sortRequests inParms.requests) values locals first ∧
        ¬MustHalt rxsPorts inParms (sortRequests inParms.requests) values locals second)
  toUp : (∃ port ∈ pairPorts (evenPorts rxsPorts),
      MustHalt rxsPorts inParms (sortRequests inParms.requests) values locals port) →
    ∀ up < rxsPorts, inParms.AsksUp up → ∀ port < rxsPorts, ¬inParms.Names port →
      (values (.port .routeEn port)).getLsbD up = true →
        (locals.chg port).rtEn.getLsbD up = true ∧
        ¬MustHalt rxsPorts inParms (sortRequests inParms.requests) values locals port ∧
        ¬MustHalt rxsPorts inParms (sortRequests inParms.requests) values locals up

theorem pnum_foldl_update {port : Nat} {requests : List RioPcOnePortConfig}
    (notAll : ∀ pc ∈ requests, pc.pnum ≠ rioAllPorts) :
    (requests.foldl (fun sorted pc => Function.update sorted pc.pnum pc) sorted port).pnum =
        rioAllPorts ↔
      (∀ pc ∈ requests, pc.pnum ≠ port) ∧ (sorted port).pnum = rioAllPorts := by
  induction requests generalizing sorted with
  | nil => simp
  | cons pc requests ih =>
    rw [List.foldl_cons, ih fun other isMember => notAll other (List.mem_cons_of_mem pc isMember),
      List.forall_mem_cons]
    by_cases same : pc.pnum = port
    · subst same
      rw [Function.update_self]
      simp [notAll pc List.mem_cons_self]
    · rw [Function.update_of_ne (Ne.symm same)]
      simp [same]

section Property

variable {rxsPorts : Nat} {inParms : PcSetConfigIn} {sorted : PortConfigs}
  (few : rxsPorts ≤ rioMaxPorts) (checked : checkParms rxsPorts inParms = .ok sorted) {port : Nat}

include few checked

theorem pnum_sortRequests :
    (sorted port).pnum = rioAllPorts ↔ ¬inParms.Names port := by
  obtain ⟨rfl, -, passes⟩ := checkParms_ok checked
  rw [sortRequests, pnum_foldl_update]
  · simp [PcSetConfigIn.Names, unsortedConfig]
  · intro pc isRequest
    have inRange := pnum_lt_of_requestError (passes pc isRequest)
    exact Nat.ne_of_lt (lt_of_lt_of_le inRange (few.trans (by decide)))

theorem notDown_of_not_names (notNamed : ¬inParms.Names port) :
    isDown sorted port = false := by
  simp [isDown, (pnum_sortRequests few checked).mpr notNamed]

theorem upPorts_of_not_names (notNamed : ¬inParms.Names port) :
    (upPorts rxsPorts sorted).getLsbD port = false := by
  have isSorted := isSorted_of_checkParms few checked
  have notUp := isSorted.not_isUp ((pnum_sortRequests few checked).mpr notNamed)
  rw [upPorts_eq, getLsbD_portMask]
  simp [notUp]

theorem routesKept_iff {values after : Reg → BitVec 32} {locals : SetCfgLocals} {chg : SetRegs}
    (changed : changesOf rxsPorts sorted
      (namedRegs sorted locals.chg (currentRegs sorted locals.curr values)) = .ok chg)
    (routes : ∀ pt < rxsPorts, after (.port .routeEn pt) = finalRoutes rxsPorts
      (maintainRegAcc rxsPorts sorted inParms (currentRegs sorted locals.curr values) chg)
      (fun pt => values (.port .routeEn pt)) (currentRegs sorted locals.curr values) chg pt) :
    RoutesKept rxsPorts inParms values after ↔ KeepsRoutes rxsPorts inParms values locals := by
  have isSorted := isSorted_of_checkParms few checked
  have unnamedOf := fun port => (@pnum_sortRequests _ _ _ few checked port).mpr
  have isSort : sorted = sortRequests inParms.requests := (checkParms_ok checked).1
  have fromUp : ∀ up < rxsPorts, inParms.AsksUp up → ∀ port, ¬inParms.Names port →
      (after (.port .routeEn up)).getLsbD port = false := by
    intro up isPort asksUp port notNamed
    rw [PcSetConfigIn.AsksUp, ← isSort] at asksUp
    rw [routes up isPort, finalRoutes, isUp_maintainRegAcc, if_pos asksUp,
      changesOf_rtEn changed isSorted isPort, if_pos asksUp]
    exact upPorts_of_not_names few checked notNamed
  have halted : (∃ port ∈ pairPorts (evenPorts rxsPorts),
      MustHalt rxsPorts inParms sorted values locals port) →
      ∀ port < rxsPorts, ¬inParms.Names port → ∀ bit < rxsPorts, isDown sorted bit = false →
        ((after (.port .routeEn port)).getLsbD bit = true ↔
          (locals.chg port).rtEn.getLsbD bit = true ∧
            ¬MustHalt rxsPorts inParms sorted values locals port ∧
            ¬MustHalt rxsPorts inParms sorted values locals bit) := by
    intro some port isPort notNamed bit isBit notDown
    rw [routes port isPort]
    exact finalRoutes_of_some isSorted changed (unnamedOf port notNamed) isPort few some isBit
      notDown
  have asBefore : (¬∃ port ∈ pairPorts (evenPorts rxsPorts),
      MustHalt rxsPorts inParms sorted values locals port) →
      ∀ port < rxsPorts, ¬inParms.Names port →
        after (.port .routeEn port) = values (.port .routeEn port) := by
    intro none port isPort notNamed
    rw [routes port isPort]
    exact finalRoutes_of_none isSorted changed (unnamedOf port notNamed) none
  have upNotDown : ∀ up, inParms.AsksUp up → isDown sorted up = false := by
    intro up asksUp
    rw [PcSetConfigIn.AsksUp, ← isSort] at asksUp
    simp [isDown, asksUp]
  rw [isSort] at halted asBefore
  constructor
  · intro kept
    refine ⟨?_, ?_, ?_⟩
    · intro up isUp asksUp port isPort notNamed
      by_contra routed
      have still := kept.fromUp up isUp asksUp port isPort notNamed
        (Bool.eq_true_of_not_eq_false routed)
      rw [fromUp up isUp asksUp port notNamed] at still
      cases still
    · intro some first isFirst second isSecond different firstUnnamed secondUnnamed
      rw [← kept.unnamed first isFirst second isSecond different firstUnnamed secondUnnamed]
      exact halted some first isFirst firstUnnamed second isSecond
        (isSort ▸ notDown_of_not_names few checked secondUnnamed)
    · intro some up isUp asksUp port isPort notNamed routed
      exact (halted some port isPort notNamed up isUp (isSort ▸ upNotDown up asksUp)).mp
        (kept.toUp up isUp asksUp port isPort notNamed routed)
  · intro keeps
    refine ⟨?_, ?_, ?_⟩
    · intro first isFirst second isSecond different firstUnnamed secondUnnamed
      by_cases some : ∃ port ∈ pairPorts (evenPorts rxsPorts),
          MustHalt rxsPorts inParms (sortRequests inParms.requests) values locals port
      · rw [Bool.eq_iff_iff, keeps.unnamed some first isFirst second isSecond different
          firstUnnamed secondUnnamed]
        exact halted some first isFirst firstUnnamed second isSecond
          (isSort ▸ notDown_of_not_names few checked secondUnnamed)
      · rw [asBefore some first isFirst firstUnnamed]
    · intro up isUp asksUp port isPort notNamed routed
      rw [keeps.fromUp up isUp asksUp port isPort notNamed] at routed
      cases routed
    · intro up isUp asksUp port isPort notNamed routed
      by_cases some : ∃ port ∈ pairPorts (evenPorts rxsPorts),
          MustHalt rxsPorts inParms (sortRequests inParms.requests) values locals port
      · exact (halted some port isPort notNamed up isUp (isSort ▸ upNotDown up asksUp)).mpr
          (keeps.toUp some up isUp asksUp port isPort notNamed routed)
      · rwa [asBefore some port isPort notNamed]

end Property

/-- Whether the routes of the ports that a request does not name are kept is decided by the request,
the registers before it and the local variables. -/
theorem rxsRioPcSetConfig_routesKept_iff {numPorts : Nat} {locals : SetCfgLocals}
    {inParms : PcSetConfigIn} {out : PcGetConfigOut} {start final : Attached Nat (RegisterFile Reg)}
    (reliable : start.device.Reliable)
    (ran : (rxsRioPcSetConfig (registerFile store) numPorts locals inParms).run start =
      .ok out final) :
    RoutesKept (numRxsPorts numPorts) inParms start.device.value final.device.value ↔
      KeepsRoutes (numRxsPorts numPorts) inParms start.device.value locals := by
  obtain ⟨sorted, chg, checked, changed, routes⟩ :=
    (rxsRioPcSetConfig_routes ⟨rfl, reliable⟩).1 ran
  exact routesKept_iff (numRxsPorts_le numPorts) checked changed routes.route

/-- Four ports that are up at the same speed and route to each other. -/
def allRouted : Attached Nat (RegisterFile Reg) where
  memory := 0
  device := {
    value := fun
      | .dev .prescalarSrvClk => 31
      | .port .ctl2 _ => 0x0000C000
      | .port .routeEn _ => 0x0000000F
      | .port .mtcRouteEn _ => 1
      | _ => 0
    faults := fun _ _ => 0 }

/-- A request for the first port, which is to be up. -/
def firstPortUp : PcSetConfigIn where
  lrto := 0
  oobRegAcc := true
  regAccPort := 0
  numPorts := 1
  pc _ := { unknownConfig 0 with
    portAvailable := true
    poweredUp := true
    pw := .pw2x
    ls := .ls10p3
    fc := .rx
    iseq := .three }

theorem rxsRioPcSetConfig_routesKept_iff_firstPort : ∃ out final,
    (rxsRioPcSetConfig (registerFile store) 4 zeroLocals firstPortUp).run allRouted =
      .ok out final ∧
    (RoutesKept 4 firstPortUp allRouted.device.value final.device.value ↔
      KeepsRoutes 4 firstPortUp allRouted.device.value zeroLocals) := by
  have ends : endsWith (fun _ _ => true)
      ((rxsRioPcSetConfig (registerFile store) 4 zeroLocals firstPortUp).run allRouted) = true := by
    decide +kernel
  obtain ⟨out, final, ran, -⟩ := exists_of_endsWith ends
  exact ⟨out, final, ran, rxsRioPcSetConfig_routesKept_iff (fun _ _ => rfl) ran⟩

/-- The other ports no longer route to each other: the local variables for them hold no routes. -/
theorem not_routesKept_firstPort : ∃ out final,
    (rxsRioPcSetConfig (registerFile store) 4 zeroLocals firstPortUp).run allRouted =
      .ok out final ∧
    ¬RoutesKept 4 firstPortUp allRouted.device.value final.device.value := by
  have ends : endsWith (fun _ final => !(final.device.value (.port .routeEn 1)).getLsbD 2)
      ((rxsRioPcSetConfig (registerFile store) 4 zeroLocals firstPortUp).run allRouted) = true := by
    decide +kernel
  obtain ⟨out, final, ran, lost⟩ := exists_of_endsWith ends
  refine ⟨out, final, ran, fun kept => ?_⟩
  have unnamed : ∀ port, port ≠ 0 → ¬firstPortUp.Names port := by
    intro port notFirst
    simp [PcSetConfigIn.Names, PcSetConfigIn.requests, firstPortUp, unknownConfig, notFirst.symm]
  have same := kept.unnamed 1 (by decide) 2 (by decide) (by decide) (unnamed 1 (by decide))
    (unnamed 2 (by decide))
  rw [same] at lost
  cases lost

end RioFabric.RxsPort

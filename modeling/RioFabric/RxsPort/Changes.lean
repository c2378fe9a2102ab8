import RioFabric.Lib.Masks
import RioFabric.RxsPort.SetConfig

/-!
# What a request changes

The registers that a request leads to, port by port: the configuration of a port depends on the
request for this port alone, and its routes on which ports of the request are to be up.
-/

namespace RioFabric.RxsPort

open Lib Dar
open StatCounters (numRxsPorts)

theorem numRxsPorts_le (numPorts : Nat) : numRxsPorts numPorts ≤ rioMaxPorts := by
  rw [numRxsPorts, rioMaxPorts]
  split <;> omega

/-- Each element of a sorted request is one for its own port, or there is none for that port. -/
def IsSorted (rxsPorts : Nat) (sorted : PortConfigs) : Prop :=
  ∀ port, sorted port = unsortedConfig ∨
    ((sorted port).pnum = port ∧ port < rxsPorts ∧ port ≠ rioAllPorts)

section Sorted

variable {rxsPorts : Nat} {sorted : PortConfigs} {inParms : PcSetConfigIn}

theorem isSorted_foldl {requests : List RioPcOnePortConfig}
    (inRange : ∀ pc ∈ requests, pc.pnum < rxsPorts ∧ pc.pnum ≠ rioAllPorts)
    (isSorted : IsSorted rxsPorts sorted) :
    IsSorted rxsPorts
      (requests.foldl (fun sorted pc => Function.update sorted pc.pnum pc) sorted) := by
  induction requests generalizing sorted with
  | nil => exact isSorted
  | cons pc requests ih =>
    apply ih fun other isMember => inRange other (List.mem_cons_of_mem pc isMember)
    intro port
    dsimp only
    by_cases same : port = pc.pnum
    · subst same
      rw [Function.update_self]
      exact .inr ⟨rfl, inRange pc List.mem_cons_self⟩
    · rw [Function.update_of_ne same]
      exact isSorted port

theorem checkParms_ok (ok : checkParms rxsPorts inParms = .ok sorted) :
    sorted = sortRequests inParms.requests ∧
      (inParms.oobRegAcc = false → inParms.regAccPort < rxsPorts) ∧
      ∀ pc ∈ inParms.requests, requestError rxsPorts pc = none := by
  rw [checkParms] at ok
  split at ok
  · cases ok
  next =>
    split at ok
    · cases ok
    next access =>
      split at ok
      · cases ok
      next passes =>
        cases ok
        refine ⟨rfl, fun inBand => ?_, List.findSome?_eq_none_iff.mp passes⟩
        exact Nat.lt_of_not_le fun large => access ⟨inBand, large⟩

theorem pnum_lt_of_requestError {pc : RioPcOnePortConfig}
    (passes : requestError rxsPorts pc = none) : pc.pnum < rxsPorts := by
  rw [requestError] at passes
  split at passes
  · cases passes
  next inRange => exact Nat.lt_of_not_le inRange

theorem isSorted_of_checkParms (few : rxsPorts ≤ rioMaxPorts)
    (ok : checkParms rxsPorts inParms = .ok sorted) : IsSorted rxsPorts sorted := by
  obtain ⟨rfl, -, passes⟩ := checkParms_ok ok
  apply isSorted_foldl
  · intro pc isRequest
    have inRange := pnum_lt_of_requestError (passes pc isRequest)
    exact ⟨inRange, Nat.ne_of_lt (lt_of_lt_of_le inRange (few.trans (by decide)))⟩
  · exact fun port => .inl rfl

section

variable (isSorted : IsSorted rxsPorts sorted)
include isSorted

theorem IsSorted.of_isUp {port : Nat} (isUp : (sorted port).isUp) :
    (sorted port).pnum = port ∧ port < rxsPorts ∧ port ≠ rioAllPorts := by
  rcases isSorted port with unsorted | named
  · rw [unsorted] at isUp
    cases isUp
  · exact named

theorem IsSorted.not_isUp {port : Nat}
    (unnamed : (sorted port).pnum = rioAllPorts) : ¬(sorted port).isUp = true := by
  intro isUp
  obtain ⟨own, -, notAll⟩ := isSorted.of_isUp isUp
  exact notAll (own.symm.trans unnamed)

theorem IsSorted.of_named {port : Nat}
    (named : (sorted port).pnum ≠ rioAllPorts) : (sorted port).pnum = port ∧ port < rxsPorts := by
  rcases isSorted port with unsorted | own
  · rw [unsorted] at named
    exact absurd rfl named
  · exact ⟨own.1, own.2.1⟩

end

end Sorted

/-- The registers without those for the routes. -/
def PortRegs.config (regs : PortRegs) : PortRegs :=
  { regs with rtEn := 0, rtEnTemp := 0, mtcRtEnTemp := 0 }

/-- The registers of a port that a request leads to, without those for the routes. -/
def changedConfig (pc : RioPcOnePortConfig) (regs : PortRegs) : Except Nat PortRegs :=
  if pc.pnum = rioAllPorts ∨ pc.portAvailable = false then .ok regs.config
  else if pc.poweredUp = false then
    .ok { regs.config with plmPwdn := regs.plmPwdn ||| pwdnCtlPwdnPort }
  else
    configRegs pc { regs.config with
      plmPwdn := regs.plmPwdn &&& ~~~pwdnCtlPwdnPort
      mtcRtEn := mtcRouteEnMtcEn }

section Turn

variable {rxsPorts port : Nat} {sorted : PortConfigs} {chg next : SetRegs}
  {pc : RioPcOnePortConfig} {regs out : PortRegs}

theorem PortRegs.eq_iff : regs = out ↔ regs.config = out.config ∧ regs.rtEn = out.rtEn ∧
    regs.rtEnTemp = out.rtEnTemp ∧ regs.mtcRtEnTemp = out.mtcRtEnTemp := by
  cases regs
  cases out
  simp only [config, mk.injEq]
  tauto

/-- The fields that a request for a port that is to be up stands for. -/
structure Fields (pc : RioPcOnePortConfig) (ptwOver baud idle txSwap rxSwap : BitVec 32) :
    Prop where
  ptwOver : overOfPw pc.pw = some ptwOver
  baud : baudOfLs pc.ls = some baud
  idle : idleOfIseq pc.iseq = some idle
  txSwap : regLswap pc.txLswap = some txSwap
  rxSwap : regLswap pc.rxLswap = some rxSwap

theorem configRegs_of_fields {ptwOver baud idle txSwap rxSwap : BitVec 32}
    (fields : Fields pc ptwOver baud idle txSwap rxSwap) (regs : PortRegs) :
    configRegs pc regs = .ok { regs with
      spxCtl := changedCtl pc ptwOver regs.spxCtl
      oneWr := changedOneWr baud idle regs.oneWr
      plmCtl := changedPlmCtl txSwap rxSwap regs.plmCtl
      plmPol := polOfLanes pc } := by
  rw [configRegs, fields.ptwOver, fields.baud, fields.idle, fields.txSwap, fields.rxSwap]

theorem exists_fields (ok : configRegs pc regs = .ok out) :
    ∃ ptwOver baud idle txSwap rxSwap, Fields pc ptwOver baud idle txSwap rxSwap := by
  simp only [configRegs] at ok
  split at ok
  · cases ok
  · cases ok
  · cases ok
  · cases ok
  · cases ok
  next ptwOver baud idle txSwap rxSwap isOver isBaud isIdle isTxSwap isRxSwap =>
    exact ⟨ptwOver, baud, idle, txSwap, rxSwap, isOver, isBaud, isIdle, isTxSwap, isRxSwap⟩

theorem configRegs_config (ok : configRegs pc regs = .ok out) :
    configRegs pc regs.config = .ok out.config ∧ out.rtEn = regs.rtEn := by
  obtain ⟨ptwOver, baud, idle, txSwap, rxSwap, fields⟩ := exists_fields ok
  rw [configRegs_of_fields fields] at ok
  cases ok
  exact ⟨configRegs_of_fields fields _, rfl⟩

theorem config_clearRoutes (pt : Nat) :
    (clearRoutes rxsPorts chg port pt).config = (chg pt).config := by
  rw [clearRoutes]
  split
  · rfl
  · rfl

theorem config_allowRoutes (pt : Nat) :
    (allowRoutes rxsPorts sorted chg port pt).config = (chg pt).config := by
  rw [allowRoutes]
  split
  · rfl
  · rfl

theorem upRegs_config :
    (upRegs rxsPorts sorted (allowRoutes rxsPorts sorted chg port port)).config =
      { (chg port).config with
        plmPwdn := (chg port).plmPwdn &&& ~~~pwdnCtlPwdnPort
        mtcRtEn := mtcRouteEnMtcEn } := by
  rw [allowRoutes]
  split
  · rfl
  · rfl

theorem computePort_config (ok : computePort rxsPorts sorted chg port = .ok next) :
    changedConfig (sorted port) (chg port) = .ok (next port).config ∧
      ∀ pt ≠ port, (next pt).config = (chg pt).config := by
  simp only [computePort] at ok
  split at ok
  next unnamed =>
    cases ok
    exact ⟨by rw [changedConfig, if_pos (.inl unnamed)], fun _ _ => rfl⟩
  next named =>
    split at ok
    next unavailable =>
      cases ok
      rw [changedConfig, if_pos (.inr unavailable), config_clearRoutes]
      exact ⟨rfl, fun pt _ => config_clearRoutes pt⟩
    next available =>
      rw [changedConfig, if_neg (not_or.mpr ⟨named, available⟩)]
      split at ok
      next down =>
        cases ok
        rw [if_pos down, config_clearRoutes, Function.update_self]
        refine ⟨rfl, fun pt other => ?_⟩
        rw [config_clearRoutes, Function.update_of_ne other]
      next up =>
        rw [if_neg up]
        split at ok
        next regs configured =>
          cases ok
          have kept := (configRegs_config configured).1
          rw [upRegs_config] at kept
          rw [Function.update_self]
          refine ⟨kept, fun pt other => ?_⟩
          rw [Function.update_of_ne other, config_allowRoutes]
        next => cases ok

theorem changedConfig_of_isUp (named : pc.pnum ≠ rioAllPorts) (isUp : pc.isUp)
    (ok : changedConfig pc regs = .ok out) :
    ∃ ptwOver baud idle txSwap rxSwap, Fields pc ptwOver baud idle txSwap rxSwap ∧
      out = { regs.config with
        plmPwdn := regs.plmPwdn &&& ~~~pwdnCtlPwdnPort
        mtcRtEn := mtcRouteEnMtcEn
        spxCtl := changedCtl pc ptwOver regs.spxCtl
        oneWr := changedOneWr baud idle regs.oneWr
        plmCtl := changedPlmCtl txSwap rxSwap regs.plmCtl
        plmPol := polOfLanes pc } := by
  simp only [RioPcOnePortConfig.isUp, decide_eq_true_eq] at isUp
  rw [changedConfig, if_neg (by simp [named, isUp]), if_neg (by simp [isUp])] at ok
  obtain ⟨ptwOver, baud, idle, txSwap, rxSwap, fields⟩ := exists_fields ok
  rw [configRegs_of_fields fields] at ok
  cases ok
  exact ⟨ptwOver, baud, idle, txSwap, rxSwap, fields, rfl⟩

end Turn

def portMask (ports : List Nat) : BitVec 32 :=
  ports.foldl (fun mask port => mask ||| portBit port) 0

section Masks

variable {port : Nat} {ports : List Nat}

@[simp] theorem getLsbD_portBit (port idx : Nat) :
    (portBit port).getLsbD idx = decide (idx = port ∧ port < 32) := by
  rw [portBit, BitVec.getLsbD_shiftLeft]
  by_cases same : idx = port
  · subst same
    by_cases inRange : idx < 32
    · simp [inRange]
    · simp [inRange]
  · have apart : idx < port ∨ idx - port ≠ 0 := by omega
    rcases apart with below | above
    · simp [below, same]
    · simp [above, same]

theorem getLsbD_foldl_portBit (mask : BitVec 32) (idx : Nat) :
    (ports.foldl (fun mask port => mask ||| portBit port) mask).getLsbD idx =
      (mask.getLsbD idx || decide (idx ∈ ports ∧ idx < 32)) := by
  induction ports generalizing mask with
  | nil => simp
  | cons port ports ih =>
    rw [List.foldl_cons, ih, BitVec.getLsbD_or, getLsbD_portBit, Bool.or_assoc]
    congr 1
    by_cases same : idx = port
    · subst same
      simp
    · simp [same]

@[simp] theorem getLsbD_portMask (idx : Nat) :
    (portMask ports).getLsbD idx = decide (idx ∈ ports ∧ idx < 32) := by
  rw [portMask, getLsbD_foldl_portBit]
  simp

theorem portMask_append_singleton :
    portMask (ports ++ [port]) = portMask ports ||| portBit port := by
  rw [portMask, List.foldl_append]
  rfl

end Masks

/-- A port that a request takes down: it is named, and not to be available and powered up. -/
def isDown (sorted : PortConfigs) (port : Nat) : Bool :=
  (sorted port).pnum ≠ rioAllPorts ∧ (sorted port).isUp = false

/-- The bits of the ports below one that a request takes down. -/
def downPorts (sorted : PortConfigs) (count : Nat) : BitVec 32 :=
  portMask ((List.range count).filter (isDown sorted))

section Routes

variable {rxsPorts port pt : Nat} {sorted : PortConfigs} {chg next : SetRegs}

theorem upPorts_eq : upPorts rxsPorts sorted =
    portMask ((List.range rxsPorts).filter fun pt => (sorted pt).isUp) := rfl

theorem upPorts_or_portBit (isUp : (sorted port).isUp) (inRange : port < rxsPorts) :
    upPorts rxsPorts sorted ||| portBit port = upPorts rxsPorts sorted := by
  apply BitVec.eq_of_getLsbD_eq
  intro idx _
  rw [BitVec.getLsbD_or, upPorts_eq, getLsbD_portMask, getLsbD_portBit]
  by_cases same : idx = port
  · subst same
    simp [isUp, inRange]
  · simp [same]

theorem upPorts_and_not_portBit (notUp : (sorted port).isUp = false) :
    upPorts rxsPorts sorted &&& ~~~portBit port = upPorts rxsPorts sorted := by
  apply BitVec.eq_of_getLsbD_eq
  intro idx inRange
  rw [BitVec.getLsbD_and, BitVec.getLsbD_not, upPorts_eq, getLsbD_portMask, getLsbD_portBit]
  by_cases same : idx = port
  · subst same
    simp [notUp]
  · simp [same, inRange]

theorem downPorts_succ : downPorts sorted (port + 1) =
    if isDown sorted port then downPorts sorted port ||| portBit port
    else downPorts sorted port := by
  rw [downPorts, List.range_succ, List.filter_append, List.filter_singleton]
  split
  next down =>
    rw [down]
    exact portMask_append_singleton
  next notDown =>
    rw [Bool.eq_false_iff.mpr notDown]
    exact congrArg portMask (List.append_nil _)

theorem computePort_rtEn (ok : computePort rxsPorts sorted chg port = .ok next)
    (isSorted : IsSorted rxsPorts sorted) (inRange : pt < rxsPorts) :
    (next pt).rtEn =
      if isDown sorted port then (chg pt).rtEn &&& ~~~portBit port
      else if (sorted port).isUp then
        if pt = port then upPorts rxsPorts sorted
        else if (sorted pt).isUp then (chg pt).rtEn ||| portBit port
        else (chg pt).rtEn
      else (chg pt).rtEn := by
  simp only [computePort] at ok
  split at ok
  next unnamed =>
    cases ok
    have notUp : (sorted port).isUp = false := Bool.eq_false_iff.mpr (isSorted.not_isUp unnamed)
    have notDown : isDown sorted port = false := by simp [isDown, unnamed]
    simp [notUp, notDown]
  next named =>
    split at ok
    next unavailable =>
      cases ok
      have down : isDown sorted port = true := by
        simp [isDown, named, RioPcOnePortConfig.isUp, unavailable]
      rw [if_pos down, clearRoutes, if_pos inRange]
    next available =>
      split at ok
      next powerDown =>
        cases ok
        have down : isDown sorted port = true := by
          simp [isDown, named, RioPcOnePortConfig.isUp, powerDown]
        rw [if_pos down, clearRoutes, if_pos inRange]
        by_cases same : pt = port
        · subst same
          rw [Function.update_self]
        · rw [Function.update_of_ne same]
      next powerUp =>
        have isUp : (sorted port).isUp = true := by
          simp [RioPcOnePortConfig.isUp, Bool.of_not_eq_false available,
            Bool.of_not_eq_false powerUp]
        have notDown : isDown sorted port = false := by simp [isDown, isUp]
        rw [if_neg (Bool.eq_false_iff.mp notDown), if_pos isUp]
        split at ok
        next regs configured =>
          cases ok
          by_cases same : pt = port
          · subst same
            rw [if_pos rfl, Function.update_self, (configRegs_config configured).2]
            rfl
          · rw [if_neg same, Function.update_of_ne same, allowRoutes]
            by_cases ptUp : (sorted pt).isUp
            · rw [if_pos ⟨inRange, ptUp⟩, if_pos ptUp]
            · rw [if_neg fun both => ptUp both.2, if_neg ptUp]
        next => cases ok

end Routes

section Loop

variable {rxsPorts port : Nat} {sorted : PortConfigs} {before now chg : SetRegs}

/-- The registers once the turns for the ports below one are made. -/
structure ChangedUpTo (rxsPorts : Nat) (sorted : PortConfigs) (before : SetRegs) (idx : Nat)
    (now : SetRegs) : Prop where
  turned : ∀ pt < idx, changedConfig (sorted pt) (before pt) = .ok (now pt).config
  waiting : ∀ pt ≥ idx, (now pt).config = (before pt).config
  rtEnUp : ∀ pt < idx, (sorted pt).isUp → (now pt).rtEn = upPorts rxsPorts sorted
  rtEnOther : ∀ pt < rxsPorts, (sorted pt).isUp = false →
    (now pt).rtEn = (before pt).rtEn &&& ~~~downPorts sorted idx

theorem changedConfig_config (pc : RioPcOnePortConfig) (regs : PortRegs) :
    changedConfig pc regs.config = changedConfig pc regs := rfl

theorem computePort_changedUpTo (isSorted : IsSorted rxsPorts sorted) {idx : Nat}
    (inRange : idx < rxsPorts) {next : SetRegs}
    (changed : ChangedUpTo rxsPorts sorted before idx now)
    (ok : computePort rxsPorts sorted now idx = .ok next) :
    ChangedUpTo rxsPorts sorted before (idx + 1) next where
  turned pt below := by
    obtain ⟨own, others⟩ := computePort_config ok
    by_cases same : pt = idx
    · subst same
      rw [← changedConfig_config, ← changed.waiting pt (Nat.le_refl pt), changedConfig_config]
      exact own
    · rw [others pt same]
      exact changed.turned pt (by omega)
  waiting pt above := by
    rw [(computePort_config ok).2 pt (by omega)]
    exact changed.waiting pt (by omega)
  rtEnUp pt below isUp := by
    rw [computePort_rtEn ok isSorted (by omega)]
    by_cases same : pt = idx
    · subst same
      have notDown : isDown sorted pt = false := by simp [isDown, isUp]
      rw [if_neg (Bool.eq_false_iff.mp notDown), if_pos isUp, if_pos rfl]
    · have earlier := changed.rtEnUp pt (by omega) isUp
      rw [earlier]
      split
      next down =>
        apply upPorts_and_not_portBit
        simp only [isDown, decide_eq_true_eq] at down
        exact down.2
      next =>
        split
        next idxUp => exact upPorts_or_portBit idxUp inRange
        next => rfl
  rtEnOther pt isPort notUp := by
    have earlier := changed.rtEnOther pt isPort notUp
    rw [computePort_rtEn ok isSorted isPort, downPorts_succ, earlier]
    split
    next =>
      rw [BitVec.and_assoc]
      congr 1
      exact (BitVec.not_or).symm
    next =>
      split
      next idxUp =>
        have other : pt ≠ idx := by
          rintro rfl
          rw [notUp] at idxUp
          cases idxUp
        rw [if_neg other, if_neg (Bool.eq_false_iff.mp notUp)]
      next => rfl

section

variable (ok : changesOf rxsPorts sorted before = .ok chg)
include ok

section

variable (isSorted : IsSorted rxsPorts sorted)
include isSorted

theorem changesOf_changedUpTo :
    ∃ last, ChangedUpTo rxsPorts sorted before rxsPorts last ∧ chg = initTemp rxsPorts last := by
  rw [changesOf] at ok
  split at ok
  next last ran =>
    cases ok
    refine ⟨last, ?_, rfl⟩
    refine @foldlM_range_ok _ _ _ _ (ChangedUpTo rxsPorts sorted before) _ ?_ _ ?_ ran
    · exact fun idx inRange now next changed turned =>
        computePort_changedUpTo isSorted inRange changed turned
    · refine ⟨?_, fun _ _ => rfl, ?_, ?_⟩
      · exact fun pt below => absurd below (Nat.not_lt_zero pt)
      · exact fun pt below => absurd below (Nat.not_lt_zero pt)
      · intro pt _ _
        rw [show downPorts sorted 0 = 0#32 from rfl, BitVec.not_zero, BitVec.and_allOnes]
  next => cases ok

theorem changesOf_config (inRange : port < rxsPorts) :
    changedConfig (sorted port) (before port) = .ok (chg port).config := by
  obtain ⟨last, changed, rfl⟩ := changesOf_changedUpTo ok isSorted
  rw [changed.turned port inRange, initTemp, if_pos inRange]
  rfl

theorem changesOf_rtEn (inRange : port < rxsPorts) :
    (chg port).rtEn = if (sorted port).isUp then upPorts rxsPorts sorted
      else (before port).rtEn &&& ~~~downPorts sorted rxsPorts := by
  obtain ⟨last, changed, rfl⟩ := changesOf_changedUpTo ok isSorted
  rw [initTemp, if_pos inRange]
  split
  next isUp => exact changed.rtEnUp port inRange isUp
  next notUp => exact changed.rtEnOther port inRange (Bool.eq_false_iff.mpr notUp)

end

theorem changesOf_temp (inRange : port < rxsPorts) :
    (chg port).rtEnTemp = (chg port).rtEn ∧ (chg port).mtcRtEnTemp = (chg port).mtcRtEn := by
  rw [changesOf] at ok
  split at ok
  next =>
    cases ok
    rw [initTemp, if_pos inRange]
    exact ⟨rfl, rfl⟩
  next => cases ok

end

end Loop

/-- The registers of a port with what was read for them. -/
def PortRegs.read (regs : PortRegs) (values : Reg → BitVec 32) (port : Nat) : PortRegs :=
  { regs with
    plmPwdn := values (.port .pwdnCtl port)
    spxCtl := values (.port .ctl port)
    oneWr := values (.port .oneWr port)
    plmCtl := values (.port .impSpecCtl port)
    plmPol := values (.port .polCtl port)
    rtEn := values (.port .routeEn port)
    mtcRtEn := values (.port .mtcRouteEn port) }

/-- The registers of the ports of a request are read, and those of the other ports are left. -/
def currentRegs (sorted : PortConfigs) (curr : SetRegs) (values : Reg → BitVec 32) : SetRegs :=
  fun port =>
    if (sorted port).pnum = rioAllPorts then curr port else (curr port).read values port

section Answers

variable {δ : Type} {device : RegDevice Reg δ} {Inv : δ → Prop} {values : Reg → BitVec 32}
  (answers : device.Answers Inv values) {rxsPorts : Nat} {sorted : PortConfigs}

include answers

theorem readPortRegs_answers {μ : Type} (regs : PortRegs) (port : Nat) :
    Meets (fun state : Attached μ δ => Inv state.device) (readPortRegs device regs port)
      (fun out state => out = regs.read values port ∧ Inv state.device)
      fun _ state => Inv state.device := by
  apply answers.regRead_bind
  apply answers.regRead_bind
  apply answers.regRead_bind
  apply answers.regRead_bind
  apply answers.regRead_bind
  apply answers.regRead_bind
  apply answers.regRead_bind
  exact Meets.pure fun _ before => ⟨rfl, before⟩

theorem readNamedRegs_answers (curr : SetRegs) (port : Nat) :
    Meets (fun state => Inv state.device) (readNamedRegs device sorted curr port)
      (fun next state =>
        next = Function.update curr port (currentRegs sorted curr values port) ∧ Inv state.device)
      fun _ state => Inv state.device := by
  apply Meets.ite
  · intro unnamed
    apply Meets.pure
    intro state before
    rw [currentRegs, if_pos unnamed, Function.update_eq_self]
    exact ⟨rfl, before⟩
  · intro named
    apply Meets.bind
      (orLeave_meets (readPortRegs_answers answers _ _) fun _ _ before => before)
    intro regs
    apply Meets.pure
    rintro state ⟨rfl, before⟩
    rw [currentRegs, if_neg named]
    exact ⟨rfl, before⟩

theorem readAllNamed_answers (isSorted : IsSorted rxsPorts sorted) (curr : SetRegs) :
    Meets (fun state => Inv state.device)
      ((List.range rxsPorts).foldlM (readNamedRegs device sorted) curr)
      (fun last state => last = currentRegs sorted curr values ∧ Inv state.device)
      fun _ state => Inv state.device := by
  let upTo : List Nat → SetRegs := fun done port =>
    if port ∈ done then currentRegs sorted curr values port else curr port
  apply (@Meets.foldlM_prefix _ _ _ _ _ _ _
    (fun done (carried : SetRegs) (state : Attached Nat δ) =>
    carried = upTo done ∧ Inv state.device) ?_ [] curr).weaken
  · exact fun state before => ⟨rfl, before⟩
  · rintro last state ⟨rfl, after⟩
    refine ⟨funext fun port => ?_, after⟩
    simp only [upTo, List.nil_append, List.mem_range]
    split
    · rfl
    next outside =>
      by_cases unnamed : (sorted port).pnum = rioAllPorts
      · rw [currentRegs, if_pos unnamed]
      · exact absurd (isSorted.of_named unnamed).2 outside
  · exact fun _ _ before => before
  · intro done carried port _
    apply Meets.assume
    rintro rfl
    apply (readNamedRegs_answers answers _ port).weakenPost
    rintro next state ⟨rfl, after⟩
    refine ⟨funext fun pt => ?_, after⟩
    by_cases same : pt = port
    · subst same
      rw [Function.update_self]
      simp only [upTo, List.mem_append, List.mem_singleton, or_true, if_true, currentRegs]
      split
      · exact ite_self _
      · split
        · rfl
        · rfl
    · rw [Function.update_of_ne same]
      simp [upTo, same]

theorem computeChanges_answers (isSorted : IsSorted rxsPorts sorted) (curr chg : SetRegs) :
    Meets (fun state => Inv state.device) (computeChanges device rxsPorts sorted curr chg)
      (fun regs state => Inv state.device ∧ regs.1 = currentRegs sorted curr values ∧
        changesOf rxsPorts sorted (namedRegs sorted chg (currentRegs sorted curr values)) =
          .ok regs.2)
      fun _ state => Inv state.device := by
  apply Meets.bind (readAllNamed_answers answers isSorted curr)
  intro read
  apply Meets.assume
  rintro rfl
  split
  next changed isChanged => exact Meets.pure fun _ before => ⟨before, rfl, isChanged⟩
  next => exact leave_meets fun _ before => before

end Answers

section Values

variable {pc : RioPcOnePortConfig} {ptwOver baud idle txSwap rxSwap reg mask field : BitVec 32}

section Bits

variable {on : Bool}

theorem setBits_and_self : setBits on mask reg &&& mask = if on then mask else 0 := by
  cases on with
  | true =>
    rw [setBits, if_pos rfl, if_pos rfl, BitVec.or_comm]
    exact or_and_cancel
  | false =>
    rw [setBits, if_neg Bool.false_ne_true, if_neg Bool.false_ne_true, BitVec.and_assoc,
      BitVec.not_and_self]
    exact BitVec.and_zero

theorem setBits_and_apart (apart : mask &&& field = 0) :
    setBits on mask reg &&& field = reg &&& field := by
  apply eq_of_and_eq
  intro idx inRange isSet
  have outside := getLsbD_of_apart apart isSet
  cases on with
  | true =>
    rw [setBits, if_pos rfl, BitVec.getLsbD_or, outside, Bool.or_false]
  | false =>
    rw [setBits, if_neg Bool.false_ne_true, BitVec.getLsbD_and, BitVec.getLsbD_not, outside]
    simp [inRange]

end Bits

theorem baudOfLs_within (isBaud : baudOfLs pc.ls = some baud) : baud &&& oneWrBaudEn = baud := by
  cases isLs : pc.ls with
  | ls1p25 =>
    rw [isLs] at isBaud
    cases isBaud
  | last =>
    rw [isLs] at isBaud
    cases isBaud
  | _ =>
    rw [isLs] at isBaud
    cases isBaud
    rfl

theorem idleOfIseq_within (isIdle : idleOfIseq pc.iseq = some idle) :
    idle &&& oneWrIdleSeq = idle := by
  cases isIseq : pc.iseq with
  | last =>
    rw [isIseq] at isIdle
    cases isIdle
  | _ =>
    rw [isIseq] at isIdle
    cases isIdle
    rfl

theorem changedCtl_and_portDis : changedCtl pc ptwOver reg &&& ctlPortDis =
    if pc.xmitterDisable then ctlPortDis else 0 := by
  rw [changedCtl, setBits_and_apart rfl, setBits_and_apart rfl, setBits_and_self]

theorem changedCtl_and_portLockout : changedCtl pc ptwOver reg &&& ctlPortLockout =
    if pc.portLockout then ctlPortLockout else 0 := by
  rw [changedCtl, setBits_and_apart rfl, setBits_and_self]

namespace Fields

variable (fields : Fields pc ptwOver baud idle txSwap rxSwap)

include fields

theorem oneWr_baudEn : changedOneWr baud idle reg &&& oneWrBaudEn = baud := by
  rw [changedOneWr, replaced_and_apart (idleOfIseq_within fields.idle) rfl,
    replaced_and_self (baudOfLs_within fields.baud)]

end Fields

end Values

end RioFabric.RxsPort

import RioFabric.RouteTable.RouteProbe

/-!
# Verdicts on the ports of a mask

`rxs_check_for_discard` asks the ports of a multicast mask one after the other, with one reason
for discard for all of them.  A port is still marked at the end if no port of the mask up to it
has a reason.
-/

namespace RioFabric.RouteTable

/-- The output as a valid route has it, before any port is asked. -/
def RioRtProbeOut.unasked : RioRtProbeOut :=
  { RioRtProbeOut.cleared with reasonForDiscard := .discNot }

/-- The port has no reason of its own to discard packets. -/
def PortAccepts (reads : ProbeReads) (devInfo : DarDevInfo) (port : Nat) : Prop :=
  (checkPort reads devInfo .unasked port false).2.reasonForDiscard = .discNot

instance (reads : ProbeReads) (devInfo : DarDevInfo) (port : Nat) :
    Decidable (PortAccepts reads devInfo port) :=
  inferInstanceAs (Decidable (_ = _))

theorem portDiscardReason_ne_discNot {cfg : RioPcOnePortConfig} {stat : RioPcOnePortStatus}
    {dfltPort : Bool} {reason : RioRtDiscReason}
    (discards : portDiscardReason cfg stat dfltPort = some reason) : reason ≠ .discNot := by
  rintro rfl
  revert discards
  simp only [portDiscardReason]
  split_ifs <;> simp

section Ports

variable {reads : ProbeReads} {devInfo : DarDevInfo} {out : RioRtProbeOut} {port : Nat}

theorem checkPort_reason_iff (dfltPort : Bool) :
    (checkPort reads devInfo out port dfltPort).2.reasonForDiscard = .discNot ↔
      out.reasonForDiscard = .discNot ∧ PortAccepts reads devInfo port := by
  simp only [PortAccepts, checkPort]
  split
  · simp [RioRtProbeOut.abort]
  split
  · simp [RioRtProbeOut.abort]
  split
  · simp [RioRtProbeOut.abort]
  split
  · simp [RioRtProbeOut.abort]
  next cfg _ _ stat _ =>
  have same := portDiscardReason_eq_none_iff cfg stat dfltPort
  cases found : portDiscardReason cfg stat dfltPort with
  | some reason =>
    cases other : portDiscardReason cfg stat false with
    | some otherReason =>
      simp [portDiscardReason_ne_discNot found, portDiscardReason_ne_discNot other]
    | none => simp [found, other] at same
  | none =>
    rw [same.mp found]
    dsimp only
    split
    · simp [RioRtProbeOut.abort]
    split
    · simp
    split
    · simp [RioRtProbeOut.abort]
    split
    · simp
    · simp [RioRtProbeOut.unasked]

theorem checkPort_validRoute (dfltPort : Bool)
    (noReason : (checkPort reads devInfo out port dfltPort).2.reasonForDiscard = .discNot) :
    (checkPort reads devInfo out port dfltPort).2.validRoute = out.validRoute ∧
      port < devInfo.numRxsPorts := by
  revert noReason
  simp only [checkPort]
  split
  · simp [RioRtProbeOut.abort]
  next inside =>
  rw [not_le] at inside
  repeat' split
  all_goals simp [RioRtProbeOut.abort, inside]

theorem rxsCheckPortForDiscard_reason_iff (dfltPort : Bool) :
    (rxsCheckPortForDiscard reads devInfo out port dfltPort).2.reasonForDiscard = .discNot ↔
      out.reasonForDiscard = .discNot ∧ PortAccepts reads devInfo port := by
  rw [← checkPort_reason_iff dfltPort]
  simp only [rxsCheckPortForDiscard]
  split <;> rfl

theorem rxsCheckPortForDiscard_validRoute (valid : out.validRoute = true) (dfltPort : Bool) :
    (rxsCheckPortForDiscard reads devInfo out port dfltPort).2.validRoute = true ↔
      out.reasonForDiscard = .discNot ∧ PortAccepts reads devInfo port := by
  rw [← checkPort_reason_iff dfltPort]
  simp only [rxsCheckPortForDiscard]
  split
  next reason => simp [reason]
  next noReason =>
    rw [ne_eq, not_not] at noReason
    simp [noReason, (checkPort_validRoute dfltPort noReason).1, valid]

theorem checkPort_congr {other : ProbeReads} (dfltPort : Bool)
    (ftypeFilt : other.ftypeFilt port = reads.ftypeFilt port)
    (config : other.pcGetConfig port = reads.pcGetConfig port)
    (status : other.pcGetStatus port = reads.pcGetStatus port)
    (impSpec : other.impSpecCtl port = reads.impSpecCtl port)
    (plm : other.plmStat port = reads.plmStat port) :
    checkPort other devInfo out port dfltPort = checkPort reads devInfo out port dfltPort := by
  simp only [checkPort, ftypeFilt, config, status, impSpec, plm]

end Ports

section Loop

variable {reads : ProbeReads} {devInfo : DarDevInfo} {probeOnPort : Nat} {port : Nat}
  {out : RioRtProbeOut} {ports : List Nat}

/-- The output after a port that is asked. -/
def askedPort (reads : ProbeReads) (devInfo : DarDevInfo) (out : RioRtProbeOut) (port : Nat) :
    RioRtProbeOut :=
  let checked := rxsCheckPortForDiscard reads devInfo { out with validRoute := true } port false
  if checked.2.validRoute then checked.2
  else { checked.2 with mcastPorts := Function.update checked.2.mcastPorts port false }

theorem askedPort_reason_iff (out : RioRtProbeOut) (port : Nat) :
    (askedPort reads devInfo out port).reasonForDiscard = .discNot ↔
      out.reasonForDiscard = .discNot ∧ PortAccepts reads devInfo port := by
  have reason := @rxsCheckPortForDiscard_reason_iff reads devInfo { out with validRoute := true }
    port false
  simp only [askedPort]
  split <;> exact reason

theorem askedPort_mark_iff (out : RioRtProbeOut) (port : Nat) :
    (askedPort reads devInfo out port).mcastPorts port = true ↔
      out.mcastPorts port = true ∧ out.reasonForDiscard = .discNot ∧
        PortAccepts reads devInfo port := by
  have valid := @rxsCheckPortForDiscard_validRoute reads devInfo { out with validRoute := true }
    port rfl false
  have kept := (rxsCheckPortForDiscard_kept reads devInfo { out with validRoute := true } port
    false).2
  simp only [askedPort]
  split
  next holds =>
    rw [kept]
    exact (and_iff_left (valid.mp holds)).symm
  next fails =>
    have refused := mt valid.mpr fails
    simp only [Function.update_self, Bool.false_eq_true, false_iff, not_and]
    exact fun _ noReason accepts => refused ⟨noReason, accepts⟩

theorem askedPort_mark_of_ne (out : RioRtProbeOut) {other : Nat} (different : other ≠ port) :
    (askedPort reads devInfo out port).mcastPorts other = out.mcastPorts other := by
  have kept := (rxsCheckPortForDiscard_kept reads devInfo { out with validRoute := true } port
    false).2
  simp only [askedPort]
  split
  · rw [kept]
  · dsimp only
    rw [Function.update_of_ne different, kept]

theorem checkMcastPorts_cons_of_unmarked (unmarked : out.mcastPorts port = false) :
    checkMcastPorts reads devInfo probeOnPort (port :: ports) out =
      checkMcastPorts reads devInfo probeOnPort ports out := by
  rw [checkMcastPorts, if_pos (.inr unmarked)]

theorem checkMcastPorts_cons_of_marked (elsewhere : port ≠ probeOnPort)
    (marked : out.mcastPorts port = true)
    (succeeds : (checkMcastPorts reads devInfo probeOnPort (port :: ports) out).1 =
      .rioSuccess) :
    checkMcastPorts reads devInfo probeOnPort (port :: ports) out =
      checkMcastPorts reads devInfo probeOnPort ports (askedPort reads devInfo out port) := by
  have asked : ¬(port = probeOnPort ∨ out.mcastPorts port = false) := by
    simp [elsewhere, marked]
  rw [checkMcastPorts, if_neg asked] at succeeds ⊢
  dsimp only at succeeds ⊢
  split
  next fails =>
    rw [if_pos fails] at succeeds
    exact absurd succeeds fails
  next => rfl

theorem checkMcastPorts_mark_iff (sorted : ports.Pairwise (· < ·))
    (notProbed : out.mcastPorts probeOnPort = false)
    (succeeds : (checkMcastPorts reads devInfo probeOnPort ports out).1 = .rioSuccess)
    (port : Nat) :
    (checkMcastPorts reads devInfo probeOnPort ports out).2.mcastPorts port = true ↔
      out.mcastPorts port = true ∧ (port ∈ ports → out.reasonForDiscard = .discNot ∧
        ∀ other ∈ ports, other ≤ port → out.mcastPorts other = true →
          PortAccepts reads devInfo other) := by
  induction ports generalizing out with
  | nil => simp [checkMcastPorts]
  | cons first rest ih =>
    obtain ⟨before, sortedRest⟩ := List.pairwise_cons.mp sorted
    cases marked : out.mcastPorts first with
    | false =>
      rw [checkMcastPorts_cons_of_unmarked marked] at succeeds ⊢
      rw [ih sortedRest notProbed succeeds, List.forall_mem_cons]
      by_cases isFirst : port = first
      · simp [isFirst, marked]
      · simp [isFirst, marked]
    | true =>
      have elsewhere : first ≠ probeOnPort := by
        rintro rfl
        rw [marked] at notProbed
        contradiction
      have turn := checkMcastPorts_cons_of_marked elsewhere marked succeeds
      rw [turn] at succeeds ⊢
      have stillNotProbed :
          (askedPort reads devInfo out first).mcastPorts probeOnPort = false := by
        rwa [askedPort_mark_of_ne out elsewhere.symm]
      rw [ih sortedRest stillNotProbed succeeds, askedPort_reason_iff, List.forall_mem_cons]
      have restSame : (∀ other ∈ rest, other ≤ port →
          (askedPort reads devInfo out first).mcastPorts other = true →
            PortAccepts reads devInfo other) ↔
          ∀ other ∈ rest, other ≤ port → out.mcastPorts other = true →
            PortAccepts reads devInfo other := by
        refine forall₂_congr fun other inRest => ?_
        rw [askedPort_mark_of_ne out (before other inRest).ne']
      rw [restSame]
      by_cases isFirst : port = first
      · -- the ports behind the first one are not asked before it
        subst isFirst
        have fresh : port ∉ rest := fun inRest => lt_irrefl _ (before port inRest)
        have later : ∀ other ∈ rest, other ≤ port → out.mcastPorts other = true →
            PortAccepts reads devInfo other :=
          fun other inRest notBehind => absurd (before other inRest) notBehind.not_gt
        rw [askedPort_mark_iff, eq_true later]
        simp [fresh, marked]
      · rw [askedPort_mark_of_ne out isFirst]
        refine and_congr_right fun _ => ?_
        simp only [List.mem_cons, isFirst, false_or]
        refine forall_congr' fun inRest => ?_
        simp [(before port inRest).le, marked, and_assoc]

theorem checkMcastPorts_accepts (notProbed : out.mcastPorts probeOnPort = false)
    (succeeds : (checkMcastPorts reads devInfo probeOnPort ports out).1 = .rioSuccess)
    (noReason : (checkMcastPorts reads devInfo probeOnPort ports out).2.reasonForDiscard =
      .discNot) :
    out.reasonForDiscard = .discNot ∧
      ∀ port ∈ ports, out.mcastPorts port = true → PortAccepts reads devInfo port := by
  induction ports generalizing out with
  | nil => exact ⟨noReason, nofun⟩
  | cons first rest ih =>
    rw [List.forall_mem_cons]
    cases marked : out.mcastPorts first with
    | false =>
      rw [checkMcastPorts_cons_of_unmarked marked] at succeeds noReason
      obtain ⟨before, accepts⟩ := ih notProbed succeeds noReason
      exact ⟨before, nofun, accepts⟩
    | true =>
      have elsewhere : first ≠ probeOnPort := by
        rintro rfl
        rw [marked] at notProbed
        contradiction
      have turn := checkMcastPorts_cons_of_marked elsewhere marked succeeds
      rw [turn] at succeeds noReason
      have stillNotProbed :
          (askedPort reads devInfo out first).mcastPorts probeOnPort = false := by
        rwa [askedPort_mark_of_ne out elsewhere.symm]
      obtain ⟨before, accepts⟩ := ih stillNotProbed succeeds noReason
      obtain ⟨before, firstAccepts⟩ := (askedPort_reason_iff out first).mp before
      refine ⟨before, fun _ => firstAccepts, fun port inRest asked => ?_⟩
      by_cases isFirst : port = first
      · exact isFirst ▸ firstAccepts
      · exact accepts port inRest (by rwa [askedPort_mark_of_ne out isFirst])

end Loop

section Found

variable (devInfo : DarDevInfo) (inParms : RioRtProbeIn)

/-- The value of the device table for a destination ID, if the device can use it. -/
def foundDevRoute : Option PeRtVal :=
  let rte := (inParms.rt.devTable (devIdx inParms.destId)).rteVal
  if rxsChkDevRteReg devInfo rte then none else some rte

/-- The value that the tables have for a destination ID, if the device can use it. -/
def foundRoute : Option PeRtVal :=
  match inParms.tt with
  | .ttDev8 => foundDevRoute devInfo inParms
  | .ttDev16 =>
    let rte := (inParms.rt.domTable (domIdx inParms.destId)).rteVal
    if rxsChkDomRteReg devInfo rte then none
    else if rioRteVal rte = rioRteLvlG0 then foundDevRoute devInfo inParms
    else some rte

theorem rxsCheckRouting_eq (out : RioRtProbeOut) :
    rxsCheckRouting devInfo inParms out =
      (foundRoute devInfo inParms).elim (out.discard .rtInvalid)
        (checkRoute devInfo inParms out) := by
  unfold rxsCheckRouting foundRoute
  cases inParms.tt with
  | ttDev8 =>
    simp only [checkDevRoute, foundDevRoute]
    split <;> rfl
  | ttDev16 =>
    simp only [checkDevRoute, foundDevRoute]
    split
    · rfl
    split
    · split <;> rfl
    · rfl

/-- The output as the routing tables are looked at. -/
def routingOut (timeToLiveActive : Bool) : RioRtProbeOut :=
  { RioRtProbeOut.cleared with
    timeToLiveActive := timeToLiveActive
    defaultRoute := inParms.rt.defaultRoute }

/-- The parameters are ones that a probe does not refuse. -/
def ProbeAllowed : Prop :=
  ¬(devInfo.numRxsPorts ≤ inParms.probeOnPort ∧ inParms.probeOnPort ≠ rioAllPorts) ∧
    ¬(inParms.tt = .ttDev8 ∧ inParms.destId > 0xFF)

variable {devInfo inParms} {reads : ProbeReads}

theorem rxsRioRtProbe_eq (succeeds : (rxsRioRtProbe reads devInfo inParms).1 = .rioSuccess) :
    ProbeAllowed devInfo inParms ∧ reads.pktTimeLive.isOk = true ∧
      ∃ timeToLiveActive, rxsRioRtProbe reads devInfo inParms =
        askRoute reads devInfo inParms.probeOnPort
          (rxsCheckRouting devInfo inParms (routingOut inParms timeToLiveActive)) := by
  revert succeeds
  unfold rxsRioRtProbe
  split
  · exact nofun
  split
  · exact nofun
  cases timeLive : reads.pktTimeLive with
  | error code => exact nofun
  | ok regVal => exact fun _ => ⟨⟨‹_›, ‹_›⟩, rfl, _, rfl⟩

theorem rxsRioRtProbe_of_allowed (allowed : ProbeAllowed devInfo inParms)
    (timeLive : reads.pktTimeLive.isOk = true) :
    ∃ timeToLiveActive, rxsRioRtProbe reads devInfo inParms =
      askRoute reads devInfo inParms.probeOnPort
        (rxsCheckRouting devInfo inParms (routingOut inParms timeToLiveActive)) := by
  unfold rxsRioRtProbe
  rw [if_neg allowed.1, if_neg allowed.2]
  cases isOk : reads.pktTimeLive with
  | error code =>
    rw [isOk] at timeLive
    contradiction
  | ok regVal => exact ⟨_, rfl⟩

end Found

section Multicast

/-- The tables route a destination ID to a multicast mask, itself or as the default route. -/
def RoutedToMask (devInfo : DarDevInfo) (inParms : RioRtProbeIn) (mcIdx : RtIdx) : Prop :=
  ∃ rte, foundRoute devInfo inParms = some rte ∧ RouteNames inParms.rt rte mcIdx ∧
    (rioRteVal rte = rioRteDfltPort →
      rxsChkDfltRteReg devInfo inParms.rt.defaultRoute = false)

variable {reads : ProbeReads} {devInfo : DarDevInfo} {inParms : RioRtProbeIn} {mcIdx : RtIdx}
  {rte : PeRtVal} {out : RioRtProbeOut}

/-- The ports of the mask that a probe asks. -/
def probedPorts (devInfo : DarDevInfo) (inParms : RioRtProbeIn) (mcIdx : RtIdx) : List Nat :=
  maskPorts devInfo inParms.probeOnPort (inParms.rt.mcMasks mcIdx)

theorem not_drop_of_names {rt : RioRtState} (names : RouteNames rt rte mcIdx) :
    rte ≠ rioRteDrop ∧ ¬(rioRteVal rte = rioRteDfltPort ∧ rt.defaultRoute = rioRteDrop) := by
  have noMask : rioRtvGetMcMsk rioRteDrop = none := by decide
  constructor
  · rintro rfl
    have direct : routeBehind rt rioRteDrop = rioRteDrop := if_neg (by decide)
    rw [RouteNames, direct, noMask] at names
    contradiction
  · rintro ⟨dfltPort, drop⟩
    rw [RouteNames, routeBehind, if_pos dfltPort, drop, noMask] at names
    contradiction

theorem checkRoute_of_names (names : RouteNames inParms.rt rte mcIdx)
    (usable : rioRteVal rte = rioRteDfltPort →
      rxsChkDfltRteReg devInfo inParms.rt.defaultRoute = false)
    (dflt : out.defaultRoute = inParms.rt.defaultRoute) :
    checkRoute devInfo inParms out rte =
      rxsCheckMulticastRouting devInfo inParms
        { out with routingTableValue := rte, validRoute := true, reasonForDiscard := .discNot }
        (routeBehind inParms.rt rte) := by
  obtain ⟨notDrop, notDropped⟩ := not_drop_of_names names
  have valid : ¬(rioRteVal rte = rioRteDfltPort ∧
      rxsChkDfltRteReg devInfo inParms.rt.defaultRoute = true) :=
    fun ⟨dfltPort, invalid⟩ => Bool.false_ne_true ((usable dfltPort).symm.trans invalid)
  have isMask : rioRtvIsMcMsk (routeBehind inParms.rt rte) = true := by
    by_contra notMask
    rw [RouteNames, rioRtvGetMcMsk_of_not (Bool.not_eq_true _ ▸ notMask)] at names
    contradiction
  rw [routeBehind] at isMask ⊢
  simp only [checkRoute, dflt]
  rw [if_neg notDrop, if_neg valid, if_neg notDropped, if_pos isMask]

theorem rxsCheckMulticastRouting_unmarked (names : rioRtvGetMcMsk rte = some mcIdx)
    (blank : out.mcastPorts = fun _ => false) (noPorts : probedPorts devInfo inParms mcIdx = [])
    (port : Nat) :
    (rxsCheckMulticastRouting devInfo inParms out rte).mcastPorts port = false := by
  simp only [rxsCheckMulticastRouting, names]
  split
  · exact congrFun blank port
  next used =>
  split
  · exact congrFun blank port
  have unmarked : otherMcPort devInfo inParms.probeOnPort (inParms.rt.mcMasks mcIdx).mcMask port =
      false := by
    by_contra asked
    have isMember : port ∈ probedPorts devInfo inParms mcIdx :=
      (mem_maskPorts_iff devInfo).mpr ⟨by simpa using used, Bool.not_eq_false _ ▸ asked⟩
    rw [noPorts] at isMember
    contradiction
  have marks : (if port < devInfo.numRxsPorts ∧ port ≠ inParms.probeOnPort then
      otherMcPort devInfo inParms.probeOnPort (inParms.rt.mcMasks mcIdx).mcMask port
      else out.mcastPorts port) = false := by
    rw [unmarked, blank, ite_self]
  split <;> exact marks

/-- The ports of the mask, as marks. -/
def maskMarks (inParms : RioRtProbeIn) (devInfo : DarDevInfo) (mcIdx : RtIdx) : Nat → Bool :=
  otherMcPort devInfo inParms.probeOnPort (inParms.rt.mcMasks mcIdx).mcMask

theorem inRange_of_mark {port : Nat} (marked : maskMarks inParms devInfo mcIdx port = true) :
    port ∈ List.range devInfo.numRxsPorts := by
  simp only [maskMarks, otherMcPort, Bool.and_eq_true, decide_eq_true_eq] at marked
  exact List.mem_range.mpr marked.1.1

theorem mem_probedPorts_iff {first : Nat} (isMember : first ∈ probedPorts devInfo inParms mcIdx)
    {port : Nat} :
    port ∈ probedPorts devInfo inParms mcIdx ↔ maskMarks inParms devInfo mcIdx port = true :=
  (mem_maskPorts_iff devInfo).trans (and_iff_right ((mem_maskPorts_iff devInfo).mp isMember).1)

section

variable (found : FoundMask inParms out rte mcIdx)
include found

theorem askMask_eq {port : Nat} (isMember : port ∈ probedPorts devInfo inParms mcIdx) :
    askMask reads devInfo inParms out rte =
      let checked := checkMcastPorts reads devInfo inParms.probeOnPort
        (List.range devInfo.numRxsPorts)
        { out with mcastPorts := maskMarks inParms devInfo mcIdx }
      (checked.1,
        { checked.2 with
          validRoute := (List.range devInfo.numRxsPorts).any checked.2.mcastPorts }) := by
  rw [askMask, rxsCheckMulticastRouting_of_port devInfo inParms found.names found.blank isMember,
    askRoute, if_pos found.valid, rxsCheckForDiscard]
  dsimp only
  rw [found.value, found.dflt, not_isPort_of_routeNames found.names, if_neg Bool.false_ne_true]
  rfl

theorem askMask_mark_iff (succeeds : (askMask reads devInfo inParms out rte).1 = .rioSuccess)
    (port : Nat) :
    (askMask reads devInfo inParms out rte).2.mcastPorts port = true ↔
      port ∈ probedPorts devInfo inParms mcIdx ∧
        ∀ other ∈ probedPorts devInfo inParms mcIdx, other ≤ port →
          PortAccepts reads devInfo other := by
  by_cases noPorts : probedPorts devInfo inParms mcIdx = []
  · rw [askMask, askRoute, rxsCheckMulticastRouting_of_noPorts devInfo inParms found.names noPorts,
      if_neg Bool.false_ne_true,
      rxsCheckMulticastRouting_unmarked found.names found.blank noPorts, noPorts]
    simp
  · obtain ⟨first, isMember⟩ := List.exists_mem_of_ne_nil _ noPorts
    have member := @mem_probedPorts_iff devInfo inParms mcIdx first isMember
    rw [askMask_eq found isMember] at succeeds ⊢
    dsimp only at succeeds ⊢
    rw [checkMcastPorts_mark_iff List.pairwise_lt_range (by simp [maskMarks, otherMcPort]) succeeds]
    dsimp only
    rw [member]
    refine and_congr_right fun asked => ?_
    constructor
    · intro accepts other isMask upTo
      have marked := member.mp isMask
      exact (accepts (inRange_of_mark asked)).2 other (inRange_of_mark marked) upTo marked
    · exact fun accepts _ => ⟨found.noReason, fun other _ upTo marked =>
        accepts other (member.mpr marked) upTo⟩

theorem askMask_accepts (succeeds : (askMask reads devInfo inParms out rte).1 = .rioSuccess)
    (noReason : (askMask reads devInfo inParms out rte).2.reasonForDiscard = .discNot) :
    ∀ port ∈ probedPorts devInfo inParms mcIdx, PortAccepts reads devInfo port := by
  intro port isMember
  have marked := (mem_probedPorts_iff isMember).mp isMember
  rw [askMask_eq found isMember] at succeeds noReason
  exact (checkMcastPorts_accepts (by simp [maskMarks, otherMcPort]) succeeds noReason).2 port
    (inRange_of_mark marked) marked

theorem askMask_valid_iff (succeeds : (askMask reads devInfo inParms out rte).1 = .rioSuccess) :
    (askMask reads devInfo inParms out rte).2.validRoute = true ↔
      ∃ port, (askMask reads devInfo inParms out rte).2.mcastPorts port = true := by
  have marks := askMask_mark_iff found succeeds
  by_cases noPorts : probedPorts devInfo inParms mcIdx = []
  · have unasked := @rxsCheckMulticastRouting_of_noPorts devInfo inParms out _ mcIdx found.names
      noPorts
    simp only [marks, noPorts]
    rw [askMask, askRoute, unasked, if_neg Bool.false_ne_true, unasked]
    simp
  · obtain ⟨first, isMember⟩ := List.exists_mem_of_ne_nil _ noPorts
    have inside : ∀ port, (askMask reads devInfo inParms out rte).2.mcastPorts port = true →
        port ∈ List.range devInfo.numRxsPorts := fun port marked =>
      inRange_of_mark ((mem_probedPorts_iff isMember).mp ((marks port).mp marked).1)
    rw [askMask_eq found isMember] at inside ⊢
    rw [List.any_eq_true]
    constructor
    · rintro ⟨port, _, marked⟩
      exact ⟨port, marked⟩
    · rintro ⟨port, marked⟩
      exact ⟨port, inside port marked, marked⟩

end

section

variable (routed : RoutedToMask devInfo inParms mcIdx)
include routed

theorem rxsCheckRouting_of_routed (timeToLiveActive : Bool) :
    ∃ rte out, FoundMask inParms out rte mcIdx ∧
      rxsCheckRouting devInfo inParms (routingOut inParms timeToLiveActive) =
        rxsCheckMulticastRouting devInfo inParms out (routeBehind inParms.rt rte) := by
  obtain ⟨rte, found, names, usable⟩ := routed
  refine ⟨rte,
    { routingOut inParms timeToLiveActive with
      routingTableValue := rte, validRoute := true, reasonForDiscard := .discNot },
    ⟨rfl, rfl, rfl, rfl, rfl, names⟩, ?_⟩
  rw [rxsCheckRouting_eq, found, Option.elim_some]
  exact checkRoute_of_names names usable rfl

theorem rxsRioRtProbe_mark_iff (succeeds : (rxsRioRtProbe reads devInfo inParms).1 = .rioSuccess)
    (port : Nat) :
    (rxsRioRtProbe reads devInfo inParms).2.mcastPorts port = true ↔
      port ∈ probedPorts devInfo inParms mcIdx ∧
        ∀ other ∈ probedPorts devInfo inParms mcIdx, other ≤ port →
          PortAccepts reads devInfo other := by
  obtain ⟨-, -, timeToLiveActive, probe⟩ := rxsRioRtProbe_eq succeeds
  obtain ⟨rte, out, found, routing⟩ := rxsCheckRouting_of_routed routed timeToLiveActive
  rw [probe, routing] at succeeds ⊢
  exact askMask_mark_iff found succeeds port

theorem rxsRioRtProbe_mask_iff :
    (rxsRioRtProbe reads devInfo inParms).1 = .rioSuccess ↔
      ProbeAllowed devInfo inParms ∧ reads.pktTimeLive.isOk = true ∧
        ∀ port ∈ probedPorts devInfo inParms mcIdx, PortReadable reads devInfo port := by
  have asks : ∀ timeToLiveActive,
      (askRoute reads devInfo inParms.probeOnPort (rxsCheckRouting devInfo inParms
        (routingOut inParms timeToLiveActive))).1 = .rioSuccess ↔
      ∀ port ∈ probedPorts devInfo inParms mcIdx, PortReadable reads devInfo port := by
    intro timeToLiveActive
    obtain ⟨rte, out, found, routing⟩ := rxsCheckRouting_of_routed routed timeToLiveActive
    rw [routing]
    exact askMask_iff reads devInfo inParms found
  constructor
  · intro succeeds
    obtain ⟨allowed, timeLive, timeToLiveActive, probe⟩ := rxsRioRtProbe_eq succeeds
    rw [probe] at succeeds
    exact ⟨allowed, timeLive, (asks timeToLiveActive).mp succeeds⟩
  · rintro ⟨allowed, timeLive, readable⟩
    obtain ⟨timeToLiveActive, probe⟩ := rxsRioRtProbe_of_allowed allowed timeLive
    rw [probe]
    exact (asks timeToLiveActive).mpr readable

end

end Multicast

end RioFabric.RouteTable

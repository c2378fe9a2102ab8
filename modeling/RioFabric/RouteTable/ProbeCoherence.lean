import RioFabric.RouteTable.PortsIndependent

/-!
# Coherence of a probe

`rxs_rio_rt_probe` finds a route first and asks its ports afterwards.  The first part compares
routing table values without their implementation specific bits, the second part with them.
-/

namespace RioFabric.RouteTable

variable {reads : ProbeReads} {devInfo : DarDevInfo} {inParms : RioRtProbeIn} {rte : PeRtVal}
  {out : RioRtProbeOut}

theorem kind_of_chkVal (val : PeRtVal) : (val &&& ~~~0xF0000000) &&& 0x300 = val &&& 0x300 := by
  rw [BitVec.and_assoc]
  rfl

theorem rioRteVal_of_chkVal {val code : PeRtVal} (same : val &&& ~~~0xF0000000 = code)
    (small : code &&& 0x3FF = code) : rioRteVal val = code := by
  rw [← same, BitVec.and_assoc] at small
  rw [rioRteVal, ← same]
  exact small

theorem usable_kinds {val : PeRtVal} {domValue dfltPort : Bool}
    (usable : (rxsChkAndCorrRtv devInfo ⟨val, false⟩ domValue dfltPort).changed = false) :
    rioRtvIsPort val = true ∨ rioRtvIsMcMsk val = true ∨ rioRteVal val = rioRteDrop ∨
      (rioRteVal val = rioRteDfltPort ∧ dfltPort = false) ∨
      (rioRteVal val = rioRteLvlG0 ∧ domValue = true ∧ dfltPort = false) := by
  have drop : val &&& ~~~0xF0000000 = rioRteDrop → rioRteVal val = rioRteDrop :=
    fun same => rioRteVal_of_chkVal same (by decide)
  have dflt : val &&& ~~~0xF0000000 = rioRteDfltPort → rioRteVal val = rioRteDfltPort :=
    fun same => rioRteVal_of_chkVal same (by decide)
  have group : val &&& ~~~0xF0000000 = rioRteLvlG0 → rioRteVal val = rioRteLvlG0 :=
    fun same => rioRteVal_of_chkVal same (by decide)
  revert usable
  simp only [rxsChkAndCorrRtv, rioRtvIsPort, rioRtvIsMcMsk, rioRtvIsLvlGrp, kind_of_chkVal]
  generalize val &&& ~~~0xF0000000 = chkVal at drop dflt group ⊢
  split_ifs <;> simp_all

theorem foundRoute_kinds (found : foundRoute devInfo inParms = some rte) :
    rioRtvIsPort rte = true ∨ rioRtvIsMcMsk rte = true ∨ rioRteVal rte = rioRteDrop ∨
      rioRteVal rte = rioRteDfltPort := by
  have ofDev : foundDevRoute devInfo inParms = some rte →
      rioRtvIsPort rte = true ∨ rioRtvIsMcMsk rte = true ∨ rioRteVal rte = rioRteDrop ∨
        rioRteVal rte = rioRteDfltPort := by
    simp only [foundDevRoute, Option.ite_none_left_eq_some, Option.some.injEq]
    rintro ⟨usable, rfl⟩
    obtain port | mask | drop | dflt | group := usable_kinds (Bool.not_eq_true _ ▸ usable)
    · exact .inl port
    · exact .inr (.inl mask)
    · exact .inr (.inr (.inl drop))
    · exact .inr (.inr (.inr dflt.1))
    · exact absurd group.2.1 Bool.false_ne_true
  revert found
  unfold foundRoute
  cases inParms.tt with
  | ttDev8 => exact ofDev
  | ttDev16 =>
    dsimp only
    split
    · intro found
      cases found
    next usable =>
    split
    · exact ofDev
    next notG0 =>
      rintro ⟨⟩
      obtain port | mask | drop | dflt | group := usable_kinds (Bool.not_eq_true _ ▸ usable)
      · exact .inl port
      · exact .inr (.inl mask)
      · exact .inr (.inr (.inl drop))
      · exact .inr (.inr (.inr dflt.1))
      · exact absurd group.1 notG0

/-- Where the route that is found needs the code of a dropped packet or of the default port, it
has the code without implementation specific bits. -/
def PlainCodes (devInfo : DarDevInfo) (inParms : RioRtProbeIn) : Prop :=
  ∀ rte, foundRoute devInfo inParms = some rte →
    (rioRteVal rte = rioRteDrop → rte = rioRteDrop) ∧
      (rioRteVal rte = rioRteDfltPort → rte = rioRteDfltPort ∧
        (rioRteVal inParms.rt.defaultRoute = rioRteDrop →
          inParms.rt.defaultRoute = rioRteDrop))

/-- A route that is not valid has a reason.  A valid unicast route has none, leads to an
existing port, itself or as the default route, and marks no ports.  A valid multicast route
marks ports of its mask. -/
structure ProbeCoherent (devInfo : DarDevInfo) (inParms : RioRtProbeIn) (out : RioRtProbeOut) :
    Prop where
  discarded : PlainCodes devInfo inParms → out.validRoute = false →
    out.reasonForDiscard ≠ .discNot
  unicast : out.validRoute = true →
    rioRtvIsMcMsk (routeBehind inParms.rt out.routingTableValue) = false →
      out.reasonForDiscard = .discNot ∧
        rioRtvIsPort (routeBehind inParms.rt out.routingTableValue) = true ∧
        (rioRteIdx (routeBehind inParms.rt out.routingTableValue)).val < devInfo.numRxsPorts ∧
        ∀ port, out.mcastPorts port = false
  multicast : out.validRoute = true →
    ∀ mcIdx, RouteNames inParms.rt out.routingTableValue mcIdx →
      (∃ port, out.mcastPorts port = true) ∧
        ∀ port, out.mcastPorts port = true → port ∈ probedPorts devInfo inParms mcIdx

theorem ProbeCoherent.of_discarded (invalid : out.validRoute = false)
    (reason : out.reasonForDiscard ≠ .discNot) : ProbeCoherent devInfo inParms out where
  discarded _ _ := reason
  unicast valid := absurd (invalid.symm.trans valid) Bool.false_ne_true
  multicast valid := absurd (invalid.symm.trans valid) Bool.false_ne_true

/-! ### Multicast -/

theorem rxsCheckMulticastRouting_discards (valid : out.validRoute = true)
    (invalid : (rxsCheckMulticastRouting devInfo inParms out rte).validRoute = false) :
    (rxsCheckMulticastRouting devInfo inParms out rte).reasonForDiscard ≠ .discNot := by
  revert invalid
  simp only [rxsCheckMulticastRouting]
  repeat' split
  all_goals simp [RioRtProbeOut.discard, valid]

theorem askMask_coherent {mcIdx : RtIdx} (found : FoundMask inParms out rte mcIdx)
    (succeeds : (askMask reads devInfo inParms out rte).1 = .rioSuccess) :
    ProbeCoherent devInfo inParms (askMask reads devInfo inParms out rte).2 := by
  have names := found.names
  have marks := askMask_mark_iff found succeeds
  have kept : (askMask reads devInfo inParms out rte).2.routingTableValue = rte := by
    rw [askMask, askRoute_kept, rxsCheckMulticastRouting_kept, found.value]
  have validIff := askMask_valid_iff found succeeds
  refine ⟨fun _ invalid => ?_, fun _ notMask => ?_, fun isValid other otherNames => ?_⟩
  · by_cases noPorts : probedPorts devInfo inParms mcIdx = []
    · have unasked := @rxsCheckMulticastRouting_of_noPorts devInfo inParms out _ mcIdx names noPorts
      rw [askMask, askRoute, unasked, if_neg Bool.false_ne_true]
      exact rxsCheckMulticastRouting_discards found.valid unasked
    · -- if no port had a reason, then all of them would still be marked
      intro reason
      obtain ⟨port, isMember⟩ := List.exists_mem_of_ne_nil _ noPorts
      have accepts := askMask_accepts found succeeds reason
      have marked := (marks port).mpr ⟨isMember, fun other otherMember _ =>
        accepts other otherMember⟩
      exact Bool.false_ne_true (invalid.symm.trans (validIff.mpr ⟨port, marked⟩))
  · rw [kept] at notMask
    rw [RouteNames, rioRtvGetMcMsk_of_not notMask] at names
    contradiction
  · rw [kept] at otherNames
    obtain rfl : mcIdx = other := Option.some.inj (names.symm.trans otherNames)
    exact ⟨validIff.mp isValid, fun port marked => ((marks port).mp marked).1⟩

/-! ### Unicast -/

theorem isPort_of_plainCodes (plain : PlainCodes devInfo inParms)
    (found : foundRoute devInfo inParms = some rte) (notDrop : rte ≠ rioRteDrop)
    (usable : rioRteVal rte = rioRteDfltPort →
      rxsChkDfltRteReg devInfo inParms.rt.defaultRoute = false ∧
        inParms.rt.defaultRoute ≠ rioRteDrop)
    (notMask : rioRtvIsMcMsk (routeBehind inParms.rt rte) = false) :
    rioRtvIsPort (if rte = rioRteDfltPort then inParms.rt.defaultRoute else rte) = true := by
  obtain ⟨plainDrop, plainDflt⟩ := plain rte found
  by_cases dfltPort : rioRteVal rte = rioRteDfltPort
  · obtain ⟨dfltUsable, dfltNotDrop⟩ := usable dfltPort
    obtain ⟨exact, plainDfltDrop⟩ := plainDflt dfltPort
    rw [routeBehind, if_pos dfltPort] at notMask
    rw [if_pos exact]
    obtain port | mask | drop | dflt | group := usable_kinds dfltUsable
    · exact port
    · exact absurd (notMask.symm.trans mask) Bool.false_ne_true
    · exact absurd (plainDfltDrop drop) dfltNotDrop
    · exact absurd dflt.2.symm Bool.false_ne_true
    · exact absurd group.2.1 Bool.false_ne_true
  · rw [routeBehind, if_neg dfltPort] at notMask
    have notExact : rte ≠ rioRteDfltPort := by
      rintro rfl
      exact dfltPort (by decide)
    rw [if_neg notExact]
    obtain port | mask | drop | dflt := foundRoute_kinds found
    · exact port
    · exact absurd (notMask.symm.trans mask) Bool.false_ne_true
    · exact absurd (plainDrop drop) notDrop
    · exact absurd dflt dfltPort

theorem routeBehind_of_isPort {rt : RioRtState}
    (isPort : rioRtvIsPort (if rte = rioRteDfltPort then rt.defaultRoute else rte) = true) :
    routeBehind rt rte = if rte = rioRteDfltPort then rt.defaultRoute else rte := by
  by_cases exact : rte = rioRteDfltPort
  · have code : rioRteVal rte = rioRteDfltPort := by
      rw [exact]
      decide
    rw [if_pos exact, routeBehind, if_pos code]
  · rw [if_neg exact] at isPort ⊢
    refine if_neg fun dfltPort => ?_
    rw [not_isPort_of_dfltPort dfltPort] at isPort
    contradiction

theorem checkMcastPorts_of_blank {probeOnPort : Nat} {ports : List Nat}
    (blank : out.mcastPorts = fun _ => false) :
    checkMcastPorts reads devInfo probeOnPort ports out = (.rioSuccess, out) := by
  induction ports with
  | nil => rfl
  | cons port ports ih =>
    rw [checkMcastPorts_cons_of_unmarked (congrFun blank port)]
    exact ih

theorem askRoute_direct_coherent (found : foundRoute devInfo inParms = some rte)
    (notDrop : rte ≠ rioRteDrop) (usable : rioRteVal rte = rioRteDfltPort →
      rxsChkDfltRteReg devInfo inParms.rt.defaultRoute = false ∧
        inParms.rt.defaultRoute ≠ rioRteDrop)
    (notMask : rioRtvIsMcMsk (routeBehind inParms.rt rte) = false) (valid : out.validRoute = true)
    (blank : out.mcastPorts = fun _ => false) (dflt : out.defaultRoute = inParms.rt.defaultRoute)
    (value : out.routingTableValue = rte) :
    ProbeCoherent devInfo inParms (askRoute reads devInfo inParms.probeOnPort out).2 := by
  have kept := askRoute_kept reads devInfo inParms.probeOnPort out
  rw [askRoute, if_pos valid, rxsCheckForDiscard] at kept ⊢
  dsimp only at kept ⊢
  rw [value, dflt] at kept ⊢
  generalize portEq : (if rte = rioRteDfltPort then inParms.rt.defaultRoute else rte) = route
    at kept ⊢
  cases isPort : rioRtvIsPort route with
  | true =>
    rw [isPort, if_pos rfl] at kept
    rw [if_pos rfl]
    have behind : routeBehind inParms.rt rte = route := by
      rw [← portEq] at isPort ⊢
      exact routeBehind_of_isPort isPort
    generalize decide (rte = rioRteDfltPort) = dfltPort at kept ⊢
    have reasonIff := @rxsCheckPortForDiscard_reason_iff reads devInfo out
      (rioRteIdx route).val dfltPort
    have validIff := @rxsCheckPortForDiscard_validRoute reads devInfo out
      (rioRteIdx route).val valid dfltPort
    refine ⟨fun _ invalid reason => ?_, fun isValid _ => ?_, fun _ other otherNames => ?_⟩
    · exact Bool.false_ne_true (invalid.symm.trans (validIff.mpr (reasonIff.mp reason)))
    · have accepts := validIff.mp isValid
      have inside := (checkPort_validRoute dfltPort ((checkPort_reason_iff dfltPort).mpr
        accepts)).2
      rw [kept, behind]
      refine ⟨reasonIff.mpr accepts, isPort, inside, fun port => ?_⟩
      rw [(rxsCheckPortForDiscard_kept reads devInfo out _ dfltPort).2, blank]
    · rw [kept, RouteNames, rioRtvGetMcMsk_of_not notMask] at otherNames
      contradiction
  | false =>
    rw [if_neg Bool.false_ne_true, checkMcastPorts_of_blank blank]
    dsimp only
    have invalid : (List.range devInfo.numRxsPorts).any out.mcastPorts = false := by
      simp [blank]
    rw [invalid]
    refine ⟨fun plain _ => ?_, fun isValid => absurd isValid Bool.false_ne_true,
      fun isValid => absurd isValid Bool.false_ne_true⟩
    have port := isPort_of_plainCodes plain found notDrop usable notMask
    rw [portEq, isPort] at port
    contradiction

/-! ### Every route -/

theorem askRoute_discard_coherent (out : RioRtProbeOut) {reason : RioRtDiscReason}
    (isReason : reason ≠ .discNot) :
    ProbeCoherent devInfo inParms
      (askRoute reads devInfo inParms.probeOnPort (out.discard reason)).2 := by
  rw [askRoute, if_neg (by simp [RioRtProbeOut.discard])]
  exact .of_discarded rfl isReason

theorem checkRoute_coherent (found : foundRoute devInfo inParms = some rte)
    (blank : out.mcastPorts = fun _ => false) (dflt : out.defaultRoute = inParms.rt.defaultRoute)
    (succeeds : (askRoute reads devInfo inParms.probeOnPort
      (checkRoute devInfo inParms out rte)).1 = .rioSuccess) :
    ProbeCoherent devInfo inParms (askRoute reads devInfo inParms.probeOnPort
      (checkRoute devInfo inParms out rte)).2 := by
  revert succeeds
  simp only [checkRoute, dflt]
  by_cases drop : rte = rioRteDrop
  · rw [if_pos drop]
    exact fun _ => askRoute_discard_coherent _ (by decide)
  rw [if_neg drop]
  by_cases invalid : rioRteVal rte = rioRteDfltPort ∧
      rxsChkDfltRteReg devInfo inParms.rt.defaultRoute = true
  · rw [if_pos invalid]
    exact fun _ => askRoute_discard_coherent _ (by decide)
  rw [if_neg invalid]
  by_cases dropped : rioRteVal rte = rioRteDfltPort ∧ inParms.rt.defaultRoute = rioRteDrop
  · rw [if_pos dropped]
    exact fun _ => askRoute_discard_coherent _ (by decide)
  rw [if_neg dropped]
  change (askRoute reads devInfo inParms.probeOnPort
      (if rioRtvIsMcMsk (routeBehind inParms.rt rte) then
        rxsCheckMulticastRouting devInfo inParms _ (routeBehind inParms.rt rte) else _)).1 = _ → _
  cases isMask : rioRtvIsMcMsk (routeBehind inParms.rt rte) with
  | true =>
    rw [routeBehind] at isMask
    rw [isMask]
    exact askMask_coherent ⟨rfl, rfl, blank, rfl, rfl, rioRtvGetMcMsk_of_isMcMsk isMask⟩
  | false =>
    have usable : rioRteVal rte = rioRteDfltPort →
        rxsChkDfltRteReg devInfo inParms.rt.defaultRoute = false ∧
          inParms.rt.defaultRoute ≠ rioRteDrop := fun dfltPort =>
      ⟨Bool.not_eq_true _ ▸ fun isInvalid => invalid ⟨dfltPort, isInvalid⟩,
        fun same => dropped ⟨dfltPort, same⟩⟩
    have direct := isMask
    rw [routeBehind] at isMask
    rw [isMask]
    exact fun _ => askRoute_direct_coherent found drop usable direct rfl blank rfl rfl

/-- What a probe that succeeds gives is coherent. -/
theorem rxsRioRtProbe_coherent (reads : ProbeReads) (devInfo : DarDevInfo) (inParms : RioRtProbeIn)
    (succeeds : (rxsRioRtProbe reads devInfo inParms).1 = .rioSuccess) :
    ProbeCoherent devInfo inParms (rxsRioRtProbe reads devInfo inParms).2 := by
  obtain ⟨-, -, timeToLiveActive, probe⟩ := rxsRioRtProbe_eq succeeds
  rw [probe] at succeeds ⊢
  rw [rxsCheckRouting_eq] at succeeds ⊢
  cases found : foundRoute devInfo inParms with
  | none => exact askRoute_discard_coherent _ (by decide)
  | some rte =>
    rw [found] at succeeds
    exact checkRoute_coherent found rfl rfl succeeds

theorem rxsRioRtProbe_coherent_pairIn :
    ProbeCoherent ⟨.rxs2448, 24⟩ pairIn (rxsRioRtProbe quietReads ⟨.rxs2448, 24⟩ pairIn).2 :=
  rxsRioRtProbe_coherent quietReads ⟨.rxs2448, 24⟩ pairIn (by decide +kernel)

/-- Port 3 is probed for destination ID 7. -/
def singleIn : RioRtProbeIn := { pairIn with probeOnPort := 3, destId := 7 }

/-- Destination ID 7 goes to port 0, and `mcast_ports` does not mark that port.  Destination
ID 5 goes to ports 1 and 2; port 1 takes packets, and the reason is that of port 2. -/
theorem rxsRioRtProbe_unmarked :
    (rxsRioRtProbe quietReads ⟨.rxs2448, 24⟩ singleIn).1 = .rioSuccess ∧
      (rxsRioRtProbe quietReads ⟨.rxs2448, 24⟩ singleIn).2.validRoute = true ∧
      (rxsRioRtProbe quietReads ⟨.rxs2448, 24⟩ singleIn).2.routingTableValue = 0 ∧
      (rxsRioRtProbe quietReads ⟨.rxs2448, 24⟩ singleIn).2.mcastPorts 0 = false ∧
      (rxsRioRtProbe (lockedReads 2) ⟨.rxs2448, 24⟩ pairIn).1 = .rioSuccess ∧
      (rxsRioRtProbe (lockedReads 2) ⟨.rxs2448, 24⟩ pairIn).2.validRoute = true ∧
      (rxsRioRtProbe (lockedReads 2) ⟨.rxs2448, 24⟩ pairIn).2.reasonForDiscard =
        .portLkoutOrDis := by
  decide +kernel

end RioFabric.RouteTable

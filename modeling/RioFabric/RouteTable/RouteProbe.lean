import RioFabric.RouteTable.Frame
import RioFabric.RouteTable.RouteEntry

/-!
# What a get returns

A probe for an eight bit ID returns the device table entry of the ID, if it succeeds.  It
succeeds unless a port of the route cannot be asked.
-/

namespace RioFabric.RouteTable

open Libdid

/-- The value that a probe gives for an entry of the device table; an entry that the device
cannot use is passed over. -/
def routeValue (devInfo : DarDevInfo) (rt : RioRtState) (idx : RtIdx) : PeRtVal :=
  if rxsChkDevRteReg devInfo (rt.devTable idx).rteVal then BitVec.ofNat 32 rioAllPorts
  else (rt.devTable idx).rteVal

/-- The route behind a value. -/
def routeBehind (rt : RioRtState) (rte : PeRtVal) : PeRtVal :=
  if rioRteVal rte = rioRteDfltPort then rt.defaultRoute else rte

/-- The route behind a value is a mask. -/
def RouteNames (rt : RioRtState) (rte : PeRtVal) (mcIdx : RtIdx) : Prop :=
  rioRtvGetMcMsk (routeBehind rt rte) = some mcIdx

instance (rt : RioRtState) (rte : PeRtVal) (mcIdx : RtIdx) : Decidable (RouteNames rt rte mcIdx) :=
  inferInstanceAs (Decidable (_ = _))

/-- The ports that a mask in use leads to, other than the probed one. -/
def maskPorts (devInfo : DarDevInfo) (probeOnPort : Nat) (mask : RioRtMcInfo) : List Nat :=
  if mask.inUse then
    (List.range devInfo.numRxsPorts).filter (otherMcPort devInfo probeOnPort mask.mcMask)
  else []

/-- The ports that a probe asks about a value. -/
def routePorts (devInfo : DarDevInfo) (rt : RioRtState) (probeOnPort : Nat) (rte : PeRtVal) :
    List Nat :=
  if rte = rioRteDrop then []
  else if rioRteVal rte = rioRteDfltPort ∧
      (rxsChkDfltRteReg devInfo rt.defaultRoute = true ∨ rt.defaultRoute = rioRteDrop) then []
  else
    match rioRtvGetMcMsk (routeBehind rt rte) with
    | some mcIdx => maskPorts devInfo probeOnPort (rt.mcMasks mcIdx)
    | none =>
      let route := if rte = rioRteDfltPort then rt.defaultRoute else rte
      if rioRtvIsPort route then [(rioRteIdx route).val] else []

/-- No access fails while a port is asked. -/
def PortReadable (reads : ProbeReads) (devInfo : DarDevInfo) (port : Nat) : Prop :=
  (checkPort reads devInfo .cleared port false).1 = .rioSuccess

instance (reads : ProbeReads) (devInfo : DarDevInfo) (port : Nat) :
    Decidable (PortReadable reads devInfo port) :=
  inferInstanceAs (Decidable (_ = _))

section Ports

variable (reads : ProbeReads) (devInfo : DarDevInfo) (out : RioRtProbeOut) (port : Nat)

theorem portDiscardReason_eq_none_iff (cfg : RioPcOnePortConfig) (stat : RioPcOnePortStatus)
    (dfltPort : Bool) :
    portDiscardReason cfg stat dfltPort = none ↔ portDiscardReason cfg stat false = none := by
  simp only [portDiscardReason]
  split_ifs <;> simp

theorem checkPort_fst (dfltPort : Bool) :
    (checkPort reads devInfo out port dfltPort).1 =
      (checkPort reads devInfo .cleared port false).1 := by
  simp only [checkPort]
  split
  · rfl
  split
  · rfl
  split
  · rfl
  split
  · rfl
  next cfg _ _ stat _ =>
  have same := portDiscardReason_eq_none_iff cfg stat dfltPort
  cases reason : portDiscardReason cfg stat dfltPort with
  | some _ =>
    cases other : portDiscardReason cfg stat false with
    | some _ => rfl
    | none => simp [reason, other] at same
  | none =>
    rw [same.mp reason]
    dsimp only
    split
    · rfl
    split
    · rfl
    split
    · rfl
    split <;> rfl

theorem checkPort_kept (dfltPort : Bool) :
    (checkPort reads devInfo out port dfltPort).2.routingTableValue = out.routingTableValue ∧
      (checkPort reads devInfo out port dfltPort).2.mcastPorts = out.mcastPorts := by
  simp only [checkPort]
  repeat' split
  all_goals exact ⟨rfl, rfl⟩

theorem rxsCheckPortForDiscard_fst (dfltPort : Bool) :
    (rxsCheckPortForDiscard reads devInfo out port dfltPort).1 =
      (checkPort reads devInfo .cleared port false).1 := by
  rw [← checkPort_fst reads devInfo out port dfltPort]
  simp only [rxsCheckPortForDiscard]
  split <;> rfl

theorem rxsCheckPortForDiscard_kept (dfltPort : Bool) :
    (rxsCheckPortForDiscard reads devInfo out port dfltPort).2.routingTableValue =
        out.routingTableValue ∧
      (rxsCheckPortForDiscard reads devInfo out port dfltPort).2.mcastPorts = out.mcastPorts := by
  have kept := checkPort_kept reads devInfo out port dfltPort
  simp only [rxsCheckPortForDiscard]
  split <;> exact kept

variable (probeOnPort : Nat)

theorem checkMcastPorts_fst_iff (ports : List Nat) (distinct : ports.Nodup) :
    (checkMcastPorts reads devInfo probeOnPort ports out).1 = .rioSuccess ↔
      ∀ other ∈ ports, other ≠ probeOnPort → out.mcastPorts other = true →
        PortReadable reads devInfo other := by
  induction ports generalizing out with
  | nil => simp [checkMcastPorts]
  | cons first rest ih =>
    obtain ⟨fresh, distinct⟩ := List.nodup_cons.mp distinct
    simp only [checkMcastPorts, List.forall_mem_cons]
    split
    next passed =>
      rw [ih out distinct]
      refine (and_iff_right fun elsewhere asked => ?_).symm
      obtain rfl | absent := passed
      · exact absurd rfl elsewhere
      · rw [asked] at absent
        contradiction
    next asked =>
      obtain ⟨elsewhere, asked⟩ := not_or.mp asked
      have rc := rxsCheckPortForDiscard_fst reads devInfo { out with validRoute := true } first
        false
      have kept := (rxsCheckPortForDiscard_kept reads devInfo { out with validRoute := true }
        first false).2
      split
      next fails =>
        rw [rc] at fails ⊢
        refine iff_of_false fails fun readable => fails ?_
        exact readable.1 elsewhere (Bool.not_eq_false _ ▸ asked)
      next succeeds =>
        rw [rc, not_not] at succeeds
        have readable : PortReadable reads devInfo first := succeeds
        rw [ih _ distinct, and_iff_right fun _ _ => readable]
        refine forall₂_congr fun other inRest => ?_
        have different : other ≠ first := fun same => fresh (same ▸ inRest)
        split <;> simp [kept, different]

theorem checkMcastPorts_kept (ports : List Nat) :
    (checkMcastPorts reads devInfo probeOnPort ports out).2.routingTableValue =
      out.routingTableValue := by
  induction ports generalizing out with
  | nil => rfl
  | cons first rest ih =>
    have kept := (rxsCheckPortForDiscard_kept reads devInfo { out with validRoute := true }
      first false).1
    simp only [checkMcastPorts]
    split
    · exact ih out
    split
    · exact kept
    · rw [ih]
      split <;> exact kept

theorem rxsCheckForDiscard_kept :
    (rxsCheckForDiscard reads devInfo probeOnPort out).2.routingTableValue =
      out.routingTableValue := by
  dsimp only [rxsCheckForDiscard]
  generalize (if out.routingTableValue = rioRteDfltPort then _ else _ : PeRtVal) = rte
  split
  · exact (rxsCheckPortForDiscard_kept reads devInfo out _ _).1
  · exact checkMcastPorts_kept reads devInfo out probeOnPort _

theorem rxsCheckForDiscard_fst_iff {route : PeRtVal}
    (route_eq : (if out.routingTableValue = rioRteDfltPort then out.defaultRoute
      else out.routingTableValue) = route) :
    (rxsCheckForDiscard reads devInfo probeOnPort out).1 = .rioSuccess ↔
      if rioRtvIsPort route then PortReadable reads devInfo (rioRteIdx route).val
      else ∀ other < devInfo.numRxsPorts, other ≠ probeOnPort → out.mcastPorts other = true →
        PortReadable reads devInfo other := by
  dsimp only [rxsCheckForDiscard]
  rw [route_eq]
  split
  · rw [rxsCheckPortForDiscard_fst]
    rfl
  · rw [checkMcastPorts_fst_iff reads devInfo out probeOnPort _ List.nodup_range]
    simp

end Ports

theorem numRxsPorts_le (devInfo : DarDevInfo) : devInfo.numRxsPorts ≤ 24 := by
  simp only [DarDevInfo.numRxsPorts]
  split <;> omega

theorem getLsbD_legalPorts {count bit : Nat} (small : count ≤ 24) (inside : bit < count) :
    (BitVec.ofNat 32 (2 ^ count) - 1).getLsbD bit = true := by
  have ones : BitVec.ofNat 32 (2 ^ count) - 1 = BitVec.ofNat 32 (2 ^ count - 1) :=
    BitVec.ofNat_sub_ofNat_of_le _ 1 (by decide) Nat.one_le_two_pow
  rw [ones, BitVec.getLsbD_ofNat, Nat.testBit_two_pow_sub_one]
  simp only [inside, decide_true, Bool.and_true, decide_eq_true_eq]
  omega

section Masks

variable (devInfo : DarDevInfo) (inParms : RioRtProbeIn) {out : RioRtProbeOut} {rte : PeRtVal}
variable {mcIdx : RtIdx}

theorem mem_maskPorts_iff {probeOnPort port : Nat} {mask : RioRtMcInfo} :
    port ∈ maskPorts devInfo probeOnPort mask ↔
      mask.inUse = true ∧ otherMcPort devInfo probeOnPort mask.mcMask port = true := by
  simp only [maskPorts]
  split
  next used =>
    simp only [List.mem_filter, List.mem_range, used, true_and, and_iff_right_iff_imp]
    intro asked
    simp only [otherMcPort, Bool.and_eq_true, decide_eq_true_eq] at asked
    exact asked.1.1
  next unused => simp [unused]

theorem rxsCheckMulticastRouting_of_noPorts (names : rioRtvGetMcMsk rte = some mcIdx)
    (noPorts : maskPorts devInfo inParms.probeOnPort (inParms.rt.mcMasks mcIdx) = []) :
    (rxsCheckMulticastRouting devInfo inParms out rte).validRoute = false := by
  simp only [rxsCheckMulticastRouting, names]
  split
  · rfl
  next used =>
  split
  · rfl
  split
  next found =>
    obtain ⟨port, _, asked⟩ := List.any_eq_true.mp found
    have member := (mem_maskPorts_iff devInfo).mpr ⟨by simpa using used, asked⟩
    rw [noPorts] at member
    contradiction
  · rfl

theorem rxsCheckMulticastRouting_of_port {port : Nat} (names : rioRtvGetMcMsk rte = some mcIdx)
    (blank : out.mcastPorts = fun _ => false)
    (member : port ∈ maskPorts devInfo inParms.probeOnPort (inParms.rt.mcMasks mcIdx)) :
    rxsCheckMulticastRouting devInfo inParms out rte =
      { out with
        mcastPorts :=
          otherMcPort devInfo inParms.probeOnPort (inParms.rt.mcMasks mcIdx).mcMask } := by
  obtain ⟨used, asked⟩ := (mem_maskPorts_iff devInfo).mp member
  have bits := asked
  simp only [otherMcPort, Bool.and_eq_true, decide_eq_true_eq] at bits
  obtain ⟨⟨inside, _⟩, bit⟩ := bits
  have legal : ¬(inParms.rt.mcMasks mcIdx).mcMask &&&
      (BitVec.ofNat 32 (2 ^ devInfo.numRxsPorts) - 1) = 0 := by
    intro none
    have held := congrArg (BitVec.getLsbD · port) none
    simp only [BitVec.getLsbD_and, bit, getLsbD_legalPorts (numRxsPorts_le devInfo) inside] at held
    simp at held
  have found : (List.range devInfo.numRxsPorts).any
      (otherMcPort devInfo inParms.probeOnPort (inParms.rt.mcMasks mcIdx).mcMask) = true :=
    List.any_eq_true.mpr ⟨port, List.mem_range.mpr inside, asked⟩
  simp only [rxsCheckMulticastRouting, names, used, legal, found, Bool.not_true,
    Bool.false_eq_true, if_false, if_true, blank]
  congr 1
  funext other
  split
  · rfl
  next elsewhere =>
    simp only [otherMcPort]
    rw [not_and_or, not_not, not_lt] at elsewhere
    obtain beyond | rfl := elsewhere
    · simp [Nat.not_lt.mpr beyond]
    · simp

theorem rxsCheckMulticastRouting_kept :
    (rxsCheckMulticastRouting devInfo inParms out rte).routingTableValue =
      out.routingTableValue := by
  simp only [rxsCheckMulticastRouting]
  repeat' split
  all_goals rfl

end Masks

section Routes

variable (reads : ProbeReads) (devInfo : DarDevInfo) (inParms : RioRtProbeIn) {mcIdx : RtIdx}
variable {out : RioRtProbeOut} (rte : PeRtVal)

/-- The end of `rxs_rio_rt_probe`: only a valid route is asked about. -/
def askRoute (probeOnPort : Nat) (out : RioRtProbeOut) : RioRc × RioRtProbeOut :=
  if out.validRoute then rxsCheckForDiscard reads devInfo probeOnPort out else (.rioSuccess, out)

theorem askRoute_kept (probeOnPort : Nat) (out : RioRtProbeOut) :
    (askRoute reads devInfo probeOnPort out).2.routingTableValue = out.routingTableValue := by
  simp only [askRoute]
  split
  · exact rxsCheckForDiscard_kept reads devInfo out probeOnPort
  · rfl

theorem checkRoute_value : (checkRoute devInfo inParms out rte).routingTableValue = rte := by
  dsimp only [checkRoute]
  generalize (if rioRteVal rte = rioRteDfltPort then out.defaultRoute else rte) = route
  split
  · rfl
  split
  · rfl
  split
  · rfl
  split
  · exact rxsCheckMulticastRouting_kept devInfo inParms
  · rfl

variable {rte}

theorem not_isPort_of_names (names : rioRtvGetMcMsk rte = some mcIdx) :
    rioRtvIsPort rte = false := by
  have isMask : rioRtvIsMcMsk rte = true := by
    by_contra notMask
    simp [rioRtvGetMcMsk, notMask] at names
  simp only [rioRtvIsMcMsk, decide_eq_true_eq] at isMask
  simp only [rioRtvIsPort, isMask]
  decide

theorem not_isPort_of_dfltPort (dfltPort : rioRteVal rte = rioRteDfltPort) :
    rioRtvIsPort rte = false := by
  have type : rte &&& 0x300 = rioRteVal rte &&& 0x300 := by
    rw [rioRteVal, BitVec.and_assoc]
    rfl
  simp only [rioRtvIsPort, type, dfltPort]
  decide

theorem not_isPort_of_routeNames {rt : RioRtState} (names : RouteNames rt rte mcIdx) :
    rioRtvIsPort (if rte = rioRteDfltPort then rt.defaultRoute else rte) = false := by
  simp only [RouteNames, routeBehind] at names
  split at names
  next dfltPort =>
    split
    · exact not_isPort_of_names names
    · exact not_isPort_of_dfltPort dfltPort
  next notDflt =>
    rw [if_neg fun same => notDflt (by rw [same]; decide)]
    exact not_isPort_of_names names

/-- A probe that has found a route to a mask, and asked no port. -/
structure FoundMask (inParms : RioRtProbeIn) (out : RioRtProbeOut) (rte : PeRtVal)
    (mcIdx : RtIdx) : Prop where
  valid : out.validRoute = true
  noReason : out.reasonForDiscard = .discNot
  blank : out.mcastPorts = fun _ => false
  dflt : out.defaultRoute = inParms.rt.defaultRoute
  value : out.routingTableValue = rte
  names : RouteNames inParms.rt rte mcIdx

/-- The rest of a probe that has found a route to a mask. -/
def askMask (out : RioRtProbeOut) (rte : PeRtVal) : RioRc × RioRtProbeOut :=
  askRoute reads devInfo inParms.probeOnPort
    (rxsCheckMulticastRouting devInfo inParms out (routeBehind inParms.rt rte))

theorem askMask_iff (found : FoundMask inParms out rte mcIdx) :
    (askMask reads devInfo inParms out rte).1 = .rioSuccess ↔
      ∀ port ∈ maskPorts devInfo inParms.probeOnPort (inParms.rt.mcMasks mcIdx),
        PortReadable reads devInfo port := by
  by_cases noPorts : maskPorts devInfo inParms.probeOnPort (inParms.rt.mcMasks mcIdx) = []
  · rw [askMask, noPorts, askRoute,
      rxsCheckMulticastRouting_of_noPorts devInfo inParms found.names noPorts]
    simp
  · obtain ⟨port, member⟩ := List.exists_mem_of_ne_nil _ noPorts
    rw [askMask, rxsCheckMulticastRouting_of_port devInfo inParms found.names found.blank member,
      askRoute]
    have notPort := not_isPort_of_routeNames found.names
    rw [if_pos found.valid, rxsCheckForDiscard_fst_iff reads devInfo _ _ rfl]
    dsimp only
    rw [found.value, found.dflt, notPort]
    simp only [Bool.false_eq_true, if_false]
    have used := ((mem_maskPorts_iff devInfo).mp member).1
    simp only [mem_maskPorts_iff, used, true_and]
    constructor
    · intro readable other asked
      have bits := asked
      simp only [otherMcPort, Bool.and_eq_true, decide_eq_true_eq] at bits
      exact readable other bits.1.1 bits.1.2 asked
    · exact fun readable other _ _ asked => readable other asked

theorem askRoute_checkRoute_iff (blank : out.mcastPorts = fun _ => false)
    (dflt : out.defaultRoute = inParms.rt.defaultRoute) :
    (askRoute reads devInfo inParms.probeOnPort (checkRoute devInfo inParms out rte)).1 =
        .rioSuccess ↔
      ∀ port ∈ routePorts devInfo inParms.rt inParms.probeOnPort rte,
        PortReadable reads devInfo port := by
  dsimp only [checkRoute, routePorts]
  rw [dflt]
  change (askRoute reads devInfo inParms.probeOnPort (if _ then _ else if _ then _ else if _ then _
    else if rioRtvIsMcMsk (routeBehind inParms.rt rte) then
      rxsCheckMulticastRouting devInfo inParms _ (routeBehind inParms.rt rte) else _)).1 = _ ↔ _
  by_cases drop : rte = rioRteDrop
  · simp [drop, askRoute, RioRtProbeOut.discard]
  rw [if_neg drop, if_neg drop]
  by_cases invalid : rioRteVal rte = rioRteDfltPort ∧
      rxsChkDfltRteReg devInfo inParms.rt.defaultRoute = true
  · simp [invalid, askRoute, RioRtProbeOut.discard]
  rw [if_neg invalid]
  by_cases dropped : rioRteVal rte = rioRteDfltPort ∧ inParms.rt.defaultRoute = rioRteDrop
  · simp [dropped, askRoute, RioRtProbeOut.discard]
  have usable : ¬(rioRteVal rte = rioRteDfltPort ∧
      (rxsChkDfltRteReg devInfo inParms.rt.defaultRoute = true ∨
        inParms.rt.defaultRoute = rioRteDrop)) := by
    rintro ⟨isDflt, chk | same⟩
    · exact invalid ⟨isDflt, chk⟩
    · exact dropped ⟨isDflt, same⟩
  rw [if_neg dropped, if_neg usable]
  cases isMask : rioRtvIsMcMsk (routeBehind inParms.rt rte) with
  | true =>
    have names := rioRtvGetMcMsk_of_isMcMsk isMask
    rw [if_pos rfl, names]
    exact askMask_iff reads devInfo inParms ⟨rfl, rfl, blank, rfl, rfl, names⟩
  | false =>
    rw [if_neg Bool.false_ne_true, rioRtvGetMcMsk_of_not isMask, askRoute, if_pos rfl,
      rxsCheckForDiscard_fst_iff reads devInfo _ _ rfl]
    dsimp only
    rw [blank]
    generalize (if rte = rioRteDfltPort then inParms.rt.defaultRoute else rte) = route
    cases rioRtvIsPort route <;> simp

end Routes

/-- What it takes to get the route of a device table entry. -/
structure Gettable (reads : ProbeReads) (devInfo : DarDevInfo) (rt : RioRtState) (port : Nat)
    (rte : PeRtVal) : Prop where
  timeLive : reads.pktTimeLive.isOk = true
  ports : ∀ other ∈ routePorts devInfo rt port rte, PortReadable reads devInfo other

theorem readable_of_allPorts (reads : ProbeReads) (devInfo : DarDevInfo) (rt : RioRtState)
    (port : Nat) :
    ∀ other ∈ routePorts devInfo rt port (BitVec.ofNat 32 rioAllPorts),
      PortReadable reads devInfo other := by
  have one : routePorts devInfo rt port (BitVec.ofNat 32 rioAllPorts) = [255] := by
    have notDflt : rioRteVal (BitVec.ofNat 32 rioAllPorts) ≠ rioRteDfltPort := by decide
    have notMask : rioRtvGetMcMsk (BitVec.ofNat 32 rioAllPorts) = none := by decide
    have notExact : BitVec.ofNat 32 rioAllPorts ≠ rioRteDfltPort := by decide
    rw [routePorts, if_neg (by decide), if_neg fun dflt => notDflt dflt.1, routeBehind,
      if_neg notDflt, notMask]
    dsimp only
    rw [if_neg notExact]
    decide
  rw [one]
  intro other member
  obtain rfl := List.mem_singleton.mp member
  have beyond : devInfo.numRxsPorts ≤ 255 := (numRxsPorts_le devInfo).trans (by decide)
  simp [PortReadable, checkPort, beyond]

variable {port : Nat} {reads : ProbeReads}

theorem rxsRioRtProbe_dev8 (reads : ProbeReads) (devInfo : DarDevInfo) (rt : RioRtState)
    {value : Nat} (legal : port = rioAllPorts ∨ port < devInfo.numRxsPorts) (dev8 : value ≤ 0xFF)
    (rtVal : PeRtVal) :
    (rxsRioRtProbe reads devInfo ⟨port, .ttDev8, value, rt⟩).1 = .rioSuccess ∧
        (rxsRioRtProbe reads devInfo ⟨port, .ttDev8, value, rt⟩).2.routingTableValue = rtVal ↔
      routeValue devInfo rt (devIdx value) = rtVal ∧ Gettable reads devInfo rt port rtVal := by
  have inRange : ¬(devInfo.numRxsPorts ≤ port ∧ port ≠ rioAllPorts) := by omega
  have small : ¬(Tt.ttDev8 = .ttDev8 ∧ value > 0xFF) := by omega
  dsimp only [rxsRioRtProbe]
  rw [if_neg inRange, if_neg small]
  cases timeLive : reads.pktTimeLive with
  | error code =>
    refine iff_of_false (fun ⟨failed, _⟩ => nomatch failed) fun ⟨_, isOk, _⟩ => ?_
    rw [timeLive] at isOk
    contradiction
  | ok regVal =>
    have isOk : reads.pktTimeLive.isOk = true := by rw [timeLive]; rfl
    simp only [rxsCheckRouting, checkDevRoute, routeValue]
    split
    next invalid =>
      refine ⟨?_, fun ⟨same, _⟩ => ⟨rfl, same⟩⟩
      rintro ⟨-, rfl⟩
      exact ⟨rfl, isOk, readable_of_allPorts reads devInfo rt port⟩
    next usable =>
      generalize (rt.devTable (devIdx value)).rteVal = rte
      change (askRoute reads devInfo port _).1 = _ ∧
        (askRoute reads devInfo port _).2.routingTableValue = _ ↔ _
      rw [askRoute_kept, checkRoute_value,
        askRoute_checkRoute_iff reads devInfo ⟨port, .ttDev8, value, rt⟩ rfl rfl]
      constructor
      · rintro ⟨ports, rfl⟩
        exact ⟨rfl, isOk, ports⟩
      · rintro ⟨rfl, gettable⟩
        exact ⟨gettable.ports, rfl⟩

theorem rxsRioRtProbe_refused {devInfo : DarDevInfo} {rt : RioRtState} {value : Nat}
    (succeeds : (rxsRioRtProbe reads devInfo ⟨port, .ttDev8, value, rt⟩).1 = .rioSuccess) :
    (port = rioAllPorts ∨ port < devInfo.numRxsPorts) ∧ value ≤ 0xFF := by
  dsimp only [rxsRioRtProbe] at succeeds
  split at succeeds
  · contradiction
  split at succeeds
  · contradiction
  next inRange small =>
    simp only [true_and] at small
    omega

theorem mpswDrvGetRouteEntry_eq_some_iff {switch : Switch} {did : Did} {rtVal : PeRtVal} :
    mpswDrvGetRouteEntry reads switch port did = some rtVal ↔
      ∃ pDat, switch.privateData = some pDat ∧ pDat.devHValid = true ∧
        (port = rioAllPorts ∨ port < pDat.devH.numRxsPorts) ∧ did.value ≤ 0xFF ∧
          routeValue pDat.devH pDat.gRt (devIdx did.value) = rtVal ∧
            Gettable reads pDat.devH pDat.gRt port rtVal := by
  simp only [mpswDrvGetRouteEntry]
  cases switch.privateData with
  | none => simp
  | some pDat =>
    cases valid : pDat.devHValid with
    | false => simp [valid]
    | true =>
      simp only [Bool.not_true, Bool.false_eq_true, if_false, ite_not, valid, true_and,
        Option.ite_none_right_eq_some, Option.some.injEq, exists_eq_left']
      constructor
      · rintro ⟨succeeds, same⟩
        obtain ⟨legal, dev8⟩ := rxsRioRtProbe_refused succeeds
        exact ⟨legal, dev8, (rxsRioRtProbe_dev8 reads _ _ legal dev8 rtVal).mp ⟨succeeds, same⟩⟩
      · rintro ⟨legal, dev8, gets⟩
        exact (rxsRioRtProbe_dev8 reads _ _ legal dev8 rtVal).mpr gets

end RioFabric.RouteTable

import RioFabric.RouteTable.RouteProbe

/-!
# Route entries are kept apart

Setting the route of one destination ID should show in the route of that ID and of no other.
The driver sets the table of a port but always gets from the table of all ports, it takes the
low byte of every ID for the device table, and a mask that is freed on the way drops the entry
of its own destination ID.
-/

namespace RioFabric.RouteTable

open Libdid

/-- Two tables in which every value leads to the same ports. -/
structure SamePorts (rt other : RioRtState) : Prop where
  defaultRoute : other.defaultRoute = rt.defaultRoute
  inUse : ∀ mcIdx, (other.mcMasks mcIdx).inUse = (rt.mcMasks mcIdx).inUse
  mcMask : ∀ mcIdx, (other.mcMasks mcIdx).mcMask = (rt.mcMasks mcIdx).mcMask

/-- Two tables that differ in marks and in the destination IDs of masks route alike. -/
structure SameRoutes (rt other : RioRtState) : Prop extends SamePorts rt other where
  devTable : ∀ idx, (other.devTable idx).rteVal = (rt.devTable idx).rteVal

variable {rt other : RioRtState} {reads : ProbeReads} {devInfo : DarDevInfo} {port : Nat}
  {did : Did} {rtVal : PeRtVal} {idx : RtIdx} {final : RioRtState}

theorem SameRoutes.routeValue (same : SameRoutes rt other) (devInfo : DarDevInfo) (idx : RtIdx) :
    routeValue devInfo other idx = routeValue devInfo rt idx := by
  simp only [RouteTable.routeValue, same.devTable]

theorem SamePorts.gettable_iff (same : SamePorts rt other) {rte : PeRtVal} :
    Gettable reads devInfo other port rte ↔ Gettable reads devInfo rt port rte := by
  have ports : routePorts devInfo other port rte = routePorts devInfo rt port rte := by
    simp only [routePorts, routeBehind, maskPorts, same.defaultRoute, same.inUse, same.mcMask]
  constructor
  · rintro ⟨timeLive, readable⟩
    exact ⟨timeLive, ports ▸ readable⟩
  · rintro ⟨timeLive, readable⟩
    exact ⟨timeLive, ports.symm ▸ readable⟩

theorem mpswDrvSetRouteEntry_ok {bus : RegBus} {switch : Switch}
    (succeeds : (mpswDrvSetRouteEntry bus switch port did rtVal).1 = true) :
    ∃ pDat rt final hw, switch.privateData = some pDat ∧ pDat.devHValid = true ∧
      pDat.table port = some rt ∧ (port = rioAllPorts ∨ port < pDat.devH.numRxsPorts) ∧
        (rxsRioRtChangeRte pDat.devH rt false (devIdx did.value) rtVal).1.1 = .rioSuccess ∧
          SameRoutes (rxsRioRtChangeRte pDat.devH rt false (devIdx did.value) rtVal).2 final ∧
            (mpswDrvSetRouteEntry bus switch port did rtVal).2 =
              ⟨some (pDat.setTable port final), hw⟩ := by
  simp only [mpswDrvSetRouteEntry] at succeeds ⊢
  cases private_ : switch.privateData with
  | none =>
    rw [private_] at succeeds
    contradiction
  | some pDat =>
    simp only [private_] at succeeds ⊢
    split at succeeds
    · contradiction
    next valid =>
    cases table : pDat.table port with
    | none =>
      rw [table] at succeeds
      contradiction
    | some rt =>
      simp only [table] at succeeds
      split at succeeds
      · contradiction
      next changed =>
      rw [not_not] at changed
      split at succeeds
      next _ set ran =>
        obtain ⟨maskMask, able, set_eq⟩ := rxsRtSetCommon_ok_iff.mp ran
        refine ⟨pDat, rt, set.rt, set.hw, rfl, by simpa using valid, table, able.port, changed,
          ?_, ?_⟩
        · rw [set_eq]
          exact ⟨⟨rfl, fun _ => rfl, fun _ => rfl⟩, fun _ => rfl⟩
        · rw [if_neg valid]
          simp only [if_neg (not_not.mpr changed), ran]
      next => contradiction

theorem routeValue_of_changed {rteValue : PeRtVal}
    (changed : (rxsRioRtChangeRte devInfo rt false idx rteValue).1.1 = .rioSuccess) :
    routeValue devInfo (rxsRioRtChangeRte devInfo rt false idx rteValue).2 idx = rteValue := by
  have stored : ((rxsRioRtChangeRte devInfo rt false idx rteValue).2.devTable idx).rteVal =
      rteValue ∧ rxsChkDevRteReg devInfo rteValue = false := by
    simp only [rxsRioRtChangeRte, Bool.false_and, Bool.false_eq_true, if_false] at changed ⊢
    cases refused : rxsRefusesRte devInfo rt false rteValue with
    | some rc =>
      rw [refused] at changed
      simp only [rxsRefusesRte] at refused
      split at refused
      · cases refused
        contradiction
      split at refused
      · cases refused
        contradiction
      · contradiction
    | none =>
      have usable : rxsChkDevRteReg devInfo rteValue = false := by
        simp only [rxsRefusesRte] at refused
        split at refused
        · contradiction
        next kept => exact Bool.eq_false_iff.mpr kept
      simp only [refused] at changed ⊢
      split
      next same => exact ⟨same, usable⟩
      split
      next different fails => simp_all
      next => exact ⟨by simp [RioRtState.setTarget], usable⟩
  rw [routeValue, stored.1, stored.2]
  rfl

/-- A get of an entry returns the same from both tables. -/
def RouteKept (reads : ProbeReads) (devInfo : DarDevInfo) (rt after : RioRtState) (port : Nat)
    (idx : RtIdx) : Prop :=
  ∀ rtVal, routeValue devInfo after idx = rtVal ∧ Gettable reads devInfo after port rtVal ↔
    routeValue devInfo rt idx = rtVal ∧ Gettable reads devInfo rt port rtVal

/-- Every port that the route of a value leads to can be asked. -/
def RouteReadable (reads : ProbeReads) (devInfo : DarDevInfo) (rt : RioRtState) (port : Nat)
    (rte : PeRtVal) : Prop :=
  ∀ other ∈ routePorts devInfo rt port rte, PortReadable reads devInfo other

/-- A mask that goes with an entry leaves the routes of other entries: its destination ID is
that of the entry or is dropped already, and other routes through the mask could be got. -/
structure MaskLeavesRoutes (reads : ProbeReads) (devInfo : DarDevInfo) (rt : RioRtState)
    (port : Nat) (idx : RtIdx) (mcMaskRte : PeRtVal) : Prop where
  destId : (rt.mcMasks (rioRteIdx mcMaskRte)).inUse = true →
    idx = devIdx (rt.mcMasks (rioRteIdx mcMaskRte)).mcDestId ∨
      (rt.devTable (devIdx (rt.mcMasks (rioRteIdx mcMaskRte)).mcDestId)).rteVal = rioRteDrop
  readable : ∀ other, other ≠ idx →
    RouteNames rt (routeValue devInfo rt other) (rioRteIdx mcMaskRte) →
      RouteReadable reads devInfo rt port (routeValue devInfo rt other)

section Changed

variable {reads : ProbeReads} {devInfo : DarDevInfo} {rt : RioRtState} {idx : RtIdx} {port : Nat}
  {at_ : RtIdx}
variable {rteValue mcMaskRte : PeRtVal}

theorem samePorts_of_freesNone
    (freesNone : (RtCall.changeRte false idx rteValue).deallocates devInfo rt = none) :
    SamePorts rt (rxsRioRtChangeRte devInfo rt false idx rteValue).2 := by
  have effect := exec_effect devInfo rt (.changeRte false idx rteValue)
  rw [freesNone] at effect
  change RtEffect rt _ none (rxsRioRtChangeRte devInfo rt false idx rteValue).2 at effect
  generalize (rxsRioRtChangeRte devInfo rt false idx rteValue).2 = after at effect ⊢
  cases effect with
  | kept => exact ⟨rfl, fun _ => rfl, fun _ => rfl⟩
  | changed => exact ⟨rfl, fun _ => rfl, fun _ => rfl⟩

theorem routeKept_of_freesNone
    (freesNone : (RtCall.changeRte false idx rteValue).deallocates devInfo rt = none)
    (other : RtIdx) (elsewhere : other ≠ idx) :
    RouteKept reads devInfo rt (rxsRioRtChangeRte devInfo rt false idx rteValue).2 port other := by
  have entry := (onlyEntryChanged_of_deallocates_none freesNone).others false other
    fun here => elsewhere here.2
  simp only [RioRtState.target, Bool.false_eq_true, if_false] at entry
  have same : routeValue devInfo (rxsRioRtChangeRte devInfo rt false idx rteValue).2 other =
      routeValue devInfo rt other := by
    simp only [routeValue, entry]
  intro rtVal
  rw [same, (samePorts_of_freesNone freesNone).gettable_iff]

theorem routePorts_replaceEntry (port : Nat) (rte : PeRtVal) :
    routePorts devInfo (replaceEntry rt false idx rteValue mcMaskRte) port rte =
      if RouteNames rt rte (rioRteIdx mcMaskRte) then [] else routePorts devInfo rt port rte := by
  have dflt : (replaceEntry rt false idx rteValue mcMaskRte).defaultRoute = rt.defaultRoute := rfl
  simp only [routePorts, routeBehind, dflt, replaceEntry_mcMasks, RouteNames]
  split
  · rw [ite_self]
  split
  · rw [ite_self]
  generalize rioRtvGetMcMsk (if rioRteVal rte = rioRteDfltPort then rt.defaultRoute else rte)
    = named
  cases named with
  | none => simp
  | some mcIdx =>
    by_cases here : mcIdx = rioRteIdx mcMaskRte
    · subst here
      simp [maskPorts, clearMask_inUse]
    · simp [here]

theorem gettable_replaceEntry_iff {rte : PeRtVal} :
    Gettable reads devInfo (replaceEntry rt false idx rteValue mcMaskRte) port rte ↔
      reads.pktTimeLive.isOk = true ∧
        (RouteNames rt rte (rioRteIdx mcMaskRte) ∨ RouteReadable reads devInfo rt port rte) := by
  constructor
  · rintro ⟨timeLive, ports⟩
    refine ⟨timeLive, or_iff_not_imp_left.mpr fun other => ?_⟩
    rwa [routePorts_replaceEntry, if_neg other] at ports
  · rintro ⟨timeLive, named | ports⟩
    · refine ⟨timeLive, ?_⟩
      rw [routePorts_replaceEntry, if_pos named]
      exact nofun
    · refine ⟨timeLive, ?_⟩
      rw [routePorts_replaceEntry]
      split
      · exact nofun
      · exact ports

theorem routeValue_drop (dropped : (rt.devTable at_).rteVal = rioRteDrop) :
    routeValue devInfo rt at_ = rioRteDrop := by
  have usable : rxsChkDevRteReg devInfo rioRteDrop = false := rfl
  rw [routeValue, dropped, usable]
  rfl

theorem dropped_of_routeValue (value : routeValue devInfo rt at_ = rioRteDrop) :
    (rt.devTable at_).rteVal = rioRteDrop := by
  simp only [routeValue] at value
  split at value
  · exact absurd value (by decide)
  · exact value

theorem not_routeNames_drop (mcIdx : RtIdx) : ¬RouteNames rt rioRteDrop mcIdx := by
  have behind : routeBehind rt rioRteDrop = rioRteDrop := if_neg (by decide)
  rw [RouteNames, behind]
  intro named
  cases named

variable (rteValue) in
theorem devTable_replaceEntry
    (last : ∀ other at_, ¬(other = false ∧ at_ = idx) → (rt.target other at_).rteVal ≠ mcMaskRte)
    (elsewhere : at_ ≠ idx) :
    ((replaceEntry rt false idx rteValue mcMaskRte).devTable at_).rteVal =
      if (rt.mcMasks (rioRteIdx mcMaskRte)).inUse = true ∧
          at_ = devIdx (rt.mcMasks (rioRteIdx mcMaskRte)).mcDestId then rioRteDrop
      else (rt.devTable at_).rteVal := by
  have notHere : ¬(false = false ∧ at_ = idx) := fun here => elsewhere here.2
  have entry := replaceEntry_other rteValue last notHere
  simpa [RioRtState.target] using entry

theorem routeKept_replaceEntry_iff (timeLive : reads.pktTimeLive.isOk = true)
    (last : ∀ other at_, ¬(other = false ∧ at_ = idx) → (rt.target other at_).rteVal ≠ mcMaskRte) :
    (∀ other, other ≠ idx →
        RouteKept reads devInfo rt (replaceEntry rt false idx rteValue mcMaskRte) port other) ↔
      MaskLeavesRoutes reads devInfo rt port idx mcMaskRte := by
  constructor
  · intro kept
    have destId : (rt.mcMasks (rioRteIdx mcMaskRte)).inUse = true →
        idx = devIdx (rt.mcMasks (rioRteIdx mcMaskRte)).mcDestId ∨
          (rt.devTable (devIdx (rt.mcMasks (rioRteIdx mcMaskRte)).mcDestId)).rteVal =
            rioRteDrop := by
      intro used
      refine or_iff_not_imp_left.mpr fun elsewhere => ?_
      have entry := devTable_replaceEntry rteValue last (Ne.symm elsewhere)
      rw [if_pos ⟨used, rfl⟩] at entry
      have got := (kept _ (Ne.symm elsewhere) rioRteDrop).mp ⟨routeValue_drop entry, timeLive, ?_⟩
      · exact dropped_of_routeValue got.1
      · simp [routePorts]
    refine ⟨destId, fun other elsewhere names => ?_⟩
    have entry := devTable_replaceEntry rteValue last elsewhere
    have stays : ¬((rt.mcMasks (rioRteIdx mcMaskRte)).inUse = true ∧
        other = devIdx (rt.mcMasks (rioRteIdx mcMaskRte)).mcDestId) := by
      rintro ⟨used, rfl⟩
      obtain same | dropped := destId used
      · exact elsewhere same.symm
      · rw [routeValue_drop dropped] at names
        exact not_routeNames_drop _ names
    rw [if_neg stays] at entry
    have same : routeValue devInfo (replaceEntry rt false idx rteValue mcMaskRte) other =
        routeValue devInfo rt other := by
      simp only [routeValue, entry]
    have got := (kept other elsewhere _).mp
      ⟨same, gettable_replaceEntry_iff.mpr ⟨timeLive, .inl names⟩⟩
    exact got.2.ports
  · rintro ⟨destId, readable⟩ other elsewhere rtVal
    have entry := devTable_replaceEntry rteValue last elsewhere
    have kept : ((replaceEntry rt false idx rteValue mcMaskRte).devTable other).rteVal =
        (rt.devTable other).rteVal := by
      rw [entry]
      split
      next hit =>
        obtain ⟨used, rfl⟩ := hit
        exact ((destId used).resolve_left (Ne.symm elsewhere)).symm
      next => rfl
    have same : routeValue devInfo (replaceEntry rt false idx rteValue mcMaskRte) other =
        routeValue devInfo rt other := by
      simp only [routeValue, kept]
    rw [same, gettable_replaceEntry_iff]
    refine and_congr_right fun value => ?_
    subst value
    constructor
    · rintro ⟨_, names | ports⟩
      · exact ⟨timeLive, readable other elsewhere names⟩
      · exact ⟨timeLive, ports⟩
    · rintro ⟨_, ports⟩
      exact ⟨timeLive, .inr ports⟩

end Changed

/-- The destination IDs of a system with IDs of one size. -/
def IsDid : DidSz → Did → Prop
  | .dev08Sz, did => did.size = .dev08Sz ∧ did.value ≤ 0xFF
  | .dev16Sz, did => did.size = .dev16Sz ∧ did.value ≤ 0xFFFF
  | _, _ => False

/-- After the set of an entry, a get returns the value, and gets of other entries return what
they returned before. -/
def RouteIsolated (reads : ProbeReads) (bus : RegBus) (switch : Switch) (sz : DidSz) (port : Nat)
    (did : Did) (rtVal : PeRtVal) : Prop :=
  mpswDrvGetRouteEntry reads (mpswDrvSetRouteEntry bus switch port did rtVal).2 port did =
      some rtVal ∧
    ∀ other, IsDid sz other → other ≠ did →
      mpswDrvGetRouteEntry reads (mpswDrvSetRouteEntry bus switch port did rtVal).2 port other =
        mpswDrvGetRouteEntry reads switch port other

/-- What it takes: an ID that the device table has an entry for, the table of all ports or one
that has the value anyway, accesses that do not fail, and a mask that goes without trace if one
goes. -/
structure KeepsRoutesApart (reads : ProbeReads) (pDat : MpswDrvPrivateData) (port : Nat)
    (did : Did) (rtVal : PeRtVal) : Prop where
  dev8 : did.value ≤ 0xFF
  probed : port = rioAllPorts ∨ routeValue pDat.devH pDat.gRt (devIdx did.value) = rtVal
  timeLive : reads.pktTimeLive.isOk = true
  readable : RouteReadable reads pDat.devH pDat.gRt port rtVal ∨
    port = rioAllPorts ∧ ∃ mcMaskRte ∈
      (RtCall.changeRte false (devIdx did.value) rtVal).deallocates pDat.devH pDat.gRt,
        RouteNames pDat.gRt rtVal (rioRteIdx mcMaskRte)
  others : port = rioAllPorts → ∀ mcMaskRte ∈
    (RtCall.changeRte false (devIdx did.value) rtVal).deallocates pDat.devH pDat.gRt,
      MaskLeavesRoutes reads pDat.devH pDat.gRt port (devIdx did.value) mcMaskRte

theorem IsDid.ofIdx {sz : DidSz} (sized : IsDid sz did) (idx : RtIdx) :
    IsDid sz ⟨idx.val, sz⟩ := by
  have small := idx.isLt
  cases sz with
  | invldSz => exact sized.elim
  | dev08Sz => exact ⟨rfl, by change idx.val ≤ 0xFF; omega⟩
  | dev16Sz => exact ⟨rfl, by change idx.val ≤ 0xFFFF; omega⟩
  | dev32Sz => exact sized.elim

theorem IsDid.size_eq {sz : DidSz} (sized : IsDid sz did) : did.size = sz := by
  cases sz with
  | invldSz => exact sized.elim
  | dev08Sz => exact sized.1
  | dev16Sz => exact sized.1
  | dev32Sz => exact sized.elim

theorem devIdx_val (idx : RtIdx) : devIdx idx.val = idx :=
  Fin.ext (Nat.mod_eq_of_lt idx.isLt)

theorem devIdx_inj {first second : Nat} (firstSmall : first ≤ 0xFF) (secondSmall : second ≤ 0xFF)
    (same : devIdx first = devIdx second) : first = second := by
  have rest : first % 256 = second % 256 := congrArg Fin.val same
  omega

section Gets

variable {reads : ProbeReads} {switch after : Switch} {pDat newDat : MpswDrvPrivateData}
variable {sz : DidSz} {port : Nat} {did : Did}

theorem others_kept_iff (private_ : switch.privateData = some pDat)
    (newPrivate : after.privateData = some newDat) (valid : pDat.devHValid = true)
    (newValid : newDat.devHValid = true) (devH : newDat.devH = pDat.devH)
    (legal : port = rioAllPorts ∨ port < pDat.devH.numRxsPorts) (sized : IsDid sz did)
    (dev8 : did.value ≤ 0xFF) :
    (∀ other, IsDid sz other → other ≠ did →
        mpswDrvGetRouteEntry reads after port other =
          mpswDrvGetRouteEntry reads switch port other) ↔
      ∀ idx, idx ≠ devIdx did.value →
        RouteKept reads pDat.devH pDat.gRt newDat.gRt port idx := by
  have gets (other : Did) : mpswDrvGetRouteEntry reads after port other =
        mpswDrvGetRouteEntry reads switch port other ↔
      (other.value ≤ 0xFF → RouteKept reads pDat.devH pDat.gRt newDat.gRt port
        (devIdx other.value)) := by
    rw [Option.ext_iff]
    simp only [mpswDrvGetRouteEntry_eq_some_iff, private_, newPrivate, Option.some.injEq,
      exists_eq_left', valid, newValid, devH, legal, true_and, RouteKept]
    rw [← forall_comm]
    exact forall_congr' fun rtVal => and_congr_right_iff
  simp only [gets]
  constructor
  · intro kept idx elsewhere
    have small := idx.isLt
    have other := kept ⟨idx.val, sz⟩ (sized.ofIdx idx)
    simp only [devIdx_val] at other
    refine other (fun same => elsewhere ?_) (by omega)
    rw [← same, devIdx_val]
  · intro kept other otherSized different small
    refine kept _ fun same => different ?_
    obtain ⟨otherValue, otherSize⟩ := other
    obtain ⟨value, size⟩ := did
    obtain rfl : otherValue = value := devIdx_inj small dev8 same
    obtain rfl : otherSize = sz := otherSized.size_eq
    obtain rfl : size = _ := sized.size_eq
    rfl

end Gets

theorem SameRoutes.routeKept_iff {changed : RioRtState} (same : SameRoutes changed final) :
    RouteKept reads devInfo rt final port idx ↔ RouteKept reads devInfo rt changed port idx := by
  simp only [RouteKept, same.routeValue, same.gettable_iff]

theorem changed_isolated_iff
    (changed : (rxsRioRtChangeRte devInfo rt false idx rtVal).1.1 = .rioSuccess)
    (same : SameRoutes (rxsRioRtChangeRte devInfo rt false idx rtVal).2 final) :
    (routeValue devInfo final idx = rtVal ∧ Gettable reads devInfo final port rtVal) ∧
        (∀ other, other ≠ idx → RouteKept reads devInfo rt final port other) ↔
      reads.pktTimeLive.isOk = true ∧
        (RouteReadable reads devInfo rt port rtVal ∨
          ∃ mcMaskRte ∈ (RtCall.changeRte false idx rtVal).deallocates devInfo rt,
            RouteNames rt rtVal (rioRteIdx mcMaskRte)) ∧
          ∀ mcMaskRte ∈ (RtCall.changeRte false idx rtVal).deallocates devInfo rt,
            MaskLeavesRoutes reads devInfo rt port idx mcMaskRte := by
  simp only [same.routeValue, routeValue_of_changed changed, same.gettable_iff,
    same.routeKept_iff, true_and]
  cases freed : (RtCall.changeRte false idx rtVal).deallocates devInfo rt with
  | none =>
    simp only [(samePorts_of_freesNone freed).gettable_iff, Option.not_mem_none, false_and,
      exists_false, or_false, false_implies, implies_true, and_true]
    constructor
    · rintro ⟨⟨timeLive, ports⟩, -⟩
      exact ⟨timeLive, ports⟩
    · rintro ⟨timeLive, ports⟩
      exact ⟨⟨timeLive, ports⟩, routeKept_of_freesNone freed⟩
  | some mcMaskRte =>
    have after : (rxsRioRtChangeRte devInfo rt false idx rtVal).2 =
        replaceEntry rt false idx rtVal mcMaskRte := by
      rw [rxsRioRtChangeRte_of_deallocates freed]
      rfl
    simp only [after, gettable_replaceEntry_iff, Option.mem_some_iff, exists_eq_left',
      forall_eq']
    rw [and_assoc]
    refine and_congr_right fun timeLive => and_congr or_comm ?_
    exact routeKept_replaceEntry_iff timeLive (last_of_deallocates freed).2

theorem MpswDrvPrivateData.setTable_devHValid (pDat : MpswDrvPrivateData) (port : Nat)
    (rt : RioRtState) : (pDat.setTable port rt).devHValid = pDat.devHValid := by
  simp only [setTable]
  split <;> rfl

theorem MpswDrvPrivateData.setTable_devH (pDat : MpswDrvPrivateData) (port : Nat)
    (rt : RioRtState) : (pDat.setTable port rt).devH = pDat.devH := by
  simp only [setTable]
  split <;> rfl

theorem MpswDrvPrivateData.setTable_gRt (pDat : MpswDrvPrivateData) (port : Nat) (rt : RioRtState) :
    (pDat.setTable port rt).gRt = if port = rioAllPorts then rt else pDat.gRt := by
  simp only [setTable]
  split <;> rfl

/-- A successful set of a route entry shows in the gets of that entry and of no other, exactly
under the conditions of `KeepsRoutesApart`. -/
theorem route_isolated_iff {reads : ProbeReads} {bus : RegBus} {switch : Switch} {sz : DidSz}
    {port : Nat} {did : Did} {rtVal : PeRtVal} (sized : IsDid sz did)
    (succeeds : (mpswDrvSetRouteEntry bus switch port did rtVal).1 = true) :
    RouteIsolated reads bus switch sz port did rtVal ↔
      ∃ pDat, switch.privateData = some pDat ∧ KeepsRoutesApart reads pDat port did rtVal := by
  obtain ⟨pDat, rt, final, hw, private_, valid, table, legal, changed, same, after⟩ :=
    mpswDrvSetRouteEntry_ok succeeds
  have newValid := (pDat.setTable_devHValid port final).trans valid
  have gets : RouteIsolated reads bus switch sz port did rtVal ↔ did.value ≤ 0xFF ∧
      (routeValue pDat.devH (pDat.setTable port final).gRt (devIdx did.value) = rtVal ∧
        Gettable reads pDat.devH (pDat.setTable port final).gRt port rtVal) ∧
          ∀ idx, idx ≠ devIdx did.value →
            RouteKept reads pDat.devH pDat.gRt (pDat.setTable port final).gRt port idx := by
    simp only [RouteIsolated, after]
    rw [mpswDrvGetRouteEntry_eq_some_iff]
    simp only [Option.some.injEq, exists_eq_left', newValid, pDat.setTable_devH, legal, true_and]
    rw [and_assoc]
    refine and_congr_right fun dev8 => and_congr_right fun _ => ?_
    exact others_kept_iff private_ rfl valid newValid (pDat.setTable_devH port final) legal sized
      dev8
  have conditions : (∃ pDat, switch.privateData = some pDat ∧
      KeepsRoutesApart reads pDat port did rtVal) ↔
        KeepsRoutesApart reads pDat port did rtVal := by
    simp [private_]
  rw [gets, conditions, pDat.setTable_gRt]
  by_cases all : port = rioAllPorts
  · obtain rfl : pDat.gRt = rt := by simpa [MpswDrvPrivateData.table, all] using table
    rw [if_pos all, changed_isolated_iff changed same]
    constructor
    · rintro ⟨dev8, timeLive, readable, others⟩
      exact ⟨dev8, .inl all, timeLive, readable.imp_right fun names => ⟨all, names⟩,
        fun _ => others⟩
    · rintro ⟨dev8, _, timeLive, readable, others⟩
      exact ⟨dev8, timeLive, readable.imp_right And.right, others all⟩
  · rw [if_neg all]
    constructor
    · rintro ⟨dev8, ⟨value, timeLive, ports⟩, -⟩
      exact ⟨dev8, .inr value, timeLive, .inl ports, fun yes => absurd yes all⟩
    · rintro ⟨dev8, probed, timeLive, readable, -⟩
      refine ⟨dev8, ⟨probed.resolve_left all, timeLive, ?_⟩, fun _ _ _ => Iff.rfl⟩
      exact readable.resolve_right fun names => all names.1

/-- A device whose registers can all be read, and whose ports are up. -/
def quietReads : ProbeReads where
  pktTimeLive := .ok 0
  ftypeFilt := fun _ => .ok 0
  pcGetConfig := fun _ => .ok ⟨true, true, false, false, true⟩
  pcGetStatus := fun _ => .ok ⟨true, false⟩
  impSpecCtl := fun _ => .ok 0
  plmStat := fun _ => .ok 0

/-- The table of `portZeroIn` once it has been programmed. -/
def programmedRt : RioRtState where
  defaultRoute := 0
  devTable := fun _ => ⟨0, false⟩
  domTable := fun idx => ⟨if idx = 0 then rioRteLvlG0 else 0, false⟩
  mcMasks := fun _ =>
    { mcDestId := 0, tt := .ttDev8, mcMask := 0, inUse := false, allocd := false, changed := false }

/-- What the driver keeps for a switch with 24 ports in which all tables lead to port 0. -/
def portZeroData : MpswDrvPrivateData where
  devHValid := true
  devH := ⟨.rxs2448, 24⟩
  gRt := programmedRt
  pprt := fun _ => programmedRt

def portZeroSwitch : Switch :=
  ⟨some portZeroData, ⟨0, fun _ _ => 0, fun _ _ => 0, fun _ _ => 0⟩⟩

/-- ID 5 is routed to port 2 in the table of all ports. -/
theorem route_isolated_allPorts :
    RouteIsolated quietReads (fun _ => none) portZeroSwitch .dev08Sz rioAllPorts
      ⟨5, .dev08Sz⟩ 2 := by
  have sized : IsDid .dev08Sz ⟨5, .dev08Sz⟩ := ⟨rfl, by decide⟩
  have succeeds : (mpswDrvSetRouteEntry (fun _ => none) portZeroSwitch rioAllPorts
      ⟨5, .dev08Sz⟩ 2).1 = true := by decide +kernel
  have freesNone : (RtCall.changeRte false (devIdx 5) 2).deallocates portZeroData.devH
      portZeroData.gRt = none := by decide +kernel
  have readable : ∀ port ∈ routePorts portZeroData.devH portZeroData.gRt rioAllPorts 2,
      PortReadable quietReads portZeroData.devH port := by decide +kernel
  refine (route_isolated_iff sized succeeds).mpr ⟨portZeroData, rfl, ?_⟩
  refine ⟨by decide, .inl rfl, rfl, .inl readable, fun _ mcMaskRte freed => ?_⟩
  exact absurd (freesNone.symm.trans freed) (Option.some_ne_none mcMaskRte).symm

/-- A route set on port 3 is not got from port 3.  A route set for ID 0x105 cannot be got, and
is got for ID 5. -/
theorem not_route_isolated_portThree_dev16 :
    ((mpswDrvSetRouteEntry (fun _ => none) portZeroSwitch 3 ⟨5, .dev08Sz⟩ 2).1 = true ∧
      mpswDrvGetRouteEntry quietReads
          (mpswDrvSetRouteEntry (fun _ => none) portZeroSwitch 3 ⟨5, .dev08Sz⟩ 2).2 3
          ⟨5, .dev08Sz⟩ = some 0 ∧
        ¬RouteIsolated quietReads (fun _ => none) portZeroSwitch .dev08Sz 3 ⟨5, .dev08Sz⟩ 2) ∧
    ((mpswDrvSetRouteEntry (fun _ => none) portZeroSwitch rioAllPorts ⟨0x105, .dev16Sz⟩ 2).1 =
        true ∧
      mpswDrvGetRouteEntry quietReads
          (mpswDrvSetRouteEntry (fun _ => none) portZeroSwitch rioAllPorts ⟨0x105, .dev16Sz⟩ 2).2
          rioAllPorts ⟨0x105, .dev16Sz⟩ = none ∧
        mpswDrvGetRouteEntry quietReads
            (mpswDrvSetRouteEntry (fun _ => none) portZeroSwitch rioAllPorts ⟨0x105, .dev16Sz⟩ 2).2
            rioAllPorts ⟨5, .dev16Sz⟩ = some 2 ∧
          ¬RouteIsolated quietReads (fun _ => none) portZeroSwitch .dev16Sz rioAllPorts
            ⟨0x105, .dev16Sz⟩ 2) := by
  have portThree : mpswDrvGetRouteEntry quietReads
      (mpswDrvSetRouteEntry (fun _ => none) portZeroSwitch 3 ⟨5, .dev08Sz⟩ 2).2 3 ⟨5, .dev08Sz⟩ =
        some 0 := by decide +kernel
  have dev16 : mpswDrvGetRouteEntry quietReads
      (mpswDrvSetRouteEntry (fun _ => none) portZeroSwitch rioAllPorts ⟨0x105, .dev16Sz⟩ 2).2
      rioAllPorts ⟨0x105, .dev16Sz⟩ = none := by decide +kernel
  refine ⟨⟨by decide +kernel, portThree, fun isolated => ?_⟩, by decide +kernel, dev16,
    by decide +kernel, fun isolated => ?_⟩
  · have got := portThree.symm.trans isolated.1
    exact absurd got (by decide)
  · have got := dev16.symm.trans isolated.1
    exact absurd got.symm (Option.some_ne_none _)

end RioFabric.RouteTable

import RioFabric.Lib.Runs
import RioFabric.Riocp.Alone
import RioFabric.Riocp.Handles

/-!
# The ANY_ID route

Devices are accessed by an 8-bit device ID that no device has, `DID_ANY_DEV8_ID`.  The switches on
the way to the device are programmed beforehand, one after the other, and the master port
remembers which device its ANY_ID route leads to.  The result of programming a switch is
overwritten by that of locking the next one, and the device is remembered whatever the result of
the last switch is.
-/

namespace RioFabric.Riocp

open Lib

/-- The ANY_ID entry of every switch. -/
abbrev AnyIdEntries : Type := Handle → Nat

/-- How the accesses at a hop end: whether `riocp_pe_lock_set` returns 0, and what becomes of
the route entry. -/
structure HopOutcome where
  lock : Bool
  route : Outcome

/-- `riocp_drv_set_route_entry` for the ANY_ID and all ports. -/
def riocpDrvSetRouteEntry (outcome : Outcome) (entries : AnyIdEntries) (sw : Handle) (port : Nat) :
    Rc × AnyIdEntries :=
  (if outcome = .ok then .success else .drv,
    if outcome = .failed then entries else Function.update entries sw port)

/-- What a master port and the switches behind it hold: the ANY_ID entries and
`any_id_target`. -/
structure AnyId where
  entries : AnyIdEntries
  target : Option Handle

section Model

variable (st : Handles)

/-- `pe->peers[port].peer`. -/
def Handles.peer (pe : Handle) (port : Nat) : Option Handle := ((st.pe pe).peers port).map Prod.fst

/-- The loop of `riocp_pe_maint_set_anyid_route` over the rest of the address, with `ith_pe` and
the result so far: the result, whether the end was reached, and the entries.  No value is
returned when `ith_pe` is null. -/
def programHops : List Nat → Option Handle → (Nat → HopOutcome) → Rc → AnyIdEntries →
    Option (Rc × Bool × AnyIdEntries)
  | [], _, _, ret, entries => some (ret, true, entries)
  | _ :: _, none, _, _, _ => none
  | port :: rest, some ithPe, outcome, _, entries =>
    if (outcome 0).lock then
      let (ret, entries) := riocpDrvSetRouteEntry (outcome 0).route entries ithPe port
      let next := if rest = [] then some ithPe else st.peer ithPe port
      programHops rest next (fun hop => outcome (hop + 1)) ret entries
    else some (.eio, false, entries)

/-- The hops of `pe->address` up to `pe->hopcount`. -/
def Handles.hopPorts (pe : Handle) : List Nat := (st.pe pe).address.take (st.pe pe).hopcount

variable (isHost : Bool) (mport : Handle)

/-- `riocp_pe_maint_set_anyid_route` for a device behind a master port. -/
def riocpPeMaintSetAnyidEntries (pe : Handle) (outcome : Nat → HopOutcome) (anyId : AnyId) :
    Option (Rc × AnyId) :=
  if !isHost then some (.success, anyId)
  else if anyId.target = some pe then some (.success, anyId)
  else do
    let (ret, isSet, entries) ←
      programHops st (st.hopPorts pe) (st.peer mport 0) outcome .success anyId.entries
    if isSet then some (ret, ⟨entries, some pe⟩) else some (ret, ⟨entries, none⟩)

/-- `riocp_pe_maint_unset_anyid_route`: the locks on the way are cleared, or not, and the target
is forgotten. -/
def riocpPeMaintUnsetAnyidEntries (pe : Handle) (anyId : AnyId) : AnyId :=
  if !isHost then anyId
  else if pe = mport then anyId
  else if anyId.target = none then anyId
  else { anyId with target := none }

/-- The switches on a way that begins at a device, each with the port by which the way
leaves it. -/
def Handles.hops : List Nat → Option Handle → Option (List (Handle × Nat))
  | [], _ => some []
  | _ :: _, none => none
  | port :: rest, some ithPe =>
    (Handles.hops rest (st.peer ithPe port)).map ((ithPe, port) :: ·)

/-- The way from a master port to a device. -/
def Handles.route (pe : Handle) : Option (List (Handle × Nat)) :=
  st.hops (st.hopPorts pe) (st.peer mport 0)

/-- A device behind a master port, to which there is a way. -/
structure RemotePe where
  pe : Handle
  route : List (Handle × Nat)
  isRoute : st.route mport pe = some route

/-- The ANY_ID leads along the way to the device. -/
def Handles.Routed (entries : AnyIdEntries) (pe : Handle) : Prop :=
  ∃ route, st.route mport pe = some route ∧ ∀ hop ∈ route, entries hop.1 = hop.2

/-- Setting and unsetting the route to a device. -/
inductive AnyIdCall where
  | set (pe : RemotePe st mport) (outcome : Nat → HopOutcome)
  | unset (pe : RemotePe st mport)

/-- The state that a call leaves. -/
def anyIdStep (anyId : AnyId) : AnyIdCall st mport → AnyId
  | .set remote outcome =>
    match riocpPeMaintSetAnyidEntries st isHost mport remote.pe outcome anyId with
    | some (_, anyId) => anyId
    | none => anyId
  | .unset remote => riocpPeMaintUnsetAnyidEntries isHost mport remote.pe anyId

/-- The device that is remembered is one that the ANY_ID leads to. -/
def AnyId.Sound (anyId : AnyId) : Prop :=
  ∀ pe, anyId.target = some pe → st.Routed mport anyId.entries pe

/-- What a call promises: a host that is told of success finds the route set, and the device that
is remembered is one that the ANY_ID leads to. -/
def AnyId.Promises (anyId : AnyId) (call : AnyIdCall st mport) : Prop :=
  (anyIdStep st isHost mport anyId call).Sound st mport ∧
    match call with
    | .set remote outcome => isHost = true →
        ∃ ret next, riocpPeMaintSetAnyidEntries st isHost mport remote.pe outcome anyId =
          some (ret, next) ∧ (ret = .success → st.Routed mport next.entries remote.pe)
    | .unset _ => True

/-- When a call keeps to it: it does not program the switches or cannot lock one of them, or the
way leaves no switch by two ports, and the entry of every switch is written at one of its hops
or was right before. -/
def AnyId.Programs (anyId : AnyId) : AnyIdCall st mport → Prop
  | .set remote outcome =>
    isHost = true → anyId.target ≠ some remote.pe →
      (∀ hop < remote.route.length, (outcome hop).lock = true) →
        (∀ hop ∈ remote.route, ∀ other ∈ remote.route, hop.1 = other.1 → hop.2 = other.2) ∧
        ∀ hop ∈ remote.route, anyId.entries hop.1 = hop.2 ∨
          ∃ i port, remote.route[i]? = some (hop.1, port) ∧ (outcome i).route ≠ .failed
  | .unset _ => True

end Model

/-- The entries once all hops are programmed. -/
def writeHops : List (Handle × Nat) → (Nat → HopOutcome) → AnyIdEntries → AnyIdEntries
  | [], _, entries => entries
  | (sw, port) :: rest, outcome, entries =>
    writeHops rest (fun hop => outcome (hop + 1))
      (riocpDrvSetRouteEntry (outcome 0).route entries sw port).2

section Written

theorem riocpDrvSetRouteEntry_entries (access : Outcome) (sw : Handle) (port : Nat) :
    (riocpDrvSetRouteEntry access entries sw port).2 =
      if access = .failed then entries else Function.update entries sw port := rfl

theorem writeHops_apply (route : List (Handle × Nat)) (outcome : Nat → HopOutcome)
    (entries : AnyIdEntries) (sw : Handle) :
    (∃ i port, route[i]? = some (sw, port) ∧ (outcome i).route ≠ .failed ∧
        writeHops route outcome entries sw = port) ∨
      ((∀ i port, route[i]? = some (sw, port) → (outcome i).route = .failed) ∧
        writeHops route outcome entries sw = entries sw) := by
  induction route generalizing outcome entries with
  | nil => exact .inr ⟨fun i port found => (by cases found), rfl⟩
  | cons hop rest ih =>
    obtain ⟨first, firstPort⟩ := hop
    obtain ⟨i, port, found, written, same⟩ | ⟨unwritten, same⟩ := ih (fun hop => outcome (hop + 1))
      (riocpDrvSetRouteEntry (outcome 0).route entries first firstPort).2
    · exact .inl ⟨i + 1, port, found, written, same⟩
    · by_cases here : first = sw ∧ (outcome 0).route ≠ .failed
      · obtain ⟨rfl, written⟩ := here
        refine .inl ⟨0, firstPort, rfl, written, ?_⟩
        rw [writeHops, same, riocpDrvSetRouteEntry_entries, if_neg written, Function.update_self]
      · refine .inr ⟨fun i port found => ?_, ?_⟩
        · cases i with
          | zero =>
            rw [List.getElem?_cons_zero, Option.some.injEq, Prod.mk.injEq] at found
            exact Decidable.not_not.mp fun written => here ⟨found.1, written⟩
          | succ i => exact unwritten i port found
        · rw [writeHops, same, riocpDrvSetRouteEntry_entries]
          split
          · rfl
          · next written => exact Function.update_of_ne (fun same => here ⟨same.symm, written⟩) _ _

/-- All entries of a route are right after the writes exactly when the route is consistent, and
each entry was written or right before. -/
theorem writeHops_routed_iff (route : List (Handle × Nat)) (outcome : Nat → HopOutcome)
    (entries : AnyIdEntries) :
    (∀ hop ∈ route, writeHops route outcome entries hop.1 = hop.2) ↔
      (∀ hop ∈ route, ∀ other ∈ route, hop.1 = other.1 → hop.2 = other.2) ∧
        ∀ hop ∈ route, entries hop.1 = hop.2 ∨
          ∃ i port, route[i]? = some (hop.1, port) ∧ (outcome i).route ≠ .failed := by
  constructor
  · intro routed
    constructor
    · intro hop inRoute other otherInRoute same
      rw [← routed hop inRoute, ← routed other otherInRoute, same]
    · intro hop inRoute
      obtain ⟨i, port, found, written, -⟩ | ⟨-, same⟩ := writeHops_apply route outcome entries hop.1
      · exact .inr ⟨i, port, found, written⟩
      · exact .inl (same.symm.trans (routed hop inRoute))
  · intro ⟨consistent, right⟩ hop inRoute
    obtain ⟨i, port, found, written, same⟩ | ⟨unwritten, same⟩ :=
      writeHops_apply route outcome entries hop.1
    · rw [same]
      exact consistent (hop.1, port) (List.mem_of_getElem? found) hop inRoute rfl
    · rw [same]
      cases right hop inRoute with
      | inl before => exact before
      | inr visit =>
        obtain ⟨i, port, found, written⟩ := visit
        exact absurd (unwritten i port found) written

end Written

section Calls

variable {st : Handles} {isHost : Bool} {mport : Handle} {anyId : AnyId} {ports : List Nat}
  {first : Option Handle} {route : List (Handle × Nat)} {outcome : Nat → HopOutcome}

theorem programHops_of_locked (isRoute : st.hops ports first = some route)
    (locked : ∀ hop < route.length, (outcome hop).lock = true) (ret : Rc) (entries : AnyIdEntries) :
    ∃ last, programHops st ports first outcome ret entries =
      some (last, true, writeHops route outcome entries) := by
  induction ports generalizing first route outcome ret entries with
  | nil =>
    obtain rfl : [] = route := Option.some.inj isRoute
    exact ⟨ret, rfl⟩
  | cons port rest ih =>
    cases first with
    | none => cases isRoute
    | some ithPe =>
      rw [Handles.hops, Option.map_eq_some_iff] at isRoute
      obtain ⟨tail, isTail, rfl⟩ := isRoute
      rw [programHops, if_pos (locked 0 (Nat.zero_lt_succ _))]
      apply ih
      · split
        · next last =>
            rw [last] at isTail ⊢
            exact isTail
        · exact isTail
      · exact fun hop inTail => locked (hop + 1) (Nat.succ_lt_succ inTail)

theorem programHops_of_unlocked (isRoute : st.hops ports first = some route)
    (unlocked : ¬∀ hop < route.length, (outcome hop).lock = true) (ret : Rc)
    (entries : AnyIdEntries) :
    ∃ left, programHops st ports first outcome ret entries = some (.eio, false, left) := by
  induction ports generalizing first route outcome ret entries with
  | nil =>
    obtain rfl : [] = route := Option.some.inj isRoute
    exact absurd (fun hop impossible => absurd impossible (Nat.not_lt_zero hop)) unlocked
  | cons port rest ih =>
    cases first with
    | none => cases isRoute
    | some ithPe =>
      rw [Handles.hops, Option.map_eq_some_iff] at isRoute
      obtain ⟨tail, isTail, rfl⟩ := isRoute
      rw [programHops]
      cases lock : (outcome 0).lock with
      | false => exact ⟨entries, rfl⟩
      | true =>
        rw [if_pos rfl]
        apply ih
        · split
          · next last =>
              rw [last] at isTail ⊢
              exact isTail
          · exact isTail
        · intro locked
          apply unlocked
          intro hop inRoute
          cases hop with
          | zero => exact lock
          | succ hop => exact locked hop (Nat.lt_of_succ_lt_succ inRoute)

/-- The program that accesses the locks on the way reports what `programHops` does, for some
locks that could be taken. -/
theorem programHops_of_run {ports : List Nat} {first : Option Handle} {route : List (Handle × Nat)}
    (isRoute : st.hops ports first = some route) (env : Env) (host : Host) (call : Call)
    (start : Nat) (done : List (Nat × Nat)) (ret : Rc) (locks : Locks) (entries : AnyIdEntries) :
    ∃ outcome, (∀ hop, (outcome hop).route = env.outcome (.route call (start + hop))) ∧
      ∃ left, programHops st ports first outcome ret entries =
        some ((env.run (setHops host call ((route.map Prod.fst).zipIdx start) done ret) locks).1.1,
          (env.run (setHops host call ((route.map Prod.fst).zipIdx start) done ret) locks).1.2,
          left) := by
  induction ports generalizing first route start done ret locks entries with
  | nil =>
    obtain rfl : [] = route := Option.some.inj isRoute
    exact ⟨fun hop => ⟨true, env.outcome (.route call (start + hop))⟩, fun _ => rfl, entries, rfl⟩
  | cons port rest ih =>
    cases first with
    | none => cases isRoute
    | some ithPe =>
      rw [Handles.hops, Option.map_eq_some_iff] at isRoute
      obtain ⟨tail, isTail, rfl⟩ := isRoute
      have next : st.hops rest (if rest = [] then some ithPe else st.peer ithPe port) =
          some tail := by
        split
        · next last =>
            rw [last] at isTail ⊢
            exact isTail
        · exact isTail
      rw [List.map_cons, List.zipIdx_cons, setHops, Env.run, Access.run_bind]
      by_cases locked : ((riocpPeLockSet host true (Site.set call start) ithPe).run
          env.answer locks).1 = .success
      · rw [if_pos locked, Access.run_bind, Access.run_perform]
        obtain ⟨later, sameRoutes, left, ran⟩ := ih next (start + 1) ((ithPe, start) :: done)
          (riocpDrvSetRouteEntry (env.outcome (.route call start)) entries ithPe port).1
          ((riocpPeLockSet host true (Site.set call start) ithPe).run env.answer locks).2
          (riocpDrvSetRouteEntry (env.outcome (.route call start)) entries ithPe port).2
        obtain ⟨outcome, isFirst, isLater⟩ : ∃ outcome : Nat → HopOutcome,
            outcome 0 = ⟨true, env.outcome (.route call start)⟩ ∧
              (fun hop => outcome (hop + 1)) = later :=
          ⟨fun hop => Nat.casesOn hop ⟨true, env.outcome (.route call start)⟩ later, rfl, rfl⟩
        refine ⟨outcome, fun hop => ?_, left, ?_⟩
        · cases hop with
          | zero => rw [isFirst, Nat.add_zero]
          | succ hop =>
            rw [congrFun isLater hop, sameRoutes, Nat.add_right_comm, Nat.add_assoc]
        · rw [programHops, isFirst, isLater, if_pos rfl]
          have result : ∀ locks : Locks,
              (if (env.answer (.driver (.route call start)) locks).1.isSome then Rc.success
                else .drv) =
              (riocpDrvSetRouteEntry (env.outcome (.route call start)) entries ithPe port).1 := by
            intro locks
            rw [Env.answer, riocpDrvSetRouteEntry]
            cases env.outcome (.route call start) with
            | ok => rfl
            | failed => rfl
            | failedAfter => rfl
          rw [result]
          exact ran
      · rw [if_neg locked, Access.run_bind, Access.run_pure]
        exact ⟨fun hop => ⟨false, env.outcome (.route call (start + hop))⟩, fun _ => rfl,
          entries, rfl⟩

theorem riocpPeMaintSetAnyidEntries_of_programming (anyId : AnyId) (remote : RemotePe st mport)
    (outcome : Nat → HopOutcome) (other : anyId.target ≠ some remote.pe) :
    ((∀ hop < remote.route.length, (outcome hop).lock = true) → ∃ ret,
      riocpPeMaintSetAnyidEntries st true mport remote.pe outcome anyId =
        some (ret, ⟨writeHops remote.route outcome anyId.entries, some remote.pe⟩)) ∧
    ((¬∀ hop < remote.route.length, (outcome hop).lock = true) → ∃ left,
      riocpPeMaintSetAnyidEntries st true mport remote.pe outcome anyId =
        some (.eio, ⟨left, none⟩)) := by
  rw [riocpPeMaintSetAnyidEntries, if_neg (by decide), if_neg other]
  constructor
  · intro locked
    obtain ⟨ret, ran⟩ := programHops_of_locked remote.isRoute locked .success anyId.entries
    exact ⟨ret, by rw [ran]; rfl⟩
  · intro unlocked
    obtain ⟨left, ran⟩ := programHops_of_unlocked remote.isRoute unlocked .success anyId.entries
    exact ⟨left, by rw [ran]; rfl⟩

theorem routed_iff (remote : RemotePe st mport) (entries : AnyIdEntries) :
    st.Routed mport entries remote.pe ↔ ∀ hop ∈ remote.route, entries hop.1 = hop.2 := by
  constructor
  · intro ⟨route, isRoute, routed⟩
    obtain rfl : remote.route = route := Option.some.inj (remote.isRoute.symm.trans isRoute)
    exact routed
  · exact fun routed => ⟨remote.route, remote.isRoute, routed⟩

theorem promises_set_of_unchanged {remote : RemotePe st mport} (sound : anyId.Sound st mport)
    (unchanged : riocpPeMaintSetAnyidEntries st isHost mport remote.pe outcome anyId =
      some (.success, anyId)) (routed : isHost = true → st.Routed mport anyId.entries remote.pe) :
    anyId.Promises st isHost mport (.set remote outcome) := by
  constructor
  · rw [anyIdStep, unchanged]
    exact sound
  · intro host
    exact ⟨.success, anyId, unchanged, fun _ => routed host⟩

theorem promises_iff (sound : anyId.Sound st mport) (call : AnyIdCall st mport) :
    anyId.Promises st isHost mport call ↔ anyId.Programs st isHost mport call := by
  cases call with
  | unset remote =>
    refine iff_of_true ⟨?_, trivial⟩ trivial
    rw [anyIdStep, riocpPeMaintUnsetAnyidEntries]
    split
    · exact sound
    · split
      · exact sound
      · split
        · exact sound
        · exact fun pe remembered => by cases remembered
  | set remote outcome =>
    cases isHost with
    | false =>
      refine iff_of_true (promises_set_of_unchanged sound rfl nofun) nofun
    | true =>
      by_cases same : anyId.target = some remote.pe
      · refine iff_of_true ?_ fun _ other => absurd same other
        apply promises_set_of_unchanged sound
        · rw [riocpPeMaintSetAnyidEntries, if_neg (by decide), if_pos same]
        · exact fun _ => sound remote.pe same
      · obtain ⟨whenLocked, otherwise⟩ :=
          riocpPeMaintSetAnyidEntries_of_programming anyId remote outcome same
        by_cases locked : ∀ hop < remote.route.length, (outcome hop).lock = true
        · obtain ⟨ret, ran⟩ := whenLocked locked
          have written : anyId.Programs st true mport (.set remote outcome) ↔
              st.Routed mport (writeHops remote.route outcome anyId.entries) remote.pe := by
            rw [routed_iff, writeHops_routed_iff]
            exact ⟨fun programs => programs rfl same locked, fun right _ _ _ => right⟩
          rw [written]
          constructor
          · intro promises
            have kept := promises.1
            rw [anyIdStep, ran] at kept
            exact kept remote.pe rfl
          · intro routed
            constructor
            · rw [anyIdStep, ran]
              intro pe remembered
              obtain rfl := Option.some.inj remembered
              exact routed
            · exact fun _ => ⟨ret, _, ran, fun _ => routed⟩
        · obtain ⟨left, ran⟩ := otherwise locked
          refine iff_of_true ⟨?_, ?_⟩ fun _ _ isLocked => absurd isLocked locked
          · rw [anyIdStep, ran]
            exact fun pe remembered => by cases remembered
          · exact fun _ => ⟨.eio, _, ran, nofun⟩

/-- Over a history of accesses, every call keeps to what it promises exactly when every call
programs the switches on its way, as far as it programs any. -/
theorem anyid_route_iff (st : Handles) (isHost : Bool) (mport : Handle) (entries : AnyIdEntries)
    (calls : List (AnyIdCall st mport)) :
    Guarded (anyIdStep st isHost mport) (AnyId.Promises st isHost mport) ⟨entries, none⟩ calls ↔
      Guarded (anyIdStep st isHost mport) (AnyId.Programs st isHost mport) ⟨entries, none⟩
        calls := by
  apply guarded_iff (AnyId.Sound st mport)
  · exact fun anyId call sound => promises_iff sound call
  · exact fun anyId call _ promises => promises.1
  · exact fun pe remembered => by cases remembered

end Calls

/-- An endpoint 3 behind the switches 1 and 2 of the master port 0, which it is reached by
through port 2 of the first and port 5 of the second. -/
def behindTwoSwitches : Handles where
  pe h :=
    { hopcount := if h = 3 then 2 else 0, didRegVal := 0, comptag := 0
      address := if h = 3 then [2, 5] else [], cap := ⟨0, 0⟩, mport := 0
      peers := fun port =>
        if h = 0 ∧ port = 0 then some (1, 0)
        else if h = 1 ∧ port = 2 then some (2, 0)
        else none }
  mports := [0]
  handles _ := [1, 2, 3]
  next := 4

/-- The endpoint with its route. -/
def farEndpoint : RemotePe behindTwoSwitches 0 where
  pe := 3
  route := [(1, 2), (2, 5)]
  isRoute := by decide

theorem programHops_of_run_farEndpoint :
    let env : Env := ⟨fun _ => .ok, fun _ => 0⟩
    let final := env.run (setHops ⟨0, 7, true⟩ .maint [(1, 0), (2, 1)] [] .success)
      fun _ => lockFree
    ∃ outcome left, programHops behindTwoSwitches [2, 5] (some 1) outcome .success
      (fun _ => 0xff) = some (final.1.1, final.1.2, left) := by
  intro env final
  obtain ⟨outcome, -, left, ran⟩ := programHops_of_run farEndpoint.isRoute env ⟨0, 7, true⟩ .maint 0
    [] .success (fun _ => lockFree) fun _ => 0xff
  exact ⟨outcome, left, ran⟩

/-- Both switches can be locked, but the entry of the first one cannot be written. -/
def firstHopFails (hop : Nat) : HopOutcome := ⟨true, if hop = 0 then .failed else .ok⟩

/-- Success is reported although the first switch has been left alone. -/
theorem not_anyid_route_firstHopFails :
    ¬∀ (st : Handles) (isHost : Bool) (mport : Handle) (entries : AnyIdEntries)
      (calls : List (AnyIdCall st mport)),
      Guarded (anyIdStep st isHost mport) (AnyId.Promises st isHost mport) ⟨entries, none⟩
        calls := by
  intro promises
  obtain ⟨⟨-, reported⟩, -⟩ :=
    promises behindTwoSwitches true 0 (fun _ => 0xff) [.set farEndpoint firstHopFails]
  obtain ⟨ret, next, ran, routed⟩ := reported rfl
  obtain ⟨rfl, rfl⟩ := Prod.mk.inj (Option.some.inj ran)
  have entry := (routed_iff farEndpoint _).mp (routed (by decide)) (1, 2) (by decide)
  exact absurd entry (by decide)

end RioFabric.Riocp

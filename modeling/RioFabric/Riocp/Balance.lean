import RioFabric.Riocp.Alone
import RioFabric.Riocp.Discover

/-!
# What an operation leaves locked

The locks of the switches on the way to a device are never taken, since `riocp_pe_lock_set` is
given the master port's handle; the lock of a device that `riocp_pe_lock` takes stays taken,
since `riocp_pe_unlock` clears through that handle as well.
-/

namespace RioFabric.Riocp

open Lib

/-- A maintenance write to the lock of the device itself takes it. -/
def Env.WritesLock (env : Env) (host : Host) (pe : Pe) (reg : Reg) (val : Nat)
    (target : Option Pe) (locks : Locks) : Prop :=
  reg = .hostLock ∧ val ≠ lockFree ∧
    (pe.isMport = true ∨ host.isHost = true ∧ env.RouteReady host .maint pe target locks) ∧
    env.outcome (.reg .maint) ≠ .failed

/-- `riocp_sw_get_route_entry` leaves the switch locked: it takes the lock, and the switch is
not the master port or one of the later accesses fails. -/
def Env.LeavesLocked (env : Env) (host : Host) (sw : Pe) (isSwitch : Bool) (didVal : Nat)
    (target : Option Pe) (locks : Locks) : Prop :=
  isSwitch = true ∧ env.Takes host sw target locks ∧
    ¬(sw.isMport = true ∧ env.outcome (.lock .write) = .ok ∧ env.outcome (.lock .verify) = .ok ∧
      env.outcome (.getRoute didVal) = .ok ∧ env.outcome (.reg .unlock) = .ok)

/-- `riocp_pe_discover` takes the lock of the switch: the port is found active, which leaves the
lock of the master port with the host unless the route was set already, and `riocp_pe_lock`
takes the lock. -/
def Env.DiscoverTakes (env : Env) (host : Host) (pe : Pe) (args : DiscoverArgs)
    (target : Option Pe) (locks : Locks) : Prop :=
  let mportLock := if target = some pe then locks host.mport else host.didRegVal
  (args.port < args.portCount ∧ args.isSwitch = true ∧ pe.isMport = false ∧
      args.isKnown = false ∧ host.isHost = true) ∧
    (args.hasEfptr = true ∧ env.Reads host .active pe target locks ∧
      env.content (.reg .active) &&& errStatOk ≠ 0) ∧
    (env.SetsHops .lock host.didRegVal mportLock pe.path.zipIdx ∧
      env.LastRoute .lock pe.path.zipIdx ∧ env.outcome (.reg .lock) = .ok ∧
      env.outcome (.lock .write) ≠ .failed)

/-- `riocp_pe_discover` does not get to the creation of a handle. -/
def Env.NoNewHandle (env : Env) (args : DiscoverArgs) : Prop :=
  env.outcome .comptag ≠ .ok ∨ env.content .comptag = 0 ∨
    args.handleExists (env.content .comptag) = true

section Lock

variable {env : Env} {host : Host} {locks : Locks} {pe : Pe} {may : LockOp → Prop}
  {gives : LockOp → Option Nat → Prop} {args : DiscoverArgs}

theorem allFree_iff_device {after : Locks}
    (path : ∀ dev ∈ pe.path, dev ≠ host.reached pe.isMport pe.device → after dev = lockFree) :
    AllFree (pe.locksOnPath host) after ↔
      after (host.reached pe.isMport pe.device) = lockFree := by
  refine ⟨fun free => free _ List.mem_cons_self, fun isFree dev onPath => ?_⟩
  by_cases same : dev = host.reached pe.isMport pe.device
  · rw [same, isFree]
  · exact path dev ((List.mem_cons.mp onPath).resolve_left same) same

variable (env) in
theorem run_getRouteEntryLocked_remote (placed : pe.Placed host) (isRemote : pe.isMport = false)
    (didVal : Nat) (target : Option Pe) {val : Nat} (holds : locks pe.device = val) :
    (env.run (getRouteEntryLocked host pe didVal target) locks).2 pe.device = val := by
  refine run_of_spared ?_ holds
  refine (requests_driver mayLook_spares _).bind fun answer _ => ?_
  cases answer with
  | none => exact requests_pure _
  | some egress =>
    refine (requests_unlock target (mayMaintain_device placed isRemote _) ?_).bind
      fun _ _ => requests_pure _
    intro lock _
    exact .inr (by simpa [Spares] using (placed.remote isRemote).2.symm)

variable (env) in
theorem run_getRouteEntryLocked_local (isHost : host.isHost = true) (isLocal : pe.isMport = true)
    (releases : env.ReleasesOk) (didVal : Nat) (target : Option Pe)
    (notFree : host.didRegVal ≠ lockFree) (holds : locks host.mport = host.didRegVal) :
    (env.run (getRouteEntryLocked host pe didVal target) locks).2 host.mport = lockFree ↔
      env.outcome (.getRoute didVal) = .ok ∧ env.outcome (.reg .unlock) = .ok := by
  simp only [getRouteEntryLocked, Access.run_bind, Access.run_perform, Env.answer]
  by_cases routeOk : env.outcome (.getRoute didVal) = .ok
  · simp only [routeOk, if_true, true_and, Access.run_bind]
    exact run_unlock_local isHost isLocal releases target notFree holds
  · simp [routeOk, holds, notFree]

variable (env) in
theorem getRouteEntryLocked_balance (placed : pe.Placed host) (releases : env.ReleasesOk)
    (isHost : host.isHost = true) (notFree : host.didRegVal ≠ lockFree) (didVal : Nat)
    (target : Option Pe) (holds : locks (host.reached pe.isMport pe.device) = host.didRegVal) :
    AllFree (pe.locksOnPath host)
        (env.run (getRouteEntryLocked host pe didVal target) locks).2 ↔
      pe.isMport = true ∧ env.outcome (.getRoute didVal) = .ok ∧
        env.outcome (.reg .unlock) = .ok := by
  cases isMport : pe.isMport with
  | false =>
    rw [isMport] at holds
    have kept := run_getRouteEntryLocked_remote env placed isMport didVal target holds
    simp only [Bool.false_eq_true, false_and, iff_false]
    intro allFree
    have isFree := allFree pe.device (by simp [Pe.locksOnPath, Host.reached, isMport])
    exact notFree (kept.symm.trans isFree)
  | true =>
    rw [isMport] at holds
    have released := run_getRouteEntryLocked_local env isHost isMport releases didVal
      target notFree holds
    simp only [true_and, ← released, AllFree, Pe.locksOnPath, placed.local_path isMport, isMport,
      List.mem_singleton, forall_eq]
    rfl

variable (env) in
theorem swGetRouteEntry_balance (placed : pe.Placed host) (releases : env.ReleasesOk)
    (notFree : host.didRegVal ≠ lockFree) (free : AllFree (pe.locksOnPath host) locks)
    (isSwitch : Bool) (didVal : Nat) (target : Option Pe) :
    AllFree (pe.locksOnPath host)
        (env.run (riocpSwGetRouteEntry host pe isSwitch didVal target) locks).2 ↔
      ¬env.LeavesLocked host pe isSwitch didVal target locks := by
  cases isSwitch with
  | false => simpa [riocpSwGetRouteEntry, Env.LeavesLocked] using free
  | true =>
    obtain ⟨taken, notTaken⟩ : _ ∧ _ := run_lock placed releases target notFree free
    simp only [riocpSwGetRouteEntry, Bool.not_true, Bool.false_eq_true, if_false,
      Access.run_bind, Env.LeavesLocked, true_and, Env.run] at taken notTaken ⊢
    generalize Access.run env.answer (riocpPeLock host pe target) locks = lock at taken notTaken ⊢
    obtain ⟨⟨ret, after⟩, locksAfter⟩ := lock
    simp only at taken notTaken ⊢
    by_cases takes : env.Takes host pe target locks
    · obtain ⟨held, success⟩ := taken takes
      simp only [takes, true_and, not_not]
      by_cases isLocked : ret = .success
      · have locked := success.mp isLocked
        have rest := getRouteEntryLocked_balance env placed releases takes.1 notFree
          didVal after held
        simpa [isLocked, locked] using rest
      · have notLocked := mt success.mpr isLocked
        simp only [ne_eq, isLocked, not_false_eq_true, if_true, Access.run_pure]
        refine iff_of_false ?_ fun ⟨_, writeOk, verifyOk, _⟩ => notLocked ⟨writeOk, verifyOk⟩
        exact fun allFree => notFree (held.symm.trans (allFree _ List.mem_cons_self))
    · obtain ⟨allFree, failed⟩ := notTaken takes
      simp [takes, failed, allFree]

theorem maintRead_balance (placed : pe.Placed host) (free : AllFree (pe.locksOnPath host) locks)
    (call : Call) (reg : Reg) (target : Option Pe) :
    AllFree (pe.locksOnPath host) (env.run (riocpPeMaintRead host call pe reg target) locks).2 :=
  allFree_run env (requests_maintRead reg target (mayMaintain_locksOnPath placed call)) free

theorem run_maintWrite_device (placed : pe.Placed host) (isRemote : pe.isMport = false)
    (isHost : host.isHost = true) (free : locks pe.device = lockFree) (call : Call) (val : Nat)
    (target : Option Pe) :
    (env.run (riocpPeMaintWrite host call pe .hostLock val target) locks).2 pe.device = lockFree ↔
      ¬(val ≠ lockFree ∧ env.RouteReady host call pe target locks ∧
        env.outcome (.reg call) ≠ .failed) := by
  have maintain := mayMaintain_device placed isRemote call
  have freeAfter : (env.run (riocpPeMaintSetAnyidRoute host call pe target) locks).2 pe.device =
      lockFree := run_of_spared (requests_setAnyidRoute target maintain) free
  have ready := run_setAnyidRoute env locks isHost call pe target
  have reached : host.reached false pe.device = pe.device := rfl
  simp only [riocpPeMaintWrite, maintAccess, isRemote, Bool.false_eq_true, if_false,
    Access.run_bind, Access.run_pure, ← ready, Env.run] at freeAfter ⊢
  generalize Access.run env.answer (riocpPeMaintSetAnyidRoute host call pe target) locks = set
    at freeAfter ⊢
  obtain ⟨⟨ret, after⟩, locksAfter⟩ := set
  simp only at freeAfter ⊢
  by_cases isSet : ret = .success
  · simp only [isSet, if_true, true_and, riocpDrvRegWr, isHost, Bool.true_or, isRemote,
      Access.run_bind, Access.run_perform, Env.answer, reached]
    cases wrote : env.outcome (.reg call) with
    | ok =>
      simp only [if_true, reduceCtorEq, if_false, Access.run_bind, Access.run_pure, ne_eq,
        not_false_eq_true, and_true, not_not]
      rw [run_of_spared (requests_unsetAnyidRoute after maintain.look maintain.unset)
        (write_free freeAfter)]
    | failed => simp [freeAfter]
    | failedAfter => simp [write_free freeAfter]
  · simp [isSet, freeAfter]

variable (env) in
theorem maintWrite_balance (placed : pe.Placed host) (free : AllFree (pe.locksOnPath host) locks)
    (reg : Reg) (val : Nat) (target : Option Pe) :
    AllFree (pe.locksOnPath host)
        (env.run (riocpPeMaintWrite host .maint pe reg val target) locks).2 ↔
      ¬env.WritesLock host pe reg val target locks := by
  cases reg with
  | other =>
    refine iff_of_true ?_ fun writes => nomatch writes.1
    exact allFree_run env (requests_maintWrite target (mayMaintain_locksOnPath placed .maint)
      fun isLock => nomatch isLock) free
  | hostLock =>
    have devFree := free _ List.mem_cons_self
    cases isMport : pe.isMport with
    | true =>
      have noPath := placed.local_path isMport
      rw [isMport] at devFree
      have reached : host.reached true pe.device = host.mport := rfl
      simp only [AllFree, Pe.locksOnPath, noPath, isMport, List.mem_singleton, forall_eq,
        Env.WritesLock, true_and, true_or, riocpPeMaintWrite, maintAccess, if_true,
        riocpDrvRegWr, Bool.or_true, Access.run_bind, Access.run_perform, Env.answer, reached]
        at devFree ⊢
      cases wrote : env.outcome (.reg .maint) <;> simp [write_free devFree, devFree]
    | false =>
      rw [isMport] at devFree
      rw [allFree_iff_device]
      · cases isHost : host.isHost with
        | true =>
          rw [isMport]
          refine Iff.trans (run_maintWrite_device placed isMport isHost devFree .maint val
            target) ?_
          simp [Env.WritesLock, isMport, isHost]
        | false =>
          refine iff_of_true ?_ fun writes => ?_
          · simp [riocpPeMaintWrite, maintAccess, isMport, riocpPeMaintSetAnyidRoute, isHost,
              riocpDrvRegWr, devFree]
          · simp [Env.WritesLock, isMport, isHost] at writes
      · intro dev onPath _
        have pathFree : AllFree pe.path locks := fun dev onPath =>
          free dev (List.mem_cons_of_mem _ onPath)
        have maintain : MayMaintain host (Spares pe.path) (FindsFree pe.path) .maint pe :=
          mayMaintain_spares .maint fun _ => (placed.remote isMport).1
        refine allFree_run env (requests_maintWrite target maintain fun _ => ?_) pathFree dev
          onPath
        rw [isMport]
        exact placed.simple

theorem run_setHops_after (isHost : host.isHost = true) (call : Call) {hops : List (Nat × Nat)}
    (done : List (Nat × Nat)) (ret : Rc)
    (success : (env.run (setHops host call hops done ret) locks).1.1 = .success) :
    (env.run (setHops host call hops done ret) locks).1.2 = true ∧
      (hops ≠ [] →
        (env.run (setHops host call hops done ret) locks).2 host.mport = host.didRegVal) := by
  induction hops generalizing done ret locks with
  | nil => exact ⟨rfl, fun notEmpty => absurd rfl notEmpty⟩
  | cons hop rest ih =>
    have after := (run_lockSet env locks isHost (.set call hop.2) hop.1).2
    simp only [setHops, Access.run_bind] at success ⊢
    by_cases locked :
        (env.run (riocpPeLockSet host true (.set call hop.2) hop.1) locks).1 = .success
    · simp only [locked, if_true, Access.run_bind, Access.run_perform] at success ⊢
      refine ⟨(ih _ _ success).1, fun _ => ?_⟩
      cases rest with
      | nil => exact after locked
      | cons second rest => exact (ih _ _ success).2 (List.cons_ne_nil second rest)
    · simp [locked] at success

variable (env) (locks) (pe) in
/-- What a route that was set leaves locked. -/
theorem run_setAnyidRoute_after (isHost : host.isHost = true) (call : Call) (target : Option Pe)
    (success : (env.run (riocpPeMaintSetAnyidRoute host call pe target) locks).1.1 = .success) :
    (env.run (riocpPeMaintSetAnyidRoute host call pe target) locks).1.2 = some pe ∧
      (pe.path ≠ [] →
        (env.run (riocpPeMaintSetAnyidRoute host call pe target) locks).2 host.mport =
          if target = some pe then locks host.mport else host.didRegVal) := by
  unfold riocpPeMaintSetAnyidRoute at success ⊢
  by_cases same : target = some pe
  · simp [isHost, same]
  · simp only [isHost, Bool.not_true, Bool.false_eq_true, if_false, same, Access.run_bind,
      Access.run_pure] at success ⊢
    obtain ⟨isSet, after⟩ := run_setHops_after isHost call [] .success success
    exact ⟨by rw [isSet, if_pos rfl], fun notEmpty => after (by simpa using notEmpty)⟩

/-- What a successful maintenance read of a remote device leaves: no route counts as set, and
the lock of the master port stays with the host. -/
theorem run_maintRead_after (placed : pe.Placed host) (isRemote : pe.isMport = false)
    (isHost : host.isHost = true) (call : Call) (target : Option Pe)
    (success : (env.run (riocpPeMaintRead host call pe .other target) locks).1.1 = .success) :
    (env.run (riocpPeMaintRead host call pe .other target) locks).1.2 =
        (env.content (.reg call), none) ∧
      (pe.path ≠ [] →
        (env.run (riocpPeMaintRead host call pe .other target) locks).2 host.mport =
          if target = some pe then locks host.mport else host.didRegVal) := by
  have after := run_setAnyidRoute_after env locks pe isHost call target
  simp only [riocpPeMaintRead, maintAccess, isRemote, Bool.false_eq_true, if_false,
    Access.run_bind, Env.run] at after success ⊢
  generalize Access.run env.answer (riocpPeMaintSetAnyidRoute host call pe target) locks = set
    at after success ⊢
  obtain ⟨⟨ret, targetAfter⟩, locksAfter⟩ := set
  simp only at after success ⊢
  by_cases isSet : ret = .success
  · obtain ⟨rfl, mport⟩ := after isSet
    have clear : ∀ dev ∈ pe.path, ∀ hop,
        MayClear (Spares [host.mport]) (fun _ _ => True) (.unset call hop) dev := by
      intro dev onPath hop lock _
      refine .inr ?_
      simp only [Spares, List.mem_singleton]
      rintro rfl
      exact (placed.remote isRemote).1 onPath
    simp only [isSet, if_true, riocpDrvRegRd, isHost, Bool.true_or, Access.run_bind,
      Access.run_perform, Env.answer] at success ⊢
    by_cases readOk : env.outcome (.reg call) = .ok
    · simp only [readOk, if_true, Access.run_bind, Access.run_pure] at success ⊢
      refine ⟨?_, fun notEmpty => ?_⟩
      · simp [riocpPeMaintUnsetAnyidRoute, isHost, isRemote]
      · exact run_of_spared (requests_unsetAnyidRoute _ mayLook_spares clear) (mport notEmpty)
    · simp [readOk] at success
  · simp [isSet] at success

variable (env) (locks) in
theorem run_isPortActive (placed : pe.Placed host) (isRemote : pe.isMport = false)
    (isHost : host.isHost = true) (releases : env.ReleasesOk) (hasEfptr : Bool)
    (target : Option Pe) :
    (env.run (riocpPeIsPortActive host pe hasEfptr target) locks).1.1 = some true ↔
      hasEfptr = true ∧ env.Reads host .active pe target locks ∧
        env.content (.reg .active) &&& errStatOk ≠ 0 := by
  cases hasEfptr with
  | false => simp [riocpPeIsPortActive]
  | true =>
    rw [← run_maintRead isHost releases .active pe .other target]
    simp only [riocpPeIsPortActive, if_true, Access.run_bind, Access.run_pure, true_and]
    by_cases success :
        (env.run (riocpPeMaintRead host .active pe .other target) locks).1.1 = .success
    · have after := (run_maintRead_after placed isRemote isHost .active target success).1
      simp [success, after]
    · simp [success]

theorem discoverTakes_iff (placed : pe.Placed host) (isRemote : pe.isMport = false)
    (releases : env.ReleasesOk) (args : DiscoverArgs) (target : Option Pe) :
    env.DiscoverTakes host pe args target locks ↔
      (args.port < args.portCount ∧ args.isSwitch = true ∧ args.isKnown = false) ∧
        (env.run (riocpPeIsPortActive host pe args.hasEfptr target) locks).1.1 = some true ∧
        env.Takes host pe (env.run (riocpPeIsPortActive host pe args.hasEfptr target) locks).1.2
          (env.run (riocpPeIsPortActive host pe args.hasEfptr target) locks).2 := by
  cases isHost : host.isHost with
  | false => simp [Env.DiscoverTakes, Env.Takes, isHost]
  | true =>
    have active := run_isPortActive env locks placed isRemote isHost releases
      args.hasEfptr target
    simp only [Env.DiscoverTakes, Env.Takes, isRemote, isHost, true_and, and_true, active,
      and_assoc]
    refine and_congr_right fun _ => and_congr_right fun _ => and_congr_right fun _ =>
      and_congr_right fun hasEfptr => and_congr_right fun reads =>
        and_congr_right fun isActive => ?_
    have success :
        (env.run (riocpPeMaintRead host .active pe .other target) locks).1.1 = .success :=
      (run_maintRead isHost releases .active pe .other target).mpr reads
    obtain ⟨found, mport⟩ := run_maintRead_after placed isRemote isHost .active target success
    simp only [riocpPeIsPortActive, hasEfptr, if_true, Access.run_bind, Access.run_pure, found,
      Env.Reads, Env.RouteReady, isRemote, Bool.false_eq_true, false_or, reduceCtorEq, and_assoc]
    by_cases empty : pe.path = []
    · simp [empty, Env.SetsHops]
    · rw [← mport empty]

theorem requests_creation (creation : Creation)
    (maintain : ∀ call, MayMaintain host may gives call pe) (n : Nat) (target : Option Pe) :
    Requests may gives (creation.program host pe n target) := by
  induction creation generalizing n target with
  | done ret => exact requests_pure _
  | driver next ih =>
    exact (requests_driver (maintain .maint).look _).bind fun answer _ => ih answer _ _
  | read reg next ih =>
    exact (requests_maintRead reg target (maintain _)).bind fun result _ => ih _ _ _ _

theorem requests_discoverFound (target : Option Pe)
    (maintain : ∀ call, MayMaintain host may gives call (pe.behind args.peer)) :
    Requests may gives (discoverFound host pe args target) := by
  refine (requests_driver (maintain .maint).look .comptag).bind fun answer _ => ?_
  cases answer with
  | none => exact requests_pure _
  | some comptag =>
    simp only
    split
    · exact requests_pure _
    · split
      · exact requests_pure _
      · exact (requests_creation _ maintain 0 target).bind fun _ _ => requests_pure _

theorem requests_isPortActive (hasEfptr : Bool) (target : Option Pe)
    (maintain : MayMaintain host may gives .active pe) :
    Requests may gives (riocpPeIsPortActive host pe hasEfptr target) := by
  unfold riocpPeIsPortActive
  split
  · exact (requests_maintRead _ target maintain).bind fun _ _ => requests_pure _
  · exact requests_pure _

theorem requests_searchRoute (look : MayLook may) (port : Nat) (dids : List Nat) :
    Requests may gives (searchRoute port dids) := by
  induction dids with
  | nil => exact requests_pure _
  | cons didVal rest ih =>
    refine (requests_driver look _).bind fun answer _ => ?_
    cases answer with
    | none => exact requests_pure _
    | some egress =>
      simp only
      split
      · exact requests_pure _
      · exact ih

theorem run_discoverFound (noHandle : env.NoNewHandle args) (target : Option Pe) :
    (env.run (discoverFound host pe args target) locks).2 = locks := by
  simp only [discoverFound, Access.run_bind, Access.run_perform, Env.answer]
  by_cases readOk : env.outcome .comptag = .ok
  · simp only [readOk, if_true]
    by_cases unset : env.content .comptag = 0
    · simp [unset]
    · have isKnown := (noHandle.resolve_left (not_not.mpr readOk)).resolve_left unset
      simp [unset, isKnown]
  · simp [readOk]

section

variable (placed : pe.Placed host)
include placed

/-- Discovering a device leaves the lock that it runs under. -/
theorem run_discoverLocked (isRemote : pe.isMport = false) (noHandle : env.NoNewHandle args)
    {val : Nat} (search : Search) (target : Option Pe) (holds : locks pe.device = val) :
    (env.run (discoverLocked host pe args search target) locks).2 pe.device = val := by
  cases search with
  | noRoute => exact holds
  | failed =>
    simp only [discoverLocked, Access.run_bind, Access.run_pure]
    exact run_unlock_remote env placed isRemote target holds
  | found didVal =>
    have unlocked := run_unlock_remote env placed isRemote target holds
    simp only [discoverLocked, Access.run_bind]
    split
    · rw [run_discoverFound noHandle]
      exact unlocked
    · exact unlocked

theorem requests_discoverFound_free (args : DiscoverArgs) (target : Option Pe) :
    Requests (Spares (pe.locksOnPath host)) (FindsFree (pe.locksOnPath host))
      (discoverFound host pe args target) := by
  refine requests_discoverFound target fun call => mayMaintain_spares call fun hasPath => ?_
  refine placed.mport_notMem ?_
  rw [← Bool.not_eq_true]
  exact fun isMport => hasPath (if_pos isMport)

theorem discoverActive_free (releases : env.ReleasesOk)
    (notFree : host.didRegVal ≠ lockFree) (free : AllFree (pe.locksOnPath host) locks)
    (target : Option Pe)
    (notTakes : args.isSwitch = true → pe.isMport = false → args.isKnown = false →
      ¬env.Takes host pe target locks) :
    AllFree (pe.locksOnPath host) (env.run (discoverActive host pe args target) locks).2 := by
  unfold discoverActive
  split
  · exact allFree_run env (requests_discoverFound_free placed args target) free
  next isMport =>
    rw [Bool.not_eq_true] at isMport
    split
    · exact free
    next isKnown =>
      rw [Bool.not_eq_true] at isKnown
      split
      · exact allFree_run env (requests_discoverFound_free placed args target) free
      next isSwitch =>
        rw [Bool.not_eq_true, Bool.not_eq_false'] at isSwitch
        obtain ⟨allFree, failed⟩ := (run_lock placed releases target notFree free).2
          (notTakes isSwitch isMport isKnown)
        simp only [Access.run_bind, failed, ne_eq, not_false_eq_true, if_true]
        exact allFree

theorem discoverActive_locked (releases : env.ReleasesOk) (notFree : host.didRegVal ≠ lockFree)
    (free : AllFree (pe.locksOnPath host) locks) (target : Option Pe)
    (noHandle : env.NoNewHandle args) (isSwitch : args.isSwitch = true)
    (isRemote : pe.isMport = false) (isKnown : args.isKnown = false)
    (takes : env.Takes host pe target locks) :
    (env.run (discoverActive host pe args target) locks).2 pe.device = host.didRegVal := by
  obtain ⟨held, -⟩ := (run_lock placed releases target notFree free).1 takes
  rw [isRemote] at held
  simp only [discoverActive, isRemote, Bool.false_eq_true, if_false, isKnown, isSwitch,
    Bool.not_true, Access.run_bind]
  split
  · exact held
  · simp only [Access.run_bind]
    refine run_discoverLocked placed isRemote noHandle _ _ ?_
    exact run_of_spared (requests_searchRoute mayLook_spares _ _) held

end

variable (env) in
/-- Discovery leaves the locks on the path free unless it takes the lock of the switch; then
the lock is left unless a handle is created. -/
theorem discover_balance (args : DiscoverArgs) (placed : pe.Placed host) (releases : env.ReleasesOk)
    (notFree : host.didRegVal ≠ lockFree) (free : AllFree (pe.locksOnPath host) locks)
    (target : Option Pe) :
    (¬env.DiscoverTakes host pe args target locks →
        AllFree (pe.locksOnPath host) (env.run (riocpPeDiscover host pe args target) locks).2) ∧
      (env.NoNewHandle args → env.DiscoverTakes host pe args target locks →
        ¬AllFree (pe.locksOnPath host)
          (env.run (riocpPeDiscover host pe args target) locks).2) := by
  have activeFree : AllFree (pe.locksOnPath host)
      (env.run (riocpPeIsPortActive host pe args.hasEfptr target) locks).2 :=
    allFree_run env (requests_isPortActive _ target (mayMaintain_locksOnPath placed .active)) free
  refine ⟨fun notTakes => ?_, fun noHandle takes allFree => ?_⟩
  · unfold riocpPeDiscover
    split
    · exact free
    next inRange =>
      split
      next isSwitch =>
        simp only [Access.run_bind]
        split
        · exact activeFree
        · exact activeFree
        next isActive =>
          refine discoverActive_free placed releases notFree activeFree _ ?_
          intro _ isRemote isKnown takes
          refine notTakes ((discoverTakes_iff placed isRemote releases args target).mpr ?_)
          exact ⟨⟨Nat.lt_of_not_le inRange, isSwitch, isKnown⟩, isActive, takes⟩
      next notSwitch =>
        exact discoverActive_free placed releases notFree free _
          fun isSwitch => absurd isSwitch notSwitch
  · have isRemote : pe.isMport = false := takes.1.2.2.1
    obtain ⟨⟨inRange, isSwitch, isKnown⟩, isActive, locked⟩ :=
      (discoverTakes_iff placed isRemote releases args target).mp takes
    have held := discoverActive_locked placed releases notFree activeFree _ noHandle isSwitch
      isRemote isKnown locked
    have isFree := allFree pe.device (by simp [Pe.locksOnPath, Host.reached, isRemote])
    simp only [riocpPeDiscover, ge_iff_le, Nat.not_le.mpr inRange, if_false, isSwitch, if_true,
      Access.run_bind, isActive] at isFree
    exact notFree (held.symm.trans isFree)

section AnyId

variable (placed : pe.Placed host) (anyId : host.didRegVal = lockFree) (target : Option Pe)

include placed

theorem requests_unlock_free :
    Requests (Spares (pe.locksOnPath host)) (FindsFree (pe.locksOnPath host))
      (riocpPeUnlock host pe target) :=
  requests_unlock target (mayMaintain_locksOnPath placed .unlock) (mayClear_spares _ _)

include anyId

theorem requests_lock_anyId :
    Requests (Spares (pe.locksOnPath host)) (FindsFree (pe.locksOnPath host))
      (riocpPeLock host pe target) := by
  refine (safe_maintRead_lock placed .lock target).bind fun result found => ?_
  simp only
  split
  · exact requests_pure _
  next success =>
    rw [if_pos ((found (not_not.mp success)).trans anyId.symm)]
    exact requests_pure _

theorem requests_getRouteEntry_anyId (isSwitch : Bool) (didVal : Nat) :
    Requests (Spares (pe.locksOnPath host)) (FindsFree (pe.locksOnPath host))
      (riocpSwGetRouteEntry host pe isSwitch didVal target) := by
  unfold riocpSwGetRouteEntry
  split
  · exact requests_pure _
  · refine (requests_lock_anyId placed anyId target).bind fun lock _ => ?_
    simp only
    split
    · exact requests_pure _
    · refine (requests_driver mayLook_spares _).bind fun answer _ => ?_
      cases answer with
      | none => exact requests_pure _
      | some egress =>
        exact (requests_unlock_free placed lock.2).bind fun _ _ => requests_pure _

theorem requests_discoverActive_anyId (args : DiscoverArgs) :
    Requests (Spares (pe.locksOnPath host)) (FindsFree (pe.locksOnPath host))
      (discoverActive host pe args target) := by
  have found := fun target => requests_discoverFound_free placed args target
  unfold discoverActive
  split
  · exact found target
  · split
    · exact requests_pure _
    · split
      · exact found target
      · refine (requests_lock_anyId placed anyId target).bind fun lock _ => ?_
        simp only
        split
        · exact requests_pure _
        · refine (requests_searchRoute mayLook_spares _ _).bind fun search _ => ?_
          cases search with
          | noRoute => exact requests_pure _
          | failed => exact (requests_unlock_free placed lock.2).bind fun _ _ => requests_pure _
          | found didVal =>
            refine (requests_unlock_free placed lock.2).bind fun unlock _ => ?_
            simp only
            split
            · exact found unlock.2
            · exact requests_pure _

theorem requests_discover_anyId (args : DiscoverArgs) :
    Requests (Spares (pe.locksOnPath host)) (FindsFree (pe.locksOnPath host))
      (riocpPeDiscover host pe args target) := by
  unfold riocpPeDiscover
  split
  · exact requests_pure _
  · split
    · refine (requests_isPortActive _ target (mayMaintain_locksOnPath placed .active)).bind
        fun active _ => ?_
      simp only
      split
      · exact requests_pure _
      · exact requests_pure _
      · exact requests_discoverActive_anyId placed anyId active.2 args
    · exact requests_discoverActive_anyId placed anyId target args

end AnyId

end Lock

/-- The operations, with what they are called with besides the handle. -/
inductive Operation where
  | maintRead (reg : Reg)
  | maintWrite (reg : Reg) (val : Nat)
  | discover (args : DiscoverArgs)
  | getRouteEntry (isSwitch : Bool) (didVal : Nat)

def Operation.locksAfter (env : Env) (host : Host) (pe : Pe) (target : Option Pe)
    (locks : Locks) : Operation → Locks
  | .maintRead reg => (env.run (riocpPeMaintRead host .maint pe reg target) locks).2
  | .maintWrite reg val => (env.run (riocpPeMaintWrite host .maint pe reg val target) locks).2
  | .discover args => (env.run (riocpPeDiscover host pe args target) locks).2
  | .getRouteEntry isSwitch didVal =>
    (env.run (riocpSwGetRouteEntry host pe isSwitch didVal target) locks).2

/-- The operation takes the lock of the device and does not release it. -/
def Operation.KeepsLock (env : Env) (host : Host) (pe : Pe) (target : Option Pe) (locks : Locks) :
    Operation → Prop
  | .maintRead _ => False
  | .maintWrite reg val => env.WritesLock host pe reg val target locks
  | .discover args => host.didRegVal ≠ lockFree ∧ env.DiscoverTakes host pe args target locks
  | .getRouteEntry isSwitch didVal =>
    host.didRegVal ≠ lockFree ∧ env.LeavesLocked host pe isSwitch didVal target locks

/-- The operation may create a handle for a new device. -/
def Operation.MayCreate (env : Env) : Operation → Prop
  | .discover args => ¬env.NoNewHandle args
  | _ => False

/-- Locks on the path that are free before an operation are free after it unless the operation
takes the lock of the device and does not release it; this is exact for operations that do not
create a handle. -/
theorem lock_balance (env : Env) (host : Host) (pe : Pe) (target : Option Pe) (locks : Locks)
    (operation : Operation) (placed : pe.Placed host) (releases : env.ReleasesOk)
    (free : AllFree (pe.locksOnPath host) locks) :
    (¬operation.KeepsLock env host pe target locks →
        AllFree (pe.locksOnPath host) (operation.locksAfter env host pe target locks)) ∧
      (¬operation.MayCreate env →
        AllFree (pe.locksOnPath host) (operation.locksAfter env host pe target locks) →
        ¬operation.KeepsLock env host pe target locks) := by
  cases operation with
  | maintRead reg =>
    exact ⟨fun _ => maintRead_balance placed free _ _ _, fun _ _ keeps => keeps⟩
  | maintWrite reg val =>
    have balance := maintWrite_balance env placed free reg val target
    exact ⟨balance.mpr, fun _ => balance.mp⟩
  | discover args =>
    simp only [Operation.KeepsLock, Operation.MayCreate, not_not]
    by_cases anyId : host.didRegVal = lockFree
    · have allFree := allFree_run env (requests_discover_anyId placed anyId target args)
        free
      exact ⟨fun _ => allFree, fun _ _ keeps => keeps.1 anyId⟩
    · obtain ⟨isFree, isLocked⟩ := discover_balance env args placed releases anyId free
        target
      refine ⟨fun keeps => isFree fun takes => keeps ⟨anyId, takes⟩, ?_⟩
      exact fun noHandle allFree keeps => isLocked noHandle keeps.2 allFree
  | getRouteEntry isSwitch didVal =>
    simp only [Operation.KeepsLock]
    by_cases anyId : host.didRegVal = lockFree
    · have allFree := allFree_run env
        (requests_getRouteEntry_anyId placed anyId target isSwitch didVal) free
      exact ⟨fun _ => allFree, fun _ _ keeps => keeps.1 anyId⟩
    · have balance := swGetRouteEntry_balance env placed releases anyId free isSwitch
        didVal target
      refine ⟨fun keeps => balance.mpr fun leaves => keeps ⟨anyId, leaves⟩, ?_⟩
      exact fun _ allFree keeps => balance.mp allFree keeps.2

/-- An environment in which the entry of a routing table cannot be read. -/
def unreadableRoute : Env where
  outcome := fun
    | .getRoute _ => .failed
    | _ => .ok
  content := fun _ => errStatOk

/-- A host and a switch behind another one, all locks of which are free. -/
def oneHost : Host := ⟨0, 1, true⟩

def farSwitch : Pe := ⟨5, [3], false⟩

def noLocks : Locks := fun _ => lockFree

theorem farSwitch_placed : farSwitch.Placed oneHost :=
  ⟨fun isMport => absurd isMport (by decide), fun _ => by decide, by decide⟩

theorem unreadableRoute_releasesOk : unreadableRoute.ReleasesOk :=
  ⟨fun _ _ _ => rfl, fun _ _ _ => rfl, fun _ => rfl⟩

theorem lock_balance_farSwitch :
    AllFree (farSwitch.locksOnPath oneHost)
      ((Operation.maintRead .hostLock).locksAfter unreadableRoute oneHost farSwitch none noLocks) :=
  (lock_balance unreadableRoute oneHost farSwitch none noLocks (.maintRead .hostLock)
    farSwitch_placed unreadableRoute_releasesOk fun _ _ => rfl).1 id

/-- `riocp_sw_get_route_entry` returns without unlocking when the entry cannot be read. -/
theorem not_lock_balance_unreadableRoute :
    ¬∀ (env : Env) (host : Host) (pe : Pe) (target : Option Pe) (locks : Locks)
      (operation : Operation), pe.Placed host → env.ReleasesOk →
      AllFree (pe.locksOnPath host) locks →
      AllFree (pe.locksOnPath host) (operation.locksAfter env host pe target locks) := by
  intro balance
  have isFree := balance unreadableRoute oneHost farSwitch none noLocks (.getRouteEntry true 7)
    farSwitch_placed unreadableRoute_releasesOk (fun _ _ => rfl) 5 List.mem_cons_self
  exact absurd isFree (by decide)

end RioFabric.Riocp

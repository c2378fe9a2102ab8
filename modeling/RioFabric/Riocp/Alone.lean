import RioFabric.Riocp.Requests

/-!
# One host alone

One host runs its programs alone.  Any of the accesses may fail, except for those that release a
lock; a write that fails may have reached the register.  What a program finds and leaves is
followed through the locks on the way to a device and the lock of the device itself.
-/

namespace RioFabric.Riocp

open Lib

/-- How an access ends. -/
inductive Outcome where
  | ok
  | failed
  /-- A write reached the register, but was reported as failed. -/
  | failedAfter
  deriving DecidableEq

/-- The outcome of every access, and what the registers other than the locks hold. -/
structure Env where
  outcome : Site → Outcome
  content : Site → Nat

/-- The answer of the registers to an access. -/
def Env.answer (env : Env) : LockOp → Locks → Option Nat × Locks
  | .read site dev, locks => (if env.outcome site = .ok then some (locks dev) else none, locks)
  | .write site dev val, locks =>
    (if env.outcome site = .ok then some val else none,
      if env.outcome site = .failed then locks else locks.write dev val)
  | .driver site, locks =>
    (if env.outcome site = .ok then some (env.content site) else none, locks)

/-- The run of an operation. -/
abbrev Env.run (env : Env) {α : Type} (prog : LockProg α) (locks : Locks) : α × Locks :=
  Access.run env.answer prog locks

/-- The accesses of `riocp_pe_lock_clear` succeed. -/
structure Env.ReleasesOk (env : Env) : Prop where
  unwind : ∀ call hop acc, env.outcome (.unwind call hop acc) = .ok
  unset : ∀ call hop acc, env.outcome (.unset call hop acc) = .ok
  unlock : ∀ acc, env.outcome (.unlock acc) = .ok

/-- The devices whose locks are on the path to a device: the switches and the device itself. -/
def Pe.locksOnPath (host : Host) (pe : Pe) : List Nat :=
  host.reached pe.isMport pe.device :: pe.path

/-- All these locks are free. -/
def AllFree (devs : List Nat) (locks : Locks) : Prop := ∀ dev ∈ devs, locks dev = lockFree

/-- A handle in a topology: no switch is passed twice, and the way to another device starts
behind the master port. -/
structure Pe.Placed (host : Host) (pe : Pe) : Prop where
  local_path : pe.isMport = true → pe.path = []
  remote : pe.isMport = false → host.mport ∉ pe.path ∧ pe.device ≠ host.mport
  simple : pe.device ∉ pe.path

section Spared

variable {env : Env} {host : Host} {devs : List Nat} {α : Type} {prog : LockProg α} {locks : Locks}

/-- Writes to other locks only. -/
def Spares (devs : List Nat) : LockOp → Prop
  | .write _ dev _ => dev ∉ devs
  | _ => True

/-- The locks are found to be free. -/
def FindsFree (devs : List Nat) : LockOp → Option Nat → Prop
  | .read _ dev, answer => dev ∈ devs → answer = none ∨ answer = some lockFree
  | _, _ => True

theorem mayLook_spares : MayLook (Spares devs) := ⟨fun _ _ => trivial, fun _ => trivial⟩

theorem mayClear_spares (site : LockAcc → Site) (dev : Nat) :
    MayClear (Spares devs) (FindsFree devs) site dev := by
  intro lock found
  by_cases spared : dev ∈ devs
  · refine .inl ?_
    rcases found spared with none | free
    · cases none
    · exact Option.some.inj free
  · exact .inr spared

theorem mayMaintain_spares (call : Call) {pe : Pe} (mport : pe.path ≠ [] → host.mport ∉ devs) :
    MayMaintain host (Spares devs) (FindsFree devs) call pe where
  look := mayLook_spares
  set := fun isRemote _ => mport isRemote
  unwind := fun dev _ _ => mayClear_spares _ dev
  unset := fun dev _ _ => mayClear_spares _ dev

theorem write_of_ne (locks : Locks) {dev other : Nat} (val : Nat) (different : other ≠ dev) :
    locks.write dev val other = locks other := by
  unfold Locks.write
  split
  · exact Function.update_of_ne different _ _
  · split
    · exact Function.update_of_ne different _ _
    · rfl

variable (env) in
theorem safe_run {post : α → Prop} (safe : prog.Safe (Spares devs) (FindsFree devs) post)
    (free : AllFree devs locks) :
    AllFree devs (env.run prog locks).2 ∧ post (env.run prog locks).1 := by
  refine Access.Safe.run (AllFree devs) safe ?_ ?_ free
  · intro op locks free
    cases op with
    | read site dev =>
      intro spared
      simp only [Env.answer]
      split
      · exact .inr (congrArg some (free dev spared))
      · exact .inl rfl
    | write site dev val => trivial
    | driver site => trivial
  · intro op locks spares free
    cases op with
    | read site dev => exact free
    | write site dev val =>
      intro other inDevs
      have notIn : dev ∉ devs := spares
      have different : other ≠ dev := fun same => notIn (same ▸ inDevs)
      simp only [Env.answer]
      split
      · exact free other inDevs
      · exact (write_of_ne locks val different).trans (free other inDevs)
    | driver site => exact free

variable (env) in
theorem allFree_run (requests : Requests (Spares devs) (FindsFree devs) prog)
    (free : AllFree devs locks) :
    AllFree devs (env.run prog locks).2 :=
  (safe_run env requests free).1

/-- A run that spares a device leaves its lock as it was. -/
theorem run_of_spared {dev val : Nat} (requests : Requests (Spares [dev]) (fun _ _ => True) prog)
    (holds : locks dev = val) :
    (env.run prog locks).2 dev = val := by
  refine (Access.Safe.run (fun locks : Locks => locks dev = val) requests (fun _ _ _ => trivial) ?_
    holds).1
  intro op locks spares holds
  cases op with
  | read site other => exact holds
  | write site other val =>
    have notIn : other ∉ [dev] := spares
    have different : dev ≠ other := fun same => notIn (List.mem_singleton.mpr same.symm)
    simp only [Env.answer]
    split
    · exact holds
    · exact (write_of_ne locks val different).trans holds
  | driver site => exact holds

end Spared

/-- `riocp_pe_lock_set` succeeds, by what it finds and by the outcomes of its accesses. -/
def Env.Sets (env : Env) (site : LockAcc → Site) (own lock : Nat) : Prop :=
  env.outcome (site .read) = .ok ∧
    (lock = own ∨
      lock = lockFree ∧ env.outcome (site .write) = .ok ∧ env.outcome (site .verify) = .ok)

/-- The locks of all hops are set; after the first one the lock is the host's own. -/
def Env.SetsHops (env : Env) (call : Call) (own : Nat) : Nat → List (Nat × Nat) → Prop
  | _, [] => True
  | lock, (_, hop) :: rest => env.Sets (.set call hop) own lock ∧ env.SetsHops call own own rest

/-- The route entry of the last hop, whose result is returned. -/
def Env.LastRoute (env : Env) (call : Call) (hops : List (Nat × Nat)) : Prop :=
  ∀ hop ∈ hops.getLast?, env.outcome (.route call hop.2) = .ok

/-- The route to a device is set, or is the one that was set last. -/
def Env.RouteReady (env : Env) (host : Host) (call : Call) (pe : Pe) (target : Option Pe)
    (locks : Locks) : Prop :=
  target = some pe ∨
    env.SetsHops call host.didRegVal (locks host.mport) pe.path.zipIdx ∧
      env.LastRoute call pe.path.zipIdx

/-- `riocp_pe_maint_read` succeeds. -/
def Env.Reads (env : Env) (host : Host) (call : Call) (pe : Pe) (target : Option Pe)
    (locks : Locks) : Prop :=
  (pe.isMport = true ∨ env.RouteReady host call pe target locks) ∧
    env.outcome (.reg call) = .ok

section Route

variable {env : Env} {host : Host} {locks : Locks}

theorem run_lockRead (isHost : host.isHost = true) (viaMport : Bool) (site : Site) (dev : Nat) :
    env.run (riocpPeLockRead host viaMport site dev) locks =
      (if env.outcome site = .ok then some (locks (host.reached viaMport dev)) else none,
        locks) := by
  simp only [riocpPeLockRead, isHost, Bool.true_or, if_true]
  rfl

theorem run_lockWrite (isHost : host.isHost = true) (viaMport : Bool) (site : Site)
    (dev val : Nat) :
    env.run (riocpPeLockWrite host viaMport site dev val) locks =
      (decide (env.outcome site = .ok),
        if env.outcome site = .failed then locks
        else locks.write (host.reached viaMport dev) val) := by
  simp only [riocpPeLockWrite, isHost, if_true, Access.run_bind, Access.run_perform,
    Access.run_pure, Env.answer]
  congr 1
  split
  next isOk => simp [isOk]
  next notOk => simp [notOk]

theorem write_free {dev val : Nat} (free : locks dev = lockFree) :
    locks.write dev val dev = val := by
  rw [Locks.write, if_pos free, Function.update_self]

section

variable (isHost : host.isHost = true)
include isHost

variable (env) (locks) in
theorem run_lockSet (site : LockAcc → Site) (dev : Nat) :
    ((env.run (riocpPeLockSet host true site dev) locks).1 = .success ↔
        env.Sets site host.didRegVal (locks host.mport)) ∧
      ((env.run (riocpPeLockSet host true site dev) locks).1 = .success →
        (env.run (riocpPeLockSet host true site dev) locks).2 host.mport = host.didRegVal) := by
  have reached : host.reached true dev = host.mport := rfl
  simp only [riocpPeLockSet, Access.run_bind, run_lockRead isHost, Env.Sets, reached]
  by_cases readOk : env.outcome (site .read) = .ok
  · simp only [readOk, if_true, true_and]
    by_cases mine : locks host.mport = host.didRegVal
    · simp [mine]
    · simp only [mine, if_false, false_or, Access.run_bind, run_lockWrite isHost, reached]
      by_cases writeOk : env.outcome (site .write) = .ok
      · simp only [writeOk, decide_true, if_true, Access.run_bind, run_lockRead isHost, reached,
          reduceCtorEq, if_false, true_and]
        by_cases verifyOk : env.outcome (site .verify) = .ok
        · simp only [verifyOk, if_true, and_true]
          by_cases free : locks host.mport = lockFree
          · simp [write_free free, free]
          · have kept : locks.write host.mport host.didRegVal host.mport = locks host.mport := by
              rw [Locks.write, if_neg free, if_neg mine]
            simp [kept, mine, free]
        · simp [verifyOk]
      · simp [writeOk]
  · simp [readOk]

theorem run_setHops (call : Call) (hops done : List (Nat × Nat)) (ret : Rc) :
    (env.run (setHops host call hops done ret) locks).1.1 = .success ↔
      env.SetsHops call host.didRegVal (locks host.mport) hops ∧
        (if hops = [] then ret = .success else env.LastRoute call hops) := by
  induction hops generalizing done ret locks with
  | nil => simp [setHops, Env.SetsHops]
  | cons hop rest ih =>
    obtain ⟨sets, after⟩ := run_lockSet env locks isHost (.set call hop.2) hop.1
    simp only [setHops, Access.run_bind, Env.SetsHops, ← sets]
    by_cases isSet :
        (env.run (riocpPeLockSet host true (.set call hop.2) hop.1) locks).1 = .success
    · simp only [isSet, if_true, Access.run_bind, Access.run_perform, true_and]
      rw [ih]
      simp only [Env.answer, after isSet, reduceCtorEq, if_false]
      refine and_congr_right fun _ => ?_
      cases rest with
      | nil =>
        simp only [if_true, Env.LastRoute, List.getLast?_singleton, Option.mem_def,
          Option.some.injEq, forall_eq']
        by_cases routeOk : env.outcome (.route call hop.2) = .ok <;> simp [routeOk]
      | cons second rest =>
        simp [Env.LastRoute]
    · simp [isSet]

theorem run_lockClear (viaMport : Bool) {site : LockAcc → Site}
    (releases : ∀ acc, env.outcome (site acc) = .ok) (dev : Nat) :
    (env.run (riocpPeLockClear host viaMport site dev) locks).1 = .success := by
  simp only [riocpPeLockClear, Access.run_bind, run_lockRead isHost, releases, if_true]
  by_cases free : locks (host.reached viaMport dev) = lockFree
  · simp [free]
  · simp [free, run_lockWrite isHost, run_lockRead isHost, releases]

theorem run_clearHops (releases : env.ReleasesOk) (call : Call)
    (hops : List (Nat × Nat)) : (env.run (clearHops host call hops) locks).1 = .success := by
  induction hops generalizing locks with
  | nil => rfl
  | cons hop rest ih =>
    simp only [clearHops, Access.run_bind,
      run_lockClear isHost false (releases.unset call hop.2) hop.1, if_true]
    exact ih

end

section

variable (isHost : host.isHost = true)
include isHost

variable (env) (locks) in
/-- A route is set exactly if all that it takes is ready. -/
theorem run_setAnyidRoute (call : Call) (pe : Pe) (target : Option Pe) :
    (env.run (riocpPeMaintSetAnyidRoute host call pe target) locks).1.1 = .success ↔
      env.RouteReady host call pe target locks := by
  unfold riocpPeMaintSetAnyidRoute Env.RouteReady
  by_cases same : target = some pe
  · simp [isHost, same]
  · simp only [isHost, Bool.not_true, Bool.false_eq_true, if_false, same, false_or,
      Access.run_bind]
    refine (run_setHops isHost call pe.path.zipIdx [] .success).trans (and_congr_right fun _ => ?_)
    split
    next empty => simp [empty, Env.LastRoute]
    next => rfl

/-- An access succeeds exactly if its route is set and it succeeds itself. -/
theorem run_maintAccess (releases : env.ReleasesOk) (call : Call) (pe : Pe)
    {access : LockProg (Option Nat)} (target : Option Pe) {isOk : Prop}
    (own : ∀ locks, (env.run access locks).1.isSome = true ↔ isOk) :
    (env.run (maintAccess host call pe access target) locks).1.1 = .success ↔
      (pe.isMport = true ∨ env.RouteReady host call pe target locks) ∧ isOk := by
  unfold maintAccess
  by_cases isMport : pe.isMport = true
  · simp only [isMport, if_true, Access.run_bind, true_or, true_and]
    rw [← own locks]
    cases (env.run access locks).1 <;> simp
  · simp only [isMport, Bool.false_eq_true, if_false, false_or, Access.run_bind]
    rw [← run_setAnyidRoute env locks isHost]
    by_cases isSet : (env.run (riocpPeMaintSetAnyidRoute host call pe target) locks).1.1 = .success
    · simp only [isSet, if_true, true_and, Access.run_bind]
      generalize (env.run (riocpPeMaintSetAnyidRoute host call pe target) locks).2 = after
      rw [← own after]
      cases (env.run access after).1 with
      | none => simp
      | some val =>
        simp only [Option.isSome_some, iff_true, Access.run_bind]
        unfold riocpPeMaintUnsetAnyidRoute
        split
        · rfl
        · simp only [Access.run_bind, run_clearHops isHost releases]
          rfl
    · simp [isSet]

theorem run_regRd (call : Call) (pe : Pe) (reg : Reg) :
    (env.run (riocpDrvRegRd host call pe reg) locks).1.isSome = true ↔
      env.outcome (.reg call) = .ok := by
  unfold riocpDrvRegRd
  simp only [isHost, Bool.true_or, if_true]
  cases reg <;> by_cases isOk : env.outcome (.reg call) = .ok <;>
    simp [Env.answer, isOk]

theorem run_maintRead (releases : env.ReleasesOk) (call : Call) (pe : Pe) (reg : Reg)
    (target : Option Pe) :
    (env.run (riocpPeMaintRead host call pe reg target) locks).1.1 = .success ↔
      env.Reads host call pe target locks :=
  run_maintAccess isHost releases call pe target fun _ => run_regRd isHost call pe reg

end

end Route

/-- `riocp_pe_lock` takes the lock of the device. -/
def Env.Takes (env : Env) (host : Host) (pe : Pe) (target : Option Pe) (locks : Locks) : Prop :=
  host.isHost = true ∧ env.Reads host .lock pe target locks ∧
    env.outcome (.lock .write) ≠ .failed

section Lock

variable {env : Env} {host : Host} {locks : Locks} {pe : Pe}

section

variable (placed : pe.Placed host)
include placed

theorem Pe.Placed.mport_notMem (isRemote : pe.isMport = false) :
    host.mport ∉ pe.locksOnPath host := by
  obtain ⟨notOnPath, notDevice⟩ := placed.remote isRemote
  rw [Pe.locksOnPath, isRemote, List.mem_cons, not_or]
  exact ⟨Ne.symm notDevice, notOnPath⟩

theorem mayMaintain_locksOnPath (call : Call) :
    MayMaintain host (Spares (pe.locksOnPath host)) (FindsFree (pe.locksOnPath host)) call pe := by
  refine mayMaintain_spares call fun notEmpty => placed.mport_notMem ?_
  rw [← Bool.not_eq_true]
  exact fun isMport => notEmpty (placed.local_path isMport)

theorem safe_maintRead_lock (call : Call) (target : Option Pe) :
    (riocpPeMaintRead host call pe .hostLock target).Safe (Spares (pe.locksOnPath host))
      (FindsFree (pe.locksOnPath host))
      fun result => result.1 = .success → result.2.1 = lockFree := by
  have own : (riocpDrvRegRd host call pe .hostLock).Safe (Spares (pe.locksOnPath host))
      (FindsFree (pe.locksOnPath host))
      fun answer => ∀ val, answer = some val → val = lockFree := by
    unfold riocpDrvRegRd
    split
    · refine Access.Safe.perform trivial fun answer found val isSome => ?_
      rcases found List.mem_cons_self with none | isFree
      · rw [isSome] at none
        cases none
      · rw [isSome] at isFree
        exact Option.some.inj isFree
    · exact Access.Safe.of_pure (by simp)
  exact safe_maintAccess target (mayMaintain_locksOnPath placed call) own

/-- A lock is taken on a free path: who holds it then, and when this is success. -/
theorem run_lock (releases : env.ReleasesOk) (target : Option Pe)
    (notFree : host.didRegVal ≠ lockFree) (free : AllFree (pe.locksOnPath host) locks) :
    (env.Takes host pe target locks →
        (env.run (riocpPeLock host pe target) locks).2 (host.reached pe.isMport pe.device) =
            host.didRegVal ∧
          ((env.run (riocpPeLock host pe target) locks).1.1 = .success ↔
            env.outcome (.lock .write) = .ok ∧ env.outcome (.lock .verify) = .ok)) ∧
      (¬env.Takes host pe target locks →
        AllFree (pe.locksOnPath host) (env.run (riocpPeLock host pe target) locks).2 ∧
          (env.run (riocpPeLock host pe target) locks).1.1 ≠ .success) := by
  obtain ⟨freeAfter, found⟩ : _ ∧ _ :=
    safe_run env (safe_maintRead_lock placed .lock target) free
  have reads : host.isHost = true →
      ((env.run (riocpPeMaintRead host .lock pe .hostLock target) locks).1.1 = .success ↔
        env.Reads host .lock pe target locks) :=
    fun isHost => run_maintRead isHost releases .lock pe .hostLock target
  simp only [riocpPeLock, Access.run_bind, Env.Takes, Env.run] at freeAfter found reads ⊢
  generalize Access.run env.answer (riocpPeMaintRead host .lock pe .hostLock target) locks = read
    at freeAfter found reads ⊢
  obtain ⟨⟨ret, lock, after⟩, locksAfter⟩ := read
  simp only at freeAfter found reads ⊢
  by_cases isRead : ret = .success
  · have isFree : lock = lockFree := found isRead
    have devFree : locksAfter (host.reached pe.isMport pe.device) = lockFree :=
      freeAfter _ List.mem_cons_self
    subst isRead isFree
    simp only [ne_eq, not_true_eq_false, if_false, Ne.symm notFree, Access.run_bind]
    cases isHost : host.isHost with
    | false => simp [riocpPeLockWrite, isHost, freeAfter]
    | true =>
      have isReads : env.Reads host .lock pe target locks := (reads isHost).mp rfl
      simp only [run_lockWrite isHost, isReads, true_and]
      cases wrote : env.outcome (.lock .write) with
      | failed => simp [freeAfter]
      | failedAfter => simp [write_free devFree]
      | ok =>
        simp only [decide_true, if_true, reduceCtorEq, if_false, Access.run_bind,
          run_lockRead isHost, not_false_eq_true, not_true_eq_false, true_implies,
          false_implies, and_true, true_and]
        by_cases verifyOk : env.outcome (.lock .verify) = .ok <;>
          simp [verifyOk, write_free devFree]
  · simp only [ne_eq, isRead, not_false_eq_true, if_true, Access.run_pure, reduceCtorEq]
    refine ⟨fun takes => absurd ((reads takes.1).mpr takes.2.1) isRead, fun _ => ?_⟩
    exact ⟨freeAfter, trivial⟩

theorem mayMaintain_device (isRemote : pe.isMport = false) (call : Call) :
    MayMaintain host (Spares [pe.device]) (fun _ _ => True) call pe where
  look := mayLook_spares
  set := fun _ _ => by
    simpa [Spares] using (placed.remote isRemote).2.symm
  unwind := fun dev onPath _ _ _ => .inr <| by
    simp only [Spares, List.mem_singleton]
    rintro rfl
    exact placed.simple onPath
  unset := fun dev onPath _ _ _ => .inr <| by
    simp only [Spares, List.mem_singleton]
    rintro rfl
    exact placed.simple onPath

end

variable (env) in
theorem run_unlock_remote (placed : pe.Placed host) (isRemote : pe.isMport = false)
    (target : Option Pe) {val : Nat} (holds : locks pe.device = val) :
    (env.run (riocpPeUnlock host pe target) locks).2 pe.device = val := by
  refine run_of_spared (requests_unlock target (mayMaintain_device placed isRemote _) ?_) holds
  intro lock _
  exact .inr (by simpa [Spares] using (placed.remote isRemote).2.symm)

theorem run_unlock_local (isHost : host.isHost = true) (isLocal : pe.isMport = true)
    (releases : env.ReleasesOk) (target : Option Pe) (notFree : host.didRegVal ≠ lockFree)
    (holds : locks host.mport = host.didRegVal) :
    (env.run (riocpPeUnlock host pe target) locks).2 host.mport = lockFree ↔
      env.outcome (.reg .unlock) = .ok := by
  have reached : ∀ dev, host.reached true dev = host.mport := fun _ => rfl
  simp only [riocpPeUnlock, riocpPeMaintRead, maintAccess, isLocal, if_true, riocpDrvRegRd, isHost,
    Bool.true_or, Access.run_bind, Access.run_perform, Env.answer, reached]
  by_cases readOk : env.outcome (.reg .unlock) = .ok
  · simp [readOk, riocpPeLockClear, run_lockRead isHost, run_lockWrite isHost, releases.unlock,
      reached, holds, notFree, Locks.write]
  · simp [readOk, holds, notFree]

end Lock

end RioFabric.Riocp

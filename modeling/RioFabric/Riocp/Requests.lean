import RioFabric.Riocp.HostLock

/-!
# What the operations request

The operations write to locks at few places only: `riocp_pe_lock_set` writes the host's own ID
to the master port's lock, `riocp_pe_lock_clear` writes what it has found.  Whatever is to be
shown of all accesses of an operation follows from what these places may write, given what they
can find.
-/

namespace RioFabric.Riocp

open Lib

variable {host : Host} {may : LockOp → Prop} {gives : LockOp → Option Nat → Prop} {viaMport : Bool}
  {dev : Nat} {site : LockAcc → Site} {call : Call} {hops : List (Nat × Nat)} {pe : Pe}
  {access : LockProg (Option Nat)}

/-- A program all of whose accesses are allowed. -/
abbrev Requests (may : LockOp → Prop) (gives : LockOp → Option Nat → Prop) {α : Type}
    (prog : LockProg α) : Prop :=
  prog.Safe may gives fun _ => True

/-- Accesses that are not writes to locks are allowed. -/
structure MayLook (may : LockOp → Prop) : Prop where
  read : ∀ site dev, may (.read site dev)
  driver : ∀ site, may (.driver site)

/-- `riocp_pe_lock_clear` finds the lock free or may write what it finds. -/
def MayClear (may : LockOp → Prop) (gives : LockOp → Option Nat → Prop) (site : LockAcc → Site)
    (dev : Nat) : Prop :=
  ∀ lock, gives (.read (site .read) dev) (some lock) →
    lock = lockFree ∨ may (.write (site .write) dev lock)

/-- What the route of a maintenance access may write. -/
structure MayMaintain (host : Host) (may : LockOp → Prop) (gives : LockOp → Option Nat → Prop)
    (call : Call) (pe : Pe) : Prop where
  look : MayLook may
  set : pe.path ≠ [] → ∀ hop, may (.write (.set call hop .write) host.mport host.didRegVal)
  unwind : ∀ dev ∈ pe.path, ∀ hop, MayClear may gives (.unwind call hop) dev
  unset : ∀ dev ∈ pe.path, ∀ hop, MayClear may gives (.unset call hop) dev

theorem requests_pure {α : Type} (value : α) : Requests may gives (pure value : LockProg α) :=
  trivial

theorem requests_driver (look : MayLook may) (site : Site) :
    Requests may gives (.perform (.driver site)) :=
  Access.Safe.perform (look.driver site) fun _ _ => trivial

theorem requests_lockRead (look : MayLook may) (viaMport : Bool) (site : Site) (dev : Nat) :
    (riocpPeLockRead host viaMport site dev).Safe may gives fun answer =>
      ∀ lock, answer = some lock → gives (.read site (host.reached viaMport dev)) answer := by
  unfold riocpPeLockRead
  split
  · exact Access.Safe.perform (look.read _ _) fun _ given _ _ => given
  · exact Access.Safe.of_pure (by simp)

theorem requests_lockWrite {site : Site} {val : Nat}
    (allowed : host.isHost = true → may (.write site (host.reached viaMport dev) val)) :
    Requests may gives (riocpPeLockWrite host viaMport site dev val) := by
  unfold riocpPeLockWrite
  split
  next isHost =>
    exact Access.Safe.bind (Access.Safe.perform (allowed isHost) fun _ _ => trivial)
      fun _ _ => requests_pure _
  · exact requests_pure _

section

variable (look : MayLook may)
include look

theorem requests_lockSet
    (allowed : may (.write (site .write) (host.reached viaMport dev) host.didRegVal)) :
    Requests may gives (riocpPeLockSet host viaMport site dev) := by
  refine (requests_lockRead look viaMport _ dev).bind fun answer _ => ?_
  cases answer with
  | none => exact requests_pure _
  | some lock =>
    simp only
    split
    · exact requests_pure _
    · refine (requests_lockWrite fun _ => allowed).bind fun written _ => ?_
      split
      · refine (requests_lockRead look viaMport _ dev).bind fun answer _ => ?_
        cases answer with
        | none => exact requests_pure _
        | some lock =>
          simp only
          split <;> exact requests_pure _
      · exact requests_pure _

theorem requests_lockClear (clear : MayClear may gives site (host.reached viaMport dev)) :
    Requests may gives (riocpPeLockClear host viaMport site dev) := by
  refine (requests_lockRead look viaMport _ dev).bind fun answer found => ?_
  cases answer with
  | none => exact requests_pure _
  | some lock =>
    simp only
    split
    · exact requests_pure _
    next notFree =>
      have allowed := (clear lock (found lock rfl)).resolve_left notFree
      refine (requests_lockWrite fun _ => allowed).bind fun written _ => ?_
      split
      · refine (requests_lockRead look viaMport _ dev).bind fun answer _ => ?_
        cases answer <;> exact requests_pure _
      · exact requests_pure _

theorem requests_unwindHops (clear : ∀ hop ∈ hops, MayClear may gives (.unwind call hop.2) hop.1) :
    Requests may gives (unwindHops host call hops) := by
  induction hops with
  | nil => exact requests_pure _
  | cons hop rest ih =>
    refine (requests_lockClear look (clear hop List.mem_cons_self)).bind fun ret _ => ?_
    split
    · exact ih fun other inRest => clear other (List.mem_cons_of_mem hop inRest)
    · exact requests_pure _

theorem requests_clearHops (clear : ∀ hop ∈ hops, MayClear may gives (.unset call hop.2) hop.1) :
    Requests may gives (clearHops host call hops) := by
  induction hops with
  | nil => exact requests_pure _
  | cons hop rest ih =>
    refine (requests_lockClear look (clear hop List.mem_cons_self)).bind fun ret _ => ?_
    split
    · exact ih fun other inRest => clear other (List.mem_cons_of_mem hop inRest)
    · exact requests_pure _

end

theorem requests_setHops {done : List (Nat × Nat)} (ret : Rc) (look : MayLook may)
    (allowed : hops ≠ [] → ∀ hop, may (.write (.set call hop .write) host.mport host.didRegVal))
    (clear : ∀ hop ∈ hops ++ done, MayClear may gives (.unwind call hop.2) hop.1) :
    Requests may gives (setHops host call hops done ret) := by
  induction hops generalizing done ret with
  | nil => exact requests_pure _
  | cons hop rest ih =>
    have moved : ∀ other ∈ rest ++ hop :: done,
        MayClear may gives (.unwind call other.2) other.1 := by
      intro other inHops
      refine clear other ?_
      simp only [List.cons_append, List.mem_cons, List.mem_append] at inHops ⊢
      tauto
    have write := allowed (List.cons_ne_nil hop rest)
    have sets : Requests may gives (riocpPeLockSet host true (.set call hop.2) hop.1) :=
      requests_lockSet look (write hop.2)
    refine sets.bind fun ret _ => ?_
    split
    · exact (requests_driver look _).bind fun _ _ => ih _ (fun _ => write) moved
    · refine (requests_unwindHops look fun other inDone => ?_).bind fun _ _ => requests_pure _
      exact moved other (List.mem_append_right rest inDone)

theorem requests_setAnyidRoute (target : Option Pe)
    (maintain : MayMaintain host may gives call pe) :
    Requests may gives (riocpPeMaintSetAnyidRoute host call pe target) := by
  unfold riocpPeMaintSetAnyidRoute
  split
  · exact requests_pure _
  · split
    · exact requests_pure _
    · refine (requests_setHops _ maintain.look (fun hops => maintain.set fun empty => ?_)
        fun hop inHops => ?_).bind fun _ _ => requests_pure _
      · exact hops (by rw [empty]; rfl)
      rw [List.append_nil] at inHops
      exact maintain.unwind hop.1 (List.fst_mem_of_mem_zipIdx inHops) hop.2

theorem requests_unsetAnyidRoute (target : Option Pe) (look : MayLook may)
    (clear : ∀ dev ∈ pe.path, ∀ hop, MayClear may gives (.unset call hop) dev) :
    Requests may gives (riocpPeMaintUnsetAnyidRoute host call pe target) := by
  unfold riocpPeMaintUnsetAnyidRoute
  split
  · exact requests_pure _
  · refine (requests_clearHops look fun hop inHops => ?_).bind fun _ _ => requests_pure _
    have inPath := List.fst_mem_of_mem_zipIdx (List.mem_reverse.mp inHops)
    exact clear hop.1 inPath hop.2

theorem safe_maintAccess {P : Nat → Prop} (target : Option Pe)
    (maintain : MayMaintain host may gives call pe)
    (own : access.Safe may gives fun answer => ∀ val, answer = some val → P val) :
    (maintAccess host call pe access target).Safe may gives fun result =>
      result.1 = .success → P result.2.1 := by
  unfold maintAccess
  split
  · refine own.bind fun answer found => ?_
    cases answer with
    | none => exact Access.Safe.of_pure (by simp)
    | some val => exact Access.Safe.of_pure fun _ => found val rfl
  · refine (requests_setAnyidRoute target maintain).bind fun isSet _ => ?_
    simp only
    split
    · refine own.bind fun answer found => ?_
      cases answer with
      | none => exact Access.Safe.of_pure (by simp)
      | some val =>
        exact (requests_unsetAnyidRoute isSet.2 maintain.look maintain.unset).bind
          fun _ _ => Access.Safe.of_pure fun _ => found val rfl
    · exact Access.Safe.of_pure (by simp)

theorem requests_maintAccess (target : Option Pe) (maintain : MayMaintain host may gives call pe)
    (own : Requests may gives access) :
    Requests may gives (maintAccess host call pe access target) := by
  have anyVal : access.Safe may gives fun answer => ∀ val : Nat, answer = some val → True :=
    own.mono fun _ _ _ _ => trivial
  exact (safe_maintAccess target maintain anyVal).mono fun _ _ => trivial

theorem requests_maintRead (reg : Reg) (target : Option Pe)
    (maintain : MayMaintain host may gives call pe) :
    Requests may gives (riocpPeMaintRead host call pe reg target) := by
  refine requests_maintAccess target maintain ?_
  unfold riocpDrvRegRd
  split
  · cases reg with
    | hostLock => exact Access.Safe.perform (maintain.look.read _ _) fun _ _ => trivial
    | other => exact requests_driver maintain.look _
  · exact requests_pure _

theorem requests_maintWrite {reg : Reg} {val : Nat} (target : Option Pe)
    (maintain : MayMaintain host may gives call pe)
    (allowed : reg = .hostLock → may (.write (.reg call) (host.reached pe.isMport pe.device) val)) :
    Requests may gives (riocpPeMaintWrite host call pe reg val target) := by
  refine (requests_maintAccess target maintain ?_).bind fun _ _ => requests_pure _
  unfold riocpDrvRegWr
  split
  · cases reg with
    | hostLock => exact Access.Safe.perform (allowed rfl) fun _ _ => trivial
    | other => exact requests_driver maintain.look _
  · exact requests_pure _

theorem requests_lock (target : Option Pe) (maintain : MayMaintain host may gives .lock pe)
    (allowed : host.isHost = true →
      may (.write (.lock .write) (host.reached pe.isMport pe.device) host.didRegVal)) :
    Requests may gives (riocpPeLock host pe target) := by
  refine (requests_maintRead .hostLock target maintain).bind fun result _ => ?_
  simp only
  split
  · exact requests_pure _
  · split
    · exact requests_pure _
    · split
      · exact requests_pure _
      · refine (requests_lockWrite allowed).bind fun written _ => ?_
        split
        · refine (requests_lockRead maintain.look _ _ _).bind fun answer _ => ?_
          cases answer <;> exact requests_pure _
        · exact requests_pure _

theorem requests_unlock (target : Option Pe) (maintain : MayMaintain host may gives .unlock pe)
    (clear : MayClear may gives .unlock host.mport) :
    Requests may gives (riocpPeUnlock host pe target) := by
  have clears : Requests may gives (riocpPeLockClear host true .unlock pe.device) :=
    requests_lockClear maintain.look clear
  refine (requests_maintRead .hostLock target maintain).bind fun result _ => ?_
  simp only
  split
  · exact requests_pure _
  · exact clears.bind fun _ _ => requests_pure _

end RioFabric.Riocp

import RioFabric.Lib.Actions
import RioFabric.Riocp.Requests

/-!
# Two hosts and their locks

Two hosts run maintenance accesses, `riocp_pe_lock` and `riocp_pe_unlock` one after the other,
each on its own; their register accesses are interleaved in any order.  An access may fail, and
a write that is reported as failed may have reached the register.
-/

namespace RioFabric.Riocp

open Lib

/-- The operations of a host. -/
inductive HostCall where
  | read (pe : Pe) (reg : Reg)
  | write (pe : Pe) (reg : Reg) (val : Nat)
  | lock (pe : Pe)
  | unlock (pe : Pe)

/-- The program of an operation. -/
def HostCall.program (host : Host) (target : Option Pe) : HostCall → LockProg (Rc × Option Pe)
  | .read pe reg => do
      let (ret, _, target) ← riocpPeMaintRead host .maint pe reg target
      pure (ret, target)
  | .write pe reg val => riocpPeMaintWrite host .maint pe reg val target
  | .lock pe => riocpPeLock host pe target
  | .unlock pe => riocpPeUnlock host pe target

/-- The registers, what is left of the operation of each host, and the locks that each host has
taken and not freed itself.  A host without an operation keeps its `any_id_target`. -/
structure Net where
  locks : Locks
  prog : Bool → LockProg (Rc × Option Pe)
  holds : Bool → Nat → Bool

/-- Both hosts are idle. -/
def Net.start (locks : Locks) : Net := ⟨locks, fun _ => pure (.success, none), fun _ _ => false⟩

/-- The steps of the hosts. -/
inductive NetAction where
  /-- A host starts an operation. -/
  | call (h : Bool) (op : HostCall)
  /-- The next access of a host succeeds or fails; `effect` says whether a write that fails
  reaches the register, `val` is what a register other than a lock holds. -/
  | access (h ok effect : Bool) (val : Nat)

variable (hosts : Bool → Host)

/-- `riocp_pe_unlock` is called for a lock that the host holds. -/
def Net.mayCall (net : Net) (h : Bool) : HostCall → Prop
  | .unlock pe => net.locks ((hosts h).reached pe.isMport pe.device) = (hosts h).didRegVal
  | _ => True

instance (net : Net) (h : Bool) : (op : HostCall) → Decidable (net.mayCall hosts h op)
  | .unlock _ => inferInstanceAs (Decidable (_ = _))
  | .read .. | .write .. | .lock _ => .isTrue trivial

/-- A host goes on with its operation. -/
def Net.setProg (net : Net) (h : Bool) (prog : LockProg (Rc × Option Pe)) : Net :=
  { net with prog := Function.update net.prog h prog }

/-- A write reaches the register of a lock. -/
def Net.writeLock (net : Net) (h : Bool) (dev val : Nat) : Net :=
  let locks := net.locks.write dev val
  { net with
    locks := locks
    holds := Function.update net.holds h
      (Function.update (net.holds h) dev (locks dev = (hosts h).didRegVal)) }

/-- One step of one host. -/
def Net.step (net : Net) : NetAction → Option Net
  | .call h op =>
    match net.prog h with
    | .pure (_, target) =>
      if net.mayCall hosts h op then some (net.setProg h (op.program (hosts h) target))
      else none
    | .request .. => none
  | .access h ok effect val =>
    match net.prog h with
    | .pure _ => none
    | .request (.read _ dev) next =>
      some (net.setProg h (next (if ok then some (net.locks dev) else none)))
    | .request (.write _ dev val) next =>
      let after := if ok || effect then net.writeLock hosts h dev val else net
      some (after.setProg h (next (if ok then some val else none)))
    | .request (.driver _) next => some (net.setProg h (next (if ok then some val else none)))

/-- The read of `riocp_pe_lock_clear`. -/
def Site.isClearRead : Site → Bool
  | .unwind _ _ .read | .unset _ _ .read | .unlock .read => true
  | _ => false

/-- The access of a maintenance read or write itself. -/
def Site.isReg : Site → Bool
  | .reg _ => true
  | _ => false

/-- No `riocp_pe_lock_clear` finds the ID of the other host, and no maintenance write writes it
to a lock. -/
def NoForeignClear (net : Net) : NetAction → Prop
  | .call .. => True
  | .access h .. =>
    match net.prog h with
    | .request (.read site dev) _ =>
      site.isClearRead = true → net.locks dev ≠ (hosts !h).didRegVal
    | .request (.write site _ val) _ => site.isReg = true → val ≠ (hosts !h).didRegVal
    | _ => True

/-- No access of one host frees a lock of the other, and no lock is held by both. -/
def Exclusion (guard : Net → NetAction → Prop) (locks : Locks) : Prop :=
  ∀ net, Reaches (Net.step hosts) guard (.start locks) net →
    (∀ h ok effect val next, guard net (.access h ok effect val) →
      net.step hosts (.access h ok effect val) = some next →
      ∀ dev, net.locks dev = (hosts !h).didRegVal → next.locks dev = (hosts !h).didRegVal) ∧
    ∀ dev, ¬(net.holds true dev = true ∧ net.holds false dev = true)

section Programs

variable {host : Host} {other : Nat}

/-- A host writes the other's ID to a lock at most as the value of a maintenance write. -/
def MayWrite (other : Nat) : LockOp → Prop
  | .write site _ val => site.isReg = false → val ≠ other
  | _ => True

/-- `riocp_pe_lock_clear` does not find the other's ID. -/
def ClearFinds (other : Nat) : LockOp → Option Nat → Prop
  | .read site _, answer => site.isClearRead = true → answer ≠ some other
  | _, _ => True

/-- A program of a host that keeps to this. -/
abbrev Keeps (other : Nat) {α : Type} (prog : LockProg α) : Prop :=
  Requests (MayWrite other) (ClearFinds other) prog

theorem mayLook_mayWrite : MayLook (MayWrite other) := ⟨fun _ _ => trivial, fun _ => trivial⟩

theorem mayClear_of_isClearRead {site : LockAcc → Site} (isClear : (site .read).isClearRead = true)
    (dev : Nat) :
    MayClear (MayWrite other) (ClearFinds other) site dev := by
  intro lock found
  exact .inr fun _ same => found isClear (by rw [same])

theorem mayMaintain_mayWrite (different : host.didRegVal ≠ other) (call : Call) (pe : Pe) :
    MayMaintain host (MayWrite other) (ClearFinds other) call pe where
  look := mayLook_mayWrite
  set := fun _ _ _ => different
  unwind := fun dev _ _ => mayClear_of_isClearRead rfl dev
  unset := fun dev _ _ => mayClear_of_isClearRead rfl dev

theorem keeps_program (different : host.didRegVal ≠ other) (op : HostCall) (target : Option Pe) :
    Keeps other (op.program host target) := by
  have maintain := mayMaintain_mayWrite different
  cases op with
  | read pe reg =>
    exact (requests_maintRead reg target (maintain .maint pe)).bind fun _ _ => requests_pure _
  | write pe reg val =>
    exact requests_maintWrite target (maintain .maint pe) fun _ isUser => by cases isUser
  | lock pe => exact requests_lock target (maintain .lock pe) fun _ _ => different
  | unlock pe => exact requests_unlock target (maintain .unlock pe) (mayClear_of_isClearRead rfl _)

end Programs

theorem write_of_held {locks : Locks} {dev other val holder : Nat} (held : locks other = holder)
    (notFree : holder ≠ lockFree) (notHolder : dev = other → val ≠ holder) :
    locks.write dev val other = holder := by
  unfold Locks.write
  by_cases same : dev = other
  · subst same
    rw [if_neg (by rw [held]; exact notFree), if_neg (by rw [held]; exact (notHolder rfl).symm),
      held]
  · split
    · rw [Function.update_of_ne (Ne.symm same), held]
    · split
      · rw [Function.update_of_ne (Ne.symm same), held]
      · exact held

/-- Both hosts have IDs of their own, which are not the value of a free lock. -/
structure ValidIds : Prop where
  different : (hosts true).didRegVal ≠ (hosts false).didRegVal
  notFree : ∀ h, (hosts h).didRegVal ≠ lockFree

theorem ValidIds.ne_other {hosts : Bool → Host} (ids : ValidIds hosts) (h : Bool) :
    (hosts h).didRegVal ≠ (hosts !h).didRegVal := by
  cases h with
  | true => exact ids.different
  | false => exact ids.different.symm

/-- What is left of each operation keeps to its own ID, and what a host has taken is still
its own. -/
structure Net.Sound (net : Net) : Prop where
  keeps : ∀ h, Keeps (hosts !h).didRegVal (net.prog h)
  held : ∀ h dev, net.holds h dev = true → net.locks dev = (hosts h).didRegVal

variable {hosts} {net next : Net} {h : Bool}

theorem Net.Sound.setProg {prog : LockProg (Rc × Option Pe)} (sound : net.Sound hosts)
    (keeps : Keeps (hosts !h).didRegVal prog) : (net.setProg h prog).Sound hosts := by
  refine ⟨fun other => ?_, sound.held⟩
  simp only [Net.setProg]
  by_cases same : other = h
  · subst same
    rw [Function.update_self]
    exact keeps
  · rw [Function.update_of_ne same]
    exact sound.keeps other

theorem Net.Sound.writeLock (ids : ValidIds hosts) (sound : net.Sound hosts) (dev : Nat) {val : Nat}
    (notOther : val ≠ (hosts !h).didRegVal) : (net.writeLock hosts h dev val).Sound hosts := by
  refine ⟨sound.keeps, fun holder other holds => ?_⟩
  simp only [Net.writeLock] at holds ⊢
  by_cases mine : holder = h
  · subst mine
    rw [Function.update_self] at holds
    by_cases here : other = dev
    · subst here
      rw [Function.update_self] at holds
      exact of_decide_eq_true holds
    · rw [Function.update_of_ne here] at holds
      exact write_of_held (sound.held _ _ holds) (ids.notFree _) fun same => absurd same.symm here
  · have isOther : holder = !h := by
      cases holder <;> cases h <;> simp_all
    rw [Function.update_of_ne mine] at holds
    subst isOther
    exact write_of_held (sound.held _ _ holds) (ids.notFree _) fun _ => notOther

theorem sound_start (locks : Locks) : (Net.start locks).Sound hosts where
  keeps := fun _ => requests_pure _
  held := by
    intro h dev holds
    cases holds

theorem Net.Sound.writes {ok effect : Bool} {v dev val : Nat} {site : Site}
    {rest : Option Nat → LockProg (Rc × Option Pe)} (sound : net.Sound hosts)
    (guarded : NoForeignClear hosts net (.access h ok effect v))
    (isWrite : net.prog h = .request (.write site dev val) rest) :
    val ≠ (hosts !h).didRegVal := by
  have keeps := sound.keeps h
  simp only [NoForeignClear, isWrite] at guarded
  rw [isWrite] at keeps
  cases isUser : site.isReg with
  | true => exact guarded isUser
  | false => exact keeps.1 isUser

/-- Each access of a host keeps the locks sound. -/
theorem sound_step {action : NetAction} (ids : ValidIds hosts) (sound : net.Sound hosts)
    (guarded : NoForeignClear hosts net action) (taken : net.step hosts action = some next) :
    next.Sound hosts := by
  cases action with
  | call h op =>
    simp only [Net.step] at taken
    split at taken
    · split at taken <;> cases taken
      exact sound.setProg (keeps_program (ids.ne_other h) op _)
    · cases taken
  | access h ok effect val =>
    simp only [Net.step] at taken
    split at taken <;> cases taken
    next site dev rest isRead =>
      have keeps := sound.keeps h
      simp only [NoForeignClear, isRead] at guarded
      rw [isRead] at keeps
      refine sound.setProg (keeps.2 _ fun isClear => ?_)
      split
      · exact fun same => guarded isClear (Option.some.inj same)
      · simp
    next site dev val rest isWrite =>
      have notOther := sound.writes guarded isWrite
      have keeps := sound.keeps h
      rw [isWrite] at keeps
      split
      · exact (sound.writeLock ids dev notOther).setProg (keeps.2 _ trivial)
      · exact sound.setProg (keeps.2 _ trivial)
    next site rest isDriver =>
      have keeps := sound.keeps h
      rw [isDriver] at keeps
      exact sound.setProg (keeps.2 _ trivial)

/-- As long as `riocp_pe_lock_clear` finds no lock of the other host, no access of one host
frees a lock of the other. -/
theorem exclusion (ids : ValidIds hosts) (locks : Locks) :
    Exclusion hosts (NoForeignClear hosts) locks := by
  intro net reached
  have sound := reached.invariant (Net.Sound hosts) (sound_start locks)
    fun _ _ _ sound guarded taken => sound_step ids sound guarded taken
  refine ⟨fun h ok effect val next guarded taken dev held => ?_, fun dev => ?_⟩
  · simp only [Net.step] at taken
    split at taken <;> cases taken
    next => exact held
    next isWrite =>
      have notOther := sound.writes guarded isWrite
      split
      · exact write_of_held held (ids.notFree _) fun _ => notOther
      · exact held
    next => exact held
  · rintro ⟨first, second⟩
    exact ids.different ((sound.held _ _ first).symm.trans (sound.held _ _ second))

/-- Two hosts on either side of a switch. -/
def twoHosts : Bool → Host
  | false => ⟨100, 1, true⟩
  | true => ⟨200, 2, true⟩

theorem exclusion_twoHosts : Exclusion twoHosts (NoForeignClear twoHosts) fun _ => lockFree :=
  exclusion ⟨by decide, by decide⟩ _

/-- One host locks the switch 5; the other reads a register of a device behind the switch, up
to the write of `riocp_pe_lock_clear`. -/
def readBehindLock : List NetAction :=
  .call true (.lock ⟨5, [], false⟩) :: List.replicate 3 (.access true true true 0) ++
    .call false (.read ⟨6, [5], false⟩ .other) :: List.replicate 6 (.access false true true 0)

/-- The lock of the switch is freed although the other host holds it. -/
theorem not_exclusion_readBehindLock :
    ¬Exclusion twoHosts anyAction fun _ => lockFree := by
  intro excluded
  obtain ⟨net, reached, test⟩ := exists_reaches_of_execute (Net.step twoHosts) anyAction
    (.start fun _ => lockFree) readBehindLock
    (fun net => net.locks 5 = 2 ∧
      (net.step twoHosts (.access false true true 0)).any fun next => next.locks 5 ≠ 2)
    (by decide +kernel)
  obtain ⟨held, freed⟩ := of_decide_eq_true test
  obtain ⟨next, taken, notHeld⟩ := (Option.any_eq_true _ _).mp freed
  exact of_decide_eq_true notHeld ((excluded net reached).1 false true true 0 next trivial
    taken 5 held)

end RioFabric.Riocp

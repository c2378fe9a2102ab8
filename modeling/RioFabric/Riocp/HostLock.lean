import Mathlib.Data.List.Basic
import RioFabric.Lib.Access

/-!
# Host locks

Every device has a lock register `RIO_HOST_LOCK`: a host takes a free lock by writing its
device ID, and frees a lock by writing the ID that the register holds.  The library takes locks
while it programs the route to a device, and when it is asked to lock a device.

The operations are programs that access lock registers, so that they can be run alone or beside
the operations of another host.  An access through the handle of a master port is an access to
the master port's own registers (`mpsw_drv_raw_reg_rd`, `mpsw_drv_raw_reg_wr`), whatever device
ID and hop count it is given; `riocp_pe_lock_set` is always called with such a handle on the way
to a device, and `riocp_pe_lock_clear` with that of the device.

An access by the ANY_ID and a hop count is assumed to reach the device that the path of the
handle has there: the entries for the ANY_ID that the switches hold lead along the path.
-/

namespace RioFabric.Riocp

open Lib

/-- The value of a free lock, `RIO_HOST_LOCK_BASE_ID_MASK`. -/
def lockFree : Nat := 0xffff

/-- The three accesses of `riocp_pe_lock_set`, `riocp_pe_lock_clear` and `riocp_pe_lock`. -/
inductive LockAcc where
  | read | write | verify
  deriving DecidableEq

/-- The maintenance access that an access belongs to. -/
inductive Call where
  /-- The call itself. -/
  | maint
  /-- Within `riocp_pe_is_port_active`. -/
  | active
  /-- Within `riocp_pe_lock`. -/
  | lock
  /-- Within `riocp_pe_unlock`. -/
  | unlock
  /-- Within `riocp_pe_handle_create_pe`. -/
  | create (n : Nat)
  deriving DecidableEq

/-- Where in the source an access is made. -/
inductive Site where
  /-- `riocp_pe_lock_set` at a hop. -/
  | set (call : Call) (hop : Nat) (acc : LockAcc)
  /-- `riocp_drv_set_route_entry` at a hop. -/
  | route (call : Call) (hop : Nat)
  /-- `riocp_drv_reg_rd` or `riocp_drv_reg_wr`. -/
  | reg (call : Call)
  /-- `riocp_pe_lock_clear` when the route could not be set. -/
  | unwind (call : Call) (hop : Nat) (acc : LockAcc)
  /-- `riocp_pe_lock_clear` after a maintenance access. -/
  | unset (call : Call) (hop : Nat) (acc : LockAcc)
  /-- The accesses of `riocp_pe_lock` itself. -/
  | lock (acc : LockAcc)
  /-- `riocp_pe_lock_clear` of `riocp_pe_unlock`. -/
  | unlock (acc : LockAcc)
  /-- `riocp_drv_get_route_entry` for a device ID. -/
  | getRoute (didVal : Nat)
  /-- The component tag behind a port. -/
  | comptag
  /-- A driver access within `riocp_pe_handle_create_pe`. -/
  | create (n : Nat)
  deriving DecidableEq

/-- Register accesses: to the lock of a device, or such that they leave the locks alone. -/
inductive LockOp where
  | read (site : Site) (dev : Nat)
  | write (site : Site) (dev val : Nat)
  | driver (site : Site)
  deriving DecidableEq

/-- Programs that access registers; an access fails or returns a value. -/
abbrev LockProg : Type → Type := Access LockOp (Option Nat)

/-- Return values; `drv` stands for the codes of the drivers. -/
inductive Rc where
  | success | eio | eagain | einval | enodev | enosys | enomem | drv
  deriving DecidableEq

/-- A host: its master port, the device ID it locks with and whether its handles are those of a
host. -/
structure Host where
  mport : Nat
  didRegVal : Nat
  isHost : Bool

/-- A handle: the device, the switches on the way to it and whether it is the master port. -/
structure Pe where
  device : Nat
  path : List Nat
  isMport : Bool
  deriving DecidableEq

/-- A register of a maintenance access. -/
inductive Reg where
  | hostLock
  | other
  deriving DecidableEq

variable (host : Host)

section

variable (viaMport : Bool)

/-- The device that is accessed: the local one for the handle of a master port. -/
def Host.reached (dev : Nat) : Nat := if viaMport then host.mport else dev

def riocpPeLockRead (site : Site) (dev : Nat) : LockProg (Option Nat) :=
  if host.isHost || viaMport then .perform (.read site (host.reached viaMport dev)) else pure none

def riocpPeLockWrite (site : Site) (dev val : Nat) : LockProg Bool :=
  if host.isHost then do
    let answer ← .perform (.write site (host.reached viaMport dev) val)
    pure answer.isSome
  else pure false

/-- `riocp_pe_lock_set`: read, verify, write, read and verify. -/
def riocpPeLockSet (site : LockAcc → Site) (dev : Nat) : LockProg Rc := do
  match ← riocpPeLockRead host viaMport (site .read) dev with
  | none => pure .eio
  | some lock =>
    if lock = host.didRegVal then pure .success
    else if ← riocpPeLockWrite host viaMport (site .write) dev host.didRegVal then
      match ← riocpPeLockRead host viaMport (site .verify) dev with
      | none => pure .eio
      | some lock => if lock = host.didRegVal then pure .success else pure .eagain
    else pure .eio

/-- `riocp_pe_lock_clear`: write what the register holds, read and verify. -/
def riocpPeLockClear (site : LockAcc → Site) (dev : Nat) : LockProg Rc := do
  match ← riocpPeLockRead host viaMport (site .read) dev with
  | none => pure .eio
  | some lock =>
    if lock = lockFree then pure .success
    else if ← riocpPeLockWrite host viaMport (site .write) dev lock then
      match ← riocpPeLockRead host viaMport (site .verify) dev with
      | none => pure .eio
      | some _ => pure .success
    else pure .eio

end

/-- The unwinding of `riocp_pe_maint_set_anyid_route`, from the hop that failed down to 0. -/
def unwindHops (call : Call) : List (Nat × Nat) → LockProg Unit
  | [] => pure ()
  | (dev, hop) :: rest => do
      if (← riocpPeLockClear host false (.unwind call hop) dev) = .success then
        unwindHops call rest

/-- The loop of `riocp_pe_maint_set_anyid_route`.  The result of a route entry is overwritten
by the lock of the next hop; that of the last hop is returned although the route counts as
set. -/
def setHops (call : Call) : List (Nat × Nat) → List (Nat × Nat) → Rc → LockProg (Rc × Bool)
  | [], _, ret => pure (ret, true)
  | (dev, hop) :: rest, done, _ => do
      if (← riocpPeLockSet host true (.set call hop) dev) = .success then
        let route ← .perform (.driver (.route call hop))
        setHops call rest ((dev, hop) :: done) (if route.isSome then .success else .drv)
      else
        unwindHops host call ((dev, hop) :: done)
        pure (.eio, false)

/-- `riocp_pe_maint_set_anyid_route`, with `any_id_target` before and after. -/
def riocpPeMaintSetAnyidRoute (call : Call) (pe : Pe) (target : Option Pe) :
    LockProg (Rc × Option Pe) :=
  if !host.isHost then pure (.success, target)
  else if target = some pe then pure (.success, target)
  else do
    let (ret, isSet) ← setHops host call pe.path.zipIdx [] .success
    pure (ret, if isSet then some pe else none)

/-- The loop of `riocp_pe_maint_unset_anyid_route`, from the last hop down to 0. -/
def clearHops (call : Call) : List (Nat × Nat) → LockProg Rc
  | [] => pure .success
  | (dev, hop) :: rest => do
      if (← riocpPeLockClear host false (.unset call hop) dev) = .success then clearHops call rest
      else pure .eio

def riocpPeMaintUnsetAnyidRoute (call : Call) (pe : Pe) (target : Option Pe) :
    LockProg (Rc × Option Pe) :=
  if !host.isHost || pe.isMport || target.isNone then pure (.success, target)
  else do
    let ret ← clearHops host call pe.path.zipIdx.reverse
    pure (ret, none)

def riocpDrvRegRd (call : Call) (pe : Pe) (reg : Reg) : LockProg (Option Nat) :=
  if host.isHost || pe.isMport then
    match reg with
    | .hostLock => .perform (.read (.reg call) (host.reached pe.isMport pe.device))
    | .other => .perform (.driver (.reg call))
  else pure none

def riocpDrvRegWr (call : Call) (pe : Pe) (reg : Reg) (val : Nat) : LockProg (Option Nat) :=
  if host.isHost || pe.isMport then
    match reg with
    | .hostLock => .perform (.write (.reg call) (host.reached pe.isMport pe.device) val)
    | .other => .perform (.driver (.reg call))
  else pure none

/-- What `riocp_pe_maint_read` and `riocp_pe_maint_write` have in common: the access between
setting and unsetting the route.  The route stays set when the access fails. -/
def maintAccess (call : Call) (pe : Pe) (access : LockProg (Option Nat)) (target : Option Pe) :
    LockProg (Rc × Nat × Option Pe) :=
  if pe.isMport then do
    match ← access with
    | none => pure (.eio, 0, target)
    | some val => pure (.success, val, target)
  else do
    let (ret, target) ← riocpPeMaintSetAnyidRoute host call pe target
    if ret = .success then
      match ← access with
      | none => pure (.eio, 0, target)
      | some val =>
        let (ret, target) ← riocpPeMaintUnsetAnyidRoute host call pe target
        pure (if ret = .success then .success else .eio, val, target)
    else pure (.eio, 0, target)

/-- `riocp_pe_maint_read`: the return value, the value read and `any_id_target`. -/
def riocpPeMaintRead (call : Call) (pe : Pe) (reg : Reg) (target : Option Pe) :
    LockProg (Rc × Nat × Option Pe) :=
  maintAccess host call pe (riocpDrvRegRd host call pe reg) target

def riocpPeMaintWrite (call : Call) (pe : Pe) (reg : Reg) (val : Nat) (target : Option Pe) :
    LockProg (Rc × Option Pe) := do
  let (ret, _, target) ← maintAccess host call pe (riocpDrvRegWr host call pe reg val) target
  pure (ret, target)

/-- `riocp_pe_lock` with flags 0. -/
def riocpPeLock (pe : Pe) (target : Option Pe) : LockProg (Rc × Option Pe) := do
  let (ret, lock, target) ← riocpPeMaintRead host .lock pe .hostLock target
  if ret ≠ .success then pure (.eio, target)
  else if lock = host.didRegVal then pure (.success, target)
  else if lock ≠ lockFree then pure (.eagain, target)
  else if ← riocpPeLockWrite host pe.isMport (.lock .write) pe.device host.didRegVal then
    match ← riocpPeLockRead host pe.isMport (.lock .verify) pe.device with
    | none => pure (.eio, target)
    | some lock => pure (if lock = host.didRegVal then .success else .eagain, target)
  else pure (.eio, target)

/-- `riocp_pe_unlock`, which clears through the handle of the master port. -/
def riocpPeUnlock (pe : Pe) (target : Option Pe) : LockProg (Rc × Option Pe) := do
  let (ret, _, target) ← riocpPeMaintRead host .unlock pe .hostLock target
  if ret ≠ .success then pure (.eio, target)
  else
    let ret ← riocpPeLockClear host true .unlock pe.device
    pure (if ret = .success then .success else .eio, target)

/-- The lock registers of all devices. -/
abbrev Locks : Type := Nat → Nat

/-- A write to a lock: it takes a free lock, frees a lock that holds the value written, and is
ignored otherwise. -/
def Locks.write (locks : Locks) (dev val : Nat) : Locks :=
  if locks dev = lockFree then Function.update locks dev val
  else if locks dev = val then Function.update locks dev lockFree
  else locks

end RioFabric.Riocp

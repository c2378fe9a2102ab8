import RioFabric.Riocp.HostLock

/-!
# Operations that lock a switch

`riocp_sw_get_route_entry` and `riocp_pe_discover` lock a switch while they look at its routing
table.
-/

namespace RioFabric.Riocp

open Lib

variable (host : Host)

/-- `riocp_sw_get_route_entry` with the switch locked. -/
def getRouteEntryLocked (sw : Pe) (didVal : Nat) (target : Option Pe) :
    LockProg (Rc × Option Pe) := do
  match ← .perform (.driver (.getRoute didVal)) with
  | none => pure (.eio, target)
  | some _ =>
    let (ret, target) ← riocpPeUnlock host sw target
    pure (if ret = .success then .success else .eio, target)

def riocpSwGetRouteEntry (sw : Pe) (isSwitch : Bool) (didVal : Nat) (target : Option Pe) :
    LockProg (Rc × Option Pe) :=
  if !isSwitch then pure (.enosys, target)
  else do
    let (ret, target) ← riocpPeLock host sw target
    if ret ≠ .success then pure (.eagain, target)
    else getRouteEntryLocked host sw didVal target

/-- What `riocp_pe_handle_create_pe` does with the registers: it accesses the driver and reads
registers of the new device by `riocp_pe_maint_read`, what it reads deciding on what it does
next, until it returns. -/
inductive Creation where
  | done (ret : Rc)
  | driver (next : Option Nat → Creation)
  | read (reg : Reg) (next : Rc → Nat → Creation)

/-- The accesses of `riocp_pe_handle_create_pe` for a new handle, numbered from `n` on. -/
def Creation.program (pe : Pe) : Creation → Nat → Option Pe → LockProg (Rc × Option Pe)
  | .done ret, _, target => pure (ret, target)
  | .driver next, n, target => do
      let answer ← .perform (.driver (.create n))
      (next answer).program pe (n + 1) target
  | .read reg next, n, target => do
      let (ret, val, target) ← riocpPeMaintRead host (.create n) pe reg target
      (next ret val).program pe (n + 1) target

/-- The handle of a device behind a port, as `riocp_pe_handle_create_pe` sets it up. -/
def Pe.behind (pe : Pe) (dev : Nat) : Pe where
  device := dev
  path := if pe.isMport then [] else pe.path ++ [pe.device]
  isMport := false

/-- What `riocp_pe_discover` depends on besides the registers.  `dids` are the device IDs in
use below the ID for any device, in ascending order, and `handleExists` says whether there is a
handle for a component tag. -/
structure DiscoverArgs where
  port : Nat
  portCount : Nat
  isSwitch : Bool
  hasEfptr : Bool
  isKnown : Bool
  dids : List Nat
  handleExists : Nat → Bool
  peer : Nat
  creation : Creation

/-- `RIO_SPX_ERR_STAT_OK`. -/
def errStatOk : Nat := 0x2

/-- `riocp_pe_is_port_active`: an error, or whether the port is active. -/
def riocpPeIsPortActive (pe : Pe) (hasEfptr : Bool) (target : Option Pe) :
    LockProg (Option Bool × Option Pe) :=
  if hasEfptr then do
    let (ret, val, target) ← riocpPeMaintRead host .active pe .other target
    pure (if ret = .success then some (val &&& errStatOk ≠ 0) else none, target)
  else pure (some false, target)

/-- How the search for a route behind a port ends. -/
inductive Search where
  | found (didVal : Nat)
  | noRoute
  | failed
  deriving DecidableEq

/-- The search loop of `riocp_pe_discover`. -/
def searchRoute (port : Nat) : List Nat → LockProg Search
  | [] => pure .noRoute
  | didVal :: rest => do
      match ← .perform (.driver (.getRoute didVal)) with
      | none => pure .failed
      | some egress =>
        if egress ≠ 0xff ∧ port = egress then pure (.found didVal) else searchRoute port rest

/-- The end of `riocp_pe_discover`, from its label `found` on. -/
def discoverFound (pe : Pe) (args : DiscoverArgs) (target : Option Pe) :
    LockProg (Rc × Option Pe) := do
  match ← .perform (.driver .comptag) with
  | none => pure (.eio, target)
  | some comptag =>
    if comptag = 0 then pure (.enodev, target)
    else if args.handleExists comptag then pure (.success, target)
    else
      let (ret, target) ← args.creation.program host (pe.behind args.peer) 0 target
      pure (if ret = .success then .success else .enomem, target)

/-- The end of `riocp_pe_discover` with the switch locked.  When no route is found, it returns
without unlocking. -/
def discoverLocked (pe : Pe) (args : DiscoverArgs) (search : Search) (target : Option Pe) :
    LockProg (Rc × Option Pe) :=
  match search with
  | .noRoute => pure (.enodev, target)
  | .failed => do
      let (_, target) ← riocpPeUnlock host pe target
      pure (.eio, target)
  | .found _ => do
      let (ret, target) ← riocpPeUnlock host pe target
      if ret = .success then discoverFound host pe args target else pure (.eio, target)

/-- `riocp_pe_discover` with the port known to be active. -/
def discoverActive (pe : Pe) (args : DiscoverArgs) (target : Option Pe) :
    LockProg (Rc × Option Pe) :=
  if pe.isMport then discoverFound host pe args target
  else if args.isKnown then pure (.success, target)
  else if !args.isSwitch then discoverFound host pe args target
  else do
    let (ret, target) ← riocpPeLock host pe target
    if ret ≠ .success then pure (.eagain, target)
    else
      let search ← searchRoute args.port args.dids
      discoverLocked host pe args search target

def riocpPeDiscover (pe : Pe) (args : DiscoverArgs) (target : Option Pe) :
    LockProg (Rc × Option Pe) :=
  if args.port ≥ args.portCount then pure (.einval, target)
  else if args.isSwitch then do
    let (active, target) ← riocpPeIsPortActive host pe args.hasEfptr target
    match active with
    | none => pure (.eio, target)
    | some false => pure (.enodev, target)
    | some true => discoverActive host pe args target
  else discoverActive host pe args target

end RioFabric.Riocp

import RioFabric.Riocp.Discover
import RioFabric.Riocp.Integrity

/-!
# One handle for every device

`riocp_pe_discover` reads the component tag behind a port and creates a handle unless there is
one for the tag.  The tag is read with the handle of the master port, and an access with such a
handle reads the registers of the master port itself (`mpsw_drv_raw_reg_rd`); the tag is that of
the master port, for which there is a handle.
-/

namespace RioFabric.Riocp.OneHandle

open Lib

def comptagUnset : Nat := 0

/-- A network seen from its master ports: the device that each of them is part of, the device
that an access gets to, by its device ID and hop count, and the component tags, which are set. -/
structure Network where
  own : Handle → Nat
  reached : Handle → Nat → Nat → Nat
  comptag : Nat → Nat
  isSet : ∀ dev, comptag dev ≠ comptagUnset

/-- How the steps of `riocp_pe_discover` end: `riocp_pe_is_port_active`, `riocp_pe_lock`, the
device IDs that `did_get` knows and the result of `riocp_drv_get_route_entry` for each of them,
`riocp_pe_unlock`, the read of the component tag, and the steps of a creation. -/
structure DiscoverSteps where
  portActive : Option Bool
  lock : Bool
  didGet : Nat → Bool
  getRoute : Nat → Option Nat
  unlock : Bool
  comptagRead : Bool
  create : CreateSteps

variable (net : Network) (isHost : Handle → Bool)

/-- `mpsw_drv_raw_reg_rd` for `RIO_COMPTAG`: the local register with the handle of a master
port, otherwise that of the device which is reached. -/
def rawComptag (st : Handles) (pe : Handle) (didVal hopcount : Nat) : Nat :=
  let mport := (st.pe pe).mport
  if mport = pe then net.comptag (net.own pe) else net.comptag (net.reached mport didVal hopcount)

/-- `riocp_pe_handle_pe_exists`, which looks at the handles of master ports only. -/
def riocpPeHandlePeExists (st : Handles) (mport : Handle) (comptag : Nat) : Option Handle :=
  if comptag = comptagUnset then none
  else st.mports.find? fun ptr =>
    (st.pe ptr).comptag == comptag && isHost (st.pe ptr).mport == isHost mport

/-- The steps of a creation.  The registers of another device cannot be read for an agent
(`riocp_drv_reg_rd`). -/
def CreateSteps.forMport (steps : CreateSteps) (mport : Handle) : CreateSteps :=
  if isHost mport then steps else { steps with capabilities := none }

def hcIncr (src : Nat) : Nat := if src + 1 = 0xff then 0xfe else (src + 1) % 0x100

def didAnyId (dev16 : Bool) : Nat := if dev16 then 0xffff else 0xff

/-- The search loop of `riocp_pe_discover`. -/
def searchRoute (steps : DiscoverSteps) (port : Nat) : List Nat → Search
  | [] => .noRoute
  | didVal :: rest =>
    if !steps.didGet didVal then searchRoute steps port rest
    else
      match steps.getRoute didVal with
      | none => .failed
      | some egress =>
        if egress ≠ 0xff ∧ port = egress then .found didVal else searchRoute steps port rest

/-- The end of `riocp_pe_discover`, from its label `found` on. -/
def discoverFound (steps : DiscoverSteps) (st : Handles) (pe : Handle) (port didVal : Nat) :
    Option Created :=
  let mport := (st.pe pe).mport
  let hopcount := hcIncr (st.pe pe).hopcount
  if !steps.comptagRead then some (.eio, none, st)
  else
    let comptag := rawComptag net st mport didVal hopcount
    if comptag = comptagUnset then some (.enodev, none, st)
    else
      match riocpPeHandlePeExists isHost st mport comptag with
      | some p => some (.success, some p, st)
      | none =>
        (riocpPeHandleCreatePe (CreateSteps.forMport isHost steps.create mport) st
          ⟨pe, hopcount, didVal, port, comptagUnset⟩).map fun (ret, p, st) =>
            if ret = .success then (.success, p, st) else (.enomem, none, st)

/-- The part of `riocp_pe_discover` that looks for a route through a switch. -/
def discoverSwitch (steps : DiscoverSteps) (st : Handles) (pe : Handle) (port : Nat) :
    Option Created :=
  if !steps.lock then some (.eagain, none, st)
  else
    match searchRoute steps port (List.range (didAnyId steps.create.dev16 - 1)) with
    | .noRoute => some (.enodev, none, st)
    | .failed => some (.eio, none, st)
    | .found didVal =>
      if !steps.unlock then some (.eio, none, st)
      else discoverFound net isHost steps st pe port didVal

def riocpPeDiscover (steps : DiscoverSteps) (st : Handles) (pe : Handle) (port : Nat) :
    Option Created :=
  let isSwitch := (st.pe pe).cap.isSwitch
  let didVal := didAnyId steps.create.dev16
  if !st.riocpPeHandleCheck pe then some (.einval, none, st)
  else if port ≥ st.portCount pe then some (.einval, none, st)
  else if isSwitch && steps.portActive == none then some (.eio, none, st)
  else if isSwitch && steps.portActive == some false then some (.enodev, none, st)
  else if (st.pe pe).mport = pe then discoverFound net isHost steps st pe port didVal
  else
    match (st.pe pe).peers port with
    | some (p, _) => some (.success, some p, st)
    | none =>
      if !isSwitch then discoverFound net isHost steps st pe port didVal
      else discoverSwitch net isHost steps st pe port

structure DiscoverCall where
  pe : Handle
  port : Nat
  steps : DiscoverSteps

/-- The master ports that are open at the start.  The component tag of a master port is read
from its register when its handle is created. -/
def openNetwork (caps : List Capabilities) : Handles :=
  let st := openMports caps
  { st with pe := fun h => { st.pe h with comptag := net.comptag (net.own h) } }

/-- The state that a call leaves, if there is one. -/
def discoverStep (st : Handles) (call : DiscoverCall) : Handles :=
  match riocpPeDiscover net isHost call.steps st call.pe call.port with
  | some (_, _, st) => st
  | none => st

/-- No master port has two handles with the same component tag. -/
def Unique (st : Handles) : Prop :=
  ∀ mport ∈ st.mports, ∀ h ∈ st.registered mport, ∀ other ∈ st.registered mport,
    (st.pe h).comptag = (st.pe other).comptag → h = other

section Runs

variable {net : Network} {isHost : Handle → Bool} {st : Handles} {pe : Handle}

/-- The handle of every master port has the component tag of its device. -/
def Tagged (net : Network) (st : Handles) : Prop :=
  ∀ mport ∈ st.mports, (st.pe mport).mport = mport ∧
    (st.pe mport).comptag = net.comptag (net.own mport)

theorem riocpPeHandlePeExists_own (isHost : Handle → Bool) (tagged : Tagged net st) {mport : Handle}
    (isMport : mport ∈ st.mports) :
    ∃ p, riocpPeHandlePeExists isHost st mport (net.comptag (net.own mport)) = some p := by
  obtain ⟨ofItself, hasTag⟩ := tagged mport isMport
  rw [riocpPeHandlePeExists, if_neg (net.isSet _), ← Option.isSome_iff_exists,
    List.find?_isSome]
  refine ⟨mport, isMport, ?_⟩
  rw [hasTag, ofItself, beq_self_eq_true, beq_self_eq_true]
  rfl

theorem discoverFound_left (tagged : Tagged net st) (isMport : (st.pe pe).mport ∈ st.mports)
    (steps : DiscoverSteps) (port didVal : Nat) :
    ∃ ret p, discoverFound net isHost steps st pe port didVal = some (ret, p, st) := by
  have ownTag : rawComptag net st (st.pe pe).mport didVal (hcIncr (st.pe pe).hopcount) =
      net.comptag (net.own (st.pe pe).mport) := by
    rw [rawComptag, if_pos (tagged _ isMport).1]
  obtain ⟨p, exists_p⟩ := riocpPeHandlePeExists_own isHost tagged isMport
  rw [discoverFound]
  cases steps.comptagRead with
  | false => exact ⟨_, _, rfl⟩
  | true =>
    rw [if_neg (by decide), ownTag, if_neg (net.isSet _), exists_p]
    exact ⟨_, _, rfl⟩

theorem discoverSwitch_left (tagged : Tagged net st) (isMport : (st.pe pe).mport ∈ st.mports)
    (steps : DiscoverSteps) (port : Nat) :
    ∃ ret p, discoverSwitch net isHost steps st pe port = some (ret, p, st) := by
  rw [discoverSwitch]
  cases steps.lock with
  | false => exact ⟨_, _, rfl⟩
  | true =>
    rw [if_neg (by decide)]
    cases searchRoute steps port (List.range (didAnyId steps.create.dev16 - 1)) with
    | noRoute => exact ⟨_, _, rfl⟩
    | failed => exact ⟨_, _, rfl⟩
    | found didVal =>
      cases steps.unlock with
      | false => exact ⟨_, _, rfl⟩
      | true => exact discoverFound_left tagged isMport steps port didVal

theorem riocpPeDiscover_left (isHost : Handle → Bool) (sound : st.Sound) (tagged : Tagged net st)
    (call : DiscoverCall) :
    ∃ ret p, riocpPeDiscover net isHost call.steps st call.pe call.port = some (ret, p, st) := by
  rw [riocpPeDiscover]
  by_cases check : st.riocpPeHandleCheck call.pe = true
  · have isMport := (sound.registered_of_check check).1
    rw [if_neg (by simpa using check)]
    split
    · exact ⟨_, _, rfl⟩
    · split
      · exact ⟨_, _, rfl⟩
      · split
        · exact ⟨_, _, rfl⟩
        · split
          · exact discoverFound_left tagged isMport call.steps call.port _
          · split
            · exact ⟨_, _, rfl⟩
            · split
              · exact discoverFound_left tagged isMport call.steps call.port _
              · exact discoverSwitch_left tagged isMport call.steps call.port
  · rw [if_pos (by simpa using check)]
    exact ⟨_, _, rfl⟩

theorem discoverStep_eq (sound : st.Sound) (tagged : Tagged net st) (call : DiscoverCall) :
    discoverStep net isHost st call = st := by
  obtain ⟨ret, p, ended⟩ := riocpPeDiscover_left isHost sound tagged call
  rw [discoverStep, ended]

theorem tagged_openNetwork (net : Network) (caps : List Capabilities) :
    Tagged net (openNetwork net caps) := fun _ _ => ⟨rfl, rfl⟩

theorem sound_openNetwork (net : Network) (caps : List Capabilities) :
    (openNetwork net caps).Sound := by
  obtain ⟨mportsNodup, nodup, allocated, ofMport, isPort, anchored, intact⟩ :=
    sound_openMports caps
  exact ⟨mportsNodup, nodup, allocated, ofMport, isPort, anchored, intact⟩

/-- However the network is explored, no master port has two handles for one component tag. -/
theorem one_handle (net : Network) (isHost : Handle → Bool) (caps : List Capabilities)
    (calls : List DiscoverCall) :
    Unique (run (discoverStep net isHost) (openNetwork net caps) calls) := by
  have always : Guarded (discoverStep net isHost) (fun _ _ => True) (openNetwork net caps) calls :=
    guarded_of_forall (fun _ _ => trivial) _ _
  have unchanged : run (discoverStep net isHost) (openNetwork net caps) calls =
      openNetwork net caps := by
    refine run_invariant (fun st => st = openNetwork net caps) (fun st call same _ => ?_) rfl always
    rw [same]
    exact discoverStep_eq (sound_openNetwork net caps) (tagged_openNetwork net caps) call
  rw [unchanged]
  intro mport _ h isHandle other isOther _
  have alone : ∀ h ∈ (openNetwork net caps).registered mport, h = mport := by
    intro h inList
    exact (List.mem_cons.mp inList).resolve_right List.not_mem_nil
  rw [alone h isHandle, alone other isOther]

end Runs

/-- Four devices on a ring, two of them with a master port: the device ID says which way round an
access goes and the hop count how far, so that every device is reached both ways. -/
def ring : Network where
  own mport := 2 * (mport % 2)
  reached mport didVal hopcount :=
    if didVal % 2 = 0 then (2 * (mport % 2) + (hopcount + 1)) % 4
    else (2 * (mport % 2) + 3 * (hopcount + 1)) % 4
  comptag dev := dev + 1
  isSet dev := Nat.succ_ne_zero dev

/-- Each master port is a switch with four ports. -/
def ringPorts : List Capabilities := [⟨pefSwitch, 0x400#32⟩, ⟨pefSwitch, 0x401#32⟩]

/-- No step of a discovery fails. -/
def found : DiscoverSteps where
  portActive := some true
  lock := true
  didGet _ := true
  getRoute _ := some 1
  unlock := true
  comptagRead := true
  create := { noGroup with didGroup := true }

/-- Neighbours are looked for at several ports of both master ports, one of them twice. -/
def bothWays : List DiscoverCall := [⟨0, 1, found⟩, ⟨1, 2, found⟩, ⟨0, 3, found⟩, ⟨0, 1, found⟩]

theorem one_handle_ring :
    Function.Injective ring.comptag ∧ ring.reached 0 2 1 = ring.reached 0 1 1 ∧
      (riocpPeDiscover ring (fun _ => false) found (openNetwork ring ringPorts) 0 1).map
        (fun created => (created.1, created.2.1)) = some (.success, some 0) ∧
      Unique (run (discoverStep ring fun _ => false) (openNetwork ring ringPorts) bothWays) :=
  ⟨Nat.succ_injective, rfl, by decide, one_handle ring (fun _ => false) ringPorts bothWays⟩

end RioFabric.Riocp.OneHandle

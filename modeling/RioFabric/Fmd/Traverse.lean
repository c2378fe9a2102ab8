import Mathlib.Data.Finset.Insert
import Mathlib.Data.Fintype.Prod
import RioFabric.Lib.WhileRules
import RioFabric.Libcfg.Config
import RioFabric.Riocp.Handles

/-!
# Traversal of the network

The daemon first looks at the devices that are in the configuration, switch by switch; the ports
that the configuration says nothing about are kept in a list.  In auto mode it then probes the
ports of this list, to which all ports of each switch that is found are added.  A probe that gets
to a switch records the link it went over, and a recorded link is not gone over again.
-/

namespace RioFabric.Fmd.Traverse

open Lib Libcfg Libct Libdid Riocp

/-- `rio_port_t`. -/
abbrev RioPort : Type := Fin 0x100

def rioAnyPort : RioPort := 0xff

/-- What a traversal is run on: the topology of the network, with the ends of its links, and what
`libriocp_pe` and the allocator answer.  They are given by functions of everything that
`libriocp_pe`, the network and the allocator keep, of type `σ`.  A handle is of type `Pe`. -/
structure Topology (Pe σ : Type) where
  /-- The ends of links to switches. -/
  links : Finset (Pe × RioPort)
  cap : σ → Pe → Capabilities
  comptag : σ → Pe → Nat
  /-- Whether `pe->peers[port].peer` is set. -/
  recorded : σ → Pe → RioPort → Bool
  /-- `riocp_pe_probe`. -/
  probe : Pe → RioPort → Nat → Token → Bool → σ → (Rc × Option Pe) × σ
  /-- `riocp_pe_get_comptag`. -/
  getComptag : Pe → σ → Option Nat × σ
  /-- `malloc` and `calloc`, without the memory. -/
  malloc : σ → Bool × σ
  probe_null : ∀ pe port ct name force lib, recorded lib pe port = true →
    (probe pe port ct name force lib).1.2 = none
  probe_records : ∀ pe port ct name force lib newPe,
    (probe pe port ct name force lib).1 = (.success, some newPe) →
    (cap (probe pe port ct name force lib).2 newPe).isSwitch = true →
      (pe, port) ∈ links ∧ recorded (probe pe port ct name force lib).2 pe port = true
  probe_keeps : ∀ pe port ct name force lib other otherPort, recorded lib other otherPort = true →
    recorded (probe pe port ct name force lib).2 other otherPort = true
  getComptag_keeps : ∀ pe lib other otherPort, recorded lib other otherPort = true →
    recorded (getComptag pe lib).2 other otherPort = true
  getComptag_cap : ∀ pe lib other, cap (getComptag pe lib).2 other = cap lib other
  malloc_keeps : ∀ lib other otherPort, recorded lib other otherPort = true →
    recorded (malloc lib).2 other otherPort = true

/-- A network: which port each port is connected to, what the devices are, and their component
tags.  Two ports of one device may be connected, and two devices by several links. -/
structure Wiring (Pe : Type) where
  peer : Pe → RioPort → Option (Pe × RioPort)
  cap : Pe → Capabilities
  comptag : Pe → Nat

/-- The probe of a library without failures: it keeps the ends of the links it has gone over. -/
def Wiring.probe {Pe : Type} [DecidableEq Pe] (net : Wiring Pe) (pe : Pe) (port : RioPort)
    (known : Finset (Pe × RioPort)) : (Rc × Option Pe) × Finset (Pe × RioPort) :=
  if (pe, port) ∈ known then ((.success, none), known)
  else
    match net.peer pe port with
    | none => ((.enodev, none), known)
    | some place => ((.success, some place.1), insert place (insert (pe, port) known))

/-- A finite network with such a library. -/
def Wiring.topology {Pe : Type} [Fintype Pe] [DecidableEq Pe] (net : Wiring Pe) :
    Topology Pe (Finset (Pe × RioPort)) where
  links := Finset.univ
  cap _ := net.cap
  comptag _ := net.comptag
  recorded known pe port := decide ((pe, port) ∈ known)
  probe pe port _ _ _ := net.probe pe port
  getComptag pe known := (some (net.comptag pe), known)
  malloc known := (true, known)
  probe_null pe port _ _ _ known isKnown := by
    rw [Wiring.probe, if_pos (of_decide_eq_true isKnown)]
  probe_records pe port _ _ _ known newPe found _ := by
    refine ⟨Finset.mem_univ _, decide_eq_true ?_⟩
    unfold Wiring.probe at found ⊢
    split at found
    · cases found
    next isNew =>
      rw [if_neg isNew]
      split
      next noPeer =>
        rw [noPeer] at found
        cases found
      next place _ => exact Finset.mem_insert_of_mem (Finset.mem_insert_self _ _)
  probe_keeps pe port _ _ _ known other otherPort isKnown := by
    refine decide_eq_true ?_
    have wasKnown := of_decide_eq_true isKnown
    unfold Wiring.probe
    split
    · exact wasKnown
    · split
      · exact wasKnown
      next place _ => exact Finset.mem_insert_of_mem (Finset.mem_insert_of_mem wasKnown)
  getComptag_keeps _ _ _ _ isKnown := isKnown
  getComptag_cap _ _ _ := rfl
  malloc_keeps _ _ _ isKnown := isKnown

/-- What a traversal changes: the state of what it is run on, the component tags and the two lists
that are worked off. -/
structure TraverseState (Pe σ : Type) where
  lib : σ
  cts : CtState
  swList : List Pe
  noCfgList : List (Pe × RioPort)

/-- Parts of a traversal; they stop at `goto fail`. -/
abbrev TraverseProg (Pe σ α : Type) : Type 1 := Prog Unit (TraverseState Pe σ) Empty α

variable {Pe σ α : Type}

/-- A call of something the traversal is run on. -/
def call (f : σ → α × σ) : TraverseProg Pe σ α :=
  Prog.act fun state => .ok (f state.lib).1 { state with lib := (f state.lib).2 }

/-- `goto fail`. -/
def fail : TraverseProg Pe σ α := Prog.stop ()

/-- The ports from `portSt` to below `portCnt`. -/
def portRange (portSt portCnt : RioPort) : List RioPort :=
  (List.finRange 0x100).filter fun pnum => portSt ≤ pnum ∧ pnum < portCnt

variable (net : Topology Pe σ)

/-- `RIOCP_PE_IS_SWITCH(pe->cap)`. -/
def isSwitch (pe : Pe) : TraverseProg Pe σ Bool :=
  Prog.read fun state => (net.cap state.lib pe).isSwitch

/-- `RIOCP_PE_PORT_COUNT(pe->cap)`, in a variable of type `rio_port_t`. -/
def portCount (pe : Pe) : TraverseProg Pe σ RioPort :=
  Prog.read fun state => Fin.ofNat 0x100 (net.cap state.lib pe).portCount

/-- `l_push_tail` for `sw_list`, which leaves the list alone if there is no memory. -/
def pushSwitch (pe : Pe) : TraverseProg Pe σ Unit := do
  if ← call net.malloc then
    Prog.change fun state => { state with swList := state.swList ++ [pe] }

/-- Push a port that is not in the configuration; the entry is allocated first. -/
def pushNoCfg (pe : Pe) (pnum : RioPort) : TraverseProg Pe σ Unit := do
  if ← call net.malloc then
    if ← call net.malloc then
      Prog.change fun state => { state with noCfgList := state.noCfgList ++ [(pe, pnum)] }
  else fail

/-- `l_pop_head` for `sw_list`. -/
def popSwitch : TraverseProg Pe σ (Option Pe) :=
  Prog.act fun state => .ok state.swList.head? { state with swList := state.swList.tail }

/-- `l_pop_head` for `no_cfg_list`. -/
def popNoCfg : TraverseProg Pe σ (Option (Pe × RioPort)) :=
  Prog.act fun state => .ok state.noCfgList.head? { state with noCfgList := state.noCfgList.tail }

/-- Pop and free the entries that are left in `no_cfg_list`. -/
def freeNoCfg : TraverseProg Pe σ Unit :=
  Prog.change fun state => { state with noCfgList := [] }

/-- Add a switch to the search, unless the list has one with its component tag. -/
def addSwitch (newPe : Pe) : TraverseProg Pe σ Unit := do
  let found ← Prog.read fun state =>
    state.swList.any fun pe => net.comptag state.lib pe == net.comptag state.lib newPe
  if !found then pushSwitch net newPe

section Traversal

variable [DecidableEq Pe] (cfg : IntCfgParms)

/-- What comes after a probe: go on with a new device that is not the one probed from. -/
def afterProbe (currPe : Pe) (probed : Rc × Option Pe) (failed : TraverseProg Pe σ α)
    (nothing : TraverseProg Pe σ α) (found : Pe → TraverseProg Pe σ α) : TraverseProg Pe σ α :=
  match probed with
  | (.success, some newPe) => if currPe = newPe then nothing else found newPe
  | (.success, none) | (.enodev, _) | (.eio, _) => nothing
  | _ => failed

/-- One port of the search through the configuration. -/
def configPort (currPe : Pe) (pnum : RioPort) : TraverseProg Pe σ Unit := do
  let currCt ← Prog.read fun state => net.comptag state.lib currPe
  match cfg.cfgGetConnDev currCt pnum with
  | none => pushNoCfg net currPe pnum
  | some (connDev, _) =>
    let probed ← call (net.probe currPe pnum connDev.ct connDev.name true)
    afterProbe currPe probed fail (pure ()) fun newPe => do
      match ← call (net.getComptag newPe) with
      | none => fail
      | some comptag =>
        if comptag ≠ connDev.ct then fail
        else if ← isSwitch net newPe then addSwitch net newPe

/-- A turn of the search: the ports of a device, and the next switch of the list. -/
def configTurn (search : Pe × RioPort × RioPort) :
    TraverseProg Pe σ ((Pe × RioPort × RioPort) ⊕ Unit) := do
  let (currPe, portSt, portCnt) := search
  (portRange portSt portCnt).forM (configPort net cfg currPe)
  match ← popSwitch with
  | none => pure (.inr ())
  | some nextPe =>
    let nextCt ← Prog.read fun state => net.comptag state.lib nextPe
    match cfg.cfgFindDevByCt nextCt with
    | none => fail
    | some _ => do
        let portCnt ← portCount net nextPe
        pure (.inl (nextPe, 0, portCnt))

/-- `AUTO_NAME_PREFIX`, which is followed by a number; `sysfs_name` has room for 19 characters. -/
def autoName (devNumber : Nat) : Token := ("rio_dev_" ++ toString devNumber).toList.take 19

/-- The variables `ct`, `did`, `dev_number` and `sysfs_name`. -/
structure AutoVars where
  ct : Nat
  did : Did
  devNumber : Nat
  sysfsName : Token

def cfgDidSz : DidSz := sizeOfInt cfg.mastDidSzIdx

/-- `ct_release`. -/
def releaseCt (vars : AutoVars) : TraverseProg Pe σ Unit :=
  Prog.change fun state => { state with cts := (ctRelease state.cts vars.ct vars.did).2 }

/-- `ct_release` if the component tag is set. -/
def releaseIfSet (vars : AutoVars) : TraverseProg Pe σ Unit :=
  if vars.ct ≠ comptagUnset then releaseCt vars else pure ()

/-- Create a component tag and a device name, if the last ones were used. -/
def nextName (vars : AutoVars) : TraverseProg Pe σ AutoVars :=
  if vars.ct = comptagUnset then
    Prog.act fun state =>
      let (_, ct, did, cts) := ctCreateAll state.cts (some vars.ct) (some vars.did) (cfgDidSz cfg)
      .ok ⟨ct.getD vars.ct, did.getD vars.did, vars.devNumber + 1, autoName vars.devNumber⟩
        { state with cts := cts }
  else pure vars

/-- Add the ports of a switch, which are to be explored. -/
def pushPorts (newPe : Pe) : TraverseProg Pe σ Unit := do
  if ← isSwitch net newPe then
    let portCnt ← portCount net newPe
    (portRange 0 portCnt).forM (pushNoCfg net newPe)

/-- A device that was found in auto mode. -/
def autoFound (vars : AutoVars) (newPe : Pe) : TraverseProg Pe σ (AutoVars ⊕ AutoVars) := do
  match ← call (net.getComptag newPe) with
  | none =>
    releaseCt vars
    fail
  | some comptag =>
    if comptag = vars.ct then
      pushPorts net newPe
      pure (.inl { vars with ct := comptagUnset })
    else pure (.inl vars)

/-- Probe a port of the list. -/
def autoProbe (vars : AutoVars) (currPe : Pe) (pnum : RioPort) :
    TraverseProg Pe σ (AutoVars ⊕ AutoVars) := do
  let vars ← nextName cfg vars
  let probed ← call (net.probe currPe pnum vars.ct vars.sysfsName false)
  afterProbe currPe probed
    (do
      releaseCt vars
      fail)
    (pure (.inl vars)) (autoFound net vars)

/-- A turn of the auto mode: one port of the list. -/
def autoTurn (vars : AutoVars) : TraverseProg Pe σ (AutoVars ⊕ AutoVars) := do
  match ← popNoCfg with
  | none =>
    releaseIfSet vars
    pure (.inr { vars with ct := comptagUnset })
  | some (currPe, pnum) => autoProbe net cfg vars currPe pnum

/-- The auto mode; `did` is set before it is used. -/
def autoDevices : TraverseProg Pe σ Unit := do
  let vars ← Prog.loop (autoTurn net cfg) ⟨comptagUnset, didInvalidId, 1, []⟩
  releaseIfSet vars

/-- The auto mode, if it is wanted. -/
def autoIf (wanted : Bool) : TraverseProg Pe σ Unit :=
  if wanted then autoDevices net cfg else pure ()

/-- `fmd_traverse_network_from_pe_port`; nothing is done with `c_dev`. -/
def fmdTraverseNetworkFromPePort (pe : Pe) (portNum : RioPort) : TraverseProg Pe σ Int :=
  Prog.handle
    (do
      Prog.change fun state => { state with swList := [], noCfgList := [] }
      let portCnt ← portCount net pe
      Prog.loop (configTurn net cfg)
        (if portNum = rioAnyPort then (pe, 0, portCnt) else (pe, portNum, portNum + 1))
      let size ← Prog.read fun state => state.noCfgList.length
      autoIf net cfg (cfg.autoConfig && size != 0)
      freeNoCfg
      pure 0)
    fun _ => do
      freeNoCfg
      pure (-1)

def fmdTraverseNetwork (mportPe : Pe) : TraverseProg Pe σ Int :=
  fmdTraverseNetworkFromPePort net cfg mportPe rioAnyPort

end Traversal

end RioFabric.Fmd.Traverse

import RioFabric.Lib.Links
import RioFabric.Riocp.HostLock

/-!
# Handles and their peers

A handle is a `struct riocp_pe`: what the library knows of a device behind a master port, with
the handles of the devices at its ports.  Handles are numbered in the order of their allocation;
the number of a handle that has been freed is not used again, so that a pointer to it can be told
from any other.
-/

namespace RioFabric.Riocp

open Lib

/-- A `riocp_pe_handle` other than the null pointer. -/
abbrev Handle : Type := Nat

/-- `RIOCP_PE_PEF_SWITCH`. -/
def pefSwitch : BitVec 32 := 0x10000000#32

/-- `struct riocp_pe_capabilities`, as far as it says what a device is. -/
structure Capabilities where
  peFeat : BitVec 32
  swPort : BitVec 32
  deriving DecidableEq

namespace Capabilities

variable (cap : Capabilities)

/-- `RIOCP_PE_IS_SWITCH`. -/
def isSwitch : Bool := cap.peFeat &&& pefSwitch ≠ 0#32

/-- `RIOCP_PE_PORT_COUNT`. -/
def portCount : Nat := if cap.isSwitch then ((cap.swPort >>> 8) &&& 0xff#32).toNat else 1

/-- `RIOCP_PE_SW_PORT`. -/
def accessPort : Nat := (cap.swPort &&& 0xff#32).toNat

end Capabilities

/-- A port of a device: one end of a link. -/
abbrev PePort : Type := Handle × Nat

/-- `struct riocp_pe`.  An entry of `peers` is the handle and the port at the other side. -/
structure RiocpPe where
  hopcount : Nat
  didRegVal : Nat
  comptag : Nat
  address : List Nat
  cap : Capabilities
  mport : Handle
  peers : Nat → Option PePort

/-- The handles in memory.  `mports` is the list `riocp_pe_mport_handles`, `handles` the list
that belongs to a master port, and `next` is allocated next. -/
structure Handles where
  pe : Handle → RiocpPe
  mports : List Handle
  handles : Handle → List Handle
  next : Handle

namespace Handles

variable (st : Handles)

def setPe (h : Handle) (change : RiocpPe → RiocpPe) : Handles :=
  { st with pe := Function.update st.pe h (change (st.pe h)) }

def setPeer (h : Handle) (port : Nat) (peer : Option PePort) : Handles :=
  st.setPe h fun pe => { pe with peers := Function.update pe.peers port peer }

/-- Set the list of a master port. -/
def setList (mport : Handle) (list : List Handle) : Handles :=
  { st with handles := Function.update st.handles mport list }

/-- The links between the ports of the devices. -/
def links : Links PePort := fun place => (st.pe place.1).peers place.2

/-- `RIOCP_PE_PORT_COUNT(pe->cap)`. -/
def portCount (h : Handle) : Nat := (st.pe h).cap.portCount

def riocpPeHandleCheck (h : Handle) : Bool :=
  st.mports.contains h || st.mports.any fun mport => (st.handles mport).contains h

end Handles

def riocpPeAddPeer (st : Handles) (pe peer : Handle) (pePort peerPort : Nat) : Rc × Handles :=
  if pePort ≥ st.portCount pe then (.einval, st)
  else if peerPort ≥ st.portCount peer then (.einval, st)
  else
    let st := st.setPeer pe pePort (some (peer, peerPort))
    let st := st.setPeer peer peerPort (some (pe, pePort))
    (.success, st)

def riocpPeRemovePeer (st : Handles) (pe : Handle) (port : Nat) : Rc × Handles :=
  if port ≥ st.portCount pe then (.einval, st)
  else
    let peer := (st.pe pe).peers port
    let st := st.setPeer pe port none
    match peer with
    | none => (.success, st)
    | some (peer, peerPort) => (.success, st.setPeer peer peerPort none)

section Links

variable {st : Handles} {h other : Handle} {port : Nat} {peer : Option PePort} {pe : Handle}
  {pePort peerPort : Nat}

@[simp] theorem links_setPeer :
    (st.setPeer h port peer).links = Function.update st.links (h, port) peer := by
  funext ⟨place, placePort⟩
  simp only [Handles.links, Handles.setPeer, Handles.setPe]
  by_cases samePe : place = h
  · subst place
    by_cases samePort : placePort = port
    · subst placePort
      simp
    · simp only [Function.update_self, Function.update_of_ne samePort]
      rw [Function.update_of_ne fun same => samePort (congrArg Prod.snd same)]
      rfl
  · rw [Function.update_of_ne samePe,
      Function.update_of_ne fun same => samePe (congrArg Prod.fst same)]
    rfl

@[simp] theorem portCount_setPeer : (st.setPeer h port peer).portCount other =
    st.portCount other := by
  simp only [Handles.portCount, Handles.setPeer, Handles.setPe]
  by_cases same : other = h
  · subst other
    rw [Function.update_self]
  · rw [Function.update_of_ne same]

@[simp] theorem mport_setPeer :
    ((st.setPeer h port peer).pe other).mport = (st.pe other).mport := by
  simp only [Handles.setPeer, Handles.setPe]
  by_cases same : other = h
  · subst other
    rw [Function.update_self]
  · rw [Function.update_of_ne same]

theorem riocpPeAddPeer_eq {peer : Handle} (validPort : pePort < st.portCount pe)
    (validPeer : peerPort < st.portCount peer) :
    riocpPeAddPeer st pe peer pePort peerPort =
      (.success, (st.setPeer pe pePort (some (peer, peerPort))).setPeer peer peerPort
        (some (pe, pePort))) := by
  rw [riocpPeAddPeer, if_neg (Nat.not_le.mpr validPort), if_neg (Nat.not_le.mpr validPeer)]

theorem riocpPeAddPeer_of_valid {peer : Handle} (validPort : pePort < st.portCount pe)
    (validPeer : peerPort < st.portCount peer) :
    (riocpPeAddPeer st pe peer pePort peerPort).1 = .success ∧
      (riocpPeAddPeer st pe peer pePort peerPort).2.links =
        st.links.connect (pe, pePort) (peer, peerPort) := by
  rw [riocpPeAddPeer_eq validPort validPeer]
  exact ⟨rfl, by simp [Links.connect]⟩

theorem riocpPeAddPeer_of_invalid {peer : Handle}
    (invalid : ¬(pePort < st.portCount pe ∧ peerPort < st.portCount peer)) :
    riocpPeAddPeer st pe peer pePort peerPort = (.einval, st) := by
  unfold riocpPeAddPeer
  split
  · rfl
  · split
    · rfl
    · omega

theorem riocpPeRemovePeer_of_valid {port : Nat} (valid : port < st.portCount pe) :
    (riocpPeRemovePeer st pe port).2.links = st.links.disconnect (pe, port) := by
  have same : st.links (pe, port) = (st.pe pe).peers port := rfl
  rw [riocpPeRemovePeer, if_neg (Nat.not_le.mpr valid), Links.disconnect, same]
  cases (st.pe pe).peers port with
  | none => exact links_setPeer
  | some place => simp

end Links

end RioFabric.Riocp

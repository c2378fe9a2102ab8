import RioFabric.Lib.Runs
import RioFabric.Riocp.Handles

/-!
# Symmetry of the peer links

`riocp_pe_add_peer` writes both sides of a link without looking at what the far port was
connected to, whose other side then still remembers the far port.
-/

namespace RioFabric.Riocp

open Lib

/-- A call that edits the links. -/
inductive PeerCall where
  | add (pe peer : Handle) (pePort peerPort : Nat)
  | remove (pe : Handle) (port : Nat)

def peerStep (st : Handles) : PeerCall → Handles
  | .add pe peer pePort peerPort => (riocpPeAddPeer st pe peer pePort peerPort).2
  | .remove pe port => (riocpPeRemovePeer st pe port).2

/-- Handles without links. -/
def unlinked (cap : Handle → Capabilities) : Handles where
  pe h :=
    { hopcount := 0, didRegVal := 0, comptag := 0, address := [], cap := cap h, mport := 0
      peers := fun _ => none }
  mports := []
  handles _ := []
  next := 0

/-- Whatever a handle has as a peer at a port has it as a peer in turn. -/
def Handles.SymmetricPeers (st : Handles) : Prop :=
  ∀ a i b j, (st.pe a).peers i = some (b, j) → (st.pe b).peers j = some (a, i)

/-- What callers see to: a peer is added at a port that exists and has no peer yet, and the port
at the other side exists. -/
def Handles.OnFreePort (st : Handles) : PeerCall → Prop
  | .add pe peer pePort peerPort =>
    (st.pe pe).peers pePort = none ∧ pePort < st.portCount pe ∧ peerPort < st.portCount peer
  | .remove _ _ => True

/-- A call keeps the links symmetric: it removes a link, it names a port that does not exist, or
the two ports that it connects are free, connected to themselves or connected to each other. -/
def Handles.KeepsSymmetry (st : Handles) : PeerCall → Prop
  | .add pe peer pePort peerPort =>
    pePort < st.portCount pe ∧ peerPort < st.portCount peer →
      st.links.MayJoin (pe, pePort) (peer, peerPort) ∧
        st.links.MayJoin (peer, peerPort) (pe, pePort)
  | .remove _ _ => True

variable {st : Handles}

theorem symmetricPeers_iff : st.SymmetricPeers ↔ st.links.Symmetric := by
  constructor
  · intro symmetric ⟨a, i⟩ ⟨b, j⟩ linked
    exact symmetric a i b j linked
  · intro symmetric a i b j linked
    exact symmetric (a, i) (b, j) linked

theorem symmetricPeers_step_iff (symmetric : st.SymmetricPeers) (call : PeerCall) :
    (peerStep st call).SymmetricPeers ↔ st.KeepsSymmetry call := by
  rw [symmetricPeers_iff] at symmetric ⊢
  cases call with
  | add pe peer pePort peerPort =>
    by_cases valid : pePort < st.portCount pe ∧ peerPort < st.portCount peer
    · rw [peerStep, (riocpPeAddPeer_of_valid valid.1 valid.2).2, symmetric.connect_iff,
        Handles.KeepsSymmetry]
      exact ⟨fun joins _ => joins, fun joins => joins valid⟩
    · rw [peerStep, riocpPeAddPeer_of_invalid valid]
      exact iff_of_true symmetric fun isValid => absurd isValid valid
  | remove pe port =>
    apply iff_of_true _ trivial
    rw [peerStep]
    by_cases valid : port < st.portCount pe
    · rw [riocpPeRemovePeer_of_valid valid]
      exact symmetric.disconnect
    · rw [riocpPeRemovePeer, if_pos (Nat.not_lt.mp valid)]
      exact symmetric

/-- The links are symmetric all along a history exactly when every addition connects ports that
are not connected elsewhere. -/
theorem peers_symmetric_iff (cap : Handle → Capabilities) (calls : List PeerCall) :
    (∀ before, before <+: calls → (run peerStep (unlinked cap) before).SymmetricPeers) ↔
      Guarded peerStep Handles.KeepsSymmetry (unlinked cap) calls := by
  apply run_invariant_iff Handles.SymmetricPeers fun _ call symmetric =>
    symmetricPeers_step_iff symmetric call
  intro a i b j linked
  cases linked

/-- Three endpoints, of which the second and the third are connected to the first in turn. -/
def recabled : List PeerCall := [.add 1 0 0 0, .add 2 0 0 0]

/-- The second endpoint still has the first one as its peer, which has another one by now. -/
theorem not_peers_symmetric_recabled :
    ¬∀ (cap : Handle → Capabilities) (calls : List PeerCall),
      Guarded peerStep Handles.OnFreePort (unlinked cap) calls →
        (run peerStep (unlinked cap) calls).SymmetricPeers := by
  intro symmetric
  have onFreePorts : Guarded peerStep Handles.OnFreePort (unlinked fun _ => ⟨0, 0⟩) recabled :=
    ⟨⟨rfl, by decide, by decide⟩, ⟨rfl, by decide, by decide⟩, trivial⟩
  have linked := symmetric _ recabled onFreePorts 1 0 0 0 (by decide)
  exact absurd linked (by decide)

end RioFabric.Riocp

import RioFabric.Lib.Actions
import RioFabric.Libdid.Allocator
import RioFabric.Liblist

/-!
# The peers of the master daemon

The master serves every connected peer in a thread of its own, `peer_rx_loop`.  An accepted
HELLO enters the peer into the list `fmp.peers`, and the peer remembers the item so that
`cleanup_peer` can take it out again before the peer is freed.  The list is read by all
threads, so an item that outlives its peer is a dangling pointer.
-/

namespace RioFabric.Fmd

open Lib Libdid Liblist

/-- What the master reads of a `struct fmd_slv_to_mast_msg` for its list of peers. -/
structure PeerMsg where
  msgType : BitVec 32
  didVal : BitVec 32
  didSz : BitVec 32
  ct : BitVec 32
  deriving DecidableEq

/-- `FMD_P_REQ_HELLO`. -/
def reqHello : BitVec 32 := 3#32

/-- The `p_did` that `did_from_value` makes of a HELLO; which IDs are in use has no influence
on it. -/
def PeerMsg.did (msg : PeerMsg) : Did :=
  (didFromValue .zeroed msg.didVal.toNat msg.didSz.toNat).2.1

/-- Where the thread of a peer is in `peer_rx_loop`. -/
inductive PeerPc where
  /-- In `peer_rx_req`. -/
  | receive
  /-- At the switch, with a message received. -/
  | dispatch (msg : PeerMsg)
  /-- In `master_process_hello_peer`, with the response sent and `add_to_list` set. -/
  | accepted
  /-- Behind `l_add`: the directory and the other peers are told. -/
  | announce
  /-- Out of the loop, in `cleanup_peer` in front of `l_lremove`. -/
  | cleanup
  /-- Behind `l_lremove`; `free` is next. -/
  | release
  deriving DecidableEq

/-- `struct fmd_peer`; `txRc` says that the last send to the peer failed. -/
structure Peer where
  pc : PeerPc
  li : Option Nat
  did : Did
  ct : BitVec 32
  txRc : Bool
  deriving DecidableEq

/-- What `calloc` gives to a new peer. -/
def Peer.new : Peer := ⟨.receive, none, ⟨0, .invldSz⟩, 0, false⟩

/-- `fmp.peers`, and the peers that have not been freed by their address. -/
structure Master where
  peers : List (LItem Nat)
  threads : Nat → Option Peer

/-- A master without peers. -/
def Master.start : Master := ⟨[], fun _ => none⟩

/-- The steps of the threads, with what their environment answers. -/
inductive PeerAction where
  /-- `start_new_peer`: `calloc` returns memory that is not in use. -/
  | connect (peer : Nat)
  /-- `riomp_sock_receive` returns a message or fails. -/
  | receive (peer : Nat) (msg : Option PeerMsg)
  /-- The switch; `found` is the answer of `riocp_pe_find_comptag`, `failed` that of
  `riomp_sock_send`. -/
  | dispatch (peer : Nat) (found failed : Bool)
  /-- The end of `master_process_hello_peer`; `addr` is what `calloc` gives to `l_add`. -/
  | link (peer : Nat) (addr : Option Nat)
  /-- `add_device_to_dd` and `update_all_peer_dd_and_flags` return. -/
  | announced (peer : Nat)
  /-- Some thread has sent a message to the peer. -/
  | transmit (peer : Nat) (failed : Bool)
  /-- `cleanup_peer`. -/
  | unlink (peer : Nat)
  /-- `free` and `pthread_exit`. -/
  | free (peer : Nat)

/-- The state of one peer changes. -/
def Master.set (master : Master) (peer : Nat) (p : Option Peer) : Master :=
  { master with threads := Function.update master.threads peer p }

/-- The switch of `peer_rx_loop`.  A HELLO that is denied has been stored all the same; the
other messages have no influence on the list. -/
def Peer.dispatch (p : Peer) (msg : PeerMsg) (found failed : Bool) : Peer :=
  if msg.msgType = reqHello then
    { p with
      did := msg.did
      ct := msg.ct
      txRc := failed
      pc := if found then .accepted else .receive }
  else { p with pc := .receive }

/-- The end of `master_process_hello_peer`.  The item of an earlier HELLO is forgotten. -/
def Master.link (master : Master) (peer : Nat) (p : Peer) (addr : Option Nat) : Master :=
  if p.txRc then master.set peer (some { p with pc := .receive })
  else
    match addr with
    | none => master.set peer (some { p with pc := .announce, li := none })
    | some addr =>
      { master.set peer (some { p with pc := .announce, li := some addr }) with
        peers := lAdd master.peers ⟨addr, p.did.value, peer⟩ }

/-- `cleanup_peer`, as far as the list is concerned. -/
def Master.unlink (master : Master) (peer : Nat) (p : Peer) : Master :=
  { master.set peer (some { p with pc := .release, li := none }) with
    peers :=
      match p.li with
      | none => master.peers
      | some addr => lLremove master.peers addr }

/-- One step of one thread. -/
def Master.step (master : Master) : PeerAction → Option Master
  | .connect peer =>
    match master.threads peer with
    | none => some (master.set peer (some .new))
    | some _ => none
  | .receive peer msg =>
    match master.threads peer, msg with
    | some p, some msg =>
      if p.pc = .receive then
        let pc := if p.txRc then PeerPc.cleanup else .dispatch msg
        some (master.set peer (some { p with pc := pc }))
      else none
    | some p, none =>
      if p.pc = .receive then some (master.set peer (some { p with pc := .cleanup })) else none
    | none, _ => none
  | .dispatch peer found failed =>
    match master.threads peer with
    | some p =>
      match p.pc with
      | .dispatch msg => some (master.set peer (some (p.dispatch msg found failed)))
      | _ => none
    | none => none
  | .link peer addr =>
    match master.threads peer with
    | some p =>
      if p.pc = .accepted ∧ ∀ li ∈ master.peers, some li.addr ≠ addr then
        some (master.link peer p addr)
      else none
    | none => none
  | .announced peer =>
    match master.threads peer with
    | some p =>
      if p.pc = .announce then some (master.set peer (some { p with pc := .receive }))
      else none
    | none => none
  | .transmit peer failed =>
    match master.threads peer with
    | some p => some (master.set peer (some { p with txRc := failed }))
    | none => none
  | .unlink peer =>
    match master.threads peer with
    | some p => if p.pc = .cleanup then some (master.unlink peer p) else none
    | none => none
  | .free peer =>
    match master.threads peer with
    | some p => if p.pc = .release then some (master.set peer none) else none
    | none => none

/-- What the readers of the list rely on. -/
structure Master.PeersLive (master : Master) : Prop where
  /-- After `cleanup_peer` no item refers to the peer. -/
  cleaned : ∀ peer p, master.threads peer = some p → p.pc = .release →
    ∀ li ∈ master.peers, li.item ≠ peer
  /-- Every item refers to a peer whose `peer_rx_loop` has not returned. -/
  running : ∀ li ∈ master.peers, ∃ p, master.threads li.item = some p

/-- A HELLO enters a peer into the list only when the peer has no item there yet. -/
def FirstHello (master : Master) : PeerAction → Prop
  | .link peer _ => ∀ p ∈ master.threads peer, p.txRc = false → p.li = none
  | _ => True

instance (master : Master) : (action : PeerAction) → Decidable (FirstHello master action)
  | .link peer _ =>
    inferInstanceAs (Decidable (∀ p ∈ master.threads peer, p.txRc = false → p.li = none))
  | .connect _ | .receive .. | .dispatch .. | .announced _ | .transmit .. | .unlink _ | .free _ =>
    .isTrue trivial

/-- What a step that meets the condition does to the list and to the items that the peers
remember. -/
inductive Master.Change (master : Master) : Master → Prop
  | thread {peer : Nat} {p after : Peer} (before : master.threads peer = some p)
      (sameItem : after.li = p.li) (released : after.pc = .release → p.pc = .release) :
      Change master (master.set peer (some after))
  | connect {peer : Nat} (unused : master.threads peer = none) :
      Change master (master.set peer (some .new))
  | link {peer : Nat} {p : Peer} {addr : Nat} (before : master.threads peer = some p)
      (noItem : p.li = none) (fresh : ∀ li ∈ master.peers, li.addr ≠ addr) :
      Change master { master.set peer (some { p with pc := .announce, li := some addr }) with
        peers := lAdd master.peers ⟨addr, p.did.value, peer⟩ }
  | unlink {peer : Nat} {p : Peer} (before : master.threads peer = some p) :
      Change master (master.unlink peer p)
  | free {peer : Nat} {p : Peer} (before : master.threads peer = some p)
      (released : p.pc = .release) : Change master (master.set peer none)

variable {master next : Master}

theorem Peer.dispatch_li (p : Peer) (msg : PeerMsg) (found failed : Bool) :
    (p.dispatch msg found failed).li = p.li := by
  unfold Peer.dispatch
  split <;> rfl

theorem Peer.dispatch_pc (p : Peer) (msg : PeerMsg) (found failed : Bool) :
    (p.dispatch msg found failed).pc ≠ .release := by
  unfold Peer.dispatch
  cases found <;> split <;> simp

/-- What a step of the master can change. -/
theorem change_of_step {action : PeerAction} (first : FirstHello master action)
    (taken : master.step action = some next) : master.Change next := by
  cases action with
  | connect peer =>
    simp only [Master.step] at taken
    split at taken <;> cases taken
    exact .connect ‹_›
  | receive peer msg =>
    simp only [Master.step] at taken
    split at taken
    next before =>
      split at taken <;> cases taken
      refine .thread before rfl ?_
      simp only
      split <;> simp
    next before =>
      split at taken <;> cases taken
      exact .thread before rfl (by simp)
    next => cases taken
  | dispatch peer found failed =>
    simp only [Master.step] at taken
    split at taken
    next before =>
      split at taken <;> cases taken
      exact .thread before (Peer.dispatch_li ..) fun released =>
        absurd released (Peer.dispatch_pc _ _ _ _)
    next => cases taken
  | link peer addr =>
    simp only [Master.step] at taken
    split at taken
    next p before =>
      split at taken <;> cases taken
      next enabled =>
      unfold Master.link
      split
      next => exact .thread before rfl (by simp)
      next sent =>
        have noItem := first p before (by simpa using sent)
        split
        next => exact .thread before (by simp [noItem]) (by simp)
        next fresh =>
          exact .link before noItem fun li inList same => enabled.2 li inList (by rw [same])
    next => cases taken
  | announced peer =>
    simp only [Master.step] at taken
    split at taken
    next before =>
      split at taken <;> cases taken
      exact .thread before rfl (by simp)
    next => cases taken
  | transmit peer failed =>
    simp only [Master.step] at taken
    split at taken <;> cases taken
    next before => exact .thread before rfl id
  | unlink peer =>
    simp only [Master.step] at taken
    split at taken
    next before =>
      split at taken <;> cases taken
      exact .unlink before
    next => cases taken
  | free peer =>
    simp only [Master.step] at taken
    split at taken
    next before =>
      split at taken <;> cases taken
      exact .free before ‹_›
    next => cases taken

/-- The item that a peer remembers. -/
def Master.itemOf (master : Master) (peer : Nat) : Option Nat :=
  (master.threads peer).bind Peer.li

/-- The list holds exactly the items that the peers remember. -/
structure Master.Linked (master : Master) : Prop where
  owned : ∀ li ∈ master.peers, master.itemOf li.item = some li.addr
  listed : ∀ peer addr, master.itemOf peer = some addr →
    ∃ li ∈ master.peers, li.addr = addr ∧ li.item = peer
  apart : (master.peers.map LItem.addr).Nodup
  released : ∀ peer p, master.threads peer = some p → p.pc = .release → p.li = none

theorem Master.Linked.peersLive (linked : master.Linked) : master.PeersLive where
  cleaned := by
    intro peer p isPeer released li inList refers
    have owns := linked.owned li inList
    rw [refers, Master.itemOf, isPeer, Option.bind_some,
      linked.released peer p isPeer released] at owns
    cases owns
  running := by
    intro li inList
    obtain ⟨p, isPeer, -⟩ := Option.bind_eq_some_iff.mp (linked.owned li inList)
    exact ⟨p, isPeer⟩

theorem linked_start : Master.start.Linked where
  owned := by
    intro li inList
    cases inList
  listed := by
    intro peer addr item
    cases item
  apart := List.nodup_nil
  released := by
    intro peer p isPeer
    cases isPeer

section Set

variable {peer : Nat} {after : Option Peer}

theorem itemOf_set (master : Master) (other : Nat) :
    (master.set peer after).itemOf other =
      if other = peer then after.bind Peer.li else master.itemOf other := by
  unfold Master.itemOf Master.set
  by_cases here : other = peer
  · subst here
    simp
  · simp [here]

theorem set_released (linked : master.Linked)
    (released : ∀ p, after = some p → p.pc = .release → p.li = none) (other : Nat) (p : Peer)
    (isPeer : (master.set peer after).threads other = some p) (isReleased : p.pc = .release) :
    p.li = none := by
  by_cases here : other = peer
  · subst here
    simp only [Master.set, Function.update_self] at isPeer
    exact released p isPeer isReleased
  · simp only [Master.set, Function.update_of_ne here] at isPeer
    exact linked.released other p isPeer isReleased

theorem Master.Linked.set (linked : master.Linked)
    (sameItem : after.bind Peer.li = master.itemOf peer)
    (released : ∀ p, after = some p → p.pc = .release → p.li = none) :
    (master.set peer after).Linked := by
  have items : ∀ other, (master.set peer after).itemOf other = master.itemOf other := by
    intro other
    rw [itemOf_set]
    split
    next here => rw [here, sameItem]
    next => rfl
  refine ⟨fun li inList => ?_, fun other addr item => ?_, linked.apart, ?_⟩
  · rw [items]
    exact linked.owned li inList
  · rw [items] at item
    exact linked.listed other addr item
  · exact set_released linked released

end Set

theorem Master.Linked.link {peer addr key : Nat} {p : Peer} (linked : master.Linked)
    (noItem : master.itemOf peer = none) (fresh : ∀ li ∈ master.peers, li.addr ≠ addr)
    (item : p.li = some addr) (running : p.pc ≠ .release) :
    Master.Linked { master.set peer (some p) with
      peers := lAdd master.peers ⟨addr, key, peer⟩ } where
  owned := by
    intro li inList
    refine (itemOf_set master li.item).trans ?_
    rcases mem_lAdd.mp inList with rfl | old
    · rw [if_pos rfl, Option.bind_some, item]
    · rw [if_neg ?_, linked.owned li old]
      rintro rfl
      rw [linked.owned li old] at noItem
      cases noItem
  listed := by
    intro other otherAddr otherItem
    have before := (itemOf_set master other).symm.trans otherItem
    split at before
    next here =>
      rw [Option.bind_some, item] at before
      cases before
      exact ⟨_, mem_lAdd.mpr (.inl rfl), rfl, here.symm⟩
    next =>
      obtain ⟨li, inList, sameAddr, refers⟩ := linked.listed other otherAddr before
      exact ⟨li, mem_lAdd.mpr (.inr inList), sameAddr, refers⟩
  apart := lAdd_nodup linked.apart fresh
  released := by
    refine set_released linked fun q isPeer isReleased => ?_
    cases isPeer
    exact absurd isReleased running

theorem Master.Linked.unlink {peer : Nat} {p : Peer} (linked : master.Linked)
    (before : master.threads peer = some p) : (master.unlink peer p).Linked := by
  have released : ∀ q, some { p with pc := .release, li := none } = some q →
      q.pc = .release → q.li = none := by
    intro q isPeer _
    cases isPeer
    rfl
  have itemEq : master.itemOf peer = p.li := by rw [Master.itemOf, before, Option.bind_some]
  unfold Master.unlink
  cases item : p.li with
  | none => exact linked.set (by rw [itemEq, item]; rfl) released
  | some addr =>
    obtain ⟨removed, isItem, rfl, rfl⟩ := linked.listed peer addr (itemEq.trans item)
    have remaining : ∀ li, li ∈ lLremove master.peers removed.addr ↔ _ := fun li =>
      mem_lLremove linked.apart isItem
    refine ⟨fun li inList => ?_, fun other addr otherItem => ?_, ?_, ?_⟩
    · obtain ⟨old, different⟩ := (remaining li).mp inList
      refine (itemOf_set master li.item).trans ?_
      rw [if_neg ?_, linked.owned li old]
      intro same
      have owns := linked.owned li old
      rw [same, linked.owned removed isItem] at owns
      exact different (Option.some.inj owns).symm
    · have itemBefore := (itemOf_set master other).symm.trans otherItem
      split at itemBefore
      next => cases itemBefore
      next different =>
        obtain ⟨li, inList, sameAddr, refers⟩ := linked.listed other addr itemBefore
        refine ⟨li, (remaining li).mpr ⟨inList, fun same => different ?_⟩, sameAddr, refers⟩
        rw [← refers, List.inj_on_of_nodup_map linked.apart inList isItem same]
    · exact linked.apart.sublist ((lLremove_sublist _ _).map _)
    · exact set_released linked released

theorem Master.Change.linked (change : master.Change next) (linked : master.Linked) :
    next.Linked := by
  cases change with
  | @thread peer p after before sameItem released =>
    refine linked.set ?_ ?_
    · rw [Option.bind_some, Master.itemOf, before, Option.bind_some, sameItem]
    · intro q isPeer isReleased
      cases isPeer
      exact sameItem.trans (linked.released peer p before (released isReleased))
  | connect unused =>
    refine linked.set ?_ ?_
    · rw [Master.itemOf, unused]
      rfl
    · intro q isPeer _
      cases isPeer
      rfl
  | link before noItem fresh =>
    refine linked.link ?_ fresh rfl (by simp)
    rw [Master.itemOf, before, Option.bind_some, noItem]
  | unlink before => exact linked.unlink before
  | @free peer p before released =>
    refine linked.set ?_ ?_
    · rw [Master.itemOf, before, Option.bind_some, linked.released peer p before released]
      rfl
    · intro q isPeer
      cases isPeer

/-- As long as every HELLO that is accepted is the first one of its connection, no item
outlives its peer. -/
theorem peers_live (reached : Reaches Master.step FirstHello .start master) :
    master.PeersLive :=
  (reached.invariant Master.Linked linked_start fun _ _ _ linked first taken =>
    (change_of_step first taken).linked linked).peersLive

/-- A peer says HELLO, is answered and entered into the list. -/
def hello (peer addr : Nat) : List PeerAction :=
  [.receive peer (some ⟨reqHello, 5, 0, 1⟩), .dispatch peer true false, .link peer (some addr),
    .announced peer]

/-- The connection of a peer ends. -/
def leave (peer : Nat) : List PeerAction := [.receive peer none, .unlink peer, .free peer]

/-- One peer is listed while another one has come and gone. -/
theorem peers_live_oneStays :
    ∃ master : Master, master.peers.length = 1 ∧ master.PeersLive := by
  obtain ⟨master, reached, single⟩ := exists_reaches_of_execute Master.step FirstHello .start
    (.connect 0 :: hello 0 10 ++ .connect 1 :: hello 1 11 ++ leave 0)
    (fun master => master.peers.length = 1) (by decide)
  exact ⟨master, of_decide_eq_true single, peers_live reached⟩

/-- A peer that says HELLO twice leaves an item behind that refers to freed memory. -/
theorem not_peers_live_twoHellos :
    ¬∀ master, Reaches Master.step anyAction .start master → master.PeersLive := by
  intro live
  obtain ⟨master, reached, dangling⟩ := exists_reaches_of_execute Master.step anyAction .start
    (.connect 0 :: hello 0 10 ++ hello 0 11 ++ leave 0)
    (fun master => master.peers = [⟨10, 5, 0⟩] ∧ master.threads 0 = none) (by decide)
  obtain ⟨peersEq, freed⟩ := of_decide_eq_true dangling
  obtain ⟨p, isPeer⟩ := (live master reached).running ⟨10, 5, 0⟩ (by simp [peersEq])
  rw [freed] at isPeer
  cases isPeer

end RioFabric.Fmd

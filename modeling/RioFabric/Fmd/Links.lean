import RioFabric.Fmd.Network

/-!
# The connections of the master

A connection carries one HELLO, which comes from its slave and is entered into the list of
peers at most once; a peer that is in the list has been answered.  This holds however the
threads of the master and the slaves take turns.
-/

namespace RioFabric.Fmd

open Lib Libdid Liblist

variable {n : Nat} {fabric : Fabric n}

/-! ## One connection -/

/-- The thread of a peer is between the receipt of a HELLO and `l_add`. -/
def PeerPc.pending : PeerPc → Nat
  | .dispatch msg => if msg.IsHello then 1 else 0
  | .accepted => 1
  | .receive | .announce | .cleanup | .release => 0

/-- The HELLOs of a connection that have not been entered into the list yet. -/
def Link.pending (l : Link n) : Nat :=
  (if l.saidHello then 0 else 1) + l.toMaster.countP (fun msg => msg.IsHello) +
    (l.peer.map fun peer => peer.pc.pending).getD 0

/-- The thread of a peer is in `cleanup_peer` behind `l_lremove`. -/
def Work.Leaving : Work → Prop
  | .delDeviceFromDd | .sendPeerRemovalMessages | .close => True
  | .idle | .addDeviceToDd | .atomicCopy | .updateAll .. => False

/-- What the master's end of a connection knows of the slave. -/
structure Peer.Knows (hello : PeerMsg) (l : Link n) (peer : Peer) : Prop where
  linked : peer.li.isSome = true → l.pending = 0
  received : ∀ msg, peer.pc = .dispatch msg → msg.IsHello → msg = hello
  stored : peer.pc = .accepted → peer.did = hello.did
  answered : (peer.pc = .accepted ∧ peer.txRc = false) ∨ peer.li.isSome = true →
    M2s.respHello ∈ l.toSlave ∨ l.mHRespValid = true
  leaving : l.work.Leaving → peer.pc = .release

/-- A connection carries one HELLO, that of its slave. -/
structure Link.Sound (fabric : Fabric n) (l : Link n) : Prop where
  once : l.pending ≤ 1
  queued : ∀ msg ∈ l.toMaster, msg.IsHello → msg = fabric.hello l.slave
  peer : ∀ peer ∈ l.peer, peer.Knows (fabric.hello l.slave) l

/-- The peer that the next message of `update_all_peer_dd_and_flags` is for. -/
def Work.tPeer : Work → Option Nat
  | .updateAll _ tPeer => tPeer
  | .idle | .addDeviceToDd | .atomicCopy | .delDeviceFromDd | .sendPeerRemovalMessages | .close =>
    none

/-! ## The network -/

/-- The list of peers and their threads. -/
def Net.master (net : Net n) : Master :=
  ⟨net.peers, fun conn => (net.links conn).bind Link.peer⟩

/-- The HELLO of a connection has been dealt with. -/
def Net.Told (net : Net n) (conn : Nat) : Prop := ∃ l, net.links conn = some l ∧ l.pending = 0

/-- What holds in every state of the network. -/
structure Net.Sound (fabric : Fabric n) (net : Net n) : Prop where
  links : ∀ conn l, net.links conn = some l → l.Sound fabric
  master : net.master.Linked
  keys : ∀ li ∈ net.peers, ∀ l, net.links li.item = some l →
    li.key = (fabric.hello l.slave).did.value
  told : ∀ conn l, net.links conn = some l → ∀ tPeer ∈ l.work.tPeer, net.Told tPeer
  slaveOpen : ∀ conn l, net.links conn = some l → l.slaveOpen = true →
    (net.slaves l.slave).conn = some conn
  running : ∀ slave conn, (net.slaves slave).conn = some conn →
    ∃ l, net.links conn = some l ∧ l.slave = slave

variable {net : Net n} {conn : Nat} {l after : Link n}

theorem Net.master_setLink : (net.setLink conn l).master = net.master.set conn l.peer := by
  simp only [Net.master, Net.setLink, Master.set, Master.mk.injEq, true_and]
  funext other
  by_cases here : other = conn
  · subst here
    simp
  · simp [here]

theorem Net.threads_master (was : net.links conn = some l) : net.master.threads conn = l.peer := by
  simp [Net.master, was]

theorem Net.links_setLink (other : Nat) :
    (net.setLink conn l).links other = if other = conn then some l else net.links other := by
  simp [Net.setLink, Function.update_apply]

theorem Net.Told.setLink {target : Nat} (told : net.Told target) (was : net.links conn = some l)
    (pending : after.pending ≤ l.pending) : (net.setLink conn after).Told target := by
  obtain ⟨other, isLink, zero⟩ := told
  by_cases here : target = conn
  · subst here
    rw [was] at isLink
    cases isLink
    exact ⟨after, by rw [Net.links_setLink, if_pos rfl], by omega⟩
  · exact ⟨other, by rw [Net.links_setLink, if_neg here, isLink], zero⟩

section

variable (sound : net.Sound fabric)
include sound

section

variable (was : net.links conn = some l)
include was

theorem Net.Sound.setLinkPeers
    {peers : List (LItem Nat)} (linkSound : after.Sound fabric)
    (master : ({ net.setLink conn after with peers := peers } : Net n).master.Linked)
    (keys : ∀ li ∈ peers, li ∈ net.peers ∨
      li.item = conn ∧ li.key = (fabric.hello l.slave).did.value)
    (slave : after.slave = l.slave) (slaveOpen : after.slaveOpen = true → l.slaveOpen = true)
    (pending : after.pending ≤ l.pending)
    (tPeer : ∀ tPeer ∈ after.work.tPeer, net.Told tPeer) :
    Net.Sound fabric { net.setLink conn after with peers := peers } where
  links := by
    intro other found isLink
    rw [Net.links_setLink] at isLink
    split at isLink
    · cases isLink
      exact linkSound
    · exact sound.links other found isLink
  master := master
  keys := by
    intro li inList found isLink
    rw [Net.links_setLink] at isLink
    split at isLink
    next here =>
      cases isLink
      rw [slave]
      obtain old | ⟨-, key⟩ := keys li inList
      · exact sound.keys li old l (here ▸ was)
      · exact key
    next elsewhere =>
      obtain old | ⟨here, -⟩ := keys li inList
      · exact sound.keys li old found isLink
      · exact absurd here elsewhere
  told := by
    intro other found isLink target isTarget
    rw [Net.links_setLink] at isLink
    have before : net.Told target := by
      split at isLink
      · cases isLink
        exact tPeer target isTarget
      · exact sound.told other found isLink target isTarget
    exact before.setLink was pending
  slaveOpen := by
    intro other found isLink isOpen
    rw [Net.links_setLink] at isLink
    split at isLink
    next here =>
      cases isLink
      rw [slave, here]
      exact sound.slaveOpen conn l was (slaveOpen isOpen)
    next => exact sound.slaveOpen other found isLink isOpen
  running := by
    intro runs other isConn
    obtain ⟨found, isLink, isSlave⟩ := sound.running runs other isConn
    rw [Net.links_setLink]
    split
    next here =>
      subst here
      rw [was] at isLink
      cases isLink
      exact ⟨after, rfl, slave.trans isSlave⟩
    next => exact ⟨found, isLink, isSlave⟩

theorem Net.Sound.linked_setLink
    (sameItem : after.peer.bind Peer.li = l.peer.bind Peer.li)
    (released : ∀ peer ∈ after.peer, peer.pc = .release → peer.li = none) :
    (net.setLink conn after).master.Linked := by
  rw [Net.master_setLink]
  refine sound.master.set ?_ released
  rw [sameItem, Master.itemOf, Net.threads_master was]

theorem Net.Sound.released :
    ∀ peer ∈ l.peer, peer.pc = .release → peer.li = none := by
  intro peer isPeer
  exact sound.master.released conn peer ((Net.threads_master was).trans isPeer)

theorem Net.Sound.setLink (linkSound : after.Sound fabric)
    (sameItem : after.peer.bind Peer.li = l.peer.bind Peer.li)
    (released : ∀ peer ∈ after.peer, peer.pc = .release → peer.li = none)
    (slave : after.slave = l.slave) (slaveOpen : after.slaveOpen = true → l.slaveOpen = true)
    (pending : after.pending ≤ l.pending) (tPeer : ∀ tPeer ∈ after.work.tPeer, net.Told tPeer) :
    (net.setLink conn after).Sound fabric :=
  sound.setLinkPeers was linkSound (sound.linked_setLink was sameItem released)
    (fun _ => .inl) slave slaveOpen pending tPeer

end

theorem Net.Sound.setSlaves {slaves : Fin n → Slave}
    (same : ∀ slave, (slaves slave).conn = (net.slaves slave).conn) :
    Net.Sound fabric { net with slaves := slaves } where
  links := sound.links
  master := sound.master
  keys := sound.keys
  told := sound.told
  slaveOpen := fun other found isLink isOpen =>
    (same found.slave).trans (sound.slaveOpen other found isLink isOpen)
  running := fun slave other isConn => sound.running slave other ((same slave).symm.trans isConn)

theorem Net.Sound.setDd (dd : Dd) :
    Net.Sound fabric { net with dd := dd } :=
  ⟨sound.links, sound.master, sound.keys, sound.told, sound.slaveOpen, sound.running⟩

end

theorem Peer.Knows.mono {hello : PeerMsg} {peer : Peer} (knows : peer.Knows hello l)
    (pending : after.pending ≤ l.pending)
    (answered : M2s.respHello ∈ l.toSlave ∨ l.mHRespValid = true →
      M2s.respHello ∈ after.toSlave ∨ after.mHRespValid = true)
    (leaving : after.work.Leaving → l.work.Leaving) : peer.Knows hello after where
  linked := fun isLinked => Nat.eq_zero_of_le_zero (knows.linked isLinked ▸ pending)
  received := knows.received
  stored := knows.stored
  answered := fun isAnswered => answered (knows.answered isAnswered)
  leaving := fun isLeaving => knows.leaving (leaving isLeaving)

theorem Net.Sound.setLink_samePeer (sound : net.Sound fabric) (was : net.links conn = some l)
    (samePeer : after.peer = l.peer) (slave : after.slave = l.slave)
    (slaveOpen : after.slaveOpen = true → l.slaveOpen = true) (pending : after.pending ≤ l.pending)
    (queued : ∀ msg ∈ after.toMaster, msg.IsHello → msg = fabric.hello l.slave)
    (answered : M2s.respHello ∈ l.toSlave ∨ l.mHRespValid = true →
      M2s.respHello ∈ after.toSlave ∨ after.mHRespValid = true)
    (leaving : after.work.Leaving → l.work.Leaving)
    (tPeer : ∀ tPeer ∈ after.work.tPeer, net.Told tPeer) :
    (net.setLink conn after).Sound fabric := by
  have linkSound := sound.links conn l was
  refine sound.setLink was ⟨pending.trans linkSound.once, ?_, ?_⟩ (by rw [samePeer]) ?_ slave
    slaveOpen pending tPeer
  · rw [slave]
    exact queued
  · rw [slave, samePeer]
    exact fun peer isPeer => (linkSound.peer peer isPeer).mono pending answered leaving
  · rw [samePeer]
    exact sound.released was

theorem Net.Sound.setWork (sound : net.Sound fabric) {work : Work}
    (leaving : work.Leaving → ∀ l, net.links conn = some l → l.work.Leaving)
    (tPeer : ∀ tPeer ∈ work.tPeer, net.Told tPeer) :
    (net.setWork conn work).Sound fabric := by
  unfold Net.setWork
  split
  · exact sound
  next l was =>
    exact sound.setLink_samePeer was rfl rfl id le_rfl (sound.links conn l was).queued id
      (fun isLeaving => leaving isLeaving l was) tPeer

/-! ## Steps of the slaves -/

theorem Link.pending_eq (l : Link n) (peer : Peer) (isPeer : l.peer = some peer) :
    l.pending = (if l.saidHello then 0 else 1) + l.toMaster.countP (fun msg => msg.IsHello) +
      peer.pc.pending := by
  rw [Link.pending, isPeer]
  rfl

section

variable (sound : net.Sound fabric)
include sound

theorem Net.Sound.connect {slave : Fin n} (dd : Dd) (idle : (net.slaves slave).conn = none)
    (unused : net.links conn = none) :
    Net.Sound fabric
      { net.setLink conn ⟨slave, false, [], [], true, false, some .new, .idle⟩ with
        slaves := Function.update net.slaves slave ⟨some conn, dd⟩ } where
  links := by
    intro other found isLink
    rw [Net.links_setLink] at isLink
    split at isLink
    · cases isLink
      refine ⟨by simp [Link.pending, Peer.new, PeerPc.pending], by simp, ?_⟩
      intro peer isPeer
      cases isPeer
      constructor <;> simp [Peer.new, Work.Leaving]
    · exact sound.links other found isLink
  master := by
    have linked : (net.setLink conn
        (⟨slave, false, [], [], true, false, some .new, .idle⟩ : Link n)).master.Linked := by
      rw [Net.master_setLink]
      refine (Master.Change.connect ?_).linked sound.master
      simp [Net.master, unused]
    exact linked
  keys := by
    intro li inList found isLink
    rw [Net.links_setLink] at isLink
    split at isLink
    next here =>
      -- an item of the list has a connection
      have owned := sound.master.owned li inList
      simp [Master.itemOf, Net.master, here, unused] at owned
    next => exact sound.keys li inList found isLink
  told := by
    intro other found isLink target isTarget
    rw [Net.links_setLink] at isLink
    split at isLink
    · cases isLink
      cases isTarget
    · obtain ⟨told, isTold, zero⟩ := sound.told other found isLink target isTarget
      refine ⟨told, ?_, zero⟩
      rw [Net.links_setLink, if_neg, isTold]
      rintro rfl
      rw [unused] at isTold
      cases isTold
  slaveOpen := by
    intro other found isLink isOpen
    rw [Net.links_setLink] at isLink
    split at isLink
    next here =>
      cases isLink
      simp [here]
    next elsewhere =>
      have isConn := sound.slaveOpen other found isLink isOpen
      have different : found.slave ≠ slave := by
        rintro same
        rw [same, idle] at isConn
        cases isConn
      simpa [different] using isConn
  running := by
    intro runs other isConn
    rw [Net.links_setLink]
    by_cases same : runs = slave
    · subst same
      simp only [Function.update_self, Option.some.injEq] at isConn
      exact ⟨_, if_pos isConn.symm, rfl⟩
    · simp only [Function.update_of_ne same] at isConn
      obtain ⟨found, isLink, isSlave⟩ := sound.running runs other isConn
      refine ⟨found, ?_, isSlave⟩
      rw [if_neg, isLink]
      rintro rfl
      rw [unused] at isLink
      cases isLink

theorem Net.Sound.hello (was : net.links conn = some l) (unsaid : l.saidHello = false) :
    (net.setLink conn { l with
      saidHello := true, toMaster := l.toMaster ++ [fabric.hello l.slave] }).Sound fabric := by
  have isHello : (fabric.hello l.slave).IsHello := rfl
  refine sound.setLink_samePeer was rfl rfl id ?_ ?_ id id (sound.told conn l was)
  · simp only [Link.pending, unsaid, List.countP_append, List.countP_singleton,
      decide_eq_true isHello, if_true, Bool.false_eq_true, if_false]
    omega
  · intro msg inQueue helloMsg
    obtain old | new := List.mem_append.mp inQueue
    · exact (sound.links conn l was).queued msg old helloMsg
    · exact List.mem_singleton.mp new

theorem Net.Sound.slaveHandle (was : net.links conn = some l)
    (slave : Fin n) {msg : M2s} {rest : List M2s} (queue : l.toSlave = msg :: rest) (rc : Nat)
    (failed : Bool) : (net.slaveHandle slave conn l rest rc failed msg).Sound fabric := by
  cases msg with
  | respHello =>
    exact sound.setLink_samePeer was rfl rfl id le_rfl (sound.links conn l was).queued
      (fun _ => .inr rfl) id (sound.told conn l was)
  | reqMod rq =>
    have notHello : ¬rq.response.IsHello := by
      simp [PeerMsg.IsHello, ModRq.response, respMod, reqHello]
    have linkSound : (net.setLink conn { l with
        toSlave := rest
        toMaster := if failed then l.toMaster else l.toMaster ++ [rq.response] }).Sound fabric :=
      sound.setLink_samePeer was rfl rfl id ?_ ?_ ?_ id (sound.told conn l was)
    · refine linkSound.setSlaves fun other => ?_
      by_cases same : other = slave
      · subst same
        simp [Net.setLink]
      · simp [Net.setLink, same]
    · cases failed <;> simp [Link.pending, List.countP_append, notHello]
    · intro msg inQueue isHello
      cases failed with
      | true => exact (sound.links conn l was).queued msg inQueue isHello
      | false =>
        obtain old | new := List.mem_append.mp inQueue
        · exact (sound.links conn l was).queued msg old isHello
        · rw [List.mem_singleton.mp new] at isHello
          exact absurd isHello notHello
    · rintro (inQueue | valid)
      · rw [queue] at inQueue
        obtain new | old := List.mem_cons.mp inQueue
        · cases new
        · exact .inl old
      · exact .inr valid

theorem Net.Sound.stop {slave : Fin n}
    (closed : ∀ conn l, net.links conn = some l → l.slave = slave → l.slaveOpen = false) :
    Net.Sound fabric
      { net with
        slaves := Function.update net.slaves slave { net.slaves slave with conn := none } } where
  links := sound.links
  master := sound.master
  keys := sound.keys
  told := sound.told
  slaveOpen := by
    intro other found isLink isOpen
    have different : found.slave ≠ slave := by
      intro same
      rw [closed other found isLink same] at isOpen
      cases isOpen
    simpa [different] using sound.slaveOpen other found isLink isOpen
  running := by
    intro runs other isConn
    by_cases same : runs = slave
    · subst same
      simp at isConn
    · simp only [Function.update_of_ne same] at isConn
      exact sound.running runs other isConn

theorem Net.Sound.leave {slave : Fin n} (isConn : (net.slaves slave).conn = some conn)
    (was : net.links conn = some l) :
    Net.Sound fabric
      { net.setLink conn { l with slaveOpen := false } with
        slaves := Function.update net.slaves slave { net.slaves slave with conn := none } } := by
  have linkSound : (net.setLink conn { l with slaveOpen := false }).Sound fabric :=
    sound.setLink_samePeer was rfl rfl (fun isOpen => nomatch isOpen) le_rfl
      (sound.links conn l was).queued id id (sound.told conn l was)
  refine linkSound.stop fun other found isLink isSlave => ?_
  rw [Net.links_setLink] at isLink
  split at isLink
  · cases isLink
    rfl
  next elsewhere =>
    by_contra isOpen
    have otherConn := sound.slaveOpen other found isLink (by simpa using isOpen)
    rw [isSlave, isConn] at otherConn
    exact elsewhere (Option.some.inj otherConn).symm

/-! ## Steps of the master -/

theorem Net.Sound.setPeer (was : net.links conn = some l) {peer next : Peer}
    (isPeer : l.peer = some peer) (isNext : after.peer = some next) (sameItem : next.li = peer.li)
    (running : next.pc ≠ .release) (slave : after.slave = l.slave)
    (slaveOpen : after.slaveOpen = l.slaveOpen) (pending : after.pending ≤ l.pending)
    (queued : ∀ msg ∈ after.toMaster, msg.IsHello → msg = fabric.hello l.slave)
    (knows : next.Knows (fabric.hello l.slave) after)
    (tPeer : ∀ tPeer ∈ after.work.tPeer, net.Told tPeer) :
    (net.setLink conn after).Sound fabric := by
  refine sound.setLink was ⟨pending.trans (sound.links conn l was).once, ?_, ?_⟩ ?_ ?_ slave
    (slaveOpen ▸ id) pending tPeer
  · rw [slave]
    exact queued
  · rw [slave, isNext]
    rintro _ ⟨⟩
    exact knows
  · rw [isNext, isPeer, Option.bind_some, Option.bind_some, sameItem]
  · rw [isNext]
    rintro _ ⟨⟩ released
    exact absurd released running

end

section Peer

variable {peer : Peer}

theorem Peer.Knows.notLeaving {hello : PeerMsg} (knows : peer.Knows hello l)
    (running : peer.pc ≠ .release) : ¬l.work.Leaving := fun leaving =>
  running (knows.leaving leaving)

theorem Net.Sound.receive (sound : net.Sound fabric) (was : net.links conn = some l)
    (isPeer : l.peer = some peer) (atReceive : peer.pc = .receive) {msg : PeerMsg}
    {rest : List PeerMsg} (queue : l.toMaster = msg :: rest) :
    (net.setLink conn { l with
      toMaster := rest
      peer := some { peer with
        pc := if peer.txRc then PeerPc.cleanup else .dispatch msg } }).Sound fabric := by
  have linkSound := sound.links conn l was
  have knows := linkSound.peer peer isPeer
  have notLeaving := knows.notLeaving (by simp [atReceive])
  have pending : Link.pending { l with
      toMaster := rest
      peer := some { peer with pc := if peer.txRc then PeerPc.cleanup else .dispatch msg } } ≤
        l.pending := by
    rw [l.pending_eq peer isPeer, Link.pending_eq _ _ rfl, queue, atReceive, List.countP_cons]
    cases peer.txRc with
    | true => simp [PeerPc.pending]
    | false => simp [PeerPc.pending]; omega
  refine sound.setPeer was isPeer rfl rfl ?_ rfl rfl pending ?_ ?_ (sound.told conn l was)
  · cases peer.txRc <;> simp
  · intro other inQueue
    exact linkSound.queued other (queue ▸ List.mem_cons_of_mem msg inQueue)
  · refine ⟨fun isLinked => ?_, ?_, ?_, ?_, fun leaving => absurd leaving notLeaving⟩
    · have zero := knows.linked isLinked
      omega
    · intro other atDispatch
      have same : msg = other := by
        cases txRc : peer.txRc with
        | true => simp [txRc] at atDispatch
        | false => simpa [txRc] using atDispatch
      subst same
      exact linkSound.queued msg (queue ▸ List.mem_cons_self)
    · cases peer.txRc <;> simp
    · rintro (⟨accepted, -⟩ | isLinked)
      · cases txRc : peer.txRc <;> simp [txRc] at accepted
      · exact knows.answered (.inr isLinked)

theorem Net.Sound.goOn (sound : net.Sound fabric) (was : net.links conn = some l)
    (isPeer : l.peer = some peer) {pc : PeerPc} (isPlain : pc = .receive ∨ pc = .cleanup)
    {work : Work} (notLeaving : ¬work.Leaving) (tPeer : ∀ tPeer ∈ work.tPeer, net.Told tPeer) :
    (net.setLink conn { l with peer := some { peer with pc := pc }, work := work }).Sound
      fabric := by
  have linkSound := sound.links conn l was
  have knows := linkSound.peer peer isPeer
  have zero : pc.pending = 0 := by
    obtain rfl | rfl := isPlain <;> rfl
  have pending : Link.pending { l with peer := some { peer with pc := pc }, work := work } ≤
      l.pending := by
    rw [l.pending_eq peer isPeer, Link.pending_eq _ _ rfl, zero]
    exact Nat.le_add_right _ _
  refine sound.setPeer was isPeer rfl rfl ?_ rfl rfl pending linkSound.queued ?_ tPeer
  · obtain rfl | rfl := isPlain <;> simp
  · refine ⟨fun isLinked => ?_, ?_, ?_, ?_, fun leaving => absurd leaving notLeaving⟩
    · have before := knows.linked isLinked
      omega
    · rintro msg rfl
      obtain plain | plain := isPlain <;> cases plain
    · rintro rfl
      obtain plain | plain := isPlain <;> cases plain
    · rintro (⟨rfl, -⟩ | isLinked)
      · obtain plain | plain := isPlain <;> cases plain
      · exact knows.answered (.inr isLinked)

theorem Net.Sound.dispatch (sound : net.Sound fabric) (was : net.links conn = some l)
    (isPeer : l.peer = some peer) {msg : PeerMsg} (atDispatch : peer.pc = .dispatch msg)
    (failed : Bool) : (net.setLink conn (l.dispatch peer msg failed)).Sound fabric := by
  have linkSound := sound.links conn l was
  have knows := linkSound.peer peer isPeer
  have notLeaving := knows.notLeaving (by simp [atDispatch])
  have pending : (l.dispatch peer msg failed).pending ≤ l.pending := by
    rw [l.pending_eq peer isPeer, Link.pending_eq _ _ rfl, atDispatch]
    by_cases isHello : msg.IsHello
    · simp [Link.dispatch, Peer.dispatch, PeerPc.pending, isHello, if_pos isHello]
    · simp [Link.dispatch, Peer.dispatch, PeerPc.pending, isHello]
  refine sound.setPeer was isPeer rfl (Peer.dispatch_li ..) (Peer.dispatch_pc _ _ _ _) rfl rfl
    pending linkSound.queued ?_ (sound.told conn l was)
  have grows : M2s.respHello ∈ l.toSlave ∨ l.mHRespValid = true →
      M2s.respHello ∈ (l.dispatch peer msg failed).toSlave ∨
        (l.dispatch peer msg failed).mHRespValid = true := by
    refine Or.imp_left fun inQueue => ?_
    simp only [Link.dispatch]
    split
    · exact List.mem_append_left _ inQueue
    · exact inQueue
  refine ⟨fun isLinked => ?_, ?_, ?_, ?_, fun leaving => absurd leaving notLeaving⟩
  · rw [Peer.dispatch_li] at isLinked
    have zero := knows.linked isLinked
    omega
  · intro other again
    simp only [Peer.dispatch] at again
    split at again <;> simp at again
  · intro accepted
    by_cases isHello : msg.IsHello
    · rw [← knows.received msg atDispatch isHello]
      simp [Peer.dispatch, isHello]
    · simp [Peer.dispatch, isHello] at accepted
  · rintro (⟨accepted, sent⟩ | isLinked)
    · by_cases isHello : msg.IsHello
      · have succeeded : failed = false := by simpa [Peer.dispatch, isHello] using sent
        left
        simp only [Link.dispatch]
        rw [if_pos ⟨isHello, succeeded⟩]
        exact List.mem_append_right _ List.mem_cons_self
      · simp [Peer.dispatch, isHello] at accepted
    · rw [Peer.dispatch_li] at isLinked
      exact grows (knows.answered (.inr isLinked))

theorem Net.linked_setLinkPeers {peers : List (LItem Nat)}
    (linked : Master.Linked { net.master.set conn after.peer with peers := peers }) :
    ({ net.setLink conn after with peers := peers } : Net n).master.Linked := by
  have same : ({ net.setLink conn after with peers := peers } : Net n).master =
      { net.master.set conn after.peer with peers := peers } := by
    rw [← Net.master_setLink]
    rfl
  rw [same]
  exact linked

theorem Net.Sound.link (sound : net.Sound fabric) (was : net.links conn = some l)
    (isPeer : l.peer = some peer) (accepted : peer.pc = .accepted) {addr : Option Nat}
    (fresh : ∀ li ∈ net.peers, some li.addr ≠ addr) :
    (net.link conn l peer addr).Sound fabric := by
  have linkSound := sound.links conn l was
  have knows := linkSound.peer peer isPeer
  unfold Net.link
  split
  next =>
    exact sound.goOn was isPeer (.inl rfl) (knows.notLeaving (by simp [accepted]))
      (sound.told conn l was)
  next sent =>
  have before := l.pending_eq peer isPeer
  have once := linkSound.once
  rw [accepted, PeerPc.pending] at before
  have zero : Link.pending { l with
      peer := some { peer with pc := .announce, li := addr }, work := .addDeviceToDd } = 0 := by
    rw [Link.pending_eq _ _ rfl]
    simp only [PeerPc.pending]
    omega
  have noItem : peer.li = none := by
    by_contra isLinked
    have none := knows.linked (Option.isSome_iff_ne_none.mpr isLinked)
    omega
  have answered := knows.answered (.inl ⟨accepted, by simpa using sent⟩)
  refine sound.setLinkPeers was ⟨by omega, linkSound.queued, ?_⟩ ?_ ?_ rfl id (by omega) nofun
  · rintro _ ⟨⟩
    exact ⟨fun _ => zero, nofun, nofun, fun _ => answered, False.elim⟩
  · have isThread : net.master.threads conn = some peer := (Net.threads_master was).trans isPeer
    apply Net.linked_setLinkPeers
    cases addr with
    | none =>
      refine (Master.Change.thread isThread ?_ ?_).linked sound.master
      · exact noItem.symm
      · exact nofun
    | some addr =>
      refine (Master.Change.link isThread noItem fun li inList same => ?_).linked sound.master
      exact fresh li inList (same ▸ rfl)
  · cases addr with
    | none => exact fun _ => .inl
    | some addr =>
      intro li inList
      obtain rfl | old := mem_lAdd.mp inList
      · exact .inr ⟨rfl, congrArg Did.value (knows.stored accepted)⟩
      · exact .inl old

theorem Net.Sound.unlink (sound : net.Sound fabric) (was : net.links conn = some l)
    (isPeer : l.peer = some peer) : (net.unlink conn l peer).Sound fabric := by
  have linkSound := sound.links conn l was
  have pending : Link.pending { l with
      peer := some { peer with pc := .release, li := none }, work := .delDeviceFromDd } ≤
        l.pending := by
    rw [l.pending_eq peer isPeer, Link.pending_eq _ _ rfl]
    exact Nat.le_add_right _ _
  have isThread : net.master.threads conn = some peer := (Net.threads_master was).trans isPeer
  refine sound.setLinkPeers was ⟨pending.trans linkSound.once, linkSound.queued, ?_⟩ ?_ ?_ rfl id
    pending nofun
  · rintro _ ⟨⟩
    refine ⟨nofun, nofun, nofun, ?_, fun _ => rfl⟩
    rintro (⟨accepted, -⟩ | isLinked)
    · cases accepted
    · cases isLinked
  · exact Net.linked_setLinkPeers ((Master.Change.unlink isThread).linked sound.master)
  · intro li inList
    cases item : peer.li with
    | none =>
      rw [item] at inList
      exact .inl inList
    | some addr =>
      rw [item] at inList
      exact .inl ((lLremove_sublist _ _).subset inList)

end Peer

theorem Net.Sound.close (sound : net.Sound fabric) (was : net.links conn = some l)
    (atClose : l.work = .close) :
    (net.setLink conn { l with peer := none, work := .idle }).Sound fabric := by
  have linkSound := sound.links conn l was
  have pending : Link.pending { l with peer := none, work := .idle } ≤ l.pending :=
    Nat.add_le_add_left (Nat.zero_le _) _
  refine sound.setLink was ⟨pending.trans linkSound.once, linkSound.queued, nofun⟩ ?_ nofun rfl id
    pending nofun
  cases isPeer : l.peer with
  | none => rfl
  | some peer =>
    have leaving : l.work.Leaving := by
      rw [atClose]
      trivial
    have released := (linkSound.peer peer isPeer).leaving leaving
    exact (sound.released was peer isPeer released).symm

theorem Net.Sound.sendTo (sound : net.Sound fabric) (told : net.Told conn) (msg : M2s)
    (failed : Bool) : (net.sendTo conn msg failed).Sound fabric := by
  obtain ⟨l, was, zero⟩ := told
  unfold Net.sendTo
  rw [was]
  dsimp only
  split
  · exact sound
  next peer isPeer =>
    have linkSound := sound.links conn l was
    have knows := linkSound.peer peer isPeer
    have before := l.pending_eq peer isPeer
    have pending : (l.send peer msg failed).pending = l.pending := by
      rw [before, Link.pending_eq _ _ rfl]
      rfl
    have notAccepted : peer.pc ≠ .accepted := by
      intro accepted
      rw [accepted, PeerPc.pending] at before
      omega
    refine sound.setLink was ⟨pending.trans_le linkSound.once, linkSound.queued, ?_⟩ ?_ ?_ rfl id
      pending.le (sound.told conn l was)
    · rintro _ ⟨⟩
      refine ⟨fun _ => pending.trans zero, knows.received, knows.stored, ?_, knows.leaving⟩
      rintro (⟨accepted, -⟩ | isLinked)
      · exact absurd accepted notAccepted
      · refine (knows.answered (.inr isLinked)).imp_left fun inQueue => ?_
        simp only [Link.send]
        split
        · exact inQueue
        · exact List.mem_append_left _ inQueue
    · rw [isPeer]
      rfl
    · rintro _ ⟨⟩
      exact sound.released was peer isPeer

theorem Net.Sound.told_of_item (sound : net.Sound fabric) {li : LItem Nat}
    (inList : li ∈ net.peers) : net.Told li.item := by
  have owned := sound.master.owned li inList
  obtain ⟨peer, isThread, item⟩ := Option.bind_eq_some_iff.mp owned
  obtain ⟨l, was, isPeer⟩ := Option.bind_eq_some_iff.mp isThread
  refine ⟨l, was, ((sound.links _ l was).peer peer isPeer).linked ?_⟩
  rw [item]
  rfl

theorem Net.sendTo_peers (net : Net n) (conn : Nat) (msg : M2s) (failed : Bool) :
    (net.sendTo conn msg failed).peers = net.peers := by
  unfold Net.sendTo
  split
  · rfl
  split <;> rfl

theorem Net.sendTo_work (net : Net n) (conn : Nat) (msg : M2s) (failed : Bool) (other : Nat) :
    ((net.sendTo conn msg failed).links other).map Link.work =
      (net.links other).map Link.work := by
  unfold Net.sendTo
  split
  · rfl
  next l was =>
  split
  · rfl
  · rw [Net.links_setLink]
    split
    next here =>
      rw [here, was]
      rfl
    next => rfl

theorem Net.Sound.sendDels (sound : net.Sound fabric) (msg : M2s) (failed : Nat → Bool)
    {items : List (LItem Nat)} (inList : ∀ li ∈ items, li ∈ net.peers) :
    (items.foldl (fun net li => net.sendTo li.item msg (failed li.item)) net).Sound fabric ∧
      ∀ other, ((items.foldl (fun net li => net.sendTo li.item msg (failed li.item)) net).links
        other).map Link.work = (net.links other).map Link.work := by
  induction items generalizing net with
  | nil => exact ⟨sound, fun _ => rfl⟩
  | cons li items ih =>
    have told := sound.told_of_item (inList li List.mem_cons_self)
    have rest : ∀ other ∈ items, other ∈ (net.sendTo li.item msg (failed li.item)).peers := by
      intro other inRest
      rw [Net.sendTo_peers]
      exact inList other (List.mem_cons_of_mem li inRest)
    obtain ⟨afterSound, works⟩ := ih (sound.sendTo told msg (failed li.item)) rest
    refine ⟨afterSound, fun other => ?_⟩
    exact (works other).trans (net.sendTo_work li.item msg (failed li.item) other)

theorem Net.Sound.tell (sound : net.Sound fabric) {tPeer : Nat} (told : net.Told tPeer)
    (dev : DevInfo) (failed : Bool) : (net.tell tPeer dev failed).Sound fabric := by
  unfold Net.tell
  split
  · exact sound
  · exact sound.sendTo told _ failed

theorem workNotLeaving {work : Work} (notLeaving : ¬work.Leaving) :
    work.Leaving → ∀ l, net.links conn = some l → l.work.Leaving := fun leaving =>
  absurd leaving notLeaving

section

variable (sound : net.Sound fabric)
include sound

theorem Net.Sound.findTurn {li : LItem Nat} (isMember : li ∈ net.peers)
    (turns : List (DevInfo × DevInfo)) :
    (net.setWork conn (.updateAll turns (some li.item))).Sound fabric := by
  refine sound.setWork (workNotLeaving nofun) ?_
  rintro _ ⟨⟩
  exact sound.told_of_item isMember

section

variable (was : net.links conn = some l)
include was

theorem Net.Sound.sendAdd
    {turns rest : List (DevInfo × DevInfo)} {tPeer : Nat}
    (atTurn : l.work = .updateAll turns (some tPeer)) (src : DevInfo) (failed : Bool) :
    ((net.tell tPeer src failed).setWork conn (.updateAll rest none)).Sound fabric := by
  have told : net.Told tPeer := sound.told conn l was tPeer (by rw [atTurn]; rfl)
  exact (sound.tell told src failed).setWork (workNotLeaving nofun) nofun

theorem Net.Sound.delDevice (atDel : l.work = .delDeviceFromDd)
    {work : Work} (noPeer : work.tPeer = none) (dd : Dd) :
    { net.setWork conn work with dd := dd }.Sound fabric := by
  refine (sound.setWork ?_ (by simp [noPeer])).setDd _
  intro _ found isLink
  rw [was] at isLink
  cases isLink
  rw [atDel]
  trivial

theorem Net.Sound.sentDels
    (atDels : l.work = .sendPeerRemovalMessages) (msg : M2s) (failed : Nat → Bool) :
    ((net.peers.foldl (fun net li => net.sendTo li.item msg (failed li.item)) net).setWork conn
      .close).Sound fabric := by
  obtain ⟨toldSound, works⟩ := sound.sendDels msg failed fun _ => id
  refine toldSound.setWork (fun _ found isLink => ?_) nofun
  have work := works conn
  rw [isLink, was] at work
  rw [Option.some.inj work, atDels]
  trivial

end

/-- Every step keeps `Sound`. -/
theorem Net.Sound.step {action : NetAction n} {next : Net n}
    (taken : net.step fabric action = some next) : next.Sound fabric := by
  cases action <;>
    simp only [Net.step, Option.bind_eq_bind, Option.bind_eq_some_iff, Option.guard_eq_some',
      Option.pure_def, Option.some.injEq, exists_const] at taken
  case connect slave conn =>
    obtain ⟨⟨idle, unused⟩, rfl⟩ := taken
    exact sound.connect _ idle unused
  case hello slave =>
    obtain ⟨conn, isConn, l, was, unsaid, rfl⟩ := taken
    obtain ⟨found, isLink, rfl⟩ := sound.running slave conn isConn
    rw [was] at isLink
    cases isLink
    exact sound.hello was unsaid
  case receive conn =>
    obtain ⟨l, was, peer, isPeer, atReceive, taken⟩ := taken
    split at taken
    · cases taken
    next msg rest queue =>
      cases taken
      exact sound.receive was isPeer atReceive queue
  case receiveFails conn =>
    obtain ⟨l, was, peer, isPeer, atReceive, rfl⟩ := taken
    have knows := (sound.links conn l was).peer peer isPeer
    exact sound.goOn was isPeer (.inr rfl) (knows.notLeaving (by simp [atReceive]))
      (sound.told conn l was)
  case dispatch conn failed =>
    obtain ⟨l, was, peer, isPeer, taken⟩ := taken
    split at taken
    next msg atDispatch =>
      cases taken
      exact sound.dispatch was isPeer atDispatch failed
    · cases taken
  case link conn addr =>
    obtain ⟨l, was, peer, isPeer, ⟨accepted, fresh⟩, rfl⟩ := taken
    exact sound.link was isPeer accepted fresh
  case addDeviceToDd conn =>
    obtain ⟨l, was, peer, isPeer, atAdd, rfl⟩ := taken
    have worked : (net.setWork conn .atomicCopy).Sound fabric :=
      sound.setWork (workNotLeaving nofun) nofun
    exact worked.setDd _
  case atomicCopy conn =>
    obtain ⟨l, was, atCopy, rfl⟩ := taken
    exact sound.setWork (workNotLeaving nofun) nofun
  case find conn =>
    obtain ⟨l, was, taken⟩ := taken
    split at taken
    next src tgt rest atTurn =>
      split at taken
      next =>
        cases taken
        exact sound.setWork (workNotLeaving nofun) nofun
      next li found =>
        cases taken
        exact sound.findTurn (List.mem_of_find?_eq_some found) _
    · cases taken
  case sendAdd conn failed =>
    obtain ⟨l, was, taken⟩ := taken
    split at taken
    next src tgt rest tPeer atTurn =>
      cases taken
      exact sound.sendAdd was atTurn src failed
    · cases taken
  case announced conn =>
    obtain ⟨l, was, peer, isPeer, atEnd, rfl⟩ := taken
    exact sound.goOn was isPeer (.inl rfl) nofun nofun
  case unlink conn =>
    obtain ⟨l, was, peer, isPeer, atCleanup, rfl⟩ := taken
    exact sound.unlink was isPeer
  case delDeviceFromDd conn =>
    obtain ⟨l, was, peer, isPeer, atDel, rfl⟩ := taken
    exact sound.delDevice was atDel (by split <;> rfl) _
  case sendDels conn failed =>
    obtain ⟨l, was, peer, isPeer, atDels, rfl⟩ := taken
    exact sound.sentDels was atDels _ failed
  case close conn =>
    obtain ⟨l, was, atClose, rfl⟩ := taken
    exact sound.close was atClose
  case slaveReceive slave rc failed =>
    obtain ⟨conn, isConn, l, was, taken⟩ := taken
    split at taken
    · cases taken
    next msg rest queue =>
      cases taken
      exact sound.slaveHandle was slave queue rc failed
  case leave slave =>
    obtain ⟨conn, isConn, l, was, rfl⟩ := taken
    exact sound.leave isConn was

end

theorem Net.sound_start : (Net.start fabric).Sound fabric where
  links := by
    intro conn l isLink
    cases isLink
  master := linked_start
  keys := by
    intro li inList
    cases inList
  told := by
    intro conn l isLink
    cases isLink
  slaveOpen := by
    intro conn l isLink
    cases isLink
  running := by
    intro slave conn isConn
    cases isConn

end RioFabric.Fmd

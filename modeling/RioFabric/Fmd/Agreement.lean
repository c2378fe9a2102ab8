import RioFabric.Fmd.Links

/-!
# The master and its slaves do not agree

A slave says HELLO with the ID of its host register, which is the master's, so that the master
keeps its peers under an ID that none of them has.  As long as a slave is connected, the list of
peers is wrong; when all slaves have left, it is empty.
-/

namespace RioFabric.Fmd

open Lib Libdid Liblist

variable {n : Nat} {fabric : Fabric n} {net : Net n} {conn : Nat} {l after : Link n}

theorem didCheck_eq_none_cases {did : Did} (legal : didCheck did.value did.size = none) :
    did.value ≠ 0 ∧ did.value ≠ 0xFF ∧
      ((did.size = .dev08Sz ∧ did.value ≤ 0xFF) ∨ (did.size = .dev16Sz ∧ did.value < 0xFFFF)) := by
  simp only [didCheck] at legal
  split at legal
  · contradiction
  next inRange =>
    obtain ⟨notZero, notLast⟩ := not_or.mp inRange
    refine ⟨notZero, notLast, ?_⟩
    split at legal
    next size =>
      split at legal
      · contradiction
      · exact .inl ⟨size, by omega⟩
    next size =>
      split at legal
      · contradiction
      · exact .inr ⟨size, by omega⟩
    next => contradiction

theorem helloDid_dev8 : ∀ value : Fin 256, value ≠ 0 → value ≠ 255 →
    (sendSlaveHelloMessage ⟨(BitVec.ofNat 32 value.val <<< 16) ||| 0, 0⟩).did.value =
      value.val := by
  decide +kernel

theorem helloDid_dev16 (reg : BitVec 32) :
    (sendSlaveHelloMessage ⟨reg ||| pwDestid16Ctl, 0⟩).did.value = 0 := by
  have control : (reg ||| pwDestid16Ctl) &&& pwDestid16Ctl = pwDestid16Ctl := by
    ext bit inside
    rw [BitVec.getElem_and, BitVec.getElem_or]
    cases pwDestid16Ctl[bit] <;> simp
  simp only [sendSlaveHelloMessage, getDev8FromPwTgtHw, control]
  rfl

theorem hello_did_ne (fabric : Fabric n) (slave : Fin n) :
    (fabric.hello slave).did.value ≠ (fabric.slaveDid slave).value := by
  obtain ⟨notZero, notLast, size⟩ := didCheck_eq_none_cases fabric.mastLegal
  obtain ⟨slaveNotZero, -, -⟩ := didCheck_eq_none_cases (fabric.slaveLegal slave)
  change (sendSlaveHelloMessage ⟨fabric.hostDidRegVal, 0⟩).did.value ≠ _
  simp only [Fabric.hostDidRegVal]
  obtain ⟨dev8, small⟩ | ⟨dev16, -⟩ := size
  · rw [dev8, if_neg (by decide)]
    have value := helloDid_dev8 ⟨fabric.mastDid.value, by omega⟩
      (fun zero => notZero (congrArg Fin.val zero)) fun last => notLast (congrArg Fin.val last)
    rw [value]
    exact (fabric.notMast slave).symm
  · rw [dev16, if_pos rfl, helloDid_dev16]
    exact slaveNotZero.symm

theorem agrees_iff_of_sound (sound : net.Sound fabric) (quiet : net.Quiet) :
    net.Agrees fabric ↔ ∀ slave conn, ¬net.Connected slave conn := by
  constructor
  · intro agrees slave conn connected
    obtain ⟨li, inList, rfl, key⟩ := agrees.listed slave conn connected
    obtain ⟨l, isLink, rfl⟩ := sound.running slave li.item connected.1
    rw [sound.keys li inList l isLink] at key
    exact hello_did_ne fabric l.slave key
  · intro none
    have empty : ∀ li, li ∉ net.peers := by
      intro li inList
      have owned := sound.master.owned li inList
      obtain ⟨peer, isThread, item⟩ := Option.bind_eq_some_iff.mp owned
      obtain ⟨l, was, isPeer⟩ := Option.bind_eq_some_iff.mp isThread
      obtain ⟨bothOpen, idle, -⟩ := quiet li.item l was
      have isOpen : l.slaveOpen = true := by rw [bothOpen, isPeer]; rfl
      have isLinked : peer.li.isSome = true := by rw [item]; rfl
      have answered := ((sound.links _ l was).peer peer isPeer).answered (.inr isLinked)
      rw [(idle isOpen).2.2] at answered
      refine none l.slave li.item ⟨sound.slaveOpen _ l was isOpen, l, was, ?_⟩
      exact answered.resolve_left List.not_mem_nil
    exact ⟨fun li inList => absurd inList (empty li),
      fun slave conn connected => absurd connected (none slave conn),
      fun slave conn connected => absurd connected (none slave conn)⟩

/-- Whenever the network is quiet, the master and its slaves agree exactly if no slave is
connected. -/
theorem directories_agree_iff {net : Net n}
    (reached : Reaches (Net.step fabric) anyAction (Net.start fabric) net) (quiet : net.Quiet) :
    net.Agrees fabric ↔ ∀ slave conn, ¬net.Connected slave conn := by
  have sound : net.Sound fabric :=
    reached.invariant (Net.Sound fabric) Net.sound_start fun _ _ _ sound _ taken =>
      sound.step taken
  exact agrees_iff_of_sound sound quiet

theorem Net.setLink_unused {other : Nat} (was : net.links other = some l)
    (unused : net.links conn = none) : (net.setLink other after).links conn = none := by
  rw [Net.links_setLink, if_neg, unused]
  rintro rfl
  rw [was] at unused
  cases unused

theorem Net.sendTo_unused (other : Nat) (msg : M2s) (failed : Bool)
    (unused : net.links conn = none) : (net.sendTo other msg failed).links conn = none := by
  have works := net.sendTo_work other msg failed conn
  rw [unused, Option.map_none, Option.map_eq_none_iff] at works
  exact works

theorem Net.setWork_unused (other : Nat) (work : Work) (unused : net.links conn = none) :
    (net.setWork other work).links conn = none := by
  unfold Net.setWork
  split
  · exact unused
  next was => exact Net.setLink_unused was unused

/-- The connection that a step opens. -/
def NetAction.opens : NetAction n → Option Nat
  | .connect _ conn => some conn
  | _ => none

theorem Net.step_unused (unused : net.links conn = none) {action : NetAction n} {next : Net n}
    (other : action.opens ≠ some conn) (taken : net.step fabric action = some next) :
    next.links conn = none := by
  cases action <;>
    simp only [Net.step, Option.bind_eq_bind, Option.bind_eq_some_iff, Option.guard_eq_some',
      Option.pure_def, Option.some.injEq, exists_const] at taken
  case connect slave opened =>
    obtain ⟨-, rfl⟩ := taken
    rw [Net.links_setLink, if_neg, unused]
    rintro rfl
    exact other rfl
  case hello =>
    obtain ⟨_, -, _, was, -, rfl⟩ := taken
    exact Net.setLink_unused was unused
  case receive =>
    obtain ⟨_, was, _, -, -, taken⟩ := taken
    split at taken <;> cases taken
    exact Net.setLink_unused was unused
  case receiveFails =>
    obtain ⟨_, was, _, -, -, rfl⟩ := taken
    exact Net.setLink_unused was unused
  case dispatch =>
    obtain ⟨_, was, _, -, taken⟩ := taken
    split at taken <;> cases taken
    exact Net.setLink_unused was unused
  case link =>
    obtain ⟨_, was, _, -, -, rfl⟩ := taken
    unfold Net.link
    split <;> exact Net.setLink_unused was unused
  case addDeviceToDd =>
    obtain ⟨_, -, _, -, -, rfl⟩ := taken
    exact Net.setWork_unused _ _ unused
  case atomicCopy =>
    obtain ⟨_, -, -, rfl⟩ := taken
    exact Net.setWork_unused _ _ unused
  case find =>
    obtain ⟨_, -, taken⟩ := taken
    split at taken
    · split at taken <;> cases taken <;> exact Net.setWork_unused _ _ unused
    · cases taken
  case sendAdd =>
    obtain ⟨_, -, taken⟩ := taken
    split at taken <;> cases taken
    refine Net.setWork_unused _ _ ?_
    unfold Net.tell
    split
    · exact unused
    · exact Net.sendTo_unused _ _ _ unused
  case announced =>
    obtain ⟨_, was, _, -, -, rfl⟩ := taken
    exact Net.setLink_unused was unused
  case unlink =>
    obtain ⟨_, was, _, -, -, rfl⟩ := taken
    exact Net.setLink_unused was unused
  case delDeviceFromDd =>
    obtain ⟨_, -, _, -, -, rfl⟩ := taken
    exact Net.setWork_unused _ _ unused
  case sendDels =>
    obtain ⟨_, -, peer, -, -, rfl⟩ := taken
    refine Net.setWork_unused _ _ ?_
    generalize net.peers = items
    induction items generalizing net with
    | nil => exact unused
    | cons li items ih => exact ih (Net.sendTo_unused _ _ _ unused)
  case close =>
    obtain ⟨_, was, -, rfl⟩ := taken
    exact Net.setLink_unused was unused
  case slaveReceive =>
    obtain ⟨_, -, _, was, taken⟩ := taken
    split at taken <;> cases taken
    unfold Net.slaveHandle
    split <;> exact Net.setLink_unused was unused
  case leave =>
    obtain ⟨_, -, _, was, rfl⟩ := taken
    exact Net.setLink_unused was unused

theorem execute_unused {actions : List (NetAction n)} {final : Net n}
    (unused : net.links conn = none) (other : ∀ action ∈ actions, action.opens ≠ some conn)
    (ran : execute (restrict (Net.step fabric) anyAction) net actions = some final) :
    final.links conn = none := by
  induction actions generalizing net with
  | nil =>
    cases ran
    exact unused
  | cons action actions ih =>
    obtain ⟨next, taken, rest⟩ := Option.bind_eq_some_iff.mp ran
    have always : anyAction net action := trivial
    rw [restrict, if_pos always] at taken
    rw [List.forall_mem_cons] at other
    exact ih (Net.step_unused unused other.1 taken) other.2 rest

/-- One slave with ID 2, and a master with ID 1. -/
def oneSlave : Fabric 1 where
  mastDid := ⟨1, .dev08Sz⟩
  mastCt := 1
  slaveDid := fun _ => ⟨2, .dev08Sz⟩
  slaveCt := fun _ => 2
  sysfsName := fun _ => []
  mastLegal := by decide
  slaveLegal := by decide
  slaveSize := by decide
  notMast := by decide
  didsDistinct := by decide
  ctNotMast := by decide
  ctsDistinct := by decide

/-- The slave connects, says HELLO and is told of the master. -/
def joins : List (NetAction 1) :=
  [.connect 0 10, .hello 0, .receive 10, .dispatch 10 false, .link 10 (some 100),
    .addDeviceToDd 10, .atomicCopy 10, .find 10, .sendAdd 10 false, .announced 10,
    .slaveReceive 0 0 false, .slaveReceive 0 0 false, .receive 10, .dispatch 10 false]

/-- The slave leaves, and the master cleans up. -/
def leaves : List (NetAction 1) :=
  [.leave 0, .receiveFails 10, .unlink 10, .delDeviceFromDd 10, .sendDels 10 fun _ => false,
    .close 10]

/-- There is nothing to do for a connection. -/
def Link.isQuiet (l : Link n) : Bool :=
  l.slaveOpen == l.peer.isSome &&
    (!l.slaveOpen || l.saidHello && l.toMaster.isEmpty && l.toSlave.isEmpty) &&
      l.peer.all fun peer => peer.pc = .receive

theorem quiet_of_execute {actions : List (NetAction n)} {final : Net n}
    (ran : execute (restrict (Net.step fabric) anyAction) (Net.start fabric) actions = some final)
    (only : ∀ action ∈ actions, ∀ other ∈ action.opens, other = conn)
    (quiet : (final.links conn).all Link.isQuiet = true) : final.Quiet := by
  intro other l isLink
  obtain rfl : other = conn := by
    by_contra elsewhere
    have unused := execute_unused rfl
      (fun action inRun opens => elsewhere (only action inRun other opens)) ran
    rw [unused] at isLink
    cases isLink
  rw [isLink, Option.all_some] at quiet
  simp only [Link.isQuiet, Bool.and_eq_true, beq_iff_eq, Bool.or_eq_true, Bool.not_eq_true',
    List.isEmpty_iff, Option.all_eq_true, decide_eq_true_eq] at quiet
  obtain ⟨⟨bothOpen, idle⟩, atReceive⟩ := quiet
  refine ⟨bothOpen, fun isOpen => ?_, atReceive⟩
  obtain isClosed | ⟨⟨said, toMaster⟩, toSlave⟩ := idle
  · rw [isClosed] at isOpen
    cases isOpen
  · exact ⟨said, toMaster, toSlave⟩

/-- The slave has come and gone, and the list is empty. -/
theorem directories_agree_allLeft :
    ∃ net : Net 1, Reaches (Net.step oneSlave) anyAction (Net.start oneSlave) net ∧ net.Quiet ∧
      net.Agrees oneSlave := by
  have ran : (execute (restrict (Net.step oneSlave) anyAction) (Net.start oneSlave)
      (joins ++ leaves)).any (fun net => (net.links 10).all Link.isQuiet &&
        (net.slaves 0).conn.isNone) = true := by decide +kernel
  obtain ⟨net, executed, holds⟩ := (Option.any_eq_true _ _).mp ran
  rw [Bool.and_eq_true, Option.isNone_iff_eq_none] at holds
  have reached := reaches_of_execute executed
  have quiet := quiet_of_execute executed (by decide) holds.1
  refine ⟨net, reached, quiet, (directories_agree_iff reached quiet).mpr ?_⟩
  rintro slave conn ⟨isConn, -⟩
  rw [Subsingleton.elim slave 0, holds.2] at isConn
  cases isConn

/-- The slave is connected, and the master has it under the ID 1. -/
theorem not_directories_agree_oneSlave :
    ∃ net : Net 1, Reaches (Net.step oneSlave) anyAction (Net.start oneSlave) net ∧ net.Quiet ∧
      net.Connected 0 10 ∧ net.peers = [⟨100, 1, 10⟩] ∧ ¬net.Agrees oneSlave := by
  have ran : (execute (restrict (Net.step oneSlave) anyAction) (Net.start oneSlave) joins).any
      (fun net => (net.links 10).all Link.isQuiet && (net.slaves 0).conn = some 10 &&
        (net.links 10).any Link.mHRespValid && net.peers = [⟨100, 1, 10⟩]) = true := by
    decide +kernel
  obtain ⟨net, executed, holds⟩ := (Option.any_eq_true _ _).mp ran
  simp only [Bool.and_eq_true, decide_eq_true_eq] at holds
  obtain ⟨⟨⟨isQuiet, isConn⟩, answered⟩, peers⟩ := holds
  obtain ⟨l, isLink, valid⟩ := (Option.any_eq_true _ _).mp answered
  have connected : net.Connected 0 10 := ⟨isConn, l, isLink, valid⟩
  refine ⟨net, reaches_of_execute executed, quiet_of_execute executed (by decide) isQuiet,
    connected, peers, fun agrees => ?_⟩
  obtain ⟨li, inList, -, key⟩ := agrees.listed 0 10 connected
  rw [peers, List.mem_singleton] at inList
  rw [inList] at key
  cases key

/-- Every peer in the list has a thread that runs and its answer, and no HELLO of its connection is
left. -/
theorem handshake_of_reaches (reached : Reaches (Net.step fabric) anyAction (Net.start fabric) net)
    :
    net.master.PeersLive ∧ ∀ li ∈ net.peers, ∃ l, net.links li.item = some l ∧
      (M2s.respHello ∈ l.toSlave ∨ l.mHRespValid = true) ∧ l.pending = 0 := by
  have sound : net.Sound fabric :=
    reached.invariant (Net.Sound fabric) Net.sound_start fun _ _ _ sound _ taken =>
      sound.step taken
  refine ⟨sound.master.peersLive, fun li inList => ?_⟩
  obtain ⟨peer, isThread, item⟩ := Option.bind_eq_some_iff.mp (sound.master.owned li inList)
  obtain ⟨l, was, isPeer⟩ := Option.bind_eq_some_iff.mp isThread
  have knows := (sound.links _ l was).peer peer isPeer
  have isLinked : peer.li.isSome = true := by rw [item]; rfl
  exact ⟨l, was, knows.answered (.inr isLinked), knows.linked isLinked⟩

theorem handshake_of_reaches_joins :
    ∃ net : Net 1, net.peers = [⟨100, 1, 10⟩] ∧ net.master.PeersLive := by
  obtain ⟨net, reached, peers⟩ := exists_reaches_of_execute (Net.step oneSlave) anyAction
    (Net.start oneSlave) joins (fun net => net.peers = [⟨100, 1, 10⟩]) (by decide +kernel)
  exact ⟨net, of_decide_eq_true peers, (handshake_of_reaches reached).1⟩

end RioFabric.Fmd

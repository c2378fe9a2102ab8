import RioFabric.Fmd.Directory
import RioFabric.Fmd.Peers

/-!
# The master daemon and its slaves

A slave daemon connects to the master, says HELLO once and from then on enters and deletes
devices in its directory as the master tells it to.  The master has a thread for every
connection.  The thread of a slave that says HELLO enters the slave into the list of peers and
into the master's directory, and then tells every peer of every device: it works on a copy of
the directory and looks the peers up in the list one by one, without a lock, while other slaves
come and go.  The thread of a slave that has left tells the remaining peers.

Requests to set flags, `FMD_P_REQ_FSET`, are left out: they change flags of entries only.
-/

namespace RioFabric.Fmd

open Lib Libdid Liblist

/-- `struct mport_regs`, as far as a HELLO is made of it. -/
structure MportRegs where
  hostDidRegVal : BitVec 32
  comptag : BitVec 32

/-- `RIO_EMHS_PW_DESTID_16CTL`. -/
def pwDestid16Ctl : BitVec 32 := 0x8000

def getDev8FromPwTgtHw (reg : BitVec 32) : BitVec 32 :=
  if reg &&& pwDestid16Ctl ≠ 0 then 0xFF else (reg &&& 0x00FF0000) >>> 16

def getDev16FromPwTgtHw (reg : BitVec 32) : BitVec 32 :=
  if reg &&& pwDestid16Ctl = 0 then 0xFFFF else (reg &&& 0xFFFF0000) >>> 16

/-- The numbers behind `did_sz_t`. -/
def didSzVal : DidSz → Nat
  | .invldSz => 0
  | .dev08Sz => 8
  | .dev16Sz => 16
  | .dev32Sz => 32

def dev16Idx : Nat := 1

/-- What `send_slave_hello_message` sends and the master reads.  The ID is the one of the host
register; the slave's own ID goes into `src_did_val`, which nobody reads. -/
def sendSlaveHelloMessage (regs : MportRegs) : PeerMsg :=
  let dev16 : Bool := regs.hostDidRegVal &&& pwDestid16Ctl ≠ 0
  let devSz : DidSz := if dev16 then .dev16Sz else .dev08Sz
  { msgType := reqHello
    -- an index is compared with a size here
    didVal :=
      if dev16Idx = didSzVal devSz then getDev16FromPwTgtHw regs.hostDidRegVal
      else getDev8FromPwTgtHw regs.hostDidRegVal
    didSz := if dev16 then 1 else 0
    ct := regs.comptag }

/-- The operations of a `struct fmd_m_peer_mod_req`. -/
inductive ModOp where
  | opAdd | opDel
  deriving DecidableEq

/-- `struct fmd_m_peer_mod_req`. -/
structure ModRq where
  op : ModOp
  didVal : Nat
  didSz : Nat
  hcLong : BitVec 8
  ct : BitVec 32
  isMp : BitVec 32
  flag : BitVec 8
  name : List Char
  deriving DecidableEq

/-- Messages to a slave.  Slaves are known to the master, so no HELLO is denied. -/
inductive M2s where
  | respHello
  | reqMod (rq : ModRq)
  deriving DecidableEq

def didToValue (did : Did) : Nat × Nat :=
  match did.size with
  | .dev08Sz => (did.value, 0)
  | .dev16Sz => (did.value, 1)
  | _ => (0, 0)

/-- `FMDD_FLAG_OK`. -/
def flagOk : BitVec 8 := 0x01

/-- `FMDD_FLAG_OK_MP`. -/
def flagOkMp : BitVec 8 := 0x03

/-- The message of `send_add_dev_msg` to a peer with an ID, if it sends one.  Of other slaves a
peer is told only while they are in the list. -/
def sendAddDevMsg (peers : List (LItem Nat)) (pDid : Did) (dev : DevInfo) : Option ModRq :=
  let flag := (dev.flag &&& ~~~flagOkMp) ||| flagOk
  let rq : ModRq :=
    { op := .opAdd, didVal := (didToValue dev.did).1, didSz := (didToValue dev.did).2
      hcLong := hcMp, ct := dev.ct, isMp := 0, flag := flag, name := dev.name }
  if dev.isMastPt ≠ 0 then some { rq with name := "FMD_MAST".toList }
  else if didEqual dev.did pDid then
    some { rq with name := "MPORT0".toList, isMp := 1, flag := flag ||| flagOkMp }
  else (lFind peers (didToValue dev.did).1).map fun _ => rq

/-- The message of `send_del_dev_msg` about a peer. -/
def sendDelDevMsg (delPeer : Peer) : ModRq where
  op := .opDel
  didVal := (didToValue delPeer.did).1
  didSz := (didToValue delPeer.did).2
  hcLong := hcMp
  ct := delPeer.ct
  isMp := 0
  flag := 0
  name := []

/-- The turns of the loops of `update_all_peer_dd_and_flags` that are not skipped: a device to
tell of, and a device to tell. -/
def Dd.turns (dd : Dd) : List (DevInfo × DevInfo) :=
  (List.range dd.numDevs).flatMap fun src =>
    (List.range dd.numDevs).filterMap fun tgt =>
      if src = tgt ∨ (dd.devs tgt).isMastPt ≠ 0 then none
      else some (dd.devs src, dd.devs tgt)

/-- `FMD_P_RESP_MOD`. -/
def respMod : BitVec 32 := 0x80000007#32

/-- The device ID of a request, after `did_from_value`. -/
def ModRq.did (rq : ModRq) : Did := (didFromValue .zeroed rq.didVal rq.didSz).2.1

/-- The directory after `slave_process_mod`; `rc` is what `riomp_mgmt_device_add` returns, or 0
if the device is there already. -/
def slaveProcessMod (dd : Dd) (rq : ModRq) (rc : Nat) : Dd :=
  match rq.op with
  | .opAdd =>
    if rc ≠ 0 then dd
    else (addDeviceToDd dd ⟨rq.ct, rq.did, rq.hcLong, rq.isMp, rq.flag, rq.name⟩).2
  | .opDel => (delDeviceFromDd dd rq.ct rq.did).2

/-- The answer of `slave_process_mod`. -/
def ModRq.response (rq : ModRq) : PeerMsg :=
  ⟨respMod, BitVec.ofNat 32 rq.didVal, BitVec.ofNat 32 rq.didSz, rq.ct⟩

/-- The devices: all IDs are legal, have one size and are distinct, and so are the component
tags. -/
structure Fabric (n : Nat) where
  mastDid : Did
  mastCt : BitVec 32
  slaveDid : Fin n → Did
  slaveCt : Fin n → BitVec 32
  sysfsName : BitVec 32 → List Char
  mastLegal : didCheck mastDid.value mastDid.size = none
  slaveLegal : ∀ slave, didCheck (slaveDid slave).value (slaveDid slave).size = none
  slaveSize : ∀ slave, (slaveDid slave).size = mastDid.size
  notMast : ∀ slave, (slaveDid slave).value ≠ mastDid.value
  didsDistinct : ∀ slave other, (slaveDid slave).value = (slaveDid other).value → slave = other
  ctNotMast : ∀ slave, slaveCt slave ≠ mastCt
  ctsDistinct : ∀ slave other, slaveCt slave = slaveCt other → slave = other

variable {n : Nat}

/-- The host register of a slave: the target of its port writes, which is where the slave reads
the ID of the master from. -/
def Fabric.hostDidRegVal (fabric : Fabric n) : BitVec 32 :=
  (BitVec.ofNat 32 fabric.mastDid.value <<< 16) |||
    if fabric.mastDid.size = .dev16Sz then pwDestid16Ctl else 0

/-- The HELLO of a slave. -/
def Fabric.hello (fabric : Fabric n) (slave : Fin n) : PeerMsg :=
  sendSlaveHelloMessage ⟨fabric.hostDidRegVal, fabric.slaveCt slave⟩

/-- `fmd_dd_update`: a daemon starts with the entry of its own master port. -/
def fmdDdUpdate (ct : BitVec 32) (did : Did) (name : List Char) : Dd :=
  (addDeviceToDd fmdDdOpenRw ⟨ct, did, hcMp, 1, flagOkMp, name⟩).2

/-- What the thread of a peer has left to do in `master_process_hello_peer` behind `l_add`, or
in `cleanup_peer` behind `l_lremove`. -/
inductive Work where
  | idle
  | addDeviceToDd
  | atomicCopy
  /-- The turns that are left, and the peer that `l_find` has found for the first of them. -/
  | updateAll (turns : List (DevInfo × DevInfo)) (tPeer : Option Nat)
  | delDeviceFromDd
  | sendPeerRemovalMessages
  | close
  deriving DecidableEq

/-- A connection with both of its ends. -/
structure Link (n : Nat) where
  slave : Fin n
  /-- `send_slave_hello_message` has run. -/
  saidHello : Bool
  toMaster : List PeerMsg
  toSlave : List M2s
  slaveOpen : Bool
  /-- `slv->m_h_resp_valid`. -/
  mHRespValid : Bool
  /-- The master's end; `none` once it has been closed and freed. -/
  peer : Option Peer
  work : Work
  deriving DecidableEq

/-- A slave daemon: its connection while it is running, and its directory. -/
structure Slave where
  conn : Option Nat
  dd : Dd

/-- The daemons, with connections by number. -/
structure Net (n : Nat) where
  peers : List (LItem Nat)
  dd : Dd
  links : Nat → Option (Link n)
  slaves : Fin n → Slave

/-- A master without connections, and slaves that have not been started. -/
def Net.start (fabric : Fabric n) : Net n where
  peers := []
  dd := fmdDdUpdate fabric.mastCt fabric.mastDid (fabric.sysfsName fabric.mastCt)
  links := fun _ => none
  slaves := fun _ => ⟨none, fmdDdOpenRw⟩

/-- The steps of the daemons, with what their environment answers. -/
inductive NetAction (n : Nat) where
  /-- A slave daemon starts and connects; the master starts a thread for the connection. -/
  | connect (slave : Fin n) (conn : Nat)
  /-- `send_slave_hello_message`. -/
  | hello (slave : Fin n)
  /-- `riomp_sock_receive` in `peer_rx_req` returns the next message. -/
  | receive (conn : Nat)
  /-- `riomp_sock_receive` in `peer_rx_req` fails. -/
  | receiveFails (conn : Nat)
  /-- The switch of `peer_rx_loop`; `failed` is the answer of `riomp_sock_send`. -/
  | dispatch (conn : Nat) (failed : Bool)
  /-- The end of `master_process_hello_peer` up to `l_add`, which gets `addr` from `calloc`. -/
  | link (conn : Nat) (addr : Option Nat)
  /-- `add_device_to_dd`. -/
  | addDeviceToDd (conn : Nat)
  /-- `fmd_dd_atomic_copy`. -/
  | atomicCopy (conn : Nat)
  /-- `l_find` in `update_all_peer_dd_and_flags`. -/
  | find (conn : Nat)
  /-- `send_add_dev_msg`. -/
  | sendAdd (conn : Nat) (failed : Bool)
  /-- `update_all_peer_dd_and_flags` returns. -/
  | announced (conn : Nat)
  /-- `l_lremove` in `cleanup_peer`. -/
  | unlink (conn : Nat)
  /-- `del_device_from_dd`. -/
  | delDeviceFromDd (conn : Nat)
  /-- `send_peer_removal_messages`, which has the list locked; `failed` by connection. -/
  | sendDels (conn : Nat) (failed : Nat → Bool)
  /-- `riomp_sock_close` and `free`. -/
  | close (conn : Nat)
  /-- The slave receives and handles a message; `rc` as in `slaveProcessMod`. -/
  | slaveReceive (slave : Fin n) (rc : Nat) (failed : Bool)
  /-- The slave daemon ends, for whatever reason. -/
  | leave (slave : Fin n)

/-- A connection changes. -/
def Net.setLink (net : Net n) (conn : Nat) (l : Link n) : Net n :=
  { net with links := Function.update net.links conn (some l) }

/-- A message to a slave; a send that fails is noted in `tx_rc`. -/
def Link.send (l : Link n) (peer : Peer) (msg : M2s) (failed : Bool) : Link n :=
  { l with
    peer := some { peer with txRc := failed }
    toSlave := if failed then l.toSlave else l.toSlave ++ [msg] }

/-- A message to the peer of a connection.  A peer that has been freed gets none. -/
def Net.sendTo (net : Net n) (conn : Nat) (msg : M2s) (failed : Bool) : Net n :=
  match net.links conn with
  | none => net
  | some l =>
    match l.peer with
    | none => net
    | some peer => net.setLink conn (l.send peer msg failed)

/-- The message that `send_add_dev_msg` has for the peer of a connection. -/
def Net.addDevMsg (net : Net n) (conn : Nat) (dev : DevInfo) : Option M2s := do
  let l ← net.links conn
  let peer ← l.peer
  (sendAddDevMsg net.peers peer.did dev).map .reqMod

/-- One turn of `update_all_peer_dd_and_flags`, once the peer has been found. -/
def Net.tell (net : Net n) (tPeer : Nat) (dev : DevInfo) (failed : Bool) : Net n :=
  match net.addDevMsg tPeer dev with
  | none => net
  | some msg => net.sendTo tPeer msg failed

/-- The thread of a connection goes on to other work. -/
def Net.setWork (net : Net n) (conn : Nat) (work : Work) : Net n :=
  match net.links conn with
  | none => net
  | some l => net.setLink conn { l with work := work }

/-- The message is a HELLO. -/
abbrev PeerMsg.IsHello (msg : PeerMsg) : Prop := msg.msgType = reqHello

/-- The switch of `peer_rx_loop`: HELLO is stored and answered, all other messages are
ignored. -/
def Link.dispatch (l : Link n) (peer : Peer) (msg : PeerMsg) (failed : Bool) : Link n :=
  { l with
    peer := some (peer.dispatch msg true failed)
    toSlave := if msg.IsHello ∧ failed = false then l.toSlave ++ [.respHello] else l.toSlave }

/-- The end of `master_process_hello_peer` up to `l_add`. -/
def Net.link (net : Net n) (conn : Nat) (l : Link n) (peer : Peer) (addr : Option Nat) : Net n :=
  if peer.txRc then net.setLink conn { l with peer := some { peer with pc := .receive } }
  else
    { net.setLink conn { l with
        peer := some { peer with pc := .announce, li := addr }
        work := .addDeviceToDd } with
      peers :=
        match addr with
        | none => net.peers
        | some addr => lAdd net.peers ⟨addr, peer.did.value, conn⟩ }

/-- The part of `cleanup_peer` up to `l_lremove`. -/
def Net.unlink (net : Net n) (conn : Nat) (l : Link n) (peer : Peer) : Net n :=
  { net.setLink conn { l with
      peer := some { peer with pc := .release, li := none }
      work := .delDeviceFromDd } with
    peers :=
      match peer.li with
      | none => net.peers
      | some addr => lLremove net.peers addr }

/-- What a slave makes of a message: `respHello` or a modification. -/
def Net.slaveHandle (net : Net n) (slave : Fin n) (conn : Nat) (l : Link n) (rest : List M2s)
    (rc : Nat) (failed : Bool) : M2s → Net n
  | .respHello => net.setLink conn { l with toSlave := rest, mHRespValid := true }
  | .reqMod rq =>
    { net.setLink conn { l with
        toSlave := rest
        toMaster := if failed then l.toMaster else l.toMaster ++ [rq.response] } with
      slaves := Function.update net.slaves slave
        { net.slaves slave with dd := slaveProcessMod (net.slaves slave).dd rq rc } }

/-- One step of one daemon. -/
def Net.step (fabric : Fabric n) (net : Net n) : NetAction n → Option (Net n)
  | .connect slave conn => do
      guard ((net.slaves slave).conn = none ∧ net.links conn = none)
      let did := fabric.slaveDid slave
      let ct := fabric.slaveCt slave
      return { net.setLink conn ⟨slave, false, [], [], true, false, some .new, .idle⟩ with
        slaves := Function.update net.slaves slave
          ⟨some conn, fmdDdUpdate ct did (fabric.sysfsName ct)⟩ }
  | .hello slave => do
      let conn ← (net.slaves slave).conn
      let l ← net.links conn
      guard (l.saidHello = false)
      return net.setLink conn
        { l with saidHello := true, toMaster := l.toMaster ++ [fabric.hello slave] }
  | .receive conn => do
      let l ← net.links conn
      let peer ← l.peer
      guard (peer.pc = .receive)
      match l.toMaster with
      | [] => none
      | msg :: rest =>
        let pc := if peer.txRc then PeerPc.cleanup else .dispatch msg
        return net.setLink conn { l with toMaster := rest, peer := some { peer with pc := pc } }
  | .receiveFails conn => do
      let l ← net.links conn
      let peer ← l.peer
      guard (peer.pc = .receive)
      return net.setLink conn { l with peer := some { peer with pc := .cleanup } }
  | .dispatch conn failed => do
      let l ← net.links conn
      let peer ← l.peer
      match peer.pc with
      | .dispatch msg => return net.setLink conn (l.dispatch peer msg failed)
      | _ => none
  | .link conn addr => do
      let l ← net.links conn
      let peer ← l.peer
      guard (peer.pc = .accepted ∧ ∀ li ∈ net.peers, some li.addr ≠ addr)
      return net.link conn l peer addr
  | .addDeviceToDd conn => do
      let l ← net.links conn
      let peer ← l.peer
      guard (l.work = .addDeviceToDd)
      let rq : AddRequest :=
        ⟨peer.ct, peer.did, hcMp, 0, flagOk, fabric.sysfsName peer.ct⟩
      return { net.setWork conn .atomicCopy with dd := (Fmd.addDeviceToDd net.dd rq).2 }
  | .atomicCopy conn => do
      let l ← net.links conn
      guard (l.work = .atomicCopy)
      return net.setWork conn (.updateAll net.dd.turns none)
  | .find conn => do
      let l ← net.links conn
      match l.work with
      | .updateAll ((src, tgt) :: rest) none =>
        match lFind net.peers tgt.did.value with
        | none => return net.setWork conn (.updateAll rest none)
        | some li => return net.setWork conn (.updateAll ((src, tgt) :: rest) (some li.item))
      | _ => none
  | .sendAdd conn failed => do
      let l ← net.links conn
      match l.work with
      | .updateAll ((src, _) :: rest) (some tPeer) =>
        return (net.tell tPeer src failed).setWork conn (.updateAll rest none)
      | _ => none
  | .announced conn => do
      let l ← net.links conn
      let peer ← l.peer
      guard (l.work = .updateAll [] none)
      return net.setLink conn { l with peer := some { peer with pc := .receive }, work := .idle }
  | .unlink conn => do
      let l ← net.links conn
      let peer ← l.peer
      guard (peer.pc = .cleanup)
      return net.unlink conn l peer
  | .delDeviceFromDd conn => do
      let l ← net.links conn
      let peer ← l.peer
      guard (l.work = .delDeviceFromDd)
      let (rc, dd) := Fmd.delDeviceFromDd net.dd peer.ct peer.did
      let work := if rc = 0 then Work.sendPeerRemovalMessages else .close
      return { net.setWork conn work with dd := dd }
  | .sendDels conn failed => do
      let l ← net.links conn
      let peer ← l.peer
      guard (l.work = .sendPeerRemovalMessages)
      let told := net.peers.foldl (fun net li =>
        net.sendTo li.item (.reqMod (sendDelDevMsg peer)) (failed li.item)) net
      return told.setWork conn .close
  | .close conn => do
      let l ← net.links conn
      guard (l.work = .close)
      return net.setLink conn { l with peer := none, work := .idle }
  | .slaveReceive slave rc failed => do
      let conn ← (net.slaves slave).conn
      let l ← net.links conn
      match l.toSlave with
      | [] => none
      | msg :: rest => return net.slaveHandle slave conn l rest rc failed msg
  | .leave slave => do
      let conn ← (net.slaves slave).conn
      let l ← net.links conn
      return { net.setLink conn { l with slaveOpen := false } with
        slaves := Function.update net.slaves slave { net.slaves slave with conn := none } }

/-- No message is in flight and no handler is running: connections are closed at both ends or
at none, and there is nothing to do for the open ones. -/
def Net.Quiet (net : Net n) : Prop :=
  ∀ conn l, net.links conn = some l →
    (l.slaveOpen = l.peer.isSome) ∧
      (l.slaveOpen = true → l.saidHello = true ∧ l.toMaster = [] ∧ l.toSlave = []) ∧
        ∀ peer ∈ l.peer, peer.pc = .receive

/-- A slave is connected: the master has answered its HELLO. -/
def Net.Connected (net : Net n) (slave : Fin n) (conn : Nat) : Prop :=
  (net.slaves slave).conn = some conn ∧ ∃ l, net.links conn = some l ∧ l.mHRespValid = true

/-- The component tag and the ID of a slave. -/
def Fabric.slaveKey (fabric : Fabric n) (slave : Fin n) : Key :=
  (fabric.slaveCt slave, (fabric.slaveDid slave).value)

/-- The component tag and the ID of the master. -/
def Fabric.mastKey (fabric : Fabric n) : Key := (fabric.mastCt, fabric.mastDid.value)

/-- A directory has an entry for a device. -/
def Dd.Has (dd : Dd) (key : Key) : Prop := ∃ idx < dd.numDevs, dd.key idx = key

/-- The list of peers is that of the connected slaves under their own IDs, and the directory of
each of them has, besides its own entry and the master's, exactly the other connected slaves. -/
structure Net.Agrees (fabric : Fabric n) (net : Net n) : Prop where
  peers : ∀ li ∈ net.peers, ∃ slave, net.Connected slave li.item ∧
    li.key = (fabric.slaveDid slave).value
  listed : ∀ slave conn, net.Connected slave conn →
    ∃ li ∈ net.peers, li.item = conn ∧ li.key = (fabric.slaveDid slave).value
  directories : ∀ slave conn, net.Connected slave conn →
    ∀ key, key ≠ fabric.slaveKey slave → key ≠ fabric.mastKey →
      ((net.slaves slave).dd.Has key ↔
        ∃ other, other ≠ slave ∧ (∃ conn, net.Connected other conn) ∧
          key = fabric.slaveKey other)

end RioFabric.Fmd

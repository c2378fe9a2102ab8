import Mathlib.Data.List.GetD
import Mathlib.Logic.Function.Basic
import RioFabric.Lib.Actions
import RioFabric.Lib.Bits

/-!
# Transfer of a file

The client, `send_file`, reads a file segment by segment, writes each segment by DMA into a
window of the server's memory and sends a message about it.  The server, `rx_file`, copies the
segment to its file when it gets the message, and sends how much it has copied.  The window
holds two segments.

Both work on their own; messages are kept in order by their connection.  A DMA write lands byte
by byte, in any order, before the message about it is sent.
-/

namespace RioFabric.FileTransfer

/-- What a transfer is about: the file to be sent, the name it is sent to, and the window of
the server. -/
structure Setup where
  src : List UInt8
  destName : String
  rioBase : BitVec 64
  length : BitVec 64

/-- `struct fxfr_svr_to_client_msg`. -/
structure SvrMsg where
  rapidioAddr : BitVec 64
  rapidioSize : BitVec 64
  totBytesRx : Nat
  failAbort : Bool
  rxFileName : String

/-- `struct fxfr_client_to_svr_msg`. -/
structure ClientMsg where
  rapidioAddr : BitVec 64
  bytesTxNow : Nat
  totBytesTx : Nat
  endOfFile : Bool
  failAbort : Bool
  rxFileName : String
  deriving DecidableEq

def maxTxSegments : Nat := 2

def maxTxBuffSize : BitVec 64 := 0x200000#64

/-- Where the client is in `send_file`. -/
inductive TxPc where
  /-- At the condition of the loop of `send_file`. -/
  | check
  /-- In `riomp_sock_receive`. -/
  | receive
  /-- Before the message of a transfer that is given up. -/
  | abort
  /-- At the condition of the loop of `send_msgs_to_server`. -/
  | loop
  /-- In the DMA write. -/
  | write
  /-- Before the message about a segment. -/
  | message
  | finished
  deriving DecidableEq

/-- `struct fxfr_tx_state`.  `srcPos` is the position of the file, `buffer` what has been read
from it, `txEndOfFile` the field of `tx_msg` and `rxFailAbort` that of `rxed_msg`. -/
structure TxState where
  pc : TxPc
  failAbort : Bool
  done : Bool
  endOfFile : Bool
  srcPos : Nat
  buffer : List UInt8
  nextBuffIdx : Nat
  bytesTxed : Nat
  totBytesTxed : Nat
  totBytesRxed : Nat
  rxRapidioAddr : BitVec 64
  rxRapidioSize : BitVec 64
  txEndOfFile : Bool
  rxFailAbort : Bool

/-- `init_info_vals`; nothing is written to `tx_msg` before the first message. -/
def TxState.init (txEndOfFile : Bool) : TxState :=
  ⟨.check, false, false, false, 0, [], 0, 0, 0, 0, 0, 0, txEndOfFile, false⟩

/-- The size of a segment: half the window, in units of 4 KB. -/
def segmentSize (rapidioSize : BitVec 64) : BitVec 64 :=
  if rapidioSize > BitVec.ofNat 64 maxTxSegments * maxTxBuffSize then maxTxBuffSize
  else (rapidioSize / BitVec.ofNat 64 maxTxSegments) &&& (2 * maxTxBuffSize - 0x1000)

/-- `process_msg_from_server`. -/
def TxState.processMsg (tx : TxState) (destName : String) (msg : SvrMsg) : TxState :=
  if msg.totBytesRx ≠ 0 ∨ msg.rxFileName ≠ "" then
    if msg.totBytesRx > tx.totBytesTxed ∨ msg.totBytesRx = 0 ∨ msg.rxFileName ≠ destName then
      { tx with failAbort := true }
    else
      { tx with
        totBytesRxed := msg.totBytesRx
        done := tx.done || (tx.totBytesTxed = msg.totBytesRx && tx.endOfFile) }
  else if msg.rapidioAddr = 0 ∨ msg.rapidioSize = 0 ∨ msg.failAbort then
    { tx with failAbort := true }
  else
    { tx with
      rxRapidioAddr := msg.rapidioAddr
      rxRapidioSize := segmentSize msg.rapidioSize }

/-- `rx_msg_from_server` with a message, and the first test of `send_msgs_to_server`. -/
def TxState.receive (tx : TxState) (destName : String) (msg : SvrMsg) : TxState :=
  let tx := { tx with rxFailAbort := msg.failAbort }.processMsg destName msg
  if tx.failAbort then { tx with pc := if tx.rxFailAbort then .check else .abort }
  else { tx with pc := .loop }

/-- `rx_msg_from_server` when the connection has failed; `send_msgs_to_server` does nothing
then. -/
def TxState.receiveFails (tx : TxState) : TxState :=
  if tx.txEndOfFile then { tx with pc := .check, done := true }
  else { tx with pc := .check, failAbort := true, rxFailAbort := true }

/-- The condition of the loop of `send_msgs_to_server`. -/
def TxState.MaySend (tx : TxState) : Prop :=
  tx.failAbort = false ∧ tx.done = false ∧ tx.endOfFile = false ∧
    tx.totBytesTxed - tx.totBytesRxed < maxTxSegments * tx.rxRapidioSize.toNat

instance (tx : TxState) : Decidable tx.MaySend := inferInstanceAs (Decidable (_ ∧ _ ∧ _ ∧ _))

/-- `fill_dma_buffer`, where `read` returns what it is asked for as far as the file goes. -/
def TxState.fill (tx : TxState) (src : List UInt8) : TxState :=
  let buffer := (src.drop tx.srcPos).take tx.rxRapidioSize.toNat
  { tx with
    pc := .write
    buffer := buffer
    srcPos := tx.srcPos + buffer.length
    bytesTxed := buffer.length
    endOfFile := tx.endOfFile || buffer.length < tx.rxRapidioSize.toNat }

/-- The address of the segment that is written. -/
def TxState.dmaAddr (tx : TxState) : BitVec 64 :=
  tx.rxRapidioAddr + BitVec.ofNat 64 tx.nextBuffIdx * tx.rxRapidioSize

/-- The message of `send_transfer_msg` for a segment. -/
def TxState.transferMsg (tx : TxState) (destName : String) (rapidioAddr : BitVec 64) : ClientMsg :=
  ⟨rapidioAddr, tx.bytesTxed, tx.totBytesTxed, tx.endOfFile, tx.failAbort, destName⟩

/-- Where the server is in `rx_file`. -/
inductive RxPc where
  /-- At the condition of the loop. -/
  | check
  /-- In `send_server_msg`. -/
  | send
  /-- At the test of `abort_flag`. -/
  | test
  /-- In `receive_client_msg`. -/
  | receive
  /-- With a message, before `process_rxed_msg`. -/
  | process (msg : ClientMsg)
  | closed
  deriving DecidableEq

/-- The variables of `rx_file` and of `struct buffer_info`.  `window` is the memory of the
window by its offset; `written` are all bytes written to the file, `dest` is the file and
`filePos` the position in it. -/
structure RxState where
  pc : RxPc
  failAbort : Bool
  endOfFile : Bool
  fileName : String
  bytesRxed : Nat
  filePos : Nat
  window : Nat → UInt8
  written : List UInt8
  dest : List UInt8

/-- The state in which `rx_file` is called, by what the window and an existing file hold. -/
def RxState.init (window : Nat → UInt8) (old : List UInt8) : RxState :=
  ⟨.check, false, false, "", 0, 0, window, [], old⟩

/-- Bytes of the window. -/
def RxState.slice (rx : RxState) (offset count : Nat) : List UInt8 :=
  (List.range count).map fun i => rx.window (offset + i)

/-- `write`, of which `writn` bytes come to the file. -/
def RxState.write (rx : RxState) (data : List UInt8) (writn : Nat) : RxState :=
  let data := data.take writn
  { rx with
    written := rx.written ++ data
    dest := rx.dest.take rx.filePos ++ data ++ rx.dest.drop (rx.filePos + data.length)
    filePos := rx.filePos + data.length }

/-- The file name of `process_rxed_msg`; a file is opened only once, and not without a name. -/
def RxState.openFile (rx : RxState) (msg : ClientMsg) (openOk : Bool) : RxState :=
  if rx.fileName = "" then
    { rx with
      fileName := msg.rxFileName
      filePos := 0
      failAbort := rx.failAbort || !(openOk && msg.rxFileName ≠ "") }
  else { rx with failAbort := rx.failAbort || (rx.fileName ≠ msg.rxFileName) }

/-- The window offset of a RapidIO address. -/
def Setup.offset (setup : Setup) (rapidioAddr : BitVec 64) : Nat :=
  (rapidioAddr - setup.rioBase).toNat

/-- `process_rxed_msg` behind its test of `fail_abort`. -/
def RxState.copy (rx : RxState) (setup : Setup) (msg : ClientMsg) (openOk : Bool) (writn : Nat) :
    RxState :=
  let rx := rx.openFile msg openOk
  let rx :=
    if rx.failAbort = false ∧ msg.bytesTxNow ≠ 0 then
      let data := rx.slice (setup.offset msg.rapidioAddr) msg.bytesTxNow
      { rx.write data writn with
        failAbort := writn < msg.bytesTxNow
        bytesRxed := rx.bytesRxed + msg.bytesTxNow }
    else rx
  { rx with pc := .check, endOfFile := msg.endOfFile }

/-- What the server does with a message. -/
def RxState.processMsg (rx : RxState) (setup : Setup) (msg : ClientMsg) (openOk : Bool)
    (writn : Nat) : RxState :=
  if msg.failAbort then { rx with pc := .check, failAbort := true }
  else rx.copy setup msg openOk writn

/-- The two parties, their connection, and the flags that end them from outside. -/
structure Transfer where
  tx : TxState
  rx : RxState
  toClient : List SvrMsg
  toServer : List ClientMsg
  srvExit : Bool
  abortFlag : Bool

/-- A new connection. -/
def Transfer.start (txEndOfFile : Bool) (window : Nat → UInt8) (old : List UInt8) : Transfer :=
  ⟨.init txEndOfFile, .init window old, [], [], false, false⟩

/-- What happens in a transfer. -/
inductive TransferAction where
  /-- A signal to the client. -/
  | signal
  /-- The server is shut down. -/
  | shutdown
  | clientCheck
  | clientReceive
  | clientReceiveFails
  | clientAbort (sendOk : Bool)
  | clientLoop
  /-- A byte of a DMA write lands. -/
  | land (i : Nat)
  | writeEnds
  | writeFails
  | clientSend (sendOk : Bool)
  | serverCheck
  | serverSend (sendOk : Bool)
  | serverTest
  | serverReceive
  | serverReceiveFails
  | process (openOk : Bool) (writn : Nat)
  deriving DecidableEq

/-- The bytes of the segment that is written by DMA have landed. -/
def Transfer.Landed (transfer : Transfer) (setup : Setup) : Prop :=
  ∀ i < transfer.tx.bytesTxed,
    transfer.rx.window (setup.offset (transfer.tx.dmaAddr + BitVec.ofNat 64 i)) =
      transfer.tx.buffer.getD i 0

instance (transfer : Transfer) (setup : Setup) : Decidable (transfer.Landed setup) :=
  inferInstanceAs (Decidable (∀ i < _, _))

def Transfer.clientStep (setup : Setup) (transfer : Transfer) : TransferAction → Option Transfer
  | .clientCheck =>
    let tx := transfer.tx
    if tx.pc = .check then
      let isDone := transfer.srvExit || tx.failAbort || tx.done
      some { transfer with tx := { tx with pc := if isDone then .finished else .receive } }
    else none
  | .clientReceive =>
    match transfer.tx.pc, transfer.toClient with
    | .receive, msg :: rest =>
      some { transfer with tx := transfer.tx.receive setup.destName msg, toClient := rest }
    | _, _ => none
  | .clientReceiveFails =>
    if transfer.tx.pc = .receive ∧ transfer.rx.pc = .closed then
      some { transfer with tx := transfer.tx.receiveFails }
    else none
  | .clientAbort sendOk =>
    let tx := { transfer.tx with bytesTxed := 0 }
    if tx.pc = .abort then
      some { transfer with
        tx := { tx with pc := .check, txEndOfFile := tx.endOfFile }
        toServer := transfer.toServer ++
          if sendOk then [tx.transferMsg setup.destName tx.rxRapidioAddr] else [] }
    else none
  | .clientLoop =>
    let tx := transfer.tx
    if tx.pc = .loop then
      some { transfer with
        tx := if tx.MaySend then tx.fill setup.src else { tx with pc := .check } }
    else none
  | .land i =>
    let tx := transfer.tx
    if tx.pc = .write ∧ i < tx.bytesTxed then
      let offset := setup.offset (tx.dmaAddr + BitVec.ofNat 64 i)
      some { transfer with rx := { transfer.rx with
        window := Function.update transfer.rx.window offset (tx.buffer.getD i 0) } }
    else none
  | .writeEnds =>
    let tx := transfer.tx
    if tx.pc = .write ∧ transfer.Landed setup then
      some { transfer with tx := { tx with
        pc := .message, totBytesTxed := tx.totBytesTxed + tx.bytesTxed } }
    else none
  | .writeFails =>
    let tx := transfer.tx
    if tx.pc = .write ∧ tx.bytesTxed ≠ 0 then
      some { transfer with tx := { tx with pc := .message, failAbort := true, bytesTxed := 0 } }
    else none
  | .clientSend sendOk =>
    let tx := transfer.tx
    if tx.pc = .message then
      some { transfer with
        tx := { tx with
          pc := .loop
          txEndOfFile := tx.endOfFile
          failAbort := tx.failAbort || !sendOk
          nextBuffIdx := (tx.nextBuffIdx + 1) % maxTxSegments }
        toServer := transfer.toServer ++
          if sendOk then [tx.transferMsg setup.destName tx.dmaAddr] else [] }
    else none
  | _ => none

def Transfer.serverStep (setup : Setup) (transfer : Transfer) : TransferAction → Option Transfer
  | .serverCheck =>
    let rx := transfer.rx
    if rx.pc = .check then
      let isDone := transfer.abortFlag || rx.failAbort || rx.endOfFile
      some { transfer with rx := { rx with pc := if isDone then .closed else .send } }
    else none
  | .serverSend sendOk =>
    let rx := transfer.rx
    if rx.pc = .send then
      let msg : SvrMsg := ⟨setup.rioBase, setup.length, rx.bytesRxed,
        rx.failAbort || transfer.abortFlag, rx.fileName⟩
      some { transfer with
        rx := { rx with pc := if sendOk then .test else .closed }
        toClient := transfer.toClient ++ if sendOk then [msg] else [] }
    else none
  | .serverTest =>
    let rx := transfer.rx
    if rx.pc = .test then
      some { transfer with rx := { rx with
        pc := if rx.endOfFile || transfer.abortFlag then .closed else .receive } }
    else none
  | .serverReceive =>
    match transfer.rx.pc, transfer.toServer with
    | .receive, msg :: rest =>
      some { transfer with rx := { transfer.rx with pc := .process msg }, toServer := rest }
    | _, _ => none
  | .serverReceiveFails =>
    if transfer.rx.pc = .receive ∧ transfer.tx.pc = .finished then
      some { transfer with rx := { transfer.rx with pc := .closed } }
    else none
  | .process openOk writn =>
    match transfer.rx.pc with
    | .process msg =>
      some { transfer with rx := transfer.rx.processMsg setup msg openOk writn }
    | _ => none
  | _ => none

def Transfer.step (setup : Setup) (transfer : Transfer) (action : TransferAction) :
    Option Transfer :=
  match action with
  | .signal => some { transfer with srvExit := true }
  | .shutdown => some { transfer with abortFlag := true }
  | .serverCheck | .serverSend _ | .serverTest | .serverReceive | .serverReceiveFails
  | .process _ _ => transfer.serverStep setup action
  | _ => transfer.clientStep setup action

namespace Setup

variable (setup : Setup)

/-- The size of a segment. -/
def seg : Nat := (segmentSize setup.length).toNat

/-- The number of bytes in the first segments. -/
def sent (count : Nat) : Nat := min (count * setup.seg) setup.src.length

/-- The number of bytes of a segment. -/
def segLen (j : Nat) : Nat := min setup.seg (setup.src.length - j * setup.seg)

/-- The offset of a segment in the window. -/
def place (j : Nat) : Nat := j % 2 * setup.seg

/-- The address of a segment. -/
def segAddr (j : Nat) : BitVec 64 :=
  setup.rioBase + BitVec.ofNat 64 (j % 2) * segmentSize setup.length

/-- The message about a segment. -/
def msg (j : Nat) : ClientMsg :=
  ⟨setup.segAddr j, setup.segLen j, setup.sent (j + 1),
    setup.src.length < (j + 1) * setup.seg, false, setup.destName⟩

/-- The bytes of a segment are in their place. -/
def InPlace (window : Nat → UInt8) (j : Nat) : Prop :=
  ∀ k < setup.segLen j, window (setup.place j + k) = setup.src.getD (j * setup.seg + k) 0

theorem two_seg_le : 2 * setup.seg ≤ setup.length.toNat := by
  unfold seg segmentSize
  split
  next large =>
    have large : 0x400000 < setup.length.toNat := large
    exact Nat.le_of_lt large
  next small =>
    have half : (setup.length / BitVec.ofNat 64 maxTxSegments).toNat = setup.length.toNat / 2 :=
      BitVec.toNat_udiv
    rw [BitVec.toNat_and, half]
    have masked : setup.length.toNat / 2 &&& (2 * maxTxBuffSize - 0x1000).toNat ≤
        setup.length.toNat / 2 := Nat.and_le_left
    omega

theorem sent_add_segLen (j : Nat) : setup.sent j + setup.segLen j = setup.sent (j + 1) := by
  unfold sent segLen
  rw [Nat.add_mul, Nat.one_mul]
  omega

theorem segLen_le (j : Nat) : setup.segLen j ≤ setup.seg := Nat.min_le_left _ _

theorem place_lt (j : Nat) {k : Nat} (inSegment : k < setup.segLen j) :
    setup.place j + k < setup.length.toNat := by
  have half := setup.two_seg_le
  have bound := setup.segLen_le j
  unfold place
  rcases Nat.mod_two_eq_zero_or_one j with even | odd
  · rw [even]
    omega
  · rw [odd]
    omega

theorem place_ne (j : Nat) {k i : Nat} (inSegment : k < setup.segLen j)
    (inNext : i < setup.segLen (j + 1)) : setup.place (j + 1) + i ≠ setup.place j + k := by
  have bound := setup.segLen_le j
  have nextBound := setup.segLen_le (j + 1)
  unfold place
  rcases Nat.mod_two_eq_zero_or_one j with even | odd
  · have next : (j + 1) % 2 = 1 := by omega
    rw [even, next]
    omega
  · have next : (j + 1) % 2 = 0 := by omega
    rw [odd, next]
    omega

theorem offset_byte (j : Nat) {k : Nat} (inSegment : k < setup.segLen j) :
    setup.offset (setup.segAddr j + BitVec.ofNat 64 k) = setup.place j + k := by
  have inWindow := setup.place_lt j inSegment
  have bound := setup.length.isLt
  have cancels : ∀ x : BitVec 64, setup.rioBase + x - setup.rioBase = x := fun x => by
    rw [BitVec.add_comm, BitVec.add_sub_cancel]
  rw [offset, segAddr, BitVec.add_assoc, cancels, BitVec.toNat_add, BitVec.toNat_mul,
    BitVec.toNat_ofNat, BitVec.toNat_ofNat, Nat.mod_mul_mod, Nat.add_mod_mod, Nat.mod_add_mod]
  exact Nat.mod_eq_of_lt (Nat.lt_trans inWindow bound)

theorem offset_segment (j : Nat) (notEmpty : setup.segLen j ≠ 0) :
    setup.offset (setup.segAddr j) = setup.place j := by
  have first := setup.offset_byte j (Nat.pos_of_ne_zero notEmpty)
  rwa [BitVec.add_zero] at first

theorem sent_eq {j : Nat} (notEmpty : setup.segLen j ≠ 0) : setup.sent j = j * setup.seg := by
  unfold segLen at notEmpty
  unfold sent
  omega

theorem slice_inPlace {rx : RxState} {j : Nat} (inPlace : setup.InPlace rx.window j) :
    rx.slice (setup.place j) (setup.segLen j) =
      (setup.src.drop (setup.sent j)).take (setup.segLen j) := by
  refine List.ext_getElem ?_ fun k inSlice inTake => ?_
  · have length : setup.sent j + setup.segLen j ≤ setup.src.length := by
      rw [sent_add_segLen]
      exact Nat.min_le_right _ _
    simp only [RxState.slice, List.length_map, List.length_range, List.length_take,
      List.length_drop]
    omega
  · have inSegment : k < setup.segLen j := by simpa [RxState.slice] using inSlice
    have start := setup.sent_eq (Nat.ne_zero_of_lt inSegment)
    simp only [RxState.slice, List.getElem_map, List.getElem_range, inPlace k inSegment,
      List.getElem_take, List.getElem_drop, start]
    rw [List.getD_eq_getElem]

end Setup

end RioFabric.FileTransfer

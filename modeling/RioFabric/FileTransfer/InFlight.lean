import Mathlib.Data.List.Range
import RioFabric.FileTransfer.Transfer

/-!
# Two segments in flight

The client writes a segment only while less than two segments have not been acknowledged, so
that the segment that was in the same half of the window before has been taken by the server.
The messages in flight are about consecutive segments, the bytes of which are in their places.
-/

namespace RioFabric.FileTransfer

open Lib

/-- The messages about segments that the server has not copied yet. -/
def Transfer.uncopied (transfer : Transfer) : List ClientMsg :=
  match transfer.rx.pc with
  | .process msg => msg :: transfer.toServer
  | _ => transfer.toServer

/-- The client between two segments, with `b` segments sent. -/
structure TxState.Ready (setup : Setup) (tx : TxState) (b : Nat) : Prop where
  srcPos : tx.srcPos = setup.sent b
  totBytesTxed : tx.totBytesTxed = setup.sent b
  nextBuffIdx : tx.nextBuffIdx = b % 2
  endOfFile : tx.endOfFile = decide (setup.src.length < b * setup.seg)

/-- The client with segment `b` read from the file, when `a` segments have been copied. -/
structure TxState.Filled (setup : Setup) (tx : TxState) (a b : Nat) : Prop where
  rxRapidioAddr : tx.rxRapidioAddr = setup.rioBase
  rxRapidioSize : tx.rxRapidioSize = segmentSize setup.length
  srcPos : tx.srcPos = setup.sent (b + 1)
  nextBuffIdx : tx.nextBuffIdx = b % 2
  endOfFile : tx.endOfFile = decide (setup.src.length < (b + 1) * setup.seg)
  buffer : tx.buffer = (setup.src.drop (b * setup.seg)).take setup.seg
  bytesTxed : tx.bytesTxed = setup.segLen b
  free : b ≤ a + 1

/-- What the client has sent, by where it is, as long as it has not failed. -/
def Transfer.Sending (setup : Setup) (transfer : Transfer) (a b : Nat) : Prop :=
  match transfer.tx.pc with
  | .abort => False
  | .write => transfer.tx.Filled setup a b ∧ transfer.tx.totBytesTxed = setup.sent b
  | .message =>
    transfer.tx.Filled setup a b ∧ transfer.tx.totBytesTxed = setup.sent (b + 1) ∧
      setup.InPlace transfer.rx.window b
  | _ => transfer.tx.Ready setup b

/-- A client that has failed does not write any more. -/
structure TxState.Failed (tx : TxState) : Prop where
  write : tx.pc ≠ .write
  receive : tx.pc ≠ .receive
  message : tx.pc = .message → tx.bytesTxed = 0

/-- `a` segments have been taken by the server and `b` sent by the client. -/
structure Transfer.Sync (setup : Setup) (transfer : Transfer) (a b : Nat) : Prop where
  le : a ≤ b
  addr : transfer.tx.rxRapidioSize = 0 ∨
    transfer.tx.rxRapidioAddr = setup.rioBase ∧
      transfer.tx.rxRapidioSize = segmentSize setup.length
  acks : ∀ msg ∈ transfer.toClient, msg.rapidioAddr = setup.rioBase ∧
    msg.rapidioSize = setup.length ∧ msg.totBytesRx ≤ transfer.rx.bytesRxed
  acked : transfer.tx.totBytesRxed ≤ transfer.rx.bytesRxed
  taken : transfer.rx.bytesRxed ≤ a * setup.seg
  copied : transfer.rx.failAbort = false → transfer.rx.bytesRxed = setup.sent a
  written : transfer.rx.failAbort = false →
    transfer.rx.written = setup.src.take transfer.rx.bytesRxed
  receiving : transfer.rx.pc ≠ .check → transfer.rx.pc ≠ .closed → transfer.rx.failAbort = false
  pending : ∃ aborts, transfer.uncopied = (List.range' a (b - a)).map setup.msg ++ aborts ∧
    (∀ msg ∈ aborts, msg.failAbort = true ∧ msg.bytesTxNow = 0) ∧
    (transfer.tx.failAbort = false → aborts = [])
  inPlace : ∀ j, a ≤ j → j < b → setup.InPlace transfer.rx.window j
  sending : transfer.tx.failAbort = false → transfer.Sending setup a b
  failed : transfer.tx.failAbort = true → transfer.tx.Failed

section Invariant

variable {setup : Setup} {transfer next : Transfer} {a b : Nat} {tx : TxState} {msg : ClientMsg}
  {action : TransferAction}

theorem Transfer.Sync.alive_of_receive (sync : transfer.Sync setup a b)
    (receives : transfer.tx.pc = .receive) : transfer.tx.failAbort = false := by
  rw [← Bool.not_eq_true]
  exact fun hasFailed => (sync.failed hasFailed).receive receives

theorem Transfer.Sync.filled (sync : transfer.Sync setup a b) (writes : transfer.tx.pc = .write) :
    transfer.tx.Filled setup a b := by
  have alive : transfer.tx.failAbort = false := by
    rw [← Bool.not_eq_true]
    exact fun hasFailed => (sync.failed hasFailed).write writes
  have sending := sync.sending alive
  rw [Transfer.Sending, writes] at sending
  exact sending.1

theorem TxState.Filled.dmaAddr (filled : tx.Filled setup a b) :
    tx.dmaAddr = setup.segAddr b := by
  rw [TxState.dmaAddr, filled.rxRapidioAddr, filled.nextBuffIdx, filled.rxRapidioSize]
  rfl

section

variable (sync : transfer.Sync setup a b)
include sync

theorem Transfer.Sync.client (addr : tx.rxRapidioSize = 0 ∨
      tx.rxRapidioAddr = setup.rioBase ∧ tx.rxRapidioSize = segmentSize setup.length)
    (acked : tx.totBytesRxed ≤ transfer.rx.bytesRxed)
    (alive : tx.failAbort = false → transfer.tx.failAbort = false)
    (sending : tx.failAbort = false → { transfer with tx := tx }.Sending setup a b)
    (failed : tx.failAbort = true → tx.Failed) : { transfer with tx := tx }.Sync setup a b where
  le := sync.le
  addr := addr
  acks := sync.acks
  acked := acked
  taken := sync.taken
  copied := sync.copied
  written := sync.written
  receiving := sync.receiving
  pending := by
    obtain ⟨aborts, isPending, empty, none⟩ := sync.pending
    exact ⟨aborts, isPending, empty, fun isAlive => none (alive isAlive)⟩
  inPlace := sync.inPlace
  sending := sending
  failed := failed

theorem Transfer.Sync.ready (alive : transfer.tx.failAbort = false)
    (pc : transfer.tx.pc = .check ∨ transfer.tx.pc = .receive ∨ transfer.tx.pc = .loop) :
    transfer.tx.Ready setup b := by
  have sending := sync.sending alive
  rcases pc with pc | pc | pc <;> rwa [Transfer.Sending, pc] at sending

theorem Transfer.Sync.clientCheck (checks : transfer.tx.pc = .check) (pc : TxPc)
    (isNext : pc = .finished ∨
      pc = .receive ∧ transfer.tx.failAbort = false) :
    { transfer with tx := { transfer.tx with pc := pc } }.Sync setup a b := by
  refine sync.client sync.addr sync.acked id (fun alive => ?_) fun hasFailed => ?_
  · have ready := sync.ready alive (.inl checks)
    rcases isNext with rfl | ⟨rfl, -⟩ <;> exact ⟨ready.1, ready.2, ready.3, ready.4⟩
  · rcases isNext with rfl | ⟨rfl, alive⟩
    · exact ⟨by simp, by simp, by simp⟩
    · exact absurd (alive.symm.trans hasFailed) (by simp)

end

theorem TxState.receive_cases (tx : TxState) (destName : String) (msg : SvrMsg)
    (alive : tx.failAbort = false) :
    (∃ pc, (pc = .check ∨ pc = .abort) ∧ tx.receive destName msg =
        { tx with pc := pc, failAbort := true, rxFailAbort := msg.failAbort }) ∨
      tx.receive destName msg = { tx with
        pc := .loop
        done := tx.done || (tx.totBytesTxed = msg.totBytesRx && tx.endOfFile)
        totBytesRxed := msg.totBytesRx
        rxFailAbort := msg.failAbort } ∨
      tx.receive destName msg = { tx with
        pc := .loop, rxRapidioAddr := msg.rapidioAddr
        rxRapidioSize := segmentSize msg.rapidioSize, rxFailAbort := msg.failAbort } := by
  unfold TxState.receive TxState.processMsg
  split
  next =>
    split
    next =>
      refine .inl ⟨_, ?_, rfl⟩
      cases msg.failAbort <;> simp
    next => exact .inr (.inl (if_neg (by simp [alive])))
  next =>
    split
    next =>
      refine .inl ⟨_, ?_, rfl⟩
      cases msg.failAbort <;> simp
    next => exact .inr (.inr (if_neg (by simp [alive])))

section

variable (sync : transfer.Sync setup a b)
include sync

theorem Transfer.Sync.clientReceive (receives : transfer.tx.pc = .receive) {msg : SvrMsg}
    {rest : List SvrMsg} (isHead : transfer.toClient = msg :: rest) :
    { transfer with
      tx := transfer.tx.receive setup.destName msg, toClient := rest }.Sync setup a b := by
  have alive := sync.alive_of_receive receives
  have ready := sync.ready alive (.inr (.inl receives))
  have acks := sync.acks
  rw [isHead, List.forall_mem_cons] at acks
  have received : { transfer with toClient := rest }.Sync setup a b :=
    { sync with acks := acks.2 }
  rcases transfer.tx.receive_cases setup.destName msg alive with
    ⟨pc, isNext, result⟩ | result | result
  · rw [result]
    refine received.client sync.addr sync.acked (by simp) (by simp) fun _ => ?_
    rcases isNext with rfl | rfl <;> exact ⟨by simp, by simp, by simp⟩
  · rw [result]
    refine received.client sync.addr acks.1.2.2 (fun _ => alive) (fun _ => ?_) (by simp [alive])
    exact ⟨ready.1, ready.2, ready.3, ready.4⟩
  · rw [result]
    refine received.client (.inr ⟨acks.1.1, ?_⟩) sync.acked (fun _ => alive) (fun _ => ?_)
      (by simp [alive])
    · exact congrArg segmentSize acks.1.2.1
    · exact ⟨ready.1, ready.2, ready.3, ready.4⟩

theorem Transfer.Sync.clientReceiveFails (receives : transfer.tx.pc = .receive) :
    { transfer with tx := transfer.tx.receiveFails }.Sync setup a b := by
  have alive := sync.alive_of_receive receives
  have ready := sync.ready alive (.inr (.inl receives))
  unfold TxState.receiveFails
  split
  · refine sync.client sync.addr sync.acked (fun _ => alive) (fun _ => ?_) (by simp [alive])
    exact ⟨ready.1, ready.2, ready.3, ready.4⟩
  · exact sync.client sync.addr sync.acked (by simp) (by simp) fun _ =>
      ⟨by simp, by simp, by simp⟩

theorem Transfer.Sync.space (maySend : transfer.tx.MaySend) (ready : transfer.tx.Ready setup b) :
    transfer.tx.rxRapidioAddr = setup.rioBase ∧
      transfer.tx.rxRapidioSize = segmentSize setup.length ∧ b * setup.seg ≤ setup.src.length ∧
      0 < setup.seg ∧ b ≤ a + 1 := by
  obtain ⟨-, -, notEnd, window⟩ := maySend
  rcases sync.addr with unset | ⟨addr, size⟩
  · rw [unset] at window
    exact absurd window (by simp)
  · rw [ready.endOfFile, decide_eq_false_iff_not, Nat.not_lt] at notEnd
    have sent : setup.sent b = b * setup.seg := Nat.min_eq_left notEnd
    have acked := Nat.le_trans sync.acked sync.taken
    rw [size, ready.totBytesTxed, sent] at window
    have window : b * setup.seg - transfer.tx.totBytesRxed < 2 * setup.seg := window
    have ahead : b * setup.seg < (a + 2) * setup.seg := by
      rw [Nat.add_mul]
      omega
    refine ⟨addr, size, notEnd, by omega, ?_⟩
    exact Nat.le_of_lt_succ (Nat.lt_of_mul_lt_mul_right ahead)

theorem Transfer.Sync.clientLoop (loops : transfer.tx.pc = .loop) :
    { transfer with tx :=
      if transfer.tx.MaySend then transfer.tx.fill setup.src
      else { transfer.tx with pc := .check } }.Sync setup a b := by
  split
  next maySend =>
    have alive := maySend.1
    have ready := sync.ready alive (.inr (.inr loops))
    obtain ⟨addr, size, starts, positive, free⟩ := sync.space maySend ready
    have pos : transfer.tx.srcPos = b * setup.seg := ready.srcPos.trans (Nat.min_eq_left starts)
    have length : ((setup.src.drop (b * setup.seg)).take setup.seg).length = setup.segLen b := by
      rw [List.length_take, List.length_drop]
      rfl
    have isSize : transfer.tx.rxRapidioSize.toNat = setup.seg := by rw [size]; rfl
    refine sync.client sync.addr sync.acked (fun _ => alive) (fun _ => ⟨?_, ready.totBytesTxed⟩)
      (fun hasFailed => absurd (alive.symm.trans hasFailed) (by simp))
    constructor
    · exact addr
    · exact size
    · simp only [TxState.fill, pos, isSize, length]
      rw [← setup.sent_add_segLen, Setup.sent, Nat.min_eq_left starts]
    · exact ready.nextBuffIdx
    · simp only [TxState.fill, pos, isSize, length, maySend.2.2.1, Bool.false_or]
      refine decide_eq_decide.mpr ?_
      unfold Setup.segLen
      rw [Nat.add_mul]
      omega
    · simp only [TxState.fill, pos, isSize]
    · simp only [TxState.fill, pos, isSize, length]
    · exact free
  next =>
    refine sync.client sync.addr sync.acked id (fun alive => ?_)
      fun _ => ⟨by simp, by simp, by simp⟩
    have ready := sync.ready alive (.inr (.inr loops))
    exact ⟨ready.1, ready.2, ready.3, ready.4⟩

theorem Transfer.Sync.land (writes : transfer.tx.pc = .write) {i : Nat}
    (inSegment : i < transfer.tx.bytesTxed) (val : UInt8) :
    { transfer with rx := { transfer.rx with
      window := Function.update transfer.rx.window
        (setup.offset (transfer.tx.dmaAddr + BitVec.ofNat 64 i)) val } }.Sync setup a b := by
  have filled := sync.filled writes
  rw [filled.bytesTxed] at inSegment
  rw [filled.dmaAddr, setup.offset_byte b inSegment]
  refine { sync with inPlace := fun j le lt k inOther => ?_, sending := fun alive => ?_ }
  · have isLast : b = j + 1 := by
      have free := filled.free
      omega
    subst isLast
    have different := setup.place_ne j inOther inSegment
    simp only [Function.update_of_ne (Ne.symm different)]
    exact sync.inPlace j le lt k inOther
  · have sending := sync.sending alive
    rw [Transfer.Sending, writes] at sending
    simp only [Transfer.Sending, writes]
    exact sending

theorem Transfer.Sync.writeEnds (writes : transfer.tx.pc = .write) (landed : transfer.Landed setup)
    :
    { transfer with tx := { transfer.tx with
      pc := .message
      totBytesTxed := transfer.tx.totBytesTxed + transfer.tx.bytesTxed } }.Sync setup a b := by
  have filled := sync.filled writes
  refine sync.client sync.addr sync.acked id (fun alive => ?_) fun hasFailed =>
    absurd writes (sync.failed hasFailed).write
  have sending := sync.sending alive
  rw [Transfer.Sending, writes] at sending
  refine ⟨⟨filled.1, filled.2, filled.3, filled.4, filled.5, filled.6, filled.7, filled.8⟩, ?_, ?_⟩
  · simp only [sending.2, filled.bytesTxed, setup.sent_add_segLen]
  · intro k inSegment
    have bytes := landed k (filled.bytesTxed ▸ inSegment)
    rw [filled.dmaAddr, setup.offset_byte b inSegment, filled.buffer] at bytes
    rw [bytes]
    have inSeg := Nat.lt_of_lt_of_le inSegment (setup.segLen_le b)
    simp [List.getD_eq_getElem?_getD, inSeg, List.getElem?_drop]

theorem Transfer.Sync.writeFails :
    { transfer with tx := { transfer.tx with
      pc := .message, failAbort := true, bytesTxed := 0 } }.Sync setup a b :=
  sync.client sync.addr sync.acked (by simp) (by simp) fun _ => ⟨by simp, by simp, fun _ => rfl⟩

end

theorem Transfer.uncopied_append (transfer : Transfer) (tx : TxState) (msgs : List ClientMsg) :
    { transfer with tx := tx, toServer := transfer.toServer ++ msgs }.uncopied =
      transfer.uncopied ++ msgs := by
  unfold Transfer.uncopied
  cases transfer.rx.pc <;> simp

section

variable (sync : transfer.Sync setup a b)
include sync

theorem Transfer.Sync.gives_up {msgs : List ClientMsg}
    (addr : tx.rxRapidioSize = transfer.tx.rxRapidioSize ∧
      tx.rxRapidioAddr = transfer.tx.rxRapidioAddr)
    (acked : tx.totBytesRxed = transfer.tx.totBytesRxed) (hasFailed : tx.failAbort = true)
    (failed : tx.Failed) (aborts : ∀ msg ∈ msgs, msg.failAbort = true ∧ msg.bytesTxNow = 0) :
    { transfer with tx := tx, toServer := transfer.toServer ++ msgs }.Sync setup a b where
  le := sync.le
  addr := by
    rw [addr.1, addr.2]
    exact sync.addr
  acks := sync.acks
  acked := acked ▸ sync.acked
  taken := sync.taken
  copied := sync.copied
  written := sync.written
  receiving := sync.receiving
  pending := by
    obtain ⟨before, isPending, empty, -⟩ := sync.pending
    refine ⟨before ++ msgs, ?_, ?_, fun alive => absurd (hasFailed.symm.trans alive) (by simp)⟩
    · rw [Transfer.uncopied_append, isPending, List.append_assoc]
    · intro msg isAbort
      rcases List.mem_append.mp isAbort with isBefore | isNew
      · exact empty msg isBefore
      · exact aborts msg isNew
  inPlace := sync.inPlace
  sending := fun alive => absurd (hasFailed.symm.trans alive) (by simp)
  failed := fun _ => failed

theorem Transfer.Sync.hasFailed (givesUp : transfer.tx.pc = .abort)
    : transfer.tx.failAbort = true := by
  rw [← Bool.not_eq_false]
  intro alive
  have sending := sync.sending alive
  rwa [Transfer.Sending, givesUp] at sending

theorem Transfer.Sync.clientAbort (givesUp : transfer.tx.pc = .abort) (sendOk : Bool)
    (endOfFile : Bool) :
    { transfer with
      tx := { transfer.tx with bytesTxed := 0, pc := .check, txEndOfFile := endOfFile }
      toServer := transfer.toServer ++
        if sendOk then
          [{ transfer.tx with bytesTxed := 0 }.transferMsg setup.destName
            transfer.tx.rxRapidioAddr]
        else [] }.Sync setup a b := by
  have hasFailed := sync.hasFailed givesUp
  refine sync.gives_up ⟨rfl, rfl⟩ rfl hasFailed ⟨by simp, by simp, by simp⟩ ?_
  cases sendOk with
  | false => simp
  | true => simp [TxState.transferMsg, hasFailed]

theorem Transfer.Sync.clientSend (sends : transfer.tx.pc = .message) (sendOk : Bool) :
    ∃ b, { transfer with
      tx := { transfer.tx with
        pc := .loop
        txEndOfFile := transfer.tx.endOfFile
        failAbort := transfer.tx.failAbort || !sendOk
        nextBuffIdx := (transfer.tx.nextBuffIdx + 1) % maxTxSegments }
      toServer := transfer.toServer ++
        if sendOk then [transfer.tx.transferMsg setup.destName transfer.tx.dmaAddr]
        else [] }.Sync setup a b := by
  cases hasFailed : transfer.tx.failAbort with
  | true =>
    refine ⟨b, sync.gives_up ⟨rfl, rfl⟩ rfl (by simp) ⟨by simp, by simp, by simp⟩ ?_⟩
    have empty := (sync.failed hasFailed).message sends
    cases sendOk with
    | false => simp
    | true => simp [TxState.transferMsg, hasFailed, empty]
  | false =>
    cases sendOk with
    | false =>
      exact ⟨b, sync.gives_up ⟨rfl, rfl⟩ rfl (by simp) ⟨by simp, by simp, by simp⟩ (by simp)⟩
    | true =>
      refine ⟨b + 1, ?_⟩
      have sending := sync.sending hasFailed
      rw [Transfer.Sending, sends] at sending
      obtain ⟨filled, tot, inPlace⟩ := sending
      have isMsg :
          transfer.tx.transferMsg setup.destName transfer.tx.dmaAddr = setup.msg b := by
        rw [TxState.transferMsg, filled.dmaAddr, filled.bytesTxed, tot, filled.endOfFile,
          hasFailed]
        rfl
      refine { sync with le := ?_, pending := ?_, inPlace := ?_, sending := ?_, failed := ?_ }
      · exact Nat.le_succ_of_le sync.le
      · obtain ⟨aborts, isPending, -, none⟩ := sync.pending
        refine ⟨[], ?_, by simp, fun _ => rfl⟩
        rw [none hasFailed, List.append_nil] at isPending
        rw [if_pos rfl, Transfer.uncopied_append, isPending, isMsg, List.append_nil,
          Nat.succ_sub sync.le, List.range'_concat, List.map_append]
        simp [Nat.add_sub_cancel' sync.le]
      · intro j le lt
        rcases Nat.lt_succ_iff_lt_or_eq.mp lt with before | rfl
        · exact sync.inPlace j le before
        · exact inPlace
      · intro _
        refine ⟨filled.srcPos, tot, ?_, filled.endOfFile⟩
        simp only [filled.nextBuffIdx, maxTxSegments]
        omega
      · exact fun isFailed => absurd isFailed (by simp)

theorem Transfer.Sync.server (pc : RxPc) (before : ∀ msg, transfer.rx.pc ≠ .process msg)
    (after : ∀ msg, pc ≠ .process msg)
    (receiving : pc ≠ .check → pc ≠ .closed → transfer.rx.failAbort = false) :
    { transfer with rx := { transfer.rx with pc := pc } }.Sync setup a b := by
  have unmoved : { transfer with rx := { transfer.rx with pc := pc } }.uncopied =
      transfer.uncopied := by
    unfold Transfer.uncopied
    cases isPc : transfer.rx.pc with
    | process msg => exact absurd isPc (before msg)
    | check | send | test | receive | closed =>
      cases pc with
      | process msg => exact absurd rfl (after msg)
      | check | send | test | receive | closed => rfl
  exact { sync with
    receiving := receiving
    pending := by
      rw [unmoved]
      exact sync.pending }

theorem Transfer.Sync.serverSend (sends : transfer.rx.pc = .send) (sendOk failAbort : Bool) :
    { transfer with
      rx := { transfer.rx with pc := if sendOk then .test else .closed }
      toClient := transfer.toClient ++
        if sendOk then
          [(⟨setup.rioBase, setup.length, transfer.rx.bytesRxed, failAbort,
            transfer.rx.fileName⟩ : SvrMsg)]
        else [] }.Sync setup a b := by
  have alive := sync.receiving (by simp [sends]) (by simp [sends])
  have goesOn := sync.server (if sendOk then .test else .closed) (by simp [sends])
    (by cases sendOk <;> simp) (fun _ _ => alive)
  refine { goesOn with acks := fun msg isMsg => ?_ }
  rcases List.mem_append.mp isMsg with isOld | isNew
  · exact sync.acks msg isOld
  · cases sendOk with
    | false => exact absurd isNew (by simp)
    | true =>
      rw [if_pos rfl, List.mem_singleton] at isNew
      subst isNew
      exact ⟨rfl, rfl, Nat.le_refl _⟩

theorem Transfer.Sync.serverReceive (receives : transfer.rx.pc = .receive) {rest : List ClientMsg}
    (isHead : transfer.toServer = msg :: rest) :
    { transfer with
      rx := { transfer.rx with pc := .process msg }, toServer := rest }.Sync setup a b := by
  have alive := sync.receiving (by simp [receives]) (by simp [receives])
  have pending := sync.pending
  rw [Transfer.uncopied, receives, isHead] at pending
  exact { sync with receiving := fun _ _ => alive, pending := pending }

end

theorem RxState.openFile_eq (rx : RxState) (msg : ClientMsg) (openOk : Bool) :
    ∃ fileName filePos failAbort, rx.openFile msg openOk =
      { rx with fileName := fileName, filePos := filePos, failAbort := failAbort } := by
  unfold RxState.openFile
  split
  · exact ⟨_, _, _, rfl⟩
  · exact ⟨_, _, _, rfl⟩

theorem RxState.copy_cases (setup : Setup) (rx : RxState) (msg : ClientMsg) (openOk : Bool)
    (writn : Nat) :
    (rx.copy setup msg openOk writn).pc = .check ∧
      (rx.copy setup msg openOk writn).window = rx.window ∧
      ((rx.copy setup msg openOk writn).failAbort = true ∧
          (rx.copy setup msg openOk writn).bytesRxed = rx.bytesRxed ∧
          (rx.copy setup msg openOk writn).written = rx.written ∨
        (rx.copy setup msg openOk writn).failAbort = true ∧
          (rx.copy setup msg openOk writn).bytesRxed = rx.bytesRxed + msg.bytesTxNow ∧
          writn < msg.bytesTxNow ∨
        (rx.copy setup msg openOk writn).failAbort = false ∧
          (rx.copy setup msg openOk writn).bytesRxed = rx.bytesRxed + msg.bytesTxNow ∧
          (rx.copy setup msg openOk writn).written = rx.written ++
            rx.slice (setup.offset msg.rapidioAddr) msg.bytesTxNow) := by
  obtain ⟨fileName, filePos, failAbort, opened⟩ := rx.openFile_eq msg openOk
  unfold RxState.copy
  rw [opened]
  cases failAbort with
  | true => simp
  | false =>
    by_cases empty : msg.bytesTxNow = 0
    · simp [empty, RxState.slice]
    · rcases Nat.lt_or_ge writn msg.bytesTxNow with short | whole
      · simp [empty, RxState.write, short]
      · have length : (rx.slice (setup.offset msg.rapidioAddr) msg.bytesTxNow).length =
            msg.bytesTxNow := by simp [RxState.slice]
        have all := List.take_of_length_le (length.trans_le whole)
        simp only [RxState.slice] at all
        simp [empty, RxState.write, RxState.slice, all, Nat.not_lt.mpr whole]

theorem Transfer.Sending.copied (sending : transfer.Sending setup a b) {rx : RxState}
    (window : rx.window = transfer.rx.window) :
    { transfer with rx := rx }.Sending setup (a + 1) b := by
  have more : ∀ {tx : TxState}, tx.Filled setup a b → tx.Filled setup (a + 1) b :=
    fun filled => { filled with free := Nat.le_succ_of_le filled.free }
  simp only [Transfer.Sending] at sending ⊢
  generalize transfer.tx.pc = pc at sending ⊢
  cases pc with
  | abort => exact sending
  | write => exact ⟨more sending.1, sending.2⟩
  | message => exact ⟨more sending.1, sending.2.1, window ▸ sending.2.2⟩
  | check | receive | loop | finished => exact sending

section

variable (sync : transfer.Sync setup a b)
include sync

theorem Transfer.Sync.segment (lt : a < b) (alive : transfer.rx.failAbort = false) :
    transfer.rx.written ++ transfer.rx.slice (setup.offset (setup.segAddr a)) (setup.segLen a) =
      setup.src.take (setup.sent (a + 1)) := by
  rw [sync.written alive, sync.copied alive, ← setup.sent_add_segLen, List.take_add]
  congr 1
  by_cases empty : setup.segLen a = 0
  · rw [empty]
    simp [RxState.slice]
  · rw [setup.offset_segment a empty]
    exact setup.slice_inPlace (sync.inPlace a (Nat.le_refl a) lt)

theorem Transfer.Sync.nextMsg (processes : transfer.rx.pc = .process msg) :
    a < b ∧ msg = setup.msg a ∨
      a = b ∧ msg.failAbort = true ∧ transfer.tx.failAbort = true := by
  obtain ⟨aborts, isPending, empty, none⟩ := sync.pending
  rw [Transfer.uncopied, processes] at isPending
  by_cases allTaken : a = b
  · subst allTaken
    rw [Nat.sub_self, List.range'_zero, List.map_nil, List.nil_append] at isPending
    refine .inr ⟨rfl, (empty msg (by simp [← isPending])).1, ?_⟩
    rw [← Bool.not_eq_false]
    intro isAlive
    rw [none isAlive] at isPending
    cases isPending
  · have count : b - a = b - (a + 1) + 1 := by
      have le := sync.le
      omega
    rw [count, List.range'_succ, List.map_cons, List.cons_append, List.cons.injEq] at isPending
    exact .inl ⟨Nat.lt_of_le_of_ne sync.le allTaken, isPending.1⟩

theorem Transfer.Sync.processed (processes : transfer.rx.pc = .process msg) :
    ∃ aborts, transfer.toServer = (List.range' (a + 1) (b - (a + 1))).map setup.msg ++ aborts ∧
      (∀ msg ∈ aborts, msg.failAbort = true ∧ msg.bytesTxNow = 0) ∧
      (transfer.tx.failAbort = false → aborts = []) := by
  obtain ⟨aborts, isPending, empty, none⟩ := sync.pending
  rw [Transfer.uncopied, processes] at isPending
  rcases sync.nextMsg processes with ⟨lt, -⟩ | ⟨rfl, -, hasFailed⟩
  · have count : b - a = b - (a + 1) + 1 := by omega
    rw [count, List.range'_succ, List.map_cons, List.cons_append, List.cons.injEq] at isPending
    exact ⟨aborts, isPending.2, empty, none⟩
  · rw [Nat.sub_self, List.range'_zero, List.map_nil, List.nil_append] at isPending
    refine ⟨transfer.toServer, by simp, fun other isOther => ?_, fun isAlive => ?_⟩
    · exact empty other (by simp [← isPending, isOther])
    · exact absurd (hasFailed.symm.trans isAlive) (by simp)

theorem Transfer.Sync.copies (processes : transfer.rx.pc = .process (setup.msg a)) (lt : a < b)
    (openOk : Bool) (writn : Nat) :
    { transfer with rx := transfer.rx.copy setup (setup.msg a) openOk writn }.Sync setup
      (a + 1) b := by
  have alive := sync.receiving (by simp [processes]) (by simp [processes])
  have segment := sync.segment lt alive
  have before := sync.copied alive
  have sent := setup.sent_add_segLen a
  have sentLe : setup.sent (a + 1) ≤ (a + 1) * setup.seg := Nat.min_le_left _ _
  have takenLe : transfer.rx.bytesRxed ≤ (a + 1) * setup.seg :=
    Nat.le_trans sync.taken (Nat.mul_le_mul_right setup.seg (Nat.le_succ a))
  obtain ⟨aborts, isRest, empty, none⟩ := sync.processed processes
  obtain ⟨pc, window, copied⟩ := RxState.copy_cases setup transfer.rx (setup.msg a) openOk writn
  generalize transfer.rx.copy setup (setup.msg a) openOk writn = rx at pc window copied ⊢
  have bytes : (setup.msg a).bytesTxNow = setup.segLen a := rfl
  have rapidioAddr : (setup.msg a).rapidioAddr = setup.segAddr a := rfl
  rw [bytes, rapidioAddr, segment, before, sent] at copied
  have mono : transfer.rx.bytesRxed ≤ rx.bytesRxed := by omega
  have takenAfter : rx.bytesRxed ≤ (a + 1) * setup.seg := by omega
  have whole : rx.failAbort = false →
      rx.bytesRxed = setup.sent (a + 1) ∧ rx.written = setup.src.take (setup.sent (a + 1)) := by
    intro isAlive
    rcases copied with ⟨hasFailed, -⟩ | ⟨hasFailed, -⟩ | ⟨-, more, written⟩
    · exact absurd (isAlive.symm.trans hasFailed) (by simp)
    · exact absurd (isAlive.symm.trans hasFailed) (by simp)
    · exact ⟨more, written⟩
  exact { sync with
    le := lt
    acks := fun msg isMsg =>
      let ⟨addr, size, tot⟩ := sync.acks msg isMsg
      ⟨addr, size, Nat.le_trans tot mono⟩
    acked := Nat.le_trans sync.acked mono
    taken := takenAfter
    copied := fun isAlive => (whole isAlive).1
    written := fun isAlive => by
      have isAlive : rx.failAbort = false := isAlive
      simp only [whole isAlive]
    receiving := fun notCheck => absurd pc notCheck
    pending := ⟨aborts, by simpa [Transfer.uncopied, pc] using isRest, empty, none⟩
    inPlace := fun j le lt => by
      rw [window]
      exact sync.inPlace j (Nat.le_of_succ_le le) lt
    sending := fun isAlive => (sync.sending isAlive).copied window }

theorem Transfer.Sync.givesUp (processes : transfer.rx.pc = .process msg) (allTaken : a = b) :
    { transfer with rx := { transfer.rx with pc := .check, failAbort := true } }.Sync setup
      a b := by
  obtain ⟨aborts, isRest, empty, none⟩ := sync.processed processes
  subst allTaken
  refine { sync with
    copied := by simp, written := by simp, receiving := by simp
    pending := ⟨aborts, ?_, empty, none⟩ }
  simpa [Transfer.uncopied] using isRest

end

/-- What the client takes. -/
theorem Transfer.step_clientReceive (taken : transfer.step setup .clientReceive = some next) :
    ∃ msg rest, transfer.tx.pc = .receive ∧ transfer.toClient = msg :: rest ∧ next =
      { transfer with tx := transfer.tx.receive setup.destName msg, toClient := rest } := by
  simp only [Transfer.step, Transfer.clientStep] at taken
  split at taken
  next receives isHead =>
    cases taken
    exact ⟨_, _, receives, isHead, rfl⟩
  next => cases taken

/-- What the server takes. -/
theorem Transfer.step_serverReceive (taken : transfer.step setup .serverReceive = some next) :
    ∃ msg rest, transfer.rx.pc = .receive ∧ transfer.toServer = msg :: rest ∧ next =
      { transfer with rx := { transfer.rx with pc := .process msg }, toServer := rest } := by
  simp only [Transfer.step, Transfer.serverStep] at taken
  split at taken
  next receives isHead =>
    cases taken
    exact ⟨_, _, receives, isHead, rfl⟩
  next => cases taken

theorem Transfer.step_process {openOk : Bool} {writn : Nat}
    (taken : transfer.step setup (.process openOk writn) = some next) :
    ∃ msg, transfer.rx.pc = .process msg ∧
      next = { transfer with rx := transfer.rx.processMsg setup msg openOk writn } := by
  simp only [Transfer.step, Transfer.serverStep] at taken
  split at taken
  next msg processes =>
    cases taken
    exact ⟨msg, processes, rfl⟩
  next => cases taken

/-- Every step keeps the two sides in step. -/
theorem Transfer.Sync.step (sync : transfer.Sync setup a b)
    (taken : transfer.step setup action = some next) :
    ∃ a b, next.Sync setup a b := by
  cases action with
  | signal =>
    cases taken
    exact ⟨a, b, { sync with }⟩
  | shutdown =>
    cases taken
    exact ⟨a, b, { sync with }⟩
  | clientCheck =>
    obtain ⟨checks, rfl⟩ := of_enabled taken
    refine ⟨a, b, sync.clientCheck checks _ ?_⟩
    cases transfer.srvExit <;> cases transfer.tx.failAbort <;> cases transfer.tx.done <;> simp
  | clientReceive =>
    obtain ⟨msg, rest, receives, isHead, rfl⟩ := Transfer.step_clientReceive taken
    exact ⟨a, b, sync.clientReceive receives isHead⟩
  | clientReceiveFails =>
    obtain ⟨receives, rfl⟩ := of_enabled taken
    exact ⟨a, b, sync.clientReceiveFails receives.1⟩
  | clientAbort sendOk =>
    obtain ⟨givesUp, rfl⟩ := of_enabled taken
    exact ⟨a, b, sync.clientAbort givesUp sendOk _⟩
  | clientLoop =>
    obtain ⟨loops, rfl⟩ := of_enabled taken
    exact ⟨a, b, sync.clientLoop loops⟩
  | land i =>
    obtain ⟨writes, rfl⟩ := of_enabled taken
    exact ⟨a, b, sync.land writes.1 writes.2 _⟩
  | writeEnds =>
    obtain ⟨writes, rfl⟩ := of_enabled taken
    exact ⟨a, b, sync.writeEnds writes.1 writes.2⟩
  | writeFails =>
    obtain ⟨-, rfl⟩ := of_enabled taken
    exact ⟨a, b, sync.writeFails⟩
  | clientSend sendOk =>
    obtain ⟨sends, rfl⟩ := of_enabled taken
    obtain ⟨b, sent⟩ := sync.clientSend sends sendOk
    exact ⟨a, b, sent⟩
  | serverCheck =>
    obtain ⟨checks, rfl⟩ := of_enabled taken
    refine ⟨a, b, sync.server _ (by simp [checks]) (fun msg => ?_) ?_⟩
    · split <;> simp
    · cases transfer.abortFlag <;> cases transfer.rx.failAbort <;>
        cases transfer.rx.endOfFile <;> simp
  | serverSend sendOk =>
    obtain ⟨sends, rfl⟩ := of_enabled taken
    exact ⟨a, b, sync.serverSend sends sendOk _⟩
  | serverTest =>
    obtain ⟨tests, rfl⟩ := of_enabled taken
    have alive := sync.receiving (by simp [tests]) (by simp [tests])
    refine ⟨a, b, sync.server _ (by simp [tests]) (fun msg => ?_) fun _ _ => alive⟩
    split <;> simp
  | serverReceive =>
    obtain ⟨msg, rest, receives, isHead, rfl⟩ := Transfer.step_serverReceive taken
    exact ⟨a, b, sync.serverReceive receives isHead⟩
  | serverReceiveFails =>
    obtain ⟨receives, rfl⟩ := of_enabled taken
    exact ⟨a, b, sync.server .closed (by simp [receives.1]) (by simp) (by simp)⟩
  | process openOk writn =>
    obtain ⟨msg, processes, rfl⟩ := Transfer.step_process taken
    rcases sync.nextMsg processes with ⟨lt, rfl⟩ | ⟨allTaken, isAbort, -⟩
    · rw [RxState.processMsg, if_neg (by simp [Setup.msg])]
      exact ⟨a + 1, b, sync.copies processes lt openOk writn⟩
    · rw [RxState.processMsg, if_pos isAbort]
      exact ⟨a, b, sync.givesUp processes allTaken⟩

theorem Transfer.start_sync (setup : Setup) (txEndOfFile : Bool) (window : Nat → UInt8)
    (old : List UInt8) : (Transfer.start txEndOfFile window old).Sync setup 0 0 where
  le := Nat.le_refl 0
  addr := .inl rfl
  acks := fun _ isMsg => absurd isMsg List.not_mem_nil
  acked := Nat.le_refl 0
  taken := Nat.zero_le _
  copied := fun _ => by simp [Setup.sent, Transfer.start, RxState.init]
  written := fun _ => by simp [Transfer.start, RxState.init]
  receiving := fun _ _ => rfl
  pending := ⟨[], rfl, fun _ isMsg => absurd isMsg List.not_mem_nil, fun _ => rfl⟩
  inPlace := fun j _ lt => absurd lt (Nat.not_lt_zero j)
  sending := fun _ => by
    refine ⟨?_, ?_, rfl, ?_⟩ <;> simp [Setup.sent, Transfer.start, TxState.init]
  failed := fun hasFailed => by cases hasFailed

theorem Transfer.step_rx (taken : transfer.step setup action = some next) :
    (∃ msg openOk writn, action = .process openOk writn ∧ transfer.rx.pc = .process msg ∧
        next = { transfer with rx := transfer.rx.processMsg setup msg openOk writn }) ∨
      ∃ pc window, next.rx = { transfer.rx with pc := pc, window := window } := by
  cases action with
  | signal | shutdown =>
    cases taken
    exact .inr ⟨_, _, rfl⟩
  | process openOk writn =>
    obtain ⟨msg, processes, rfl⟩ := Transfer.step_process taken
    exact .inl ⟨msg, openOk, writn, rfl, processes, rfl⟩
  | clientReceive =>
    obtain ⟨-, -, -, -, rfl⟩ := Transfer.step_clientReceive taken
    exact .inr ⟨_, _, rfl⟩
  | serverReceive =>
    obtain ⟨-, -, -, -, rfl⟩ := Transfer.step_serverReceive taken
    exact .inr ⟨_, _, rfl⟩
  | clientCheck | clientReceiveFails | clientAbort | clientLoop | land | writeEnds | writeFails
  | clientSend | serverCheck | serverSend | serverTest | serverReceiveFails =>
    obtain ⟨-, rfl⟩ := of_enabled taken
    exact .inr ⟨_, _, rfl⟩

end Invariant

end RioFabric.FileTransfer

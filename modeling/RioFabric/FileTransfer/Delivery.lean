import RioFabric.FileTransfer.Pipeline

/-!
# What the client takes for success

The client takes the end of the connection for the end of the transfer once its message says
that the file ends.  The server closes the connection in the same way when it has failed, and it
does not truncate a file that exists.
-/

namespace RioFabric.FileTransfer

open Lib

/-- `send_file` has returned 0. -/
def Transfer.Succeeds (transfer : Transfer) : Prop :=
  transfer.tx.pc = .finished ∧ transfer.tx.failAbort = false

/-- The server fails by this action: it is shut down, its message cannot be sent, the file
cannot be opened, or `write` is short. -/
def Transfer.fails (setup : Setup) (transfer : Transfer) : TransferAction → Bool
  | .shutdown => true
  | .serverSend sendOk => !sendOk
  | .process openOk writn =>
    transfer.rx.fileName = "" && !(openOk && setup.destName ≠ "") ||
      writn < transfer.rx.pc.bytes
  | _ => false

/-- The server has failed. -/
def Transfer.HasFailed (transfer : Transfer) : Prop :=
  transfer.abortFlag = true ∨ transfer.rx.failAbort = true ∨
    transfer.rx.pc = .closed ∧ transfer.rx.endOfFile = false

instance (transfer : Transfer) : Decidable transfer.HasFailed :=
  inferInstanceAs (Decidable (_ ∨ _ ∨ _ ∧ _))

/-- The condition on an action: the server fails only as long as the client has not sent the
message that ends the file, that message does not get through once the server has failed, and
the client is not told to stop before it is done. -/
def FailsEarly (setup : Setup) (transfer : Transfer) (action : TransferAction) : Prop :=
  (transfer.fails setup action = true → transfer.tx.txEndOfFile = false) ∧
    (action = .clientSend true → transfer.tx.endOfFile = true → ¬transfer.HasFailed) ∧
    (action = .signal → transfer.tx.done = true ∨ transfer.tx.failAbort = true)

instance (setup : Setup) (transfer : Transfer) (action : TransferAction) :
    Decidable (FailsEarly setup transfer action) := inferInstanceAs (Decidable (_ ∧ _ ∧ _))

/-- The file holds the bytes received so far, and behind them what it held before. -/
structure RxState.Filed (setup : Setup) (old : List UInt8) (rx : RxState) : Prop where
  fileName : rx.fileName = setup.destName
  named : setup.destName ≠ ""
  filePos : rx.filePos = rx.bytesRxed
  dest : rx.dest = setup.src.take rx.bytesRxed ++ old.drop rx.bytesRxed

/-- The file has not been opened. -/
structure RxState.Unopened (old : List UInt8) (rx : RxState) : Prop where
  fileName : rx.fileName = ""
  bytesRxed : rx.bytesRxed = 0
  dest : rx.dest = old

/-- The whole file has arrived. -/
structure RxState.Complete (setup : Setup) (rx : RxState) : Prop where
  dest : rx.dest = setup.src
  bytesRxed : rx.bytesRxed = setup.src.length

section File

variable {setup : Setup} {old : List UInt8} {rx : RxState} {transfer next : Transfer} {a b : Nat}
  {data : List UInt8} {action : TransferAction} {tx : TxState} {toServer : List ClientMsg}

theorem RxState.complete (opened : rx.Unopened old ∨ rx.Filed setup old)
    (shorter : old.length ≤ setup.src.length) (bytes : rx.bytesRxed = setup.src.length) :
    rx.Complete setup := by
  refine ⟨?_, bytes⟩
  rcases opened with unopened | filed
  · have empty : setup.src.length = 0 := bytes.symm.trans unopened.bytesRxed
    rw [unopened.dest, List.eq_nil_of_length_eq_zero empty]
    exact List.eq_nil_of_length_eq_zero (by omega)
  · rw [filed.dest, bytes, List.take_length, List.drop_eq_nil_of_le shorter, List.append_nil]

theorem RxState.write_dest {front back : List UInt8} {writn : Nat} (dest : rx.dest = front ++ back)
    (pos : rx.filePos = front.length) (whole : data.length ≤ writn) :
    (rx.write data writn).dest = front ++ data ++ back.drop data.length ∧
      (rx.write data writn).filePos = front.length + data.length := by
  have all := List.take_of_length_le whole
  simp only [RxState.write, all, dest, pos, List.take_left, List.drop_append, List.drop_eq_nil_of_le
    (Nat.le_add_right front.length data.length), Nat.add_sub_cancel_left, List.nil_append,
    and_self]

theorem RxState.Filed.append (filed : rx.Filed setup old) {writn : Nat}
    (inFile : rx.bytesRxed ≤ setup.src.length) (follows : setup.src.take rx.bytesRxed ++ data =
      setup.src.take (rx.bytesRxed + data.length)) (whole : data.length ≤ writn) (pc : RxPc)
    (failAbort endOfFile : Bool) :
    { rx.write data writn with
      pc := pc, failAbort := failAbort, endOfFile := endOfFile
      bytesRxed := rx.bytesRxed + data.length }.Filed setup old := by
  have length : (setup.src.take rx.bytesRxed).length = rx.bytesRxed := by
    rw [List.length_take, Nat.min_eq_left inFile]
  obtain ⟨dest, pos⟩ := RxState.write_dest filed.dest (filed.filePos.trans length.symm) whole
  refine ⟨filed.fileName, filed.named, ?_, ?_⟩
  · rw [pos, length]
  · rw [dest, follows, List.drop_drop]

theorem RxState.openFile_filed (opened : rx.Unopened old ∨ rx.Filed setup old)
    (alive : rx.failAbort = false) {msg : ClientMsg} (name : msg.rxFileName = setup.destName)
    (openOk : Bool) :
    ((rx.fileName = "" && !(openOk && setup.destName ≠ "")) = false →
        (rx.openFile msg openOk).failAbort = false) ∧
      ((rx.openFile msg openOk).failAbort = false → (rx.openFile msg openOk).Filed setup old) := by
  rcases opened with unopened | filed
  · simp only [RxState.openFile, unopened.fileName, if_true, alive, name, Bool.false_or,
      decide_true, Bool.true_and]
    refine ⟨id, fun isOpen => ?_⟩
    have named : setup.destName ≠ "" := by
      simp only [Bool.not_eq_false', Bool.and_eq_true, decide_eq_true_eq] at isOpen
      exact isOpen.2
    exact ⟨rfl, named, unopened.bytesRxed.symm, by simp [unopened.bytesRxed, unopened.dest]⟩
  · have notEmpty : rx.fileName ≠ "" := fun empty => filed.named (filed.fileName.symm.trans empty)
    have sameName : (rx.failAbort || decide (rx.fileName ≠ msg.rxFileName)) = rx.failAbort := by
      simp [name, filed.fileName]
    have unchanged : rx.openFile msg openOk = rx := by
      rw [RxState.openFile, if_neg notEmpty, sameName]
    rw [unchanged]
    exact ⟨fun _ => alive, fun _ => filed⟩

section

variable (sync : transfer.Sync setup a b)
include sync

theorem Transfer.Sync.copy_filed (processes : transfer.rx.pc = .process (setup.msg a)) (lt : a < b)
    (opened : transfer.rx.Unopened old ∨ transfer.rx.Filed setup old) (openOk : Bool)
    (writn : Nat) :
    (transfer.fails setup (.process openOk writn) = false →
        (transfer.rx.copy setup (setup.msg a) openOk writn).failAbort = false) ∧
      ((transfer.rx.copy setup (setup.msg a) openOk writn).failAbort = false →
        (transfer.rx.copy setup (setup.msg a) openOk writn).Filed setup old) := by
  have alive := sync.receiving (by simp [processes]) (by simp [processes])
  have segment := sync.segment lt alive
  have sent := setup.sent_add_segLen a
  rw [sync.written alive, sync.copied alive] at segment
  obtain ⟨mayOpen, isFiled⟩ : _ ∧ _ :=
    RxState.openFile_filed opened alive (rfl : (setup.msg a).rxFileName = _) openOk
  obtain ⟨fileName, filePos, failAbort, isOpened⟩ := transfer.rx.openFile_eq (setup.msg a) openOk
  rw [isOpened] at mayOpen isFiled
  unfold RxState.copy
  rw [isOpened]
  have bytes : (setup.msg a).bytesTxNow = setup.segLen a := rfl
  have rapidioAddr : (setup.msg a).rapidioAddr = setup.segAddr a := rfl
  simp only [bytes, rapidioAddr]
  cases failAbort with
  | true =>
    refine ⟨fun succeeds => ?_, fun isAlive => absurd isAlive (by simp)⟩
    exact absurd (mayOpen (Bool.or_eq_false_iff.mp succeeds).1) (by simp)
  | false =>
    have filed := isFiled rfl
    by_cases empty : setup.segLen a = 0
    · simp only [empty, ne_eq, not_true_eq_false, and_false, if_false]
      exact ⟨fun _ => trivial, fun _ => ⟨filed.1, filed.2, filed.3, filed.4⟩⟩
    · simp only [ne_eq, empty, not_false_eq_true, and_self, if_true]
      refine ⟨fun succeeds => ?_, fun isAlive => ?_⟩
      · simpa [processes, RxPc.bytes, bytes] using (Bool.or_eq_false_iff.mp succeeds).2
      · have whole : setup.segLen a ≤ writn := by simpa using isAlive
        have inFile : setup.sent a ≤ setup.src.length := Nat.min_le_right _ _
        have length : (transfer.rx.slice (setup.offset (setup.segAddr a))
            (setup.segLen a)).length = setup.segLen a := by
          rw [RxState.slice, List.length_map, List.length_range]
        rw [← sync.copied alive] at inFile segment sent
        have follows := segment.trans (congrArg setup.src.take (sent.symm.trans
          (congrArg _ length.symm)))
        have appended := filed.append inFile follows (length.trans_le whole) .check
          (writn < setup.segLen a) (setup.msg a).endOfFile
        rw [length] at appended
        exact appended

/-- A complete file stays complete. -/
theorem Transfer.Sync.complete_step (taken : transfer.step setup action = some next)
    (complete : transfer.rx.Complete setup) :
    next.rx.Complete setup := by
  rcases Transfer.step_rx taken with ⟨msg, openOk, writn, rfl, processes, rfl⟩ | ⟨pc, window, same⟩
  · have alive := sync.receiving (by simp [processes]) (by simp [processes])
    rcases sync.nextMsg processes with ⟨lt, rfl⟩ | ⟨-, isAbort, -⟩
    · have allReceived := (sync.copied alive).symm.trans complete.bytesRxed
      have sent := setup.sent_add_segLen a
      have inFile : setup.sent (a + 1) ≤ setup.src.length := Nat.min_le_right _ _
      have empty : (setup.msg a).bytesTxNow = 0 := by
        have bytes : (setup.msg a).bytesTxNow = setup.segLen a := rfl
        omega
      obtain ⟨fileName, filePos, failAbort, isOpened⟩ :=
        transfer.rx.openFile_eq (setup.msg a) openOk
      rw [RxState.processMsg, if_neg (by simp [Setup.msg]), RxState.copy, isOpened]
      simp only [empty, ne_eq, not_true_eq_false, and_false, if_false]
      exact ⟨complete.dest, complete.bytesRxed⟩
    · rw [RxState.processMsg, if_pos isAbort]
      exact ⟨complete.dest, complete.bytesRxed⟩
  · rw [same]
    exact ⟨complete.dest, complete.bytesRxed⟩

/-- A server that has not failed has its file open from the first message on, and has received
the whole file when it ends. -/
structure RxState.Sound (setup : Setup) (old : List UInt8) (rx : RxState) : Prop where
  opened : rx.failAbort = false → rx.Unopened old ∨ rx.Filed setup old
  ended : rx.endOfFile = true → rx.failAbort = false → rx.bytesRxed = setup.src.length

/-- Each step of either side keeps the state of the server sound. -/
theorem Transfer.Sync.sound_step (taken : transfer.step setup action = some next)
    (sound : transfer.rx.Sound setup old) :
    next.rx.Sound setup old := by
  rcases Transfer.step_rx taken with ⟨msg, openOk, writn, rfl, processes, rfl⟩ | ⟨pc, window, same⟩
  · have alive := sync.receiving (by simp [processes]) (by simp [processes])
    rcases sync.nextMsg processes with ⟨lt, rfl⟩ | ⟨-, isAbort, -⟩
    · have copied := (sync.copies processes lt openOk writn).copied
      rw [RxState.processMsg, if_neg (by simp [Setup.msg])]
      refine ⟨fun isAlive => .inr ?_, fun ended isAlive => ?_⟩
      · exact (sync.copy_filed processes lt (sound.opened alive) openOk writn).2 isAlive
      · have isEnd : setup.src.length < (a + 1) * setup.seg := of_decide_eq_true ended
        exact (copied isAlive).trans (Nat.min_eq_right (Nat.le_of_lt isEnd))
    · rw [RxState.processMsg, if_pos isAbort]
      exact ⟨by simp, by simp⟩
  · rw [same]
    refine ⟨fun isAlive => ?_, sound.ended⟩
    rcases sound.opened isAlive with unopened | filed
    · exact .inl ⟨unopened.1, unopened.2, unopened.3⟩
    · exact .inr ⟨filed.1, filed.2, filed.3, filed.4⟩

end

/-- The client has reason to be done when it is, and the server has not failed when the client
waits for its end. -/
structure Transfer.Delivers (setup : Setup) (old : List UInt8) (transfer : Transfer) : Prop where
  sound : transfer.rx.Sound setup old
  acks : ∀ msg ∈ transfer.toClient, msg.totBytesRx = setup.src.length →
    transfer.rx.Complete setup
  done : transfer.tx.done = true → transfer.tx.failAbort = false → transfer.rx.Complete setup
  late : transfer.tx.txEndOfFile = true → transfer.tx.failAbort = false →
    transfer.tx.pc ≠ .finished → ¬transfer.HasFailed
  exits : transfer.srvExit = true → transfer.tx.done = true ∨ transfer.tx.failAbort = true
  finished : transfer.tx.pc = .finished → transfer.tx.done = true ∨ transfer.tx.failAbort = true

section

variable (delivers : transfer.Delivers setup old)
include delivers

theorem Transfer.Delivers.client (done : tx.done = transfer.tx.done)
    (failAbort : tx.failAbort = transfer.tx.failAbort)
    (txEndOfFile : tx.txEndOfFile = transfer.tx.txEndOfFile) (pc : transfer.tx.pc ≠ .finished)
    (notFinished : tx.pc = .finished → tx.done = true ∨ tx.failAbort = true) :
    { transfer with tx := tx }.Delivers setup old where
  sound := delivers.sound
  acks := delivers.acks
  done := done ▸ failAbort ▸ delivers.done
  late := fun ends alive _ =>
    delivers.late (txEndOfFile ▸ ends) (failAbort ▸ alive) pc
  exits := done ▸ failAbort ▸ delivers.exits
  finished := notFinished

theorem Transfer.Delivers.clientFails (failed : tx.failAbort = true) :
    { transfer with tx := tx, toServer := toServer }.Delivers setup old where
  sound := delivers.sound
  acks := delivers.acks
  done := fun _ alive => absurd (failed.symm.trans alive) (by simp)
  late := fun _ alive => absurd (failed.symm.trans alive) (by simp)
  exits := fun _ => .inr failed
  finished := fun _ => .inr failed

theorem Transfer.Delivers.clientReceive (sync : transfer.Sync setup a b)
    (receives : transfer.tx.pc = .receive) {msg : SvrMsg} {rest : List SvrMsg}
    (isHead : transfer.toClient = msg :: rest) :
    { transfer with
      tx := transfer.tx.receive setup.destName msg, toClient := rest }.Delivers setup old := by
  have alive := sync.alive_of_receive receives
  have ready := sync.ready alive (.inr (.inl receives))
  have acks := delivers.acks
  rw [isHead, List.forall_mem_cons] at acks
  have received : { transfer with toClient := rest }.Delivers setup old :=
    { delivers with acks := acks.2 }
  rcases transfer.tx.receive_cases setup.destName msg alive with
    ⟨pc, isNext, result⟩ | result | result
  · rw [result]
    exact received.clientFails rfl
  · rw [result]
    refine { received with done := fun isDone _ => ?_, late := fun ends _ _ => ?_, exits := ?_
                           finished := fun isFinished => by cases isFinished }
    · simp only [Bool.or_eq_true, Bool.and_eq_true, decide_eq_true_eq] at isDone
      rcases isDone with wasDone | ⟨tot, isEnd⟩
      · exact delivers.done wasDone alive
      · rw [ready.endOfFile, decide_eq_true_eq] at isEnd
        refine acks.1 (tot.symm.trans (ready.totBytesTxed.trans ?_))
        exact Nat.min_eq_right (Nat.le_of_lt isEnd)
    · exact delivers.late ends alive (by simp [receives])
    · intro exits
      rcases delivers.exits exits with wasDone | hasFailed
      · exact .inl (by simp [wasDone])
      · exact .inr hasFailed
  · rw [result]
    exact received.client rfl rfl rfl (by simp [receives]) (by simp)

theorem Transfer.Delivers.clientReceiveFails (sync : transfer.Sync setup a b)
    (shorter : old.length ≤ setup.src.length) (receives : transfer.tx.pc = .receive)
    (closed : transfer.rx.pc = .closed) :
    { transfer with tx := transfer.tx.receiveFails }.Delivers setup old := by
  have alive := sync.alive_of_receive receives
  unfold TxState.receiveFails
  split
  next ends =>
    have succeeded := delivers.late ends alive (by simp [receives])
    have isAlive : transfer.rx.failAbort = false := by
      rw [← Bool.not_eq_true]
      exact fun hasFailed => succeeded (.inr (.inl hasFailed))
    have ended : transfer.rx.endOfFile = true := by
      rw [← Bool.not_eq_false]
      exact fun notEnded => succeeded (.inr (.inr ⟨closed, notEnded⟩))
    have complete := RxState.complete (delivers.sound.opened isAlive) shorter
      (delivers.sound.ended ended isAlive)
    exact { delivers with
      done := fun _ _ => complete
      late := fun _ _ _ => succeeded
      exits := fun _ => .inl rfl
      finished := fun _ => .inl rfl }
  next => exact delivers.clientFails rfl

theorem Transfer.Delivers.clientSend {sendOk : Bool}
    (early : FailsEarly setup transfer (.clientSend sendOk)) (done : tx.done = transfer.tx.done)
    (failAbort : tx.failAbort = (transfer.tx.failAbort || !sendOk))
    (txEndOfFile : tx.txEndOfFile = transfer.tx.endOfFile) (pc : tx.pc ≠ .finished) :
    { transfer with tx := tx, toServer := toServer }.Delivers setup old := by
  cases sendOk with
  | false => exact delivers.clientFails (by simp [failAbort])
  | true =>
    rw [Bool.not_true, Bool.or_false] at failAbort
    exact { delivers with
      done := done ▸ failAbort ▸ delivers.done
      late := fun ends _ _ => early.2.1 rfl (txEndOfFile ▸ ends)
      exits := done ▸ failAbort ▸ delivers.exits
      finished := fun isFinished => absurd isFinished pc }

theorem Transfer.Delivers.server {rx : RxState}
    {toClient : List SvrMsg} (sound : rx.Sound setup old)
    (kept : transfer.rx.Complete setup → rx.Complete setup)
    (acks : ∀ msg ∈ toClient, msg ∈ transfer.toClient ∨
      (msg.totBytesRx = setup.src.length → rx.Complete setup))
    (late : transfer.tx.txEndOfFile = true → transfer.tx.failAbort = false →
      transfer.tx.pc ≠ .finished → ¬transfer.HasFailed →
      ¬{ transfer with rx := rx, toClient := toClient, toServer := toServer }.HasFailed) :
    { transfer with
      rx := rx, toClient := toClient, toServer := toServer }.Delivers setup old where
  sound := sound
  acks := fun msg isMsg tot => by
    rcases acks msg isMsg with isOld | isNew
    · exact kept (delivers.acks msg isOld tot)
    · exact isNew tot
  done := fun isDone alive => kept (delivers.done isDone alive)
  late := fun ends alive running =>
    late ends alive running (delivers.late ends alive running)
  exits := delivers.exits
  finished := delivers.finished

end

theorem not_hasFailed (succeeded : ¬transfer.HasFailed)
    (abortFlag : next.abortFlag = transfer.abortFlag)
    (failAbort : next.rx.failAbort = transfer.rx.failAbort)
    (closed : next.rx.pc = .closed → next.rx.endOfFile = true) : ¬next.HasFailed := by
  rintro (aborts | fails | ⟨isClosed, notEnded⟩)
  · exact succeeded (.inl (abortFlag ▸ aborts))
  · exact succeeded (.inr (.inl (failAbort ▸ fails)))
  · exact absurd ((closed isClosed).symm.trans notEnded) (by simp)

section

variable (delivers : transfer.Delivers setup old)
include delivers

theorem Transfer.Delivers.clientCheck (taken : transfer.step setup .clientCheck = some next)
    : next.Delivers setup old := by
  obtain ⟨checks, rfl⟩ := of_enabled taken
  refine delivers.client rfl rfl rfl (by simp [checks]) fun isFinished => ?_
  have stops : (transfer.srvExit || transfer.tx.failAbort || transfer.tx.done) = true := by
    by_contra goesOn
    simp [goesOn] at isFinished
  rw [Bool.or_eq_true, Bool.or_eq_true] at stops
  rcases stops with (exits | hasFailed) | isDone
  · exact delivers.exits exits
  · exact .inr hasFailed
  · exact .inl isDone

theorem Transfer.Delivers.serverCheck (sound : next.rx.Sound setup old)
    (kept : transfer.rx.Complete setup → next.rx.Complete setup)
    (taken : transfer.step setup .serverCheck = some next) : next.Delivers setup old := by
  obtain ⟨checks, rfl⟩ := of_enabled taken
  refine delivers.server sound kept (fun _ => .inl) fun _ _ _ succeeded => ?_
  refine not_hasFailed succeeded rfl rfl fun closed => ?_
  by_contra notEnded
  simp only [Bool.not_eq_true] at notEnded
  obtain ⟨running, alive, -⟩ := not_or.mp succeeded |>.imp_right not_or.mp
  simp [running, alive, notEnded] at closed

theorem Transfer.Delivers.serverTest (sound : next.rx.Sound setup old)
    (kept : transfer.rx.Complete setup → next.rx.Complete setup)
    (taken : transfer.step setup .serverTest = some next) : next.Delivers setup old := by
  obtain ⟨tests, rfl⟩ := of_enabled taken
  refine delivers.server sound kept (fun _ => .inl) fun _ _ _ succeeded => ?_
  refine not_hasFailed succeeded rfl rfl fun closed => ?_
  by_contra notEnded
  simp only [Bool.not_eq_true] at notEnded
  obtain ⟨running, -⟩ := not_or.mp succeeded
  simp [running, notEnded] at closed

section

variable (sync : transfer.Sync setup a b)
include sync

/-- The server acknowledges what it has received: the whole file only if it has all of it. -/
theorem Transfer.Delivers.serverSend
    (shorter : old.length ≤ setup.src.length) {sendOk : Bool}
    (early : FailsEarly setup transfer (.serverSend sendOk)) (sound : next.rx.Sound setup old)
    (kept : transfer.rx.Complete setup → next.rx.Complete setup)
    (taken : transfer.step setup (.serverSend sendOk) = some next) : next.Delivers setup old := by
  obtain ⟨sends, rfl⟩ := of_enabled taken
  have alive := sync.receiving (by simp [sends]) (by simp [sends])
  refine delivers.server sound kept (fun msg isMsg => ?_) fun ends _ _ succeeded => ?_
  · rcases List.mem_append.mp isMsg with isOld | isNew
    · exact .inl isOld
    · refine .inr fun tot => RxState.complete (sound.opened alive) shorter ?_
      cases sendOk with
      | false => exact absurd isNew (by simp)
      | true =>
        rw [if_pos rfl, List.mem_singleton] at isNew
        rwa [isNew] at tot
  · cases sendOk with
    | false => exact absurd ((early.1 rfl).symm.trans ends) (by simp)
    | true => exact not_hasFailed succeeded rfl rfl fun closed => by cases closed

/-- The server processes a message. Once the message that ends the file is sent, it does not fail
to. -/
theorem Transfer.Delivers.process {openOk : Bool} {writn : Nat}
    (early : FailsEarly setup transfer (.process openOk writn)) (sound : next.rx.Sound setup old)
    (kept : transfer.rx.Complete setup → next.rx.Complete setup)
    (taken : transfer.step setup (.process openOk writn) = some next) :
    next.Delivers setup old := by
  obtain ⟨msg, processes, rfl⟩ := Transfer.step_process taken
  refine delivers.server sound kept (fun _ => .inl) fun ends isAlive _ succeeded => ?_
  have alive := sync.receiving (by simp [processes]) (by simp [processes])
  rcases sync.nextMsg processes with ⟨lt, rfl⟩ | ⟨-, -, hasFailed⟩
  · have succeeds : transfer.fails setup (.process openOk writn) = false := by
      rw [← Bool.not_eq_true]
      exact fun fails => absurd ((early.1 fails).symm.trans ends) (by simp)
    have copied := (sync.copy_filed processes lt (delivers.sound.opened alive) openOk writn).1
      succeeds
    have pc := (RxState.copy_cases setup transfer.rx (setup.msg a) openOk writn).1
    rw [RxState.processMsg, if_neg (by simp [Setup.msg])]
    exact not_hasFailed succeeded rfl (copied.trans alive.symm) fun closed =>
      absurd (pc.symm.trans closed) (by simp)
  · exact absurd (hasFailed.symm.trans isAlive) (by simp)

/-- Every step keeps `Delivers`, if the server fails only early. -/
theorem Transfer.Delivers.step
    (shorter : old.length ≤ setup.src.length) (early : FailsEarly setup transfer action)
    (taken : transfer.step setup action = some next) :
    next.Delivers setup old := by
  have sound := sync.sound_step taken delivers.sound
  have kept := sync.complete_step taken
  cases action with
  | signal =>
    cases taken
    exact { delivers with exits := fun _ => early.2.2 rfl }
  | shutdown =>
    cases taken
    have notEnds := early.1 rfl
    exact { delivers with late := fun ends => absurd (notEnds.symm.trans ends) (by simp) }
  | clientCheck => exact delivers.clientCheck taken
  | clientReceive =>
    obtain ⟨msg, rest, receives, isHead, rfl⟩ := Transfer.step_clientReceive taken
    exact delivers.clientReceive sync receives isHead
  | clientReceiveFails =>
    obtain ⟨receives, rfl⟩ := of_enabled taken
    exact delivers.clientReceiveFails sync shorter receives.1 receives.2
  | clientAbort sendOk =>
    obtain ⟨givesUp, rfl⟩ := of_enabled taken
    exact delivers.clientFails (sync.hasFailed givesUp)
  | clientLoop =>
    obtain ⟨loops, rfl⟩ := of_enabled taken
    split
    · exact delivers.client rfl rfl rfl (by simp [loops]) (by simp [TxState.fill])
    · exact delivers.client rfl rfl rfl (by simp [loops]) (by simp)
  | land i =>
    obtain ⟨-, rfl⟩ := of_enabled taken
    exact delivers.server sound kept (fun _ => .inl) fun _ _ _ => id
  | writeEnds =>
    obtain ⟨writes, rfl⟩ := of_enabled taken
    exact delivers.client rfl rfl rfl (by simp [writes.1]) (by simp)
  | writeFails =>
    obtain ⟨-, rfl⟩ := of_enabled taken
    exact delivers.clientFails rfl
  | clientSend sendOk =>
    obtain ⟨-, rfl⟩ := of_enabled taken
    exact delivers.clientSend early rfl rfl rfl (by simp)
  | serverCheck => exact delivers.serverCheck sound kept taken
  | serverSend sendOk => exact delivers.serverSend sync shorter early sound kept taken
  | serverTest => exact delivers.serverTest sound kept taken
  | serverReceive =>
    obtain ⟨msg, rest, receives, isHead, rfl⟩ := Transfer.step_serverReceive taken
    refine delivers.server sound kept (fun _ => .inl) fun _ _ _ succeeded => ?_
    exact not_hasFailed succeeded rfl rfl fun closed => by cases closed
  | serverReceiveFails =>
    obtain ⟨receives, rfl⟩ := of_enabled taken
    exact delivers.server sound kept (fun _ => .inl) fun _ _ running => absurd receives.2 running
  | process openOk writn => exact delivers.process sync early sound kept taken

end

end

end File

theorem Transfer.start_delivers (setup : Setup) (txEndOfFile : Bool) (window : Nat → UInt8)
    (old : List UInt8) :
    (Transfer.start txEndOfFile window old).Delivers setup old where
  sound := ⟨fun _ => .inl ⟨rfl, rfl, rfl⟩, fun ended => by cases ended⟩
  acks := fun _ isMsg => absurd isMsg List.not_mem_nil
  done := fun isDone => by cases isDone
  late := fun _ _ _ => by simp [Transfer.HasFailed, Transfer.start, RxState.init]
  exits := fun exits => by cases exits
  finished := fun isFinished => by cases isFinished

/-- In a run in which the server fails only before the client has sent the message that ends the
file, and to a file that was not longer, `send_file` returns 0 only when the file has been
copied. -/
theorem success_delivers (setup : Setup) (txEndOfFile : Bool) (window : Nat → UInt8)
    (old : List UInt8) (shorter : old.length ≤ setup.src.length) (transfer : Transfer)
    (reached : Reaches (Transfer.step setup) (FailsEarly setup) (.start txEndOfFile window old)
      transfer) (succeeds : transfer.Succeeds) : transfer.rx.dest = setup.src := by
  have kept : (∃ a b, transfer.Sync setup a b) ∧ transfer.Delivers setup old := by
    refine reached.invariant
      (fun transfer => (∃ a b, transfer.Sync setup a b) ∧ transfer.Delivers setup old)
      ⟨⟨0, 0, Transfer.start_sync setup txEndOfFile window old⟩,
        Transfer.start_delivers setup txEndOfFile window old⟩ ?_
    rintro transfer action next ⟨⟨a, b, sync⟩, delivers⟩ early taken
    exact ⟨sync.step taken, delivers.step sync shorter early taken⟩
  obtain ⟨isFinished, alive⟩ := succeeds
  rcases kept.2.finished isFinished with isDone | hasFailed
  · exact (kept.2.done isDone alive).dest
  · exact absurd (hasFailed.symm.trans alive) (by simp)

/-- The rest of the transfer of `threeBytes`: the server closes the connection, and the client
returns. -/
def closing : List TransferAction :=
  [.serverCheck, .clientLoop, .clientCheck, .clientReceiveFails, .clientCheck]

theorem success_delivers_threeBytes :
    ∃ transfer, Reaches (Transfer.step threeBytes) (FailsEarly threeBytes)
      (.start false (fun _ => 0) [7]) transfer ∧ transfer.Succeeds ∧
      transfer.rx.dest = [1, 2, 3] := by
  obtain ⟨transfer, reached, succeeds⟩ := exists_reaches_of_execute (Transfer.step threeBytes)
    (FailsEarly threeBytes) (.start false (fun _ => 0) [7])
    (oneSegment ++ .process true 3 :: closing)
    (fun transfer => transfer.tx.pc = .finished ∧ transfer.tx.failAbort = false) (by decide)
  have succeeds : transfer.tx.pc = .finished ∧ transfer.tx.failAbort = false :=
    of_decide_eq_true succeeds
  exact ⟨transfer, reached, succeeds,
    success_delivers threeBytes false _ [7] (by decide) transfer reached succeeds⟩

/-- `write` fails, and `send_file` returns 0. -/
theorem not_success_delivers_writeFails :
    ¬∀ (setup : Setup) (txEndOfFile : Bool) (window : Nat → UInt8) (old : List UInt8)
      (transfer : Transfer), Reaches (Transfer.step setup) anyAction
        (.start txEndOfFile window old) transfer →
      transfer.Succeeds → transfer.rx.dest = setup.src := by
  intro delivers
  obtain ⟨transfer, reached, fails⟩ := exists_reaches_of_execute (Transfer.step threeBytes)
    anyAction (.start false (fun _ => 0) []) (oneSegment ++ .process true 0 :: closing)
    (fun transfer => (transfer.tx.pc = .finished ∧ transfer.tx.failAbort = false) ∧
      transfer.rx.dest = []) (by decide)
  obtain ⟨succeeds, empty⟩ := of_decide_eq_true fails
  have delivered := delivers threeBytes false _ _ transfer reached succeeds
  exact absurd (empty.symm.trans delivered) (by decide)

/-- Whatever fails: as long as the server has not noticed it, the file holds what has been
received, and all of it when the server ends. -/
theorem filed_of_reaches (setup : Setup) (txEndOfFile : Bool) (window : Nat → UInt8)
    (old : List UInt8) (transfer : Transfer)
    (reached : Reaches (Transfer.step setup) anyAction (.start txEndOfFile window old) transfer)
    (alive : transfer.rx.failAbort = false) :
    transfer.rx.dest =
        setup.src.take transfer.rx.bytesRxed ++ old.drop transfer.rx.bytesRxed ∧
      (transfer.rx.endOfFile = true → transfer.rx.bytesRxed = setup.src.length) := by
  have kept : (∃ a b, transfer.Sync setup a b) ∧ transfer.rx.Sound setup old := by
    refine reached.invariant
      (fun transfer => (∃ a b, transfer.Sync setup a b) ∧ transfer.rx.Sound setup old)
      ⟨⟨0, 0, Transfer.start_sync setup txEndOfFile window old⟩,
        (Transfer.start_delivers setup txEndOfFile window old).sound⟩ ?_
    rintro transfer action next ⟨⟨a, b, sync⟩, sound⟩ - taken
    exact ⟨sync.step taken, sync.sound_step taken sound⟩
  refine ⟨?_, fun ended => kept.2.ended ended alive⟩
  obtain unopened | filed := kept.2.opened alive
  · rw [unopened.dest, unopened.bytesRxed]
    rfl
  · exact filed.dest

theorem filed_of_reaches_longer :
    ∃ transfer : Transfer, transfer.rx.bytesRxed = 3 ∧ transfer.rx.dest = [1, 2, 3, 4] := by
  obtain ⟨transfer, reached, state⟩ := exists_reaches_of_execute (Transfer.step threeBytes)
    anyAction (.start false (fun _ => 0) [7, 8, 9, 4]) (oneSegment ++ [.process true 3])
    (fun transfer => transfer.rx.failAbort = false ∧ transfer.rx.bytesRxed = 3) (by decide)
  obtain ⟨alive, bytes⟩ := of_decide_eq_true state
  have dest := (filed_of_reaches threeBytes false _ _ transfer reached alive).1
  exact ⟨transfer, bytes, by rw [dest, bytes]; rfl⟩

end RioFabric.FileTransfer

import RioFabric.FileTransfer.InFlight

/-!
# Safety of the data

DMA writes stay in the window, a segment is not overwritten before it has been copied, and the
server writes the beginning of the file.
-/

namespace RioFabric.FileTransfer

open Lib

/-- DMA writes stay in the window and leave alone what has not been copied, and what has been
written is the beginning of the file. -/
structure Transfer.Safe (setup : Setup) (transfer : Transfer) : Prop where
  inWindow : transfer.tx.pc = .write → ∀ i < transfer.tx.bytesTxed,
    setup.offset (transfer.tx.dmaAddr + BitVec.ofNat 64 i) < setup.length.toNat
  notOverwritten : transfer.tx.pc = .write → ∀ i < transfer.tx.bytesTxed,
    ∀ msg ∈ transfer.uncopied, ∀ k < msg.bytesTxNow,
      setup.offset (transfer.tx.dmaAddr + BitVec.ofNat 64 i) ≠
        setup.offset (msg.rapidioAddr + BitVec.ofNat 64 k)
  copied : transfer.rx.written = setup.src.take transfer.rx.bytesRxed

/-- The number of bytes of the message that is processed. -/
def RxPc.bytes : RxPc → Nat
  | .process msg => msg.bytesTxNow
  | _ => 0

/-- A `write` of this many bytes writes all of them. -/
def TransferAction.isWhole (bytes : Nat) : TransferAction → Bool
  | .process _ writn => bytes ≤ writn
  | _ => true

/-- `write` neither fails nor is it short. -/
def WholeWrites (transfer : Transfer) (action : TransferAction) : Prop :=
  action.isWhole transfer.rx.pc.bytes = true

instance (transfer : Transfer) (action : TransferAction) :
    Decidable (WholeWrites transfer action) := inferInstanceAs (Decidable (_ = true))

section Safe

variable {setup : Setup} {transfer next : Transfer} {a b : Nat}

theorem Transfer.Sync.safe (sync : transfer.Sync setup a b)
    (written : transfer.rx.written = setup.src.take transfer.rx.bytesRxed) :
    transfer.Safe setup where
  inWindow := fun writes i inSegment => by
    have filled := sync.filled writes
    rw [filled.bytesTxed] at inSegment
    rw [filled.dmaAddr, setup.offset_byte b inSegment]
    exact setup.place_lt b inSegment
  notOverwritten := fun writes i inSegment msg isUncopied k inMsg => by
    have filled := sync.filled writes
    rw [filled.bytesTxed] at inSegment
    rw [filled.dmaAddr, setup.offset_byte b inSegment]
    obtain ⟨aborts, isPending, empty, -⟩ := sync.pending
    rw [isPending, List.mem_append, List.mem_map] at isUncopied
    rcases isUncopied with ⟨j, inFlight, rfl⟩ | isAbort
    · have isLast : b = j + 1 := by
        have free := filled.free
        rw [List.mem_range'_1] at inFlight
        omega
      subst isLast
      have inMsg : k < setup.segLen j := inMsg
      have msgOffset := setup.offset_byte j inMsg
      exact fun same => setup.place_ne j inMsg inSegment (same.trans msgOffset)
    · rw [(empty msg isAbort).2] at inMsg
      exact absurd inMsg (Nat.not_lt_zero k)
  copied := written

/-- Step: what is written is the part of the source that has arrived. -/
theorem Transfer.Sync.written_step (sync : transfer.Sync setup a b) {action : TransferAction}
    (whole : WholeWrites transfer action) (taken : transfer.step setup action = some next)
    (written : transfer.rx.written = setup.src.take transfer.rx.bytesRxed) :
    next.rx.written = setup.src.take next.rx.bytesRxed := by
  rcases Transfer.step_rx taken with ⟨msg, openOk, writn, rfl, processes, rfl⟩ | ⟨pc, window, same⟩
  · rcases sync.nextMsg processes with ⟨lt, rfl⟩ | ⟨-, isAbort, -⟩
    · have alive := sync.receiving (by simp [processes]) (by simp [processes])
      have copied := (sync.copies processes lt openOk writn).written
      have notShort : ¬writn < (setup.msg a).bytesTxNow := by
        simpa [WholeWrites, processes, RxPc.bytes, TransferAction.isWhole] using whole
      rw [RxState.processMsg, if_neg (by simp [Setup.msg])]
      rcases (RxState.copy_cases setup transfer.rx (setup.msg a) openOk writn).2.2 with
        ⟨-, bytes, same⟩ | ⟨-, -, short⟩ | ⟨isAlive, -⟩
      · simp only [bytes, same, written]
      · exact absurd short notShort
      · exact copied isAlive
    · rw [RxState.processMsg, if_pos isAbort]
      exact written
  · rw [same]
    exact written

end Safe

/-- Whatever is sent to whatever window, in any order of steps: DMA writes stay in the window,
no segment is overwritten before it has been copied, and what has been written is the beginning
of the file. -/
theorem transfer_safe (setup : Setup) (txEndOfFile : Bool) (window : Nat → UInt8)
    (old : List UInt8) (transfer : Transfer)
    (reached : Reaches (Transfer.step setup) WholeWrites (.start txEndOfFile window old)
      transfer) : transfer.Safe setup := by
  have kept : (∃ a b, transfer.Sync setup a b) ∧
      transfer.rx.written = setup.src.take transfer.rx.bytesRxed := by
    refine reached.invariant (fun transfer => (∃ a b, transfer.Sync setup a b) ∧
      transfer.rx.written = setup.src.take transfer.rx.bytesRxed)
      ⟨⟨0, 0, Transfer.start_sync setup txEndOfFile window old⟩, rfl⟩ ?_
    rintro transfer action next ⟨⟨a, b, sync⟩, written⟩ whole taken
    exact ⟨sync.step taken, sync.written_step whole taken written⟩
  obtain ⟨⟨a, b, sync⟩, written⟩ := kept
  exact sync.safe written

/-- A file of three bytes, sent to a window of 8 KB. -/
def threeBytes : Setup := ⟨[1, 2, 3], "copy", 0x40000000#64, 0x2000#64⟩

/-- The transfer of `threeBytes` up to the server's `process_rxed_msg`. -/
def oneSegment : List TransferAction :=
  [.serverCheck, .serverSend true, .serverTest, .clientCheck, .clientReceive, .clientLoop, .land 1,
    .land 0, .land 2, .writeEnds, .clientSend true, .serverReceive]

theorem transfer_safe_threeBytes :
    ∃ transfer, Reaches (Transfer.step threeBytes) WholeWrites (.start false (fun _ => 0) [])
      transfer ∧ transfer.rx.written = [1, 2, 3] ∧ transfer.Safe threeBytes := by
  obtain ⟨transfer, reached, written⟩ := exists_reaches_of_execute (Transfer.step threeBytes)
    WholeWrites (.start false (fun _ => 0) []) (oneSegment ++ [.process true 3])
    (fun transfer => transfer.rx.written = [1, 2, 3]) (by decide)
  exact ⟨transfer, reached, of_decide_eq_true written,
    transfer_safe threeBytes false _ _ transfer reached⟩

end RioFabric.FileTransfer

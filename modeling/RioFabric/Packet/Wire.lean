import RioFabric.Packet.Compose

/-!
# The wire image of a packet

What a composed packet looks like as a list of bytes, without packet memory or indices:
header, payload, CRCs and padding.  The composition routine is related to it once, and
the parsing theorems work with the list.
-/

namespace RioFabric.Packet

open Lib

/-- The stream after storing `bytes` at its end. -/
def DarPktBytes.append (packet : DarPktBytes) : List Byte → DarPktBytes
  | [] => packet
  | value :: rest =>
    ({ packet with
      pktData := (packet.pktData.write packet.numChars value).getD packet.pktData
      numChars := packet.numChars + 1 } : DarPktBytes).append rest

@[simp] theorem DarPktBytes.append_nil (packet : DarPktBytes) : packet.append [] = packet := rfl

theorem DarPktBytes.append_append (packet : DarPktBytes) (left right : List Byte) :
    (packet.append left).append right = packet.append (left ++ right) := by
  induction left generalizing packet with
  | nil => rfl
  | cons value rest ih => exact ih _

@[simp] theorem DarPktBytes.append_numChars (packet : DarPktBytes) (bytes : List Byte) :
    (packet.append bytes).numChars = packet.numChars + bytes.length := by
  induction bytes generalizing packet with
  | nil => rfl
  | cons value rest ih =>
    rw [DarPktBytes.append, ih, List.length_cons]
    exact Nat.add_right_comm packet.numChars 1 rest.length

@[simp] theorem DarPktBytes.append_pktAddrSize (packet : DarPktBytes) (bytes : List Byte) :
    (packet.append bytes).pktAddrSize = packet.pktAddrSize := by
  induction bytes generalizing packet with
  | nil => rfl
  | cons value rest ih => rw [DarPktBytes.append, ih]

@[simp] theorem DarPktBytes.append_pktHasCrc (packet : DarPktBytes) (bytes : List Byte) :
    (packet.append bytes).pktHasCrc = packet.pktHasCrc := by
  induction bytes generalizing packet with
  | nil => rfl
  | cons value rest ih => rw [DarPktBytes.append, ih]

variable {bytes : List Byte} {state final : ComposeState} {result : Unit}
  {before after : ComposeState}

theorem DarPktBytes.stream_append {packet : DarPktBytes}
    (fits : packet.numChars + bytes.length ≤ rioMaxPktBytes) :
    (packet.append bytes).stream = packet.stream ++ bytes := by
  induction bytes generalizing packet with
  | nil => simp
  | cons value rest ih =>
    rw [List.length_cons] at fits
    have inBounds : packet.numChars < rioMaxPktBytes := by omega
    have written : packet.pktData.write packet.numChars value =
        some (packet.pktData.set packet.numChars value inBounds) :=
      PktData.write_eq_some.mpr ⟨inBounds, rfl⟩
    rw [DarPktBytes.append, ih (by simp only; omega)]
    simp only [DarPktBytes.stream, written, Option.getD_some]
    rw [PktData.take_write_succ written, List.append_assoc, List.singleton_append]

/-- A state whose stream has been extended. -/
def ComposeState.append (state : ComposeState) (bytes : List Byte) : ComposeState :=
  { state with bytesOut := state.bytesOut.append bytes }

/-- Room for `count` more bytes in packet memory. -/
def ComposeState.Room (state : ComposeState) (count : Nat) : Prop :=
  count = 0 ∨ state.bytesOut.numChars + count ≤ rioMaxPktBytes

theorem store_ok_iff {value : Byte} :
    (store value).run state = .ok result final ↔
      state.bytesOut.numChars < rioMaxPktBytes ∧ final = state.append [value] := by
  unfold store
  simp only [bind_ok_iff, get_ok_iff, orFail_ok_iff, EStateM.run_set]
  constructor
  · rintro ⟨_, _, ⟨rfl, rfl⟩, pkt, _, ⟨written, rfl⟩, stored⟩
    refine ⟨(PktData.write_eq_some.mp written).1, ?_⟩
    cases stored
    simp [ComposeState.append, DarPktBytes.append, written]
  · rintro ⟨inBounds, rfl⟩
    have written : state.bytesOut.pktData.write state.bytesOut.numChars value =
        some (state.bytesOut.pktData.set state.bytesOut.numChars value inBounds) :=
      PktData.write_eq_some.mpr ⟨inBounds, rfl⟩
    refine ⟨state, state, ⟨rfl, rfl⟩, _, state, ⟨written, rfl⟩, ?_⟩
    simp [ComposeState.append, DarPktBytes.append, written]

theorem emit_ok_iff :
    (emit bytes).run state = .ok result final ↔
      state.Room bytes.length ∧ final = state.append bytes := by
  induction bytes generalizing state with
  | nil =>
    simp only [emit, pure_ok_iff, ComposeState.Room, List.length_nil, true_or, true_and]
    exact eq_comm
  | cons value rest ih =>
    simp only [emit, bind_ok_iff, store_ok_iff, ih, ComposeState.Room, List.length_cons]
    constructor
    · rintro ⟨_, _, ⟨first, rfl⟩, room, rfl⟩
      simp only [ComposeState.append, DarPktBytes.append_numChars, List.length_singleton] at room
      refine ⟨by omega, ?_⟩
      simp [ComposeState.append, DarPktBytes.append_append]
    · rintro ⟨room, rfl⟩
      refine ⟨(), state.append [value], ⟨by omega, rfl⟩, ?_, ?_⟩
      · simp only [ComposeState.append, DarPktBytes.append_numChars, List.length_singleton]
        omega
      · simp [ComposeState.append, DarPktBytes.append_append]

/-- The part of the caller's payload array that `storeData` copies. -/
def DarPktFields.payload (fields : DarPktFields) (index count : Nat) : List Byte :=
  (fields.pktData.toList.drop index).take count

/-- One state follows another by storing `bytes`; nothing else has changed. -/
structure Wrote (before after : ComposeState) (bytes : List Byte) : Prop where
  numChars : after.bytesOut.numChars = before.bytesOut.numChars + bytes.length
  inMemory : after.bytesOut.numChars ≤ rioMaxPktBytes
  stream : after.bytesOut.stream = before.bytesOut.stream ++ bytes
  fieldsIn : after.fieldsIn = before.fieldsIn
  pktAddrSize : after.bytesOut.pktAddrSize = before.bytesOut.pktAddrSize

namespace Wrote

theorem refl {state : ComposeState} (inMemory : state.bytesOut.numChars ≤ rioMaxPktBytes) :
    Wrote state state [] where
  numChars := rfl
  inMemory := inMemory
  stream := (List.append_nil _).symm
  fieldsIn := rfl
  pktAddrSize := rfl

theorem trans {first second third : ComposeState} {left right : List Byte}
    (leftWrote : Wrote first second left) (rightWrote : Wrote second third right) :
    Wrote first third (left ++ right) where
  numChars := by
    rw [rightWrote.numChars, leftWrote.numChars, List.length_append, Nat.add_assoc]
  inMemory := rightWrote.inMemory
  stream := by rw [rightWrote.stream, leftWrote.stream, List.append_assoc]
  fieldsIn := rightWrote.fieldsIn.trans leftWrote.fieldsIn
  pktAddrSize := rightWrote.pktAddrSize.trans leftWrote.pktAddrSize

theorem withAddrSize {before after : ComposeState} {bytes : List Byte}
    (wrote : Wrote before after bytes) (size : RioAddrSize) :
    Wrote { before with bytesOut.pktAddrSize := size }
      { after with bytesOut.pktAddrSize := size } bytes where
  numChars := wrote.numChars
  inMemory := wrote.inMemory
  stream := wrote.stream
  fieldsIn := wrote.fieldsIn
  pktAddrSize := rfl

end Wrote

theorem emit_wrote (inMemory : before.bytesOut.numChars ≤ rioMaxPktBytes)
    (succeeds : (emit bytes).run before = .ok result after) : Wrote before after bytes := by
  obtain ⟨room, rfl⟩ := emit_ok_iff.mp succeeds
  have fits : before.bytesOut.numChars + bytes.length ≤ rioMaxPktBytes := by
    unfold ComposeState.Room at room
    omega
  exact {
    numChars := by simp [ComposeState.append]
    inMemory := by simpa [ComposeState.append] using fits
    stream := DarPktBytes.stream_append fits
    fieldsIn := rfl
    pktAddrSize := by simp [ComposeState.append] }

theorem store_wrote {value : Byte} (succeeds : (store value).run before = .ok result after) :
    Wrote before after [value] := by
  obtain ⟨room, rfl⟩ := store_ok_iff.mp succeeds
  exact {
    numChars := by simp [ComposeState.append]
    inMemory := by
      simp only [ComposeState.append, DarPktBytes.append_numChars, List.length_singleton]
      omega
    stream := DarPktBytes.stream_append room
    fieldsIn := rfl
    pktAddrSize := by simp [ComposeState.append] }

section

variable (inMemory : before.bytesOut.numChars ≤ rioMaxPktBytes)
include inMemory

theorem storeData_wrote {index count : Nat}
    (succeeds : (storeData index count).run before = .ok result after) :
    Wrote before after (before.fieldsIn.payload index count) ∧
      (before.fieldsIn.payload index count).length = count := by
  induction count generalizing index before with
  | zero =>
    obtain ⟨-, rfl⟩ := pure_ok_iff.mp succeeds
    simp only [DarPktFields.payload, List.take_zero]
    exact ⟨Wrote.refl inMemory, rfl⟩
  | succ count ih =>
    simp only [storeData, bind_ok_iff, get_ok_iff, orFail_ok_iff] at succeeds
    obtain ⟨_, _, ⟨rfl, rfl⟩, value, _, ⟨read, rfl⟩, _, middle, stored, rest⟩ := succeeds
    have first := store_wrote stored
    obtain ⟨others, length_eq⟩ := ih first.inMemory rest
    have present : before.fieldsIn.pktData.toList[index]? = some value := by
      rw [Vector.getElem?_toList]
      exact read
    have split : before.fieldsIn.payload index (count + 1) =
        value :: before.fieldsIn.payload (index + 1) count := by
      obtain ⟨inside, rfl⟩ := List.getElem?_eq_some_iff.mp present
      simp [DarPktFields.payload, List.drop_eq_getElem_cons inside]
    rw [first.fieldsIn] at others length_eq
    rw [split]
    exact ⟨first.trans others, by rw [List.length_cons, length_eq]⟩

/-- The transport header of the two transport types that have one. -/
def transHdrBytes (trans : DarPktTransHdr) : List Byte :=
  match trans.ttCode with
  | .ttSmall => [u8 (trans.destId &&& 0xFF), u8 (trans.srcId &&& 0xFF)]
  | _ =>
    [u8 ((trans.destId >>> 8) &&& 0x00FF), u8 (trans.destId &&& 0x00FF),
     u8 ((trans.srcId >>> 8) &&& 0x00FF), u8 (trans.srcId &&& 0x00FF)]

/-- Small or large transport. -/
def RioTtCode.Defined (tt : RioTtCode) : Prop := tt = .ttSmall ∨ tt = .ttLarge

theorem composeTransHdr_wrote {trans : DarPktTransHdr}
    (succeeds : (composeTransHdr trans).run before = .ok result after) :
    trans.ttCode.Defined ∧ Wrote before after (transHdrBytes trans) := by
  unfold composeTransHdr at succeeds
  unfold transHdrBytes
  split at succeeds
  next small =>
    rw [small]
    exact ⟨Or.inl rfl, emit_wrote inMemory succeeds⟩
  next large =>
    rw [large]
    exact ⟨Or.inr rfl, emit_wrote inMemory succeeds⟩
  all_goals cases succeeds

theorem darAddRwAddr_wrote {hdr : DarPktLogRwHdr} {wptr : Nat}
    (succeeds : (darAddRwAddr hdr wptr).run before = .ok result after) :
    Wrote { before with bytesOut.pktAddrSize := hdr.pktAddrSize } after
      (rwAddrBytes hdr.pktAddrSize hdr.addr0 hdr.addr1 hdr.addr2 wptr) := by
  simp only [darAddRwAddr, bind_ok_iff, failIf_ok_iff, modify_ok_iff] at succeeds
  obtain ⟨_, _, ⟨_, rfl⟩, _, middle, emitted, rfl⟩ := succeeds
  exact (emit_wrote inMemory emitted).withAddrSize hdr.pktAddrSize

/-- A packet padded to a multiple of four bytes, the way the source decides it. -/
def padded (chars : List Byte) : List Byte :=
  if chars.length &&& 2 ≠ 0 then chars ++ [0, 0] else chars

/-- A packet body with CRCs and padding: everything that goes on the wire. -/
def framed (body : List Byte) : List Byte := padded (withCrc body)

/-- A stream that carries a framed body. -/
structure Framed (packet : DarPktBytes) (body : List Byte) : Prop where
  stream : packet.stream = framed body
  numChars : packet.numChars = (framed body).length
  inMemory : packet.numChars ≤ rioMaxPktBytes
  pktHasCrc : packet.pktHasCrc = true
  pktPadded : packet.pktPadded = true ↔ (withCrc body).length &&& 2 ≠ 0

theorem composeTail_framed (succeeds : composeTail.run before = .ok result after) :
    Framed after.bytesOut before.bytesOut.stream ∧ after.fieldsIn = before.fieldsIn ∧
      after.bytesOut.pktAddrSize = before.bytesOut.pktAddrSize := by
  simp only [composeTail, bind_ok_iff, get_ok_iff, orFail_ok_iff, EStateM.run_set,
    modify_ok_iff, Prod.exists] at succeeds
  obtain ⟨_, _, ⟨rfl, rfl⟩, pkt, total, _, ⟨closed, rfl⟩, _, middle, set_eq, _, last, emitted,
    rfl⟩ := succeeds
  cases set_eq
  obtain ⟨layout, total_eq, fits⟩ := computePktCrc_spec inMemory closed
  have wrote := emit_wrote fits emitted
  change total = (withCrc before.bytesOut.stream).length at total_eq
  have stream_eq : last.bytesOut.stream = framed before.bytesOut.stream := by
    rw [wrote.stream, framed, padded, ← total_eq]
    split
    · exact congrArg (· ++ [0, 0]) layout
    · exact (List.append_nil _).trans layout
  have length_eq : last.bytesOut.numChars = (framed before.bytesOut.stream).length := by
    rw [wrote.numChars, framed, padded, ← total_eq]
    split
    · rw [List.length_append, ← total_eq]
    · exact (Nat.add_zero _).trans total_eq
  have crc_eq : last.bytesOut.pktHasCrc = true := by
    rw [(emit_ok_iff.mp emitted).2]
    simp [ComposeState.append]
  exact ⟨{
      stream := stream_eq
      numChars := length_eq
      inMemory := wrote.inMemory
      pktHasCrc := crc_eq
      pktPadded := by rw [← total_eq]; exact decide_eq_true_iff },
    wrote.fieldsIn, wrote.pktAddrSize⟩

end

end RioFabric.Packet

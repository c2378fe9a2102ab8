import RioFabric.Packet.Header

/-!
# Taking a packet out of its frame

The stream carries no payload length.  For more than eight bytes the parser takes
everything between the header and the CRC, leaves out the place of the intermediate CRC,
and recognises padding by two zero bytes at the end.  This module shows what it recovers
from a framed body: the payload, except where a packet without padding has a final CRC of
zero.
-/

namespace RioFabric.Packet

open Lib

/-- Consecutive stores into packet memory, from `index` on. -/
def PktData.place (pkt : PktData) (index : Nat) : List Byte → PktData
  | [] => pkt
  | value :: rest => ((pkt.write index value).getD pkt).place (index + 1) rest

namespace PktData

theorem place_append (pkt : PktData) (index : Nat) (left right : List Byte) :
    pkt.place index (left ++ right) =
      (pkt.place index left).place (index + left.length) right := by
  induction left generalizing pkt index with
  | nil => rfl
  | cons value rest ih =>
    rw [List.cons_append, place, ih, place, List.length_cons, Nat.add_assoc,
      Nat.add_comm 1 rest.length]

theorem take_place {pkt : PktData} {index : Nat} {bytes : List Byte}
    (fits : index + bytes.length ≤ rioMaxPktBytes) :
    (pkt.place index bytes).toList.take (index + bytes.length) =
      pkt.toList.take index ++ bytes := by
  induction bytes generalizing pkt index with
  | nil => simp [place]
  | cons value rest ih =>
    rw [List.length_cons] at fits ⊢
    have inBounds : index < rioMaxPktBytes := by omega
    have written : pkt.write index value = some (pkt.set index value inBounds) :=
      write_eq_some.mpr ⟨inBounds, rfl⟩
    have tail := @ih (pkt.set index value inBounds) (index + 1) (by omega)
    rw [place, written, Option.getD_some, ← Nat.add_assoc, Nat.add_right_comm, tail,
      take_write_succ written, List.append_assoc, List.singleton_append]

end PktData

section Stores

variable {packet : DarPktBytes} {out : DarPktFields} {index target : Nat}

theorem putData_run {value : Byte} (inBounds : target < rioMaxPktBytes) :
    (putData target value).run ⟨packet, out, index⟩ =
      .ok () ⟨packet, { out with pktData := out.pktData.place target [value] }, index⟩ := by
  have written : out.pktData.write target value = some (out.pktData.set target value inBounds) :=
    PktData.write_eq_some.mpr ⟨inBounds, rfl⟩
  simp [putData, written, PktData.place]

theorem getBytes_run {bytes : List Byte} (ahead : packet.pktData.Ahead index bytes)
    (fits : target + bytes.length ≤ rioMaxPktBytes) :
    (getBytes target bytes.length).run ⟨packet, out, index⟩ =
      .ok () ⟨packet, { out with pktData := out.pktData.place target bytes },
        index + bytes.length⟩ := by
  induction bytes generalizing out index target with
  | nil => rfl
  | cons value rest ih =>
    rw [List.length_cons] at fits
    have byte_eq : u8 value.toNat = value := BitVec.ofNat_toNat 8 value
    have inBounds : target < rioMaxPktBytes := by omega
    have restFits : target + 1 + rest.length ≤ rioMaxPktBytes := by omega
    simp [getBytes, next_run, ahead.1, byte_eq, putData_run inBounds, ih ahead.2 restFits,
      PktData.place, Nat.add_assoc, Nat.add_comm 1 rest.length]

end Stores

/-- What the loop takes of a stretch of the stream that starts at position `i`. -/
def kept (i : Nat) : List Byte → List Byte
  | [] => []
  | value :: rest =>
    if i ≠ 80 ∧ i ≠ 81 then value :: kept (i + 1) rest else kept (i + 1) rest

theorem kept_append (i : Nat) (left right : List Byte) :
    kept i (left ++ right) = kept i left ++ kept (i + left.length) right := by
  induction left generalizing i with
  | nil => rfl
  | cons value rest ih =>
    rw [List.cons_append, kept, kept, ih, List.length_cons, Nat.add_assoc,
      Nat.add_comm 1 rest.length]
    split <;> rfl

variable {i : Nat} {chars : List Byte} {packet : DarPktBytes} {body : List Byte}

theorem kept_below (below : i + chars.length ≤ 80) :
    kept i chars = chars := by
  induction chars generalizing i with
  | nil => rfl
  | cons value rest ih =>
    rw [List.length_cons] at below
    rw [kept, if_pos (by omega), ih (by omega)]

theorem kept_above (above : 82 ≤ i) : kept i chars = chars := by
  induction chars generalizing i with
  | nil => rfl
  | cons value rest ih => rw [kept, if_pos (by omega), ih (by omega)]

theorem kept_crc (crc : Nat) : kept 80 (crcBytes crc) = [] := by
  simp [crcBytes, kept]

theorem getLongBytes_run {out : DarPktFields} {index : Nat} (ahead : packet.pktData.Ahead i chars)
    (fits : out.pktBytes + (kept i chars).length ≤ rioMaxPktBytes) :
    (getLongBytes i chars.length).run ⟨packet, out, index⟩ =
      .ok () ⟨packet, { out with
          pktData := out.pktData.place out.pktBytes (kept i chars)
          pktBytes := out.pktBytes + (kept i chars).length }, index⟩ := by
  induction chars generalizing out i with
  | nil => rfl
  | cons value rest ih =>
    rw [kept] at fits ⊢
    by_cases taken : i ≠ 80 ∧ i ≠ 81
    · rw [if_pos taken, List.length_cons] at fits
      have inBounds : out.pktBytes < rioMaxPktBytes := by omega
      simp only [List.length_cons, getLongBytes, EStateM.run_bind, EStateM.run_get,
        if_pos taken, ahead.1, orFail_some, EStateM.run_pure, putData_run inBounds,
        setFields_run]
      rw [ih ahead.2 (by simp only; omega)]
      simp only [PktData.place, Nat.add_assoc, Nat.add_comm 1]
    · rw [if_neg taken] at fits ⊢
      simp only [List.length_cons, getLongBytes, EStateM.run_bind, EStateM.run_get,
        if_neg taken]
      exact ih ahead.2 fits

/-- The frame of this body has two pad bytes. -/
def Padded (body : List Byte) : Prop := (withCrc body).length &&& 2 ≠ 0

instance (body : List Byte) : Decidable (Padded body) := inferInstanceAs (Decidable (_ ≠ _))

/-- No padding, but two zero bytes at the end all the same. -/
def LooksPadded (body : List Byte) : Prop := ¬Padded body ∧ finalCrc body = 0

instance (body : List Byte) : Decidable (LooksPadded body) :=
  inferInstanceAs (Decidable (_ ∧ _))

theorem padded_iff (body : List Byte) :
    Padded body ↔ (body.length + (if 80 < body.length then 4 else 2)) / 2 % 2 = 1 := by
  rw [Padded, and_field _ 2 1 1 rfl, withCrc_length]
  omega

theorem framed_eq (body : List Byte) :
    framed body = withCrc body ++ (if Padded body then [0, 0] else []) := by
  by_cases pad : Padded body
  · rw [if_pos pad, framed, padded]
    exact if_pos pad
  · rw [if_neg pad, framed, padded, List.append_nil]
    exact if_neg pad

theorem framed_length (body : List Byte) :
    (framed body).length =
      body.length + (if 80 < body.length then 4 else 2) + (if Padded body then 2 else 0) := by
  rw [framed_eq, List.length_append, withCrc_length]
  split <;> split <;> rfl

theorem framed_length_eq_84_iff (even : body.length % 2 = 0) :
    (framed body).length = 84 ↔ body.length = 80 := by
  rw [framed_length]
  have padding := padded_iff body
  by_cases pad : Padded body
  · have residue := padding.mp pad
    rw [if_pos pad]
    split at residue <;> split <;> omega
  · have residue := mt padding.mpr pad
    rw [if_neg pad]
    split at residue <;> split <;> omega

namespace Framed

variable {packet : DarPktBytes} {body : List Byte}

theorem read_eq (packetFramed : Framed packet body) {index : Nat}
    (inside : index < (framed body).length) :
    packet.pktData.read index = (framed body)[index]? := by
  rw [← packetFramed.stream, DarPktBytes.stream, List.getElem?_take, packetFramed.numChars,
    if_pos inside, Vector.getElem?_toList]
  rfl

theorem ahead_frame (packetFramed : Framed packet body) :
    packet.pktData.Ahead 0 (framed body) := by
  apply PktData.ahead_of_getElem?
  intro offset inside
  rw [Nat.zero_add]
  exact packetFramed.read_eq inside

end Framed

theorem framed_front (body : List Byte) : ∃ rest, framed body = body.take 80 ++ rest := by
  rw [framed_eq, withCrc, withInnerCrc]
  split
  next long =>
    simp only [List.append_assoc]
    exact ⟨_, rfl⟩
  next short =>
    simp only [List.take_of_length_le (Nat.not_lt.mp short), List.append_assoc]
    exact ⟨_, rfl⟩

theorem Framed.ahead_front {front rest : List Byte} (packetFramed : Framed packet (front ++ rest))
    (short : front.length ≤ 80) :
    packet.pktData.Ahead 0 front := by
  have ahead := packetFramed.ahead_frame
  obtain ⟨behind, frame_eq⟩ := framed_front (front ++ rest)
  rw [frame_eq, List.take_append, List.take_of_length_le short, List.append_assoc,
    PktData.ahead_append] at ahead
  exact ahead.1

/-- Bytes behind the payload that the loop takes along: with padding, the CRC is two bytes
further in than the parser expects.  At body length 80 it falls on the place of the
intermediate CRC. -/
def trailing (body : List Byte) : List Byte :=
  if Padded body ∧ body.length ≠ 80 then crcBytes (finalCrc body) else []

/-- The stretch of the frame that the loop runs over. -/
def looped (body : List Byte) (index : Nat) : List Byte :=
  ((framed body).take ((framed body).length - 2)).drop index

theorem framed_take (body : List Byte) :
    (framed body).take ((framed body).length - 2) =
      withInnerCrc body ++ (if Padded body then crcBytes (finalCrc body) else []) := by
  rw [framed_eq, withCrc]
  split
  · rw [List.length_append]
    exact List.take_left' rfl
  · rw [List.append_nil, List.length_append, crcBytes_length, Nat.add_sub_cancel]
    rw [List.append_nil]
    exact List.take_left' rfl

theorem kept_looped {index : Nat} (short : index ≤ 80) (inside : index ≤ body.length) :
    kept index (looped body index) = body.drop index ++ trailing body := by
  have padding := padded_iff body
  rw [looped, framed_take, withInnerCrc, trailing]
  by_cases long : 80 < body.length
  · have front_length : (body.take 80).length = 80 := by
      rw [List.length_take]
      omega
    have front_drop : ((body.take 80).drop index).length = 80 - index := by
      rw [List.length_drop, front_length]
    have whole : (body.take 80).drop index ++ body.drop 80 = body.drop index := by
      conv => rhs; rw [← List.take_append_drop 80 body]
      rw [List.drop_append_of_le_length (by omega)]
    rw [if_pos long, List.append_assoc, List.append_assoc,
      List.drop_append_of_le_length (by omega), kept_append, kept_append, front_drop,
      kept_below (by omega), show index + (80 - index) = 80 by omega, kept_crc,
      List.nil_append, kept_above (by simp), ← List.append_assoc, whole]
    refine congrArg (body.drop index ++ ·) ?_
    by_cases pad : Padded body
    · rw [if_pos pad, if_pos ⟨pad, by omega⟩]
    · rw [if_neg pad, if_neg (fun both => pad both.1)]
  · have drop_length : (body.drop index).length = body.length - index := List.length_drop
    rw [if_neg long, List.drop_append_of_le_length inside, kept_append, drop_length,
      kept_below (by omega), show index + (body.length - index) = body.length by omega]
    refine congrArg (body.drop index ++ ·) ?_
    by_cases pad : Padded body
    · have residue := padding.mp pad
      rw [if_neg long] at residue
      by_cases full : body.length = 80
      · rw [if_pos pad, if_neg (fun both => both.2 full), full, kept_crc]
      · rw [if_pos pad, if_pos ⟨pad, full⟩, kept_below (by rw [crcBytes_length]; omega)]
    · rw [if_neg pad, if_neg (fun both => pad both.1)]
      rfl

theorem framed_last (body : List Byte) :
    ∃ front, framed body =
      front ++ (if Padded body then [0, 0] else crcBytes (finalCrc body)) := by
  rw [framed_eq]
  split
  · exact ⟨_, rfl⟩
  · rw [List.append_nil]
    exact ⟨_, rfl⟩

theorem trailing_length (body : List Byte) :
    (trailing body).length = if Padded body ∧ body.length ≠ 80 then 2 else 0 := by
  unfold trailing
  split <;> rfl

/-- What the parser makes of the two last bytes. -/
def GuessedPad (body : List Byte) : Prop :=
  (Padded body ∧ body.length ≠ 80) ∨ LooksPadded body

instance (body : List Byte) : Decidable (GuessedPad body) :=
  inferInstanceAs (Decidable (_ ∨ _))

/-- The payload length the parser arrives at. -/
def recovered (body : List Byte) (index : Nat) : Nat :=
  if LooksPadded body then (body.length - index + 2 ^ 32 - 2) % 2 ^ 32 else body.length - index

namespace Framed

variable {packet : DarPktBytes} {body : List Byte} {out : DarPktFields} {index : Nat}

section

variable (packetFramed : Framed packet body)
include packetFramed

theorem ahead_looped (inside : index ≤ (framed body).length - 2) :
    packet.pktData.Ahead index (looped body index) := by
  have ahead := packetFramed.ahead_frame
  rw [← List.take_append_drop ((framed body).length - 2) (framed body),
    PktData.ahead_append] at ahead
  have front := ahead.1
  rw [← List.take_append_drop index ((framed body).take ((framed body).length - 2)),
    PktData.ahead_append, List.length_take, List.length_take, Nat.zero_add] at front
  rw [Nat.min_eq_left (by omega)] at front
  exact front.2

/-- All bytes between the header and the last CRC are collected. -/
theorem collect_run (short : index ≤ 80) (inside : index ≤ body.length) (empty : out.pktBytes = 0) :
    (getLongBytes index (packet.numChars - 2 - index)).run ⟨packet, out, index⟩ =
      .ok () ⟨packet, { out with
          pktData := out.pktData.place 0 (body.drop index ++ trailing body)
          pktBytes := body.length - index + (trailing body).length }, index⟩ := by
  have total := framed_length body
  have bounded := packetFramed.inMemory
  rw [packetFramed.numChars] at bounded
  have looped_length : (looped body index).length = packet.numChars - 2 - index := by
    rw [looped, List.length_drop, List.length_take, packetFramed.numChars]
    omega
  have length_eq : (body.drop index ++ trailing body).length =
      body.length - index + (trailing body).length := by
    rw [List.length_append, List.length_drop]
  have fits : out.pktBytes + (kept index (looped body index)).length ≤ rioMaxPktBytes := by
    rw [kept_looped short inside, length_eq, trailing_length, empty]
    split <;> split at total <;> split at total <;> omega
  rw [← looped_length,
    getLongBytes_run (packetFramed.ahead_looped (by split at total <;> omega)) fits,
    kept_looped short inside, length_eq, empty, Nat.zero_add]

theorem last_bytes (even : body.length % 2 = 0) :
    ∃ last secondLast, packet.pktData.read (packet.numChars - 1) = some last ∧
      packet.pktData.read (packet.numChars - 2) = some secondLast ∧
      (packet.numChars ≠ 84 ∧ last = 0 ∧ secondLast = 0 ↔ GuessedPad body) := by
  obtain ⟨front, frame_eq⟩ := framed_last body
  obtain ⟨secondLast, last, pair_eq⟩ : ∃ secondLast last,
      (if Padded body then [0, 0] else crcBytes (finalCrc body)) = [secondLast, last] := by
    split
    · exact ⟨_, _, rfl⟩
    · exact ⟨_, _, rfl⟩
  rw [pair_eq] at frame_eq
  have length_eq : packet.numChars = front.length + 2 := by
    rw [packetFramed.numChars, frame_eq, List.length_append]
    rfl
  have inside : ∀ offset < 2, front.length + offset < (framed body).length := by
    intro offset bound
    rw [frame_eq, List.length_append]
    exact Nat.add_lt_add_left bound _
  have zeros : last = 0 ∧ secondLast = 0 ↔ Padded body ∨ finalCrc body = 0 := by
    have pair_zero : last = 0 ∧ secondLast = 0 ↔ [secondLast, last] = [0, 0] := by
      simp [and_comm]
    rw [pair_zero, ← pair_eq]
    by_cases pad : Padded body
    · simp [pad]
    · have crc_lt : finalCrc body < 2 ^ 16 := crcCompBytewise_lt _
      rw [if_neg pad, crcBytes_eq_zero_iff crc_lt]
      simp [pad]
  have full : body.length = 80 → Padded body := by
    intro length_80
    rw [padded_iff, length_80]
    decide
  refine ⟨last, secondLast, ?_, ?_, ?_⟩
  · rw [length_eq, show front.length + 2 - 1 = front.length + 1 by omega,
      packetFramed.read_eq (inside 1 (by decide)), frame_eq,
      List.getElem?_append_right (by omega)]
    simp
  · rw [length_eq, Nat.add_sub_cancel]
    rw [← Nat.add_zero front.length, packetFramed.read_eq (inside 0 (by decide)), frame_eq,
      List.getElem?_append_right (by omega)]
    simp
  · rw [zeros, packetFramed.numChars, ne_eq, framed_length_eq_84_iff even]
    unfold GuessedPad LooksPadded
    tauto

/-- What looks like padding is left out of the count. -/
theorem stripPadding_run (even : body.length % 2 = 0) :
    stripPadding.run ⟨packet, out, index⟩ =
      .ok () ⟨packet, { out with
          padBytes := if GuessedPad body then 2 else 0
          pktBytes :=
            if GuessedPad body then (out.pktBytes + 2 ^ 32 - 2) % 2 ^ 32 else out.pktBytes },
        index⟩ := by
  obtain ⟨last, secondLast, lastRead, secondRead, conclusion⟩ := packetFramed.last_bytes even
  simp only [stripPadding, EStateM.run_bind, EStateM.run_get, setFields_run,
    packetFramed.pktHasCrc, true_and]
  by_cases guessed : GuessedPad body
  · obtain ⟨other, lastZero, secondZero⟩ := conclusion.mpr guessed
    rw [if_pos other]
    simp [lastRead, secondRead, lastZero, secondZero, dropBytes, guessed]
  · by_cases other : packet.numChars ≠ 84
    · have nonzero : ¬(last = 0 ∧ secondLast = 0) :=
        fun zeros => guessed (conclusion.mp ⟨other, zeros⟩)
      rw [if_pos other]
      simp only [EStateM.run_bind, lastRead, secondRead, orFail_some, EStateM.run_pure,
        nonzero, if_false, guessed]
    · rw [if_neg other]
      simp [guessed]

theorem stripped_length (inside : index ≤ body.length) :
    (if GuessedPad body then
        (body.length - index + (trailing body).length + 2 ^ 32 - 2) % 2 ^ 32
      else body.length - index + (trailing body).length) = recovered body index := by
  have bounded := packetFramed.inMemory
  rw [packetFramed.numChars, framed_length, rioMaxPktBytes] at bounded
  rw [trailing_length, recovered]
  by_cases looks : LooksPadded body
  · have notPadded : ¬(Padded body ∧ body.length ≠ 80) := fun both => looks.1 both.1
    have guessed : GuessedPad body := Or.inr looks
    rw [if_pos guessed, if_pos looks, if_neg notPadded, Nat.add_zero]
  · by_cases trails : Padded body ∧ body.length ≠ 80
    · have guessed : GuessedPad body := Or.inl trails
      rw [if_pos guessed, if_neg looks, if_pos trails]
      split at bounded <;> split at bounded <;> omega
    · have honest : ¬GuessedPad body := by
        rintro (padding | looksPadded)
        · exact trails padding
        · exact looks looksPadded
      rw [if_neg honest, if_neg looks, if_neg trails, Nat.add_zero]

theorem getLongData_run (short : index ≤ 80) (inside : index ≤ body.length)
    (even : body.length % 2 = 0) (evenIndex : index % 2 = 0) :
    getLongData.run ⟨packet, out, index⟩ =
      (if out.pktType = .pktDstm then checkDstmSize else pure ()).run
        ⟨packet, { out with
          pktData := out.pktData.place 0 (body.drop index ++ trailing body)
          padBytes := if GuessedPad body then 2 else 0
          pktBytes := recovered body index }, index⟩ := by
  have evenCount : ¬(body.length - index + (trailing body).length) &&& 1 ≠ 0 := by
    rw [Nat.and_one_is_mod, trailing_length]
    split <;> omega
  simp only [getLongData, EStateM.run_bind, EStateM.run_get, setFields_run,
    packetFramed.pktHasCrc, if_true]
  rw [packetFramed.collect_run short inside rfl]
  simp only [failIf_run, if_neg evenCount]
  rw [packetFramed.stripPadding_run even]
  simp only [packetFramed.stripped_length inside]

theorem getLongData_odd (short : index ≤ 80) (inside : index ≤ body.length)
    (odd : body.length % 2 = 1) (evenIndex : index % 2 = 0) :
    ∃ final, getLongData.run ⟨packet, out, index⟩ = .error (.rc .badDataSize) final := by
  have oddCount : (body.length - index + (trailing body).length) &&& 1 ≠ 0 := by
    rw [Nat.and_one_is_mod, trailing_length]
    split <;> omega
  simp only [getLongData, EStateM.run_bind, EStateM.run_get, setFields_run,
    packetFramed.pktHasCrc, if_true]
  rw [packetFramed.collect_run short inside rfl]
  simp only [failIf_run, if_pos oddCount]
  exact ⟨_, rfl⟩

theorem placed_payload (pkt : PktData) :
    (pkt.place 0 (body.drop index ++ trailing body)).toList.take (body.length - index) =
      body.drop index := by
  have bounded := packetFramed.inMemory
  rw [packetFramed.numChars, framed_length] at bounded
  have total : (body.drop index ++ trailing body).length ≤ rioMaxPktBytes := by
    rw [List.length_append, List.length_drop, trailing_length]
    split at bounded <;> split at bounded <;> split <;> omega
  have placed := @PktData.take_place pkt 0 (body.drop index ++ trailing body) (by omega)
  rw [Nat.zero_add, List.take_zero, List.nil_append] at placed
  have front := congrArg (List.take (body.length - index)) placed
  rw [List.take_take, List.length_append, List.length_drop, Nat.min_eq_left (by omega),
    List.take_left' List.length_drop] at front
  exact front

end

end Framed

end RioFabric.Packet

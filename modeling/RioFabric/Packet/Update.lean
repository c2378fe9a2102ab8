import RioFabric.Packet.Bounds

/-!
# Updating the CRCs of a packet

`DAR_update_pkt_CRC` recomputes the CRCs of a packet that was changed in place.  Where they are is
inferred from the length and two flags: nothing is rebuilt.  For what composition has framed this
gives the frame of the changed body.  For other packets the length checks are not the ones that the
two helpers need.
-/

namespace RioFabric.Packet

open Lib

/-- Subtraction on `uint32_t`. -/
def u32Sub (value count : Nat) : Nat := (value + 2 ^ 32 - count) % 2 ^ 32

/-- The intermediate CRC, by length alone. -/
def PktData.updateInnerCrc (pkt : PktData) (numChars : Nat) : Option PktData :=
  if numChars > 80 then do
    let temp ← pkt.crc 80
    pkt.writeCrc 80 temp
  else some pkt

/-- The final CRC in front of two pad bytes.  With fewer than four characters the `int` count of
the CRC is negative, and no byte is taken. -/
def PktData.updatePadded (pkt : PktData) (numChars : Nat) : Option PktData := do
  let pkt ← pkt.write (u32Sub numChars 1) 0
  let pkt ← pkt.write (u32Sub numChars 2) 0
  let temp ← pkt.crc (numChars - 4)
  let pkt ← pkt.write (u32Sub numChars 4) (u8 ((temp >>> 8) &&& 0x00ff))
  pkt.write (u32Sub numChars 3) (u8 (temp &&& 0x00ff))

/-- The final CRC at the end. -/
def PktData.updateUnpadded (pkt : PktData) (numChars : Nat) : Option PktData := do
  let temp ← pkt.crc (numChars - 2)
  let pkt ← pkt.write (u32Sub numChars 2) (u8 ((temp >>> 8) &&& 0x00ff))
  pkt.write (u32Sub numChars 1) (u8 (temp &&& 0x00ff))

def updatePktCrc (bytesIn : DarPktBytes) : Option PktData := do
  let pkt ← bytesIn.pktData.updateInnerCrc bytesIn.numChars
  if bytesIn.pktPadded then pkt.updatePadded bytesIn.numChars
  else pkt.updateUnpadded bytesIn.numChars

/-- Why `DAR_update_pkt_CRC` stops: it refuses its argument, or an array is accessed outside its
bounds. -/
inductive UpdateStop where
  | rioErrInvalidParameter
  | fault
  deriving DecidableEq, Repr

/-- `DAR_update_pkt_CRC`.  The array is never missing, and an address size outside the enumeration
is not representable here. -/
def darUpdatePktCrc : EStateM UpdateStop DarPktBytes Unit := do
  let bytesIn ← get
  failIf (bytesIn.numChars = 0 ∨ bytesIn.numChars > rioMaxPktBytes) .rioErrInvalidParameter
  if bytesIn.pktHasCrc then do
    let pkt ← orFail (updatePktCrc bytesIn) .fault
    set { bytesIn with pktData := pkt }
  else do
    failIf (bytesIn.numChars > rioMaxPktBytes - 2) .rioErrInvalidParameter
    let closed ← orFail (computePktCrc bytesIn.pktData bytesIn.numChars) .fault
    set { bytesIn with
      pktData := closed.1
      numChars := closed.2 }

theorem u32Sub_of_le {value count : Nat} (le : count ≤ value) (bounded : value ≤ rioMaxPktBytes) :
    u32Sub value count = value - count := by
  unfold u32Sub
  unfold rioMaxPktBytes at bounded
  omega

theorem u32Sub_outside {value count : Nat} (below : value < count) (small : count ≤ 4) :
    ¬u32Sub value count < rioMaxPktBytes := by
  unfold u32Sub rioMaxPktBytes
  omega

namespace PktData

theorem write_none {pkt : PktData} {index : Nat} (value : Byte)
    (outside : ¬index < rioMaxPktBytes) : pkt.write index value = none := dif_neg outside

theorem crc_some (pkt : PktData) {numBytes : Nat} (inside : numBytes ≤ rioMaxPktBytes) :
    pkt.crc numBytes = some (crcCompBytewise (pkt.toList.take numBytes)) := if_pos inside

theorem updateInnerCrc_some (pkt : PktData) (numChars : Nat) :
    ∃ after, pkt.updateInnerCrc numChars = some after := by
  unfold updateInnerCrc
  split
  · rw [pkt.crc_some (by decide), Option.bind_eq_bind, Option.bind_some]
    exact pkt.writeCrc_some _ (by decide)
  · exact ⟨pkt, rfl⟩

variable {pkt : PktData} {numChars : Nat} (bounded : numChars ≤ rioMaxPktBytes)

include bounded

theorem updateUnpadded_eq (enough : 2 ≤ numChars) :
    pkt.updateUnpadded numChars =
      pkt.writeCrc (numChars - 2) (crcCompBytewise (pkt.toList.take (numChars - 2))) := by
  have next : numChars - 1 = numChars - 2 + 1 := by omega
  rw [updateUnpadded, pkt.crc_some (Nat.le_trans (Nat.sub_le _ _) bounded), Option.bind_eq_bind,
    Option.bind_some, u32Sub_of_le enough bounded, u32Sub_of_le (by omega) bounded, next]
  rfl

theorem updatePadded_eq (enough : 4 ≤ numChars) :
    pkt.updatePadded numChars = (do
      let pkt ← pkt.write (numChars - 1) 0
      let pkt ← pkt.write (numChars - 2) 0
      pkt.writeCrc (numChars - 4) (crcCompBytewise (pkt.toList.take (numChars - 4)))) := by
  have next : numChars - 3 = numChars - 4 + 1 := by omega
  have closes : ∀ pkt : PktData, (do
      let temp ← pkt.crc (numChars - 4)
      let pkt ← pkt.write (numChars - 4) (u8 ((temp >>> 8) &&& 0x00ff))
      pkt.write (numChars - 4 + 1) (u8 (temp &&& 0x00ff))) =
      pkt.writeCrc (numChars - 4) (crcCompBytewise (pkt.toList.take (numChars - 4))) := by
    intro pkt
    rw [pkt.crc_some (Nat.le_trans (Nat.sub_le _ _) bounded), Option.bind_eq_bind,
      Option.bind_some]
    rfl
  rw [updatePadded, u32Sub_of_le (by omega) bounded, u32Sub_of_le (by omega) bounded,
    u32Sub_of_le enough bounded, u32Sub_of_le (by omega) bounded, next]
  simp only [closes]

theorem updateUnpadded_some_iff :
    (∃ after, pkt.updateUnpadded numChars = some after) ↔ 2 ≤ numChars := by
  constructor
  · rintro ⟨after, updated⟩
    by_contra short
    rw [updateUnpadded, pkt.crc_some (Nat.le_trans (Nat.sub_le _ _) bounded), Option.bind_eq_bind,
      Option.bind_some, write_none _ (u32Sub_outside (by omega) (by decide))] at updated
    cases updated
  · intro enough
    rw [updateUnpadded_eq bounded enough]
    exact pkt.writeCrc_some _ (by omega)

theorem updatePadded_some_iff :
    (∃ after, pkt.updatePadded numChars = some after) ↔ 4 ≤ numChars := by
  constructor
  · rintro ⟨after, updated⟩
    by_contra short
    simp only [updatePadded, Option.bind_eq_bind, Option.bind_eq_some_iff] at updated
    obtain ⟨_, -, second, -, _, -, _, crcHigh, -⟩ := updated
    rw [write_none _ (u32Sub_outside (by omega) (by decide))] at crcHigh
    cases crcHigh
  · intro enough
    rw [updatePadded_eq bounded enough]
    obtain ⟨first, last⟩ := @write_some pkt (numChars - 1) 0 (by omega)
    obtain ⟨second, secondLast⟩ := @write_some first (numChars - 2) 0 (by omega)
    obtain ⟨after, closed⟩ := second.writeCrc_some
      (crcCompBytewise (second.toList.take (numChars - 4)))
      (show numChars - 4 + 2 ≤ rioMaxPktBytes by omega)
    exact ⟨after, by simp only [last, secondLast, closed, Option.bind_eq_bind, Option.bind_some]⟩

end PktData

/-- The shortest packet that `update_pkt_crc` works on. -/
def shortestPkt (padded : Bool) : Nat := if padded then 4 else 2

theorem updatePktCrc_some_iff {bytesIn : DarPktBytes}
    (bounded : bytesIn.numChars ≤ rioMaxPktBytes) :
    (∃ after, updatePktCrc bytesIn = some after) ↔
      shortestPkt bytesIn.pktPadded ≤ bytesIn.numChars := by
  obtain ⟨inner, updated⟩ := bytesIn.pktData.updateInnerCrc_some bytesIn.numChars
  rw [updatePktCrc, updated, Option.bind_eq_bind, Option.bind_some, shortestPkt]
  cases bytesIn.pktPadded with
  | true => exact PktData.updatePadded_some_iff bounded
  | false => exact PktData.updateUnpadded_some_iff bounded

theorem computePktCrc_some_iff (pkt : PktData) (numBytes : Nat) :
    (∃ result, computePktCrc pkt numBytes = some result) ↔
      numBytes + (if 80 < numBytes then 4 else 2) ≤ rioMaxPktBytes := by
  constructor
  · rintro ⟨⟨after, total⟩, computed⟩
    simp only [computePktCrc, PktData.appendCrc, Option.bind_eq_bind, Option.bind_eq_some_iff,
      Prod.exists] at computed
    obtain ⟨middle, count, inserted, crc, -, last, written, -⟩ := computed
    have inMemory := PktData.writeCrc_fits written
    unfold PktData.insertInnerCrc at inserted
    split at inserted
    next long =>
      simp only [Option.bind_eq_bind, Option.bind_eq_some_iff, Option.some.injEq,
        Prod.mk.injEq] at inserted
      obtain ⟨_, -, _, -, _, -, -, rfl⟩ := inserted
      rw [if_pos long]
      exact inMemory
    next short =>
      obtain ⟨-, rfl⟩ := Prod.mk.injEq .. ▸ Option.some.inj inserted
      rw [if_neg short]
      exact inMemory
  · intro fits
    obtain ⟨after, computed⟩ := computePktCrc_some pkt fits
    exact ⟨_, computed⟩

/-- An error that leaves the packet alone, or an update that stays inside the array and leaves a
length that fits into it. -/
def UpdateSafe (bytesIn : DarPktBytes) : Prop :=
  match darUpdatePktCrc.run bytesIn with
  | .ok _ after => after.numChars ≤ rioMaxPktBytes
  | .error .rioErrInvalidParameter after => after = bytesIn
  | .error .fault _ => False

/-- Packets in the two bands of lengths that the checks let pass and the helpers cannot handle: too
short to hold the CRC and the padding their flags claim, or without room for a second CRC. -/
def DarPktBytes.Unsafe (bytesIn : DarPktBytes) : Prop :=
  (bytesIn.pktHasCrc = true ∧ 0 < bytesIn.numChars ∧
      bytesIn.numChars < shortestPkt bytesIn.pktPadded) ∨
    (bytesIn.pktHasCrc = false ∧ 272 < bytesIn.numChars ∧ bytesIn.numChars ≤ 274)

section Run

variable {bytesIn : DarPktBytes}

theorem darUpdatePktCrc_refused (refused : bytesIn.numChars = 0 ∨ bytesIn.numChars > rioMaxPktBytes)
    :
    darUpdatePktCrc.run bytesIn = .error .rioErrInvalidParameter bytesIn := by
  simp [darUpdatePktCrc, failIf_run, if_pos refused]

theorem darUpdatePktCrc_withCrc (nonzero : bytesIn.numChars ≠ 0)
    (bounded : bytesIn.numChars ≤ rioMaxPktBytes) (hasCrc : bytesIn.pktHasCrc = true) :
    darUpdatePktCrc.run bytesIn =
      match updatePktCrc bytesIn with
      | some pkt => .ok () { bytesIn with pktData := pkt }
      | none => .error .fault bytesIn := by
  have accepted : ¬(bytesIn.numChars = 0 ∨ bytesIn.numChars > rioMaxPktBytes) := by omega
  simp only [darUpdatePktCrc, EStateM.run_bind, EStateM.run_get, failIf_run, if_neg accepted,
    hasCrc, if_true]
  cases updatePktCrc bytesIn <;> rfl

theorem darUpdatePktCrc_withoutCrc (nonzero : bytesIn.numChars ≠ 0)
    (bounded : bytesIn.numChars ≤ rioMaxPktBytes) (hasCrc : bytesIn.pktHasCrc = false) :
    darUpdatePktCrc.run bytesIn =
      if bytesIn.numChars > rioMaxPktBytes - 2 then .error .rioErrInvalidParameter bytesIn
      else
        match computePktCrc bytesIn.pktData bytesIn.numChars with
        | some closed => .ok () { bytesIn with pktData := closed.1, numChars := closed.2 }
        | none => .error .fault bytesIn := by
  have accepted : ¬(bytesIn.numChars = 0 ∨ bytesIn.numChars > rioMaxPktBytes) := by omega
  by_cases full : bytesIn.numChars > rioMaxPktBytes - 2
  · simp [darUpdatePktCrc, failIf_run, if_neg accepted, hasCrc, if_pos full]
  · simp only [darUpdatePktCrc, EStateM.run_bind, EStateM.run_get, failIf_run, if_neg accepted,
      hasCrc, Bool.false_eq_true, if_false, if_neg full]
    cases computePktCrc bytesIn.pktData bytesIn.numChars <;> rfl

end Run

/-- The update is safe for exactly the packets outside of the two bands. -/
theorem updateSafe_iff (bytesIn : DarPktBytes) : UpdateSafe bytesIn ↔ ¬bytesIn.Unsafe := by
  unfold UpdateSafe DarPktBytes.Unsafe
  by_cases refused : bytesIn.numChars = 0 ∨ bytesIn.numChars > rioMaxPktBytes
  · rw [darUpdatePktCrc_refused refused]
    have notShort : shortestPkt bytesIn.pktPadded ≤ 4 := by
      cases bytesIn.pktPadded <;> decide
    unfold rioMaxPktBytes at refused
    exact iff_of_true rfl (by omega)
  · have nonzero : bytesIn.numChars ≠ 0 := fun zero => refused (Or.inl zero)
    have bounded : bytesIn.numChars ≤ rioMaxPktBytes := by omega
    cases hasCrc : bytesIn.pktHasCrc with
    | true =>
      have found := updatePktCrc_some_iff bounded
      rw [darUpdatePktCrc_withCrc nonzero bounded hasCrc]
      cases updated : updatePktCrc bytesIn with
      | none =>
        rw [updated] at found
        simp only [reduceCtorEq, exists_false, false_iff] at found
        exact iff_of_false id (fun safe => safe (Or.inl ⟨rfl, by omega, by omega⟩))
      | some pkt =>
        have long := found.mp ⟨pkt, updated⟩
        refine iff_of_true bounded ?_
        rintro (⟨-, -, short⟩ | ⟨noCrc, -⟩)
        · omega
        · cases noCrc
    | false =>
      have found := computePktCrc_some_iff bytesIn.pktData bytesIn.numChars
      rw [darUpdatePktCrc_withoutCrc nonzero bounded hasCrc]
      by_cases full : bytesIn.numChars > rioMaxPktBytes - 2
      · rw [if_pos full]
        unfold rioMaxPktBytes at full
        exact iff_of_true rfl (by simp; omega)
      · rw [if_neg full]
        unfold rioMaxPktBytes at full bounded
        cases computed : computePktCrc bytesIn.pktData bytesIn.numChars with
        | none =>
          rw [computed] at found
          simp only [reduceCtorEq, exists_false, false_iff] at found
          have long : 272 < bytesIn.numChars := by
            unfold rioMaxPktBytes at found
            split at found <;> omega
          exact iff_of_false id (fun safe => safe (Or.inr ⟨rfl, long, by omega⟩))
        | some closed =>
          have fits := found.mp ⟨closed, computed⟩
          obtain ⟨after, total⟩ := computePktCrc_some bytesIn.pktData fits
          obtain rfl : closed = (after, _) := Option.some.inj (computed.symm.trans total)
          refine iff_of_true fits ?_
          rintro (⟨withCrc, -⟩ | ⟨-, long, -⟩)
          · cases withCrc
          · unfold rioMaxPktBytes at fits
            split at fits <;> omega

/-- A packet of 274 bytes without a CRC: the length check leaves room for two more bytes. -/
def noRoomSample : DarPktBytes :=
  { darUtilPktBytesInit with numChars := 274 }

theorem noRoomSample_not_safe :
    noRoomSample.numChars = 274 ∧ noRoomSample.pktHasCrc = false ∧ ¬UpdateSafe noRoomSample := by
  have noResult : ¬∃ result, computePktCrc noRoomSample.pktData 274 = some result := by
    rw [computePktCrc_some_iff]
    decide
  have ran : darUpdatePktCrc.run noRoomSample = .error .fault noRoomSample := by
    rw [darUpdatePktCrc_withoutCrc (by decide) (by decide) rfl]
    cases computed : computePktCrc noRoomSample.pktData noRoomSample.numChars with
    | none => rfl
    | some result => exact absurd ⟨result, computed⟩ noResult
  refine ⟨rfl, rfl, fun safe => ?_⟩
  rw [UpdateSafe, ran] at safe
  exact safe

namespace PktData

variable {pkt after : PktData} {bytes : List Byte}

theorem read_write {index : Nat} {value : Byte} (written : pkt.write index value = some after)
    (j : Nat) :
    after.read j = if j = index then some value else pkt.read j := by
  obtain ⟨inBounds, rfl⟩ := write_eq_some.mp written
  rw [read, Vector.getElem?_set]
  by_cases same : index = j
  · rw [if_pos same, if_pos same.symm]
  · rw [if_neg same, if_neg (Ne.symm same)]
    rfl

theorem read_writeCrc {index crc : Nat} (written : pkt.writeCrc index crc = some after) {j : Nat}
    (notHigh : j ≠ index) (notLow : j ≠ index + 1) : after.read j = pkt.read j := by
  simp only [writeCrc, Option.bind_eq_bind, Option.bind_eq_some_iff] at written
  obtain ⟨middle, high, low⟩ := written
  rw [read_write low, if_neg notLow, read_write high, if_neg notHigh]

theorem read_of_take {count j : Nat} (taken : pkt.toList.take count = bytes) (inside : j < count) :
    pkt.read j = bytes[j]? := by
  rw [← taken, List.getElem?_take, if_pos inside, Vector.getElem?_toList]
  rfl

theorem take_of_read (same : ∀ j < bytes.length, pkt.read j = bytes[j]?) :
    pkt.toList.take bytes.length = bytes := by
  apply List.ext_getElem?
  intro j
  rw [List.getElem?_take]
  split
  next inside => exact (Vector.getElem?_toList).trans (same j inside)
  next outside => exact (List.getElem?_eq_none (Nat.not_lt.mp outside)).symm

end PktData

/-- Where a frame has byte `i` of a body with `length` bytes: not in the place of the intermediate
CRC. -/
def bodyPlace (length i : Nat) : Nat := if 80 < length ∧ 80 ≤ i then i + 2 else i

/-- A packet of the same length and with the same flags, which holds another body.  Its CRC and pad
bytes are whatever they were. -/
structure EditedTo (packet edited : DarPktBytes) (body : List Byte) : Prop where
  numChars : edited.numChars = packet.numChars
  pktHasCrc : edited.pktHasCrc = packet.pktHasCrc
  pktPadded : edited.pktPadded = packet.pktPadded
  holds : ∀ i < body.length, edited.pktData.read (bodyPlace body.length i) = body[i]?

section Edited

variable {body : List Byte} {pkt : PktData} {numChars : Nat}

theorem take_front (holds : ∀ i < body.length, pkt.read (bodyPlace body.length i) = body[i]?) :
    pkt.toList.take (body.take 80).length = body.take 80 := by
  apply PktData.take_of_read
  intro j inside
  rw [List.length_take] at inside
  have same := holds j (by omega)
  rw [bodyPlace, if_neg (by omega)] at same
  rw [same, List.getElem?_take, if_pos (by omega)]

theorem updateInnerCrc_take
    (holds : ∀ i < body.length, pkt.read (bodyPlace body.length i) = body[i]?)
    (long : 80 < body.length → 80 < numChars) :
    ∃ after, pkt.updateInnerCrc numChars = some after ∧
      after.toList.take (withInnerCrc body).length = withInnerCrc body := by
  obtain ⟨after, updated⟩ := pkt.updateInnerCrc_some numChars
  refine ⟨after, updated, PktData.take_of_read fun j inside => ?_⟩
  have front := take_front holds
  -- the step leaves everything outside of the place of the intermediate CRC alone
  have elsewhere : j ≠ 80 → j ≠ 81 → after.read j = pkt.read j := by
    intro notHigh notLow
    unfold PktData.updateInnerCrc at updated
    split at updated
    · simp only [Option.bind_eq_bind, Option.bind_eq_some_iff] at updated
      obtain ⟨crc, -, written⟩ := updated
      exact PktData.read_writeCrc written notHigh notLow
    · rw [Option.some.inj updated]
  rw [withInnerCrc_length] at inside
  by_cases isLong : 80 < body.length
  · rw [if_pos isLong] at inside
    have frontLength : (body.take 80).length = 80 := by
      rw [List.length_take]
      omega
    have taken : after.toList.take 82 =
        body.take 80 ++ crcBytes (crcCompBytewise (body.take 80)) := by
      rw [PktData.updateInnerCrc, if_pos (long isLong), pkt.crc_some (by decide),
        Option.bind_eq_bind, Option.bind_some] at updated
      rw [frontLength] at front
      rw [PktData.take_writeCrc updated, front]
    have closedLength :
        (body.take 80 ++ crcBytes (crcCompBytewise (body.take 80))).length = 82 := by
      rw [List.length_append, frontLength, crcBytes_length]
    rw [withInnerCrc, if_pos isLong]
    by_cases early : j < 82
    · rw [List.getElem?_append_left (by omega)]
      exact PktData.read_of_take taken early
    · have same := holds (j - 2) (by omega)
      have place : bodyPlace body.length (j - 2) = j := by
        rw [bodyPlace, if_pos (by omega)]
        omega
      rw [List.getElem?_append_right (by omega), closedLength, List.getElem?_drop,
        elsewhere (by omega) (by omega), ← place, same, place]
      congr 1
      omega
  · rw [if_neg isLong] at inside
    have same := holds j (by omega)
    rw [bodyPlace, if_neg (by omega)] at same
    rw [withInnerCrc, if_neg isLong, elsewhere (by omega) (by omega), same]

theorem updateLast_take (bounded : numChars ≤ rioMaxPktBytes)
    (length_eq : numChars = (framed body).length)
    (taken : pkt.toList.take (withInnerCrc body).length = withInnerCrc body) :
    ∃ after,
      (if Padded body then pkt.updatePadded numChars else pkt.updateUnpadded numChars) =
          some after ∧
        after.toList.take numChars = framed body := by
  have total : numChars = (withInnerCrc body).length + 2 + (if Padded body then 2 else 0) := by
    rw [length_eq, framed_eq, List.length_append, withCrc, List.length_append, crcBytes_length]
    split <;> rfl
  rw [framed_eq, withCrc]
  by_cases pad : Padded body
  · rw [if_pos pad] at total
    have inner : numChars - 4 = (withInnerCrc body).length := by omega
    rw [if_pos pad, if_pos pad, PktData.updatePadded_eq bounded (by omega), inner]
    obtain ⟨first, last⟩ := @PktData.write_some pkt (numChars - 1) 0 (by omega)
    obtain ⟨second, secondLast⟩ := @PktData.write_some first (numChars - 2) 0 (by omega)
    have same : second.toList.take (withInnerCrc body).length = withInnerCrc body := by
      apply PktData.take_of_read
      intro j inside
      rw [PktData.read_write secondLast, if_neg (by omega), PktData.read_write last,
        if_neg (by omega)]
      exact PktData.read_of_take taken inside
    obtain ⟨after, closed⟩ := second.writeCrc_some (finalCrc body)
      (show (withInnerCrc body).length + 2 ≤ rioMaxPktBytes by omega)
    have front := PktData.take_writeCrc closed
    rw [same] at front
    have zeros : ∀ j, j = numChars - 2 ∨ j = numChars - 1 → after.read j = some 0 := by
      intro j isPad
      rw [PktData.read_writeCrc closed (by omega) (by omega), PktData.read_write secondLast]
      split
      · rfl
      · rw [PktData.read_write last, if_pos (by omega)]
    refine ⟨after, ?_, ?_⟩
    · simp only [last, secondLast, Option.bind_eq_bind, Option.bind_some, same]
      exact closed
    · have frameLength :
          (withInnerCrc body ++ crcBytes (finalCrc body) ++ [(0 : Byte), 0]).length = numChars := by
        simp only [List.length_append, crcBytes_length, List.length_cons, List.length_nil]
        omega
      rw [← frameLength]
      apply PktData.take_of_read
      intro j inside
      rw [frameLength] at inside
      by_cases early : j < (withInnerCrc body).length + 2
      · rw [List.getElem?_append_left (by rw [List.length_append, crcBytes_length]; exact early)]
        exact PktData.read_of_take front early
      · rw [zeros j (by omega),
          List.getElem?_append_right (by rw [List.length_append, crcBytes_length]; omega),
          List.length_append, crcBytes_length]
        obtain isFirst | isSecond : j - ((withInnerCrc body).length + 2) = 0 ∨
          j - ((withInnerCrc body).length + 2) = 1 := by omega
        · rw [isFirst]
          rfl
        · rw [isSecond]
          rfl
  · rw [if_neg pad, Nat.add_zero] at total
    have inner : numChars - 2 = (withInnerCrc body).length := by omega
    rw [if_neg pad, if_neg pad, PktData.updateUnpadded_eq bounded (by omega), inner, taken,
      List.append_nil, total]
    obtain ⟨after, closed⟩ := pkt.writeCrc_some (finalCrc body)
      (show (withInnerCrc body).length + 2 ≤ rioMaxPktBytes by omega)
    refine ⟨after, closed, ?_⟩
    rw [PktData.take_writeCrc closed, taken]

theorem updatePktCrc_edited {packet edited : DarPktBytes} {old : List Byte}
    (packetFramed : Framed packet old) (same : body.length = old.length)
    (edit : EditedTo packet edited body) :
    ∃ after, updatePktCrc edited = some after ∧
      after.toList.take edited.numChars = framed body ∧
      edited.numChars = (framed body).length ∧ (edited.pktPadded = true ↔ Padded body) := by
  have padding : Padded body ↔ Padded old := by
    rw [padded_iff, padded_iff, same]
  have length_eq : edited.numChars = (framed body).length := by
    rw [edit.numChars, packetFramed.numChars, framed_length, framed_length, same]
    simp only [padding]
  have bounded : edited.numChars ≤ rioMaxPktBytes := edit.numChars ▸ packetFramed.inMemory
  have isPadded : edited.pktPadded = true ↔ Padded body := by
    rw [edit.pktPadded, padding]
    exact packetFramed.pktPadded
  have long : 80 < body.length → 80 < edited.numChars := by
    intro isLong
    rw [length_eq, framed_length]
    omega
  obtain ⟨inner, updated, taken⟩ := updateInnerCrc_take edit.holds long
  obtain ⟨after, closed, frame⟩ := updateLast_take bounded length_eq taken
  refine ⟨after, ?_, frame, length_eq, isPadded⟩
  rw [updatePktCrc, updated, Option.bind_eq_bind, Option.bind_some, ← closed]
  by_cases pad : Padded body
  · rw [if_pos (isPadded.mpr pad), if_pos pad]
  · rw [if_neg (mt isPadded.mp pad), if_neg pad]

end Edited

theorem composeTail_runs {state : ComposeState} {body : List Byte}
    (stream : state.bytesOut.stream = body) (length_eq : state.bytesOut.numChars = body.length)
    (fits : (framed body).length ≤ rioMaxPktBytes) :
    ∃ after, composeTail.run state = .ok () after ∧ Framed after.bytesOut body := by
  have room : BodyFits body.length := by
    have padding := padded_iff body
    rw [framed_length] at fits
    unfold rioMaxPktBytes at fits
    unfold BodyFits
    by_cases pad : Padded body
    · have residue := padding.mp pad
      rw [if_pos pad] at fits
      split at fits <;> split at residue <;> omega
    · have residue := mt padding.mpr pad
      rw [if_neg pad] at fits
      split at fits <;> split at residue <;> omega
  obtain ⟨_, after, ran, -⟩ := (@composeTail_fits state.fieldsIn _ room).ends ⟨length_eq, rfl, rfl⟩
  have inMemory : state.bytesOut.numChars ≤ rioMaxPktBytes := by
    rw [framed_length] at fits
    omega
  exact ⟨after, ran, stream ▸ (composeTail_framed inMemory ran).1⟩

theorem composeTail_inMemory {before after : ComposeState}
    (ran : composeTail.run before = .ok () after) :
    before.bytesOut.numChars ≤ rioMaxPktBytes := by
  simp only [composeTail, bind_ok_iff, get_ok_iff, orFail_ok_iff] at ran
  obtain ⟨_, _, ⟨rfl, rfl⟩, closed, _, ⟨computed, rfl⟩, -⟩ := ran
  have fits := (computePktCrc_some_iff _ _).mp ⟨closed, computed⟩
  omega

/-- An update does to a frame that was edited in place what composition does to the edited body. -/
theorem darUpdatePktCrc_agrees {before after : ComposeState}
    (composed : composeTail.run before = .ok () after) {body : List Byte}
    (same : body.length = before.bytesOut.numChars) {edited : DarPktBytes}
    (edit : EditedTo after.bytesOut edited body) :
    ∃ updated, darUpdatePktCrc.run edited = .ok () updated ∧
      ∀ other : ComposeState, other.bytesOut.stream = body →
        other.bytesOut.numChars = body.length →
        ∃ recomposed, composeTail.run other = .ok () recomposed ∧
          updated.stream = recomposed.bytesOut.stream ∧
          updated.numChars = recomposed.bytesOut.numChars ∧
          updated.pktPadded = recomposed.bytesOut.pktPadded := by
  have inMemory := composeTail_inMemory composed
  have packetFramed := (composeTail_framed inMemory composed).1
  have streamLength : before.bytesOut.stream.length = before.bytesOut.numChars := by
    rw [DarPktBytes.stream, List.length_take, Vector.length_toList]
    exact Nat.min_eq_left inMemory
  rw [← streamLength] at same
  obtain ⟨pkt, updated, frame, length_eq, padding⟩ := updatePktCrc_edited packetFramed same edit
  have bounded : edited.numChars ≤ rioMaxPktBytes := edit.numChars ▸ packetFramed.inMemory
  have nonzero : edited.numChars ≠ 0 := by
    rw [length_eq, framed_length]
    split <;> omega
  refine ⟨{ edited with pktData := pkt }, ?_, ?_⟩
  · rw [darUpdatePktCrc_withCrc nonzero bounded (edit.pktHasCrc.trans packetFramed.pktHasCrc),
      updated]
  · intro other stream otherLength
    obtain ⟨recomposed, ran, again⟩ := composeTail_runs stream otherLength (length_eq ▸ bounded)
    refine ⟨recomposed, ran, frame.trans again.stream.symm, length_eq.trans again.numChars.symm, ?_⟩
    exact Bool.eq_iff_iff.mpr (padding.trans again.pktPadded.symm)

/-- A body of 81 bytes, one more than the intermediate CRC covers. -/
def bodySample : ComposeState where
  fieldsIn := longestSample
  bytesOut := { darUtilPktBytesInit with numChars := 81 }

/-- The last byte of such a body changes. -/
def editLast (packet : DarPktBytes) : DarPktBytes :=
  { packet with pktData := packet.pktData.set 82 7 }

def editedBody : List Byte := List.replicate 80 0 ++ [7]

theorem darUpdatePktCrc_agrees_bodySample :
    ∃ after updated, composeTail.run bodySample = .ok () after ∧
      darUpdatePktCrc.run (editLast after.bytesOut) = .ok () updated ∧
        ∀ other : ComposeState, other.bytesOut.stream = editedBody →
          other.bytesOut.numChars = 81 →
          ∃ recomposed, composeTail.run other = .ok () recomposed ∧
            updated.stream = recomposed.bytesOut.stream := by
  have ends : endsWith (fun _ (final : ComposeState) => decide (∀ i < (81 : Nat),
      (editLast final.bytesOut).pktData.read (bodyPlace 81 i) = editedBody[i]?))
      (composeTail.run bodySample) = true := by
    decide +kernel
  obtain ⟨_, after, composed, test⟩ := exists_of_endsWith ends
  have edit : EditedTo after.bytesOut (editLast after.bytesOut) editedBody :=
    ⟨rfl, rfl, rfl, of_decide_eq_true test⟩
  obtain ⟨updated, ran, agrees⟩ := darUpdatePktCrc_agrees composed rfl edit
  refine ⟨after, updated, composed, ran, fun other stream length_eq => ?_⟩
  obtain ⟨recomposed, again, same, -⟩ := agrees other stream length_eq
  exact ⟨recomposed, again, same⟩

end RioFabric.Packet

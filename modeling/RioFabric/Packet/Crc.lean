import RioFabric.Packet.Core

/-!
# Packet CRC

The sixteen-bit packet CRC, computed a byte at a time from parity masks, and the routine
that appends it.  A packet body longer than 80 bytes also carries an intermediate CRC
after its eightieth byte; `compute_pkt_crc` makes room for it by shifting the tail of the
array in place.  `withCrc` states the resulting layout on lists.
-/

namespace RioFabric.Packet

def bytewiseDataBits : List Nat :=
  [0x11, 0x22, 0x44, 0x88, 0x10, 0x31, 0x62, 0xc4,
   0x88, 0x10, 0x20, 0x40, 0x91, 0x22, 0x44, 0x88]

def bytewiseCrcBits : List Nat :=
  [0x1100, 0x2200, 0x4400, 0x8800, 0x1000, 0x3100, 0x6200, 0xc400,
   0x8801, 0x1002, 0x2004, 0x4008, 0x9110, 0x2220, 0x4440, 0x8880]

/-- One round of the outer loop of `crc_comp_bytewise`. -/
def crcByte (oldCrc : Nat) (val : Byte) : Nat :=
  (List.range 16).foldl (fun newCrc j =>
    let temp := countBits (val.toNat &&& bytewiseDataBits.getD j 0)
    let temp := temp + countBits (oldCrc &&& bytewiseCrcBits.getD j 0)
    newCrc + ((temp &&& 1) <<< j)) 0

/-- `crc_comp_bytewise` over a string of bytes. -/
def crcCompBytewise (val : List Byte) : Nat := val.foldl crcByte 0xFFFF

/-- The two bytes of a CRC in transmission order. -/
def crcBytes (crc : Nat) : List Byte :=
  [u8 ((crc >>> 8) &&& 0x00ff), u8 (crc &&& 0x00ff)]

@[simp] theorem crcBytes_length (crc : Nat) : (crcBytes crc).length = 2 := rfl

/-- `crc_comp_bytewise` over the first `num_bytes` elements of packet memory. -/
def PktData.crc (pkt : PktData) (numBytes : Nat) : Option Nat :=
  if numBytes ≤ rioMaxPktBytes then some (crcCompBytewise (pkt.toList.take numBytes)) else none

/-- Store the two bytes of a CRC. -/
def PktData.writeCrc (pkt : PktData) (index crc : Nat) : Option PktData := do
  let pkt ← pkt.write index (u8 ((crc >>> 8) &&& 0x00ff))
  pkt.write (index + 1) (u8 (crc &&& 0x00ff))

/-- The loop of `compute_pkt_crc` that moves the bytes from 80 up two places, last byte
first. -/
def PktData.shiftTail (pkt : PktData) : Nat → Option PktData
  | 0 => some pkt
  | i + 1 =>
    if i + 1 > 79 then do
      let value ← pkt.read (i + 1)
      let pkt ← pkt.write (i + 1 + 2) value
      pkt.shiftTail i
    else some pkt

/-- The part of `compute_pkt_crc` that inserts the intermediate CRC of a long packet. -/
def PktData.insertInnerCrc (pkt : PktData) (numBytes : Nat) : Option (PktData × Nat) :=
  if numBytes > 80 then do
    let temp ← pkt.crc 80
    let pkt ← pkt.shiftTail numBytes
    let pkt ← pkt.writeCrc 80 temp
    some (pkt, numBytes + 2)
  else some (pkt, numBytes)

/-- The part of `compute_pkt_crc` that appends the final CRC. -/
def PktData.appendCrc (pkt : PktData) (numBytes : Nat) : Option (PktData × Nat) := do
  let temp ← pkt.crc numBytes
  let pkt ← pkt.writeCrc numBytes temp
  some (pkt, numBytes + 2)

/-- `compute_pkt_crc`: the packet memory with its CRCs, and the number of bytes in use. -/
def computePktCrc (pkt : PktData) (numBytes : Nat) : Option (PktData × Nat) := do
  let inner ← pkt.insertInnerCrc numBytes
  inner.1.appendCrc inner.2

section

variable (body : List Byte)

/-- A packet body with its intermediate CRC, if it is long enough to have one. -/
def withInnerCrc : List Byte :=
  if 80 < body.length then
    body.take 80 ++ crcBytes (crcCompBytewise (body.take 80)) ++ body.drop 80
  else body

/-- The CRC that closes a packet with this body. -/
def finalCrc : Nat := crcCompBytewise (withInnerCrc body)

/-- A packet body with all its CRCs. -/
def withCrc : List Byte :=
  withInnerCrc body ++ crcBytes (finalCrc body)

theorem withInnerCrc_length :
    (withInnerCrc body).length = body.length + (if 80 < body.length then 2 else 0) := by
  unfold withInnerCrc
  split
  · simp
    omega
  · simp

theorem withCrc_length :
    (withCrc body).length = body.length + (if 80 < body.length then 4 else 2) := by
  simp only [withCrc, List.length_append, withInnerCrc_length, crcBytes_length]
  split <;> omega

end

theorem crcByte_lt (oldCrc : Nat) (val : Byte) : crcByte oldCrc val < 2 ^ 16 := by
  unfold crcByte
  simp only [List.range, List.range.loop, List.foldl, Nat.shiftLeft_eq, Nat.and_one_is_mod]
  omega

theorem crcCompBytewise_lt (val : List Byte) : crcCompBytewise val < 2 ^ 16 := by
  have bounded : ∀ start < 2 ^ 16, val.foldl crcByte start < 2 ^ 16 := by
    induction val with
    | nil => exact fun start bound => bound
    | cons head rest ih =>
      intro start _
      rw [List.foldl_cons]
      exact ih (crcByte start head) (crcByte_lt start head)
  exact bounded 0xFFFF (by decide)

variable {crc : Nat} {pkt after : PktData} {index numBytes : Nat}

theorem crcBytes_eq_zero_iff (bounded : crc < 2 ^ 16) :
    crcBytes crc = [0, 0] ↔ crc = 0 := by
  have low : crc &&& 0x00ff = crc % 2 ^ 8 := Nat.and_two_pow_sub_one_eq_mod crc 8
  have high : crc >>> 8 &&& 0x00ff = crc / 2 ^ 8 % 2 ^ 8 := by
    rw [← Nat.shiftRight_eq_div_pow]
    exact Nat.and_two_pow_sub_one_eq_mod _ 8
  constructor
  · intro zero
    simp only [crcBytes, low, high, List.cons.injEq, and_true] at zero
    have highZero := congrArg BitVec.toNat zero.1
    have lowZero := congrArg BitVec.toNat zero.2
    simp only [BitVec.ofNat_eq_ofNat, BitVec.toNat_ofNat] at highZero lowZero
    omega
  · rintro rfl
    rfl

theorem PktData.take_write_succ {value : Byte} (written : pkt.write index value = some after) :
    after.toList.take (index + 1) = pkt.toList.take index ++ [value] := by
  obtain ⟨inBounds, rfl⟩ := PktData.write_eq_some.mp written
  rw [Vector.toList_set, List.take_add_one, List.take_set_of_le (Nat.le_refl index)]
  simp [inBounds]

theorem PktData.take_writeCrc (written : pkt.writeCrc index crc = some after) :
    after.toList.take (index + 2) = pkt.toList.take index ++ crcBytes crc := by
  unfold PktData.writeCrc at written
  simp only [Option.bind_eq_bind, Option.bind_eq_some_iff] at written
  obtain ⟨middle, first, second⟩ := written
  rw [PktData.take_write_succ second, PktData.take_write_succ first]
  simp [crcBytes]

theorem PktData.getElem?_shiftTail {last : Nat} (shifted : pkt.shiftTail last = some after)
    (j : Nat) :
    after[j]? = if 82 ≤ j ∧ j ≤ last + 2 then pkt[j - 2]? else pkt[j]? := by
  induction last generalizing pkt with
  | zero =>
    obtain rfl : pkt = after := Option.some.inj shifted
    rw [if_neg (by omega)]
  | succ last ih =>
    unfold PktData.shiftTail at shifted
    split at shifted
    next =>
      simp only [Option.bind_eq_bind, Option.bind_eq_some_iff] at shifted
      obtain ⟨value, read, middle, written, rest⟩ := shifted
      obtain ⟨inBounds, rfl⟩ := PktData.write_eq_some.mp written
      rw [ih rest]
      simp only [Vector.getElem?_set]
      have read : pkt[last + 1]? = some value := read
      -- the byte moved in this round sits at `last + 3`, above everything moved later
      by_cases moved : j = last + 3
      · subst moved
        rw [if_neg (by omega), if_pos (by omega), if_pos (by omega)]
        exact read.symm
      · by_cases later : 82 ≤ j ∧ j ≤ last + 2
        · rw [if_pos later, if_neg (by omega), if_pos (by omega)]
        · rw [if_neg later, if_neg (by omega), if_neg (by omega)]
    next small =>
      obtain rfl : pkt = after := Option.some.inj shifted
      rw [if_neg (by omega)]

theorem PktData.writeCrc_fits (written : pkt.writeCrc index crc = some after) :
    index + 2 ≤ rioMaxPktBytes := by
  unfold PktData.writeCrc at written
  simp only [Option.bind_eq_bind, Option.bind_eq_some_iff] at written
  obtain ⟨middle, -, second⟩ := written
  exact (PktData.write_eq_some.mp second).1

theorem PktData.take_shiftTail {shifted : PktData} (long : 80 < numBytes)
    (moved : pkt.shiftTail numBytes = some shifted)
    (written : shifted.writeCrc 80 crc = some after) :
    after.toList.take (numBytes + 2) =
      pkt.toList.take 80 ++ crcBytes crc ++ (pkt.toList.take numBytes).drop 80 := by
  unfold PktData.writeCrc at written
  simp only [Option.bind_eq_bind, Option.bind_eq_some_iff] at written
  obtain ⟨middle, first, second⟩ := written
  obtain ⟨_, rfl⟩ := PktData.write_eq_some.mp first
  obtain ⟨_, rfl⟩ := PktData.write_eq_some.mp second
  have front : (pkt.toList.take 80).length = 80 := by simp [rioMaxPktBytes]
  apply List.ext_getElem?
  intro j
  simp only [List.getElem?_take, Vector.getElem?_toList, Vector.getElem?_set,
    PktData.getElem?_shiftTail moved, List.getElem?_append, List.length_append, front,
    crcBytes_length, List.getElem?_drop]
  by_cases inFront : j < 80
  · simp [inFront, show j < numBytes + 2 by omega, show j < 82 by omega,
      show ¬81 = j by omega, show ¬80 = j by omega, show ¬82 ≤ j by omega]
  · by_cases inCrc : j < 82
    · obtain rfl | rfl : j = 80 ∨ j = 81 := by omega
      · simp [crcBytes, show 80 < numBytes + 2 by omega]
      · simp [crcBytes, show 81 < numBytes + 2 by omega]
    · simp only [inFront, inCrc, if_false, show ¬80 + 1 = j by omega, show ¬80 = j by omega]
      by_cases inTail : j < numBytes + 2
      · rw [if_pos inTail, if_pos (by omega), if_pos (by omega)]
        congr 1
        omega
      · rw [if_neg inTail, if_neg (by omega)]

theorem PktData.crc_eq_some (computed : pkt.crc numBytes = some crc) :
    crc = crcCompBytewise (pkt.toList.take numBytes) := by
  unfold PktData.crc at computed
  split at computed
  · exact (Option.some.inj computed).symm
  · cases computed

theorem PktData.insertInnerCrc_spec {count : Nat} (inUse : numBytes ≤ rioMaxPktBytes)
    (inserted : pkt.insertInnerCrc numBytes = some (after, count)) :
    after.toList.take count = withInnerCrc (pkt.toList.take numBytes) ∧
      count = (withInnerCrc (pkt.toList.take numBytes)).length := by
  have bodyLength : (pkt.toList.take numBytes).length = numBytes := by simp [inUse]
  rw [withInnerCrc_length, bodyLength]
  unfold PktData.insertInnerCrc at inserted
  unfold withInnerCrc
  rw [bodyLength]
  split at inserted
  next long =>
    simp only [Option.bind_eq_bind, Option.bind_eq_some_iff, Option.some.injEq,
      Prod.mk.injEq] at inserted
    obtain ⟨crc, closed, shifted, moved, written, stored, rfl, rfl⟩ := inserted
    rw [if_pos long, if_pos long, List.take_take, Nat.min_eq_left (by omega),
      ← PktData.crc_eq_some closed]
    exact ⟨PktData.take_shiftTail long moved stored, rfl⟩
  next short =>
    cases inserted
    rw [if_neg short, if_neg short]
    exact ⟨rfl, rfl⟩

theorem computePktCrc_spec {total : Nat} (inUse : numBytes ≤ rioMaxPktBytes)
    (computed : computePktCrc pkt numBytes = some (after, total)) :
    after.toList.take total = withCrc (pkt.toList.take numBytes) ∧
      total = (withCrc (pkt.toList.take numBytes)).length ∧ total ≤ rioMaxPktBytes := by
  unfold computePktCrc PktData.appendCrc at computed
  simp only [Option.bind_eq_bind, Option.bind_eq_some_iff, Option.some.injEq,
    Prod.mk.injEq, Prod.exists] at computed
  obtain ⟨inner, count, inserted, crc, closed, written, stored, rfl, rfl⟩ := computed
  obtain ⟨layout, count_eq⟩ := PktData.insertInnerCrc_spec inUse inserted
  refine ⟨?_, ?_, PktData.writeCrc_fits stored⟩
  · rw [PktData.take_writeCrc stored, PktData.crc_eq_some closed, layout]
    rfl
  · simp only [withCrc, List.length_append, crcBytes_length]
    omega

end RioFabric.Packet

import RioFabric.Lib.Bits
import RioFabric.Packet.Parse

/-!
# Where a packet has its parts

The header of a packet says how long it is itself, how much payload it announces, and where in its
doubleword a short payload is.  This is stated for the bytes of a packet, without the parser: a
packet may well end before the bytes that its header asks for.
-/

namespace RioFabric.Packet

open Lib

/-- Byte `i`, as a number. -/
def DarPktBytes.byteAt (packet : DarPktBytes) (i : Nat) : Nat :=
  ((packet.pktData.read i).getD 0).toNat

theorem DarPktBytes.byteAt_of_read {packet : DarPktBytes} {i : Nat} {value : Byte}
    (read : packet.pktData.read i = some value) : packet.byteAt i = value.toNat := by
  rw [byteAt, read]
  rfl

theorem DarPktBytes.byteAt_lt (packet : DarPktBytes) (i : Nat) : packet.byteAt i < 2 ^ 8 :=
  BitVec.isLt _

theorem PktData.read_some (pkt : PktData) {i : Nat} (inside : i < rioMaxPktBytes) :
    ∃ value, pkt.read i = some value := ⟨pkt[i], Vector.getElem?_eq_getElem inside⟩

/-- Where a packet has its parts. -/
structure Layout where
  /-- The index behind the logical header. -/
  hdrEnd : Nat
  /-- The byte count of the payload and its place in a doubleword, or `none` for a header that is
  refused. -/
  sizes : Option (Nat × Nat)
  /-- Whether the payload is behind the header. -/
  hasData : Bool
  /-- How many doublewords of payload there are. -/
  rounds : Nat
  /-- The bit of the decoded header that shows the highest bit of the last byte. -/
  echo : DarPktFields → Bool

/-- A header that is refused after `hdrEnd` bytes. -/
def Layout.refused (hdrEnd : Nat) : Layout := ⟨hdrEnd, none, false, 1, fun _ => false⟩

/-- The bytes of the second address word. -/
def RioAddrSize.upperCount : RioAddrSize → Nat
  | .rioAddr66 => 4
  | .rioAddr50 => 2
  | .rioAddr34 | .rioAddr32 | .rioAddr21 => 0

/-- The bytes of the first address word. -/
def RioAddrSize.lowerCount : RioAddrSize → Nat
  | .rioAddr21 => 3
  | .rioAddr66 | .rioAddr50 | .rioAddr34 | .rioAddr32 => 4

/-- The bytes of an address. -/
def RioAddrSize.addrCount (size : RioAddrSize) : Nat := size.upperCount + size.lowerCount

/-- The highest bit of the last address byte. -/
def addrEcho (fields : DarPktFields) : Bool := fields.logRw.addr0.testBit 7

section Kinds

variable (packet : DarPktBytes) (start : Nat)

/-- The transaction code of a logical header from `start` on. -/
def DarPktBytes.transAt : Nat := (packet.byteAt start &&& 0xF0) >>> 4

/-- The size code. -/
def DarPktBytes.sizeAt : Nat := packet.byteAt start &&& 0xF

/-- The word pointer of an address that ends in front of `hdrEnd`. -/
def DarPktBytes.wptrAt (hdrEnd : Nat) : Nat := (packet.byteAt (hdrEnd - 1) &&& 4) >>> 2

/-- The end of a header of transaction byte, transaction ID and address. -/
def DarPktBytes.rwEnd : Nat := start + 2 + packet.pktAddrSize.addrCount

def nreadLayout : Layout :=
  if rdTransOf (packet.transAt start) = none then .refused (start + 1)
  else
    { hdrEnd := packet.rwEnd start
      sizes := darUtilComputeRdBytesNAlign (packet.sizeAt start)
        (packet.wptrAt (packet.rwEnd start))
      hasData := false
      rounds := 1
      echo := addrEcho }

def nwriteLayout : Layout :=
  if wrTransOf (packet.transAt start) = none then .refused (start + 1)
  else
    { hdrEnd := packet.rwEnd start
      sizes := darUtilComputeWrBytesNAlign (packet.sizeAt start)
        (packet.wptrAt (packet.rwEnd start))
      hasData := true
      rounds := if wrTransOf (packet.transAt start) = some .pktNwCmpSwap then 2 else 1
      echo := addrEcho }

def swriteLayout : Layout where
  hdrEnd := start + packet.pktAddrSize.addrCount
  sizes := some (256, 0)
  hasData := true
  rounds := 1
  echo := addrEcho

/-- Flow control has no size of its own. -/
def fcLayout : Layout := ⟨start + 2, some (256, 0), false, 1, fun _ => false⟩

def mtcLayout : Layout :=
  if packet.transAt start > 4 then .refused (start + 1)
  else
    { hdrEnd := start + 6
      sizes :=
        match mtcTransOf (packet.transAt start) with
        | .pktMr =>
          darUtilComputeRdBytesNAlign (packet.sizeAt start) (packet.wptrAt (start + 6))
        | .pktMrr => some (64, 0)
        | .pktMwr => some (0, 0)
        | _ => darUtilComputeWrBytesNAlign (packet.sizeAt start) (packet.wptrAt (start + 6))
      hasData :=
        mtcTransOf (packet.transAt start) ≠ .pktMr ∧ mtcTransOf (packet.transAt start) ≠ .pktMwr
      rounds := 1
      echo := addrEcho }

def dstmLayout : Layout :=
  let flags := packet.byteAt (start + 1)
  if flags &&& 4 ≠ 0 then
    ⟨start + 8, some (0, 0), false, 1, fun fields => fields.logDs.dstmXhParm2.testBit 7⟩
  else if flags &&& 0x80 ≠ 0 then
    ⟨start + 4, some (256, 0), true, 1, fun fields => fields.logDs.dstmStreamid.testBit 7⟩
  else if flags &&& 0x40 ≠ 0 then
    ⟨start + 4, some (256, 0), true, 1, fun fields => fields.logDs.dstmPduLen.testBit 7⟩
  else ⟨start + 2, some (256, 0), true, 1, fun _ => false⟩

def dbLayout : Layout :=
  ⟨start + 4, some (2, 0), false, 1,
    fun fields => (fields.pktData.get ⟨1, one_lt_rioMaxPktBytes⟩).toNat.testBit 7⟩

def msgLayout : Layout :=
  if packet.sizeAt start < 9 then .refused (start + 1)
  else ⟨start + 2, some (8 <<< (packet.sizeAt start - 9), 0), true, 1, fun _ => false⟩

def respLayout : Layout :=
  match respTransOf (packet.transAt start), respStatusOf (packet.sizeAt start) with
  | some pktType, some status =>
    { hdrEnd := start + 2
      sizes := some (if pktType = .pktRespData ∧ status ≠ .pktRetry then 256 else 0, 0)
      hasData := pktType = .pktRespData ∧ status ≠ .pktRetry
      rounds := 1
      echo := fun _ => false }
  | _, _ => .refused (start + 1)

/-- Everything from the first byte on is payload. -/
def rawLayout : Layout := ⟨0, some (276, 0), true, 1, fun _ => false⟩

/-- The parts of a packet whose logical header is at `start`. -/
def logLayout (ftype : Nat) : Layout :=
  match ftype with
  | 2 => nreadLayout packet start
  | 5 => nwriteLayout packet start
  | 6 => swriteLayout packet start
  | 7 => fcLayout start
  | 8 => mtcLayout packet start
  | 9 => dstmLayout packet start
  | 10 => dbLayout start
  | 11 => msgLayout packet start
  | 13 => respLayout packet start
  | _ => rawLayout

end Kinds

namespace DarPktBytes

variable (packet : DarPktBytes)

def ftype : Nat := packet.byteAt 1 &&& 0x0F

/-- Where the logical header starts, if the transport type has a meaning. -/
def logStart : Option Nat :=
  match RioTtCode.ofCode ((packet.byteAt 1 &&& 0x30) >>> 4) with
  | .ttSmall => some 4
  | .ttLarge => some 6
  | _ => none

def layout : Layout :=
  match packet.logStart with
  | some start => logLayout packet start packet.ftype
  | none => .refused 2

end DarPktBytes

namespace Layout

variable (layout : Layout)

/-- The byte count of the payload. -/
def announced : Nat := (layout.sizes.map Prod.fst).getD 0

/-- Whether the payload is taken from inside a doubleword: its place and length, if so. -/
def short : Option (Nat × Nat) :=
  layout.sizes.filter fun sizes => layout.hasData ∧ sizes.1 ≤ 8

/-- How many bytes of the packet there should be for what its header asks for.  A long payload is
as long as the packet makes it. -/
def consumed : Nat :=
  match layout.short with
  | some (count, align) => layout.hdrEnd + 8 * (layout.rounds - 1) + align + count
  | none => layout.hdrEnd

/-- The bit of the decoded packet that shows the highest bit of the last of these bytes. -/
def seen (fields : DarPktFields) : Bool :=
  match layout.short with
  | some (count, _) => ((fields.pktData.read (layout.rounds * count - 1)).getD 0).toNat.testBit 7
  | none => layout.echo fields

end Layout

theorem smallSizes_bounded {sizes : Nat × Nat} {size wptr : Nat}
    (decoded : darUtilComputeRdBytesNAlign size wptr = some sizes ∨
      darUtilComputeWrBytesNAlign size wptr = some sizes) (size_lt : size < 16) :
    0 < sizes.1 ∧ sizes.1 ≤ 256 ∧ sizes.2 < 8 ∧ (sizes.1 ≤ 8 → sizes.2 + sizes.1 ≤ 8) := by
  have wptr_lt : wptr < 2 := by
    by_contra large
    have bad : wptr ≠ 0 ∧ wptr ≠ 1 := by omega
    have noRd : darUtilComputeRdBytesNAlign size wptr = none := if_pos bad
    have noWr : darUtilComputeWrBytesNAlign size wptr = none := if_pos bad
    rw [noRd, noWr] at decoded
    cases decoded <;> contradiction
  have every : ∀ size < 16, ∀ wptr < 2,
      (darUtilComputeRdBytesNAlign size wptr).all (fun sizes => 0 < sizes.1 ∧ sizes.1 ≤ 256 ∧
        sizes.2 < 8 ∧ (sizes.1 ≤ 8 → sizes.2 + sizes.1 ≤ 8)) ∧
      (darUtilComputeWrBytesNAlign size wptr).all (fun sizes => 0 < sizes.1 ∧ sizes.1 ≤ 256 ∧
        sizes.2 < 8 ∧ (sizes.1 ≤ 8 → sizes.2 + sizes.1 ≤ 8)) := by decide
  obtain ⟨rd, wr⟩ := every size size_lt wptr wptr_lt
  cases decoded with
  | inl decoded =>
    rw [decoded] at rd
    exact of_decide_eq_true rd
  | inr decoded =>
    rw [decoded] at wr
    exact of_decide_eq_true wr

theorem DarPktBytes.sizeAt_lt (packet : DarPktBytes) (start : Nat) : packet.sizeAt start < 16 :=
  Nat.and_lt_two_pow _ (show 0xF < 2 ^ 4 by decide)

theorem DarPktBytes.logStart_le {packet : DarPktBytes} {start : Nat}
    (found : packet.logStart = some start) : start ≤ 6 := by
  unfold DarPktBytes.logStart at found
  split at found <;> cases found <;> decide

/-- A layout that leaves room in packet memory, and whose payload is inside of doublewords. -/
structure Layout.Sound (layout : Layout) : Prop where
  hdrEnd : layout.hdrEnd ≤ 16
  rounds : layout.rounds = 1 ∨ layout.rounds = 2
  short : ∀ count align, layout.sizes = some (count, align) → layout.hasData = true → count ≤ 8 →
    0 < count ∧ align + count ≤ 8
  echo : layout.hasData = true → ∀ (fields : DarPktFields) padBytes pktBytes pktData,
    layout.echo { fields with padBytes := padBytes, pktBytes := pktBytes, pktData := pktData } =
      layout.echo fields

theorem sound_of_long {layout : Layout} {size : Nat} (hdrEnd : layout.hdrEnd ≤ 16)
    (rounds : layout.rounds = 1) (sizes : layout.sizes = some (size, 0)) (long : 8 < size)
    (echo : ∀ (fields : DarPktFields) padBytes pktBytes pktData,
      layout.echo { fields with padBytes := padBytes, pktBytes := pktBytes, pktData := pktData } =
        layout.echo fields) : layout.Sound := by
  refine ⟨hdrEnd, Or.inl rounds, ?_, fun _ => echo⟩
  intro count align found _ short
  obtain ⟨rfl, rfl⟩ := Prod.mk.injEq .. ▸ Option.some.inj (sizes.symm.trans found)
  omega

section Sound

variable (packet : DarPktBytes) {start : Nat} (early : start ≤ 6)

theorem RioAddrSize.addrCount_le (size : RioAddrSize) : size.addrCount ≤ 8 := by
  cases size <;> decide

include early

theorem refused_sound : (Layout.refused (start + 1)).Sound :=
  ⟨show start + 1 ≤ 16 by omega, Or.inl rfl, nofun, nofun⟩

theorem rwEnd_le : packet.rwEnd start ≤ 16 := by
  have addr := packet.pktAddrSize.addrCount_le
  unfold DarPktBytes.rwEnd
  omega

theorem nreadLayout_sound : (nreadLayout packet start).Sound := by
  unfold nreadLayout
  split
  · exact refused_sound early
  · exact ⟨rwEnd_le packet early, Or.inl rfl, nofun, nofun⟩

theorem nwriteLayout_sound : (nwriteLayout packet start).Sound := by
  unfold nwriteLayout
  split
  · exact refused_sound early
  · refine ⟨rwEnd_le packet early, ?_, ?_, fun _ _ _ _ _ => rfl⟩
    · by_cases swap : wrTransOf (packet.transAt start) = some .pktNwCmpSwap
      · exact Or.inr (if_pos swap)
      · exact Or.inl (if_neg swap)
    · intro count align sizes _ short
      obtain ⟨pos, -, -, inside⟩ := smallSizes_bounded (Or.inr sizes) (packet.sizeAt_lt start)
      exact ⟨pos, inside short⟩

theorem mtcLayout_sound : (mtcLayout packet start).Sound := by
  unfold mtcLayout
  split
  · exact refused_sound early
  · refine ⟨show start + 6 ≤ 16 by omega, Or.inl rfl, ?_, fun _ _ _ _ _ => rfl⟩
    intro count align sizes hasData short
    obtain ⟨notMr, notMwr⟩ := of_decide_eq_true hasData
    dsimp only at sizes
    split at sizes
    · contradiction
    · cases sizes
      exact absurd short (by decide)
    · contradiction
    · obtain ⟨pos, -, -, inside⟩ := smallSizes_bounded (Or.inr sizes) (packet.sizeAt_lt start)
      exact ⟨pos, inside short⟩

theorem dstmLayout_sound : (dstmLayout packet start).Sound := by
  unfold dstmLayout
  dsimp only
  split
  · exact ⟨show start + 8 ≤ 16 by omega, Or.inl rfl, nofun, nofun⟩
  · split
    · exact sound_of_long (show start + 4 ≤ 16 by omega) rfl rfl (by decide) fun _ _ _ _ => rfl
    · split
      · exact sound_of_long (show start + 4 ≤ 16 by omega) rfl rfl (by decide) fun _ _ _ _ => rfl
      · exact sound_of_long (show start + 2 ≤ 16 by omega) rfl rfl (by decide) fun _ _ _ _ => rfl

theorem msgLayout_sound : (msgLayout packet start).Sound := by
  unfold msgLayout
  split
  · exact refused_sound early
  · refine ⟨show start + 2 ≤ 16 by omega, Or.inl rfl, ?_, fun _ _ _ _ _ => rfl⟩
    intro count align sizes _ short
    cases sizes
    exact ⟨Nat.lt_of_lt_of_le (show 0 < 8 by decide) Nat.le_shiftLeft, by omega⟩

theorem respLayout_sound : (respLayout packet start).Sound := by
  unfold respLayout
  split
  · refine ⟨show start + 2 ≤ 16 by omega, Or.inl rfl, ?_, fun _ _ _ _ _ => rfl⟩
    intro count align sizes hasData short
    rw [if_pos (of_decide_eq_true hasData)] at sizes
    cases sizes
    exact absurd short (by decide)
  · exact refused_sound early

theorem logLayout_sound (ftype : Nat) : (logLayout packet start ftype).Sound := by
  unfold logLayout
  split
  · exact nreadLayout_sound packet early
  · exact nwriteLayout_sound packet early
  · have addr := packet.pktAddrSize.addrCount_le
    exact sound_of_long (show start + packet.pktAddrSize.addrCount ≤ 16 by omega) rfl rfl
      (by decide) fun _ _ _ _ => rfl
  · exact ⟨show start + 2 ≤ 16 by omega, Or.inl rfl, nofun, nofun⟩
  · exact mtcLayout_sound packet early
  · exact dstmLayout_sound packet early
  · exact ⟨show start + 4 ≤ 16 by omega, Or.inl rfl, nofun, nofun⟩
  · exact msgLayout_sound packet early
  · exact respLayout_sound packet early
  · exact sound_of_long (Nat.zero_le 16) rfl rfl (by decide) fun _ _ _ _ => rfl

omit early in
theorem layout_sound : packet.layout.Sound := by
  unfold DarPktBytes.layout
  split
  next start found => exact logLayout_sound packet (DarPktBytes.logStart_le found) _
  next => exact ⟨show 2 ≤ 16 by decide, Or.inl rfl, nofun, nofun⟩

end Sound

end RioFabric.Packet

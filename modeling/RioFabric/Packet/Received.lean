import RioFabric.Packet.Extract
import RioFabric.Packet.Parsed

/-!
# Packets from outside

`DAR_pkt_bytes_to_fields` looks at the length of a packet once, for the least of its kinds.  It
stays inside of packet memory whatever it is given, but it does not stay inside of the packet.
-/

namespace RioFabric.Packet

open Lib

theorem darPktBytesToFields_eq (packet : DarPktBytes) (fields : DarPktFields) :
    darPktBytesToFields packet fields =
      if packet.numChars < 8 then .error (.rc .badDataSize) ⟨packet, fields, 0⟩
      else decodeBody.run ⟨packet, fields, 0⟩ := by
  unfold darPktBytesToFields failIf
  split <;> rfl

theorem Layout.Sound.consumed_le {layout : Layout} (sound : layout.Sound) :
    layout.consumed ≤ rioMaxPktBytes := by
  have front := sound.hdrEnd
  have rounds := sound.rounds
  unfold Layout.consumed rioMaxPktBytes
  split
  next count align short =>
    rw [Layout.short, Option.filter_eq_some_iff] at short
    obtain ⟨sizes, taken⟩ := short
    obtain ⟨hasData, small⟩ := of_decide_eq_true taken
    have fits := (sound.short count align sizes hasData small).2
    omega
  next => omega

variable {packet : DarPktBytes}

theorem layout_of_flow {start : Nat} (found : packet.logStart = some start)
    (flow : packet.ftype = 7) : packet.layout = fcLayout start := by
  rw [DarPktBytes.layout, found, flow]
  rfl

/-- No access outside an array, and not more payload than the header announces. -/
def PayloadBounded (packet : DarPktBytes) (fields : DarPktFields) : Prop :=
  match darPktBytesToFields packet fields with
  | .ok _ after => after.fieldsOut.pktBytes ≤ packet.layout.announced
  | .error .fault _ => False
  | .error (.rc _) _ => True

/-- A flow control packet that is decoded into a description with a byte count from before. -/
def StaleCount (packet : DarPktBytes) (fields : DarPktFields) : Prop :=
  8 ≤ packet.numChars ∧ packet.logStart ≠ none ∧ packet.ftype = 7 ∧ 256 < fields.pktBytes

/-- The byte count exceeds what the header announces for flow control packets only, whose arm does
not set it. -/
theorem payloadBounded_iff {packet : DarPktBytes} (bounded : packet.numChars ≤ rioMaxPktBytes)
    (fields : DarPktFields) : PayloadBounded packet fields ↔ ¬StaleCount packet fields := by
  unfold PayloadBounded StaleCount
  rw [darPktBytesToFields_eq]
  by_cases short : packet.numChars < 8
  · rw [if_pos short]
    exact iff_of_true trivial (by omega)
  · rw [if_neg short]
    by_cases flow : packet.logStart ≠ none ∧ packet.ftype = 7
    · obtain ⟨start, found⟩ := Option.ne_none_iff_exists'.mp flow.1
      have announced : packet.layout.announced = 256 := by
        rw [layout_of_flow found flow.2]
        rfl
      have meets := (@decodeBody_flow rioMaxPktBytes packet fields.pktBytes (Nat.le_refl _)
        (by decide) flow.1 flow.2).meets (SameTo.refl _)
      obtain ⟨_, final, ran, same⟩ :=
        meets.ends (show At packet 0 _ ⟨packet, fields, 0⟩ from ⟨rfl, rfl, rfl⟩)
      rw [ran, announced]
      show final.fieldsOut.pktBytes ≤ 256 ↔ _
      rw [same]
      constructor
      · exact fun fits stale => by omega
      · exact fun fresh => Nat.not_lt.mp fun large =>
          fresh ⟨Nat.not_lt.mp short, flow.1, flow.2, large⟩
    · have meets := (@decodeBody_agrees rioMaxPktBytes packet (Nat.le_refl _) (by decide) bounded
        (layout_sound packet).consumed_le (fun found isFlow => flow ⟨found, isFlow⟩)).meets
        (SameTo.refl _)
      obtain ⟨normal, early⟩ :=
        meets (show At packet 0 _ ⟨packet, fields, 0⟩ from ⟨rfl, rfl, trivial⟩)
      have fresh : ¬(8 ≤ packet.numChars ∧ packet.logStart ≠ none ∧ packet.ftype = 7 ∧
          256 < fields.pktBytes) := fun stale => flow ⟨stale.2.1, stale.2.2.1⟩
      refine iff_of_true ?_ fresh
      cases ran : decodeBody.run ⟨packet, fields, 0⟩ with
      | ok _ after => exact (normal ran).1
      | error stop after =>
        cases stop with
        | rc code => trivial
        | fault => exact (early ran).1 rfl

/-- A flow control packet, and one of an unknown kind that fills packet memory. -/
def flowSample : DarPktBytes :=
  { darUtilPktBytesInit with
    numChars := 8
    pktData := (Vector.replicate rioMaxPktBytes 0).set 1 7 one_lt_rioMaxPktBytes }

def rawSample : DarPktBytes :=
  { darUtilPktBytesInit with
    numChars := 276
    pktData := (Vector.replicate rioMaxPktBytes 0).set 1 15 one_lt_rioMaxPktBytes }

theorem payloadBounded_flowSample :
    flowSample.numChars ≤ rioMaxPktBytes ∧ PayloadBounded flowSample DarPktFields.cleared :=
  ⟨by decide, (payloadBounded_iff (by decide) DarPktFields.cleared).mpr
    fun stale => absurd stale.2.2.2 (by decide)⟩

/-- Decoded after a packet of an unknown kind, a flow control packet has 274 bytes of payload. -/
theorem flowSample_not_bounded :
    ∃ first second, darPktBytesToFields rawSample DarPktFields.cleared = .ok () first ∧
      darPktBytesToFields flowSample first.fieldsOut = .ok () second ∧
      second.fieldsOut.pktBytes = 274 ∧ flowSample.layout.announced = 256 ∧
      ¬PayloadBounded flowSample first.fieldsOut := by
  have ends : endsWith (fun _ (first : ParseState) =>
      endsWith (fun _ (second : ParseState) => second.fieldsOut.pktBytes == 274)
        (darPktBytesToFields flowSample first.fieldsOut))
      (darPktBytesToFields rawSample DarPktFields.cleared) = true := by decide +kernel
  obtain ⟨_, first, raw, test⟩ := exists_of_endsWith ends
  obtain ⟨_, second, flow, last⟩ := exists_of_endsWith test
  have count : second.fieldsOut.pktBytes = 274 := beq_iff_eq.mp last
  have announced : flowSample.layout.announced = 256 := by decide +kernel
  refine ⟨first, second, raw, flow, count, announced, ?_⟩
  rw [PayloadBounded, flow]
  show ¬second.fieldsOut.pktBytes ≤ _
  rw [count, announced]
  decide

/-- The code that is returned, `none` for success, and the fields. -/
def decoded (packet : DarPktBytes) (fields : DarPktFields) : Option DarStop × DarPktFields :=
  match darPktBytesToFields packet fields with
  | .ok _ after => (none, after.fieldsOut)
  | .error stop after => (some stop, after.fieldsOut)

/-- What is behind the packet has no influence. -/
def ReadsOnlyPacket (packet : DarPktBytes) (fields : DarPktFields) : Prop :=
  ∀ other, AgreeTo packet.numChars packet other → decoded other fields = decoded packet fields

theorem layout_congr {other : DarPktBytes} (size : other.pktAddrSize = packet.pktAddrSize)
    (front : ∀ i < 8, other.byteAt i = packet.byteAt i)
    (wptr : ∀ i, other.byteAt i &&& 4 = packet.byteAt i &&& 4) : other.layout = packet.layout := by
  have wptrAt : ∀ hdrEnd, other.wptrAt hdrEnd = packet.wptrAt hdrEnd := by
    intro hdrEnd
    rw [DarPktBytes.wptrAt, DarPktBytes.wptrAt, wptr]
  have logical : ∀ start ≤ 6, ∀ ftype,
      logLayout other start ftype = logLayout packet start ftype := by
    intro start early ftype
    have trans : other.transAt start = packet.transAt start := by
      rw [DarPktBytes.transAt, DarPktBytes.transAt, front start (by omega)]
    have sizeCode : other.sizeAt start = packet.sizeAt start := by
      rw [DarPktBytes.sizeAt, DarPktBytes.sizeAt, front start (by omega)]
    have rwEnd : other.rwEnd start = packet.rwEnd start := by
      rw [DarPktBytes.rwEnd, DarPktBytes.rwEnd, size]
    unfold logLayout nreadLayout nwriteLayout swriteLayout mtcLayout dstmLayout msgLayout respLayout
    rw [trans, sizeCode, rwEnd, size, front (start + 1) (by omega)]
    simp only [wptrAt]
  have logStart : other.logStart = packet.logStart := by
    rw [DarPktBytes.logStart, DarPktBytes.logStart, front 1 (by decide)]
  unfold DarPktBytes.layout
  rw [logStart, DarPktBytes.ftype, front 1 (by decide)]
  cases found : packet.logStart with
  | none => rfl
  | some start => exact logical start (DarPktBytes.logStart_le found) _

/-- The packet with the highest bit of one byte changed. -/
def DarPktBytes.flip (packet : DarPktBytes) (place : Nat) (inside : place < rioMaxPktBytes) :
    DarPktBytes :=
  { packet with pktData := packet.pktData.set place (packet.pktData[place] ^^^ 0x80#8) }

section Flip

variable (packet : DarPktBytes) {place : Nat} (inside : place < rioMaxPktBytes)

theorem flip_read_ne {i : Nat} (other : i ≠ place) :
    (packet.flip place inside).pktData.read i = packet.pktData.read i :=
  Vector.getElem?_set_ne inside (Ne.symm other)

theorem flip_byteAt : (packet.flip place inside).byteAt place = packet.byteAt place ^^^ 0x80 := by
  have flipped : (packet.flip place inside).pktData.read place =
      some (packet.pktData[place] ^^^ 0x80#8) := Vector.getElem?_set_self inside
  have original : packet.pktData.read place = some packet.pktData[place] :=
    Vector.getElem?_eq_getElem inside
  rw [DarPktBytes.byteAt_of_read flipped, DarPktBytes.byteAt_of_read original, BitVec.toNat_xor]
  rfl

theorem flip_byteAt_ne {i : Nat} (other : i ≠ place) :
    (packet.flip place inside).byteAt i = packet.byteAt i := by
  rw [DarPktBytes.byteAt, DarPktBytes.byteAt, flip_read_ne packet inside other]

theorem flip_layout (behind : 8 ≤ place) : (packet.flip place inside).layout = packet.layout := by
  apply layout_congr
  · rfl
  · exact fun i front => flip_byteAt_ne packet inside (by omega)
  · intro i
    by_cases same : i = place
    · rw [same, flip_byteAt, Nat.and_xor_distrib_right]
      exact Nat.xor_zero _
    · rw [flip_byteAt_ne packet inside same]

theorem flip_agreeTo {n : Nat} (behind : n ≤ place) : AgreeTo n packet (packet.flip place inside) :=
  ⟨rfl, rfl, rfl, rfl, fun _ front => flip_read_ne packet inside (by omega)⟩

end Flip

theorem not_flow_of_consumed (long : 8 < packet.layout.consumed) :
    packet.logStart ≠ none → packet.ftype ≠ 7 := by
  intro defined flow
  obtain ⟨start, found⟩ := Option.ne_none_iff_exists'.mp defined
  have early := DarPktBytes.logStart_le found
  rw [layout_of_flow found flow] at long
  have consumed : (fcLayout start).consumed = start + 2 := rfl
  omega

section

variable (bounded : packet.numChars ≤ rioMaxPktBytes) (least : 8 ≤ packet.numChars)
include bounded least

theorem decoded_seen (long : 8 < packet.layout.consumed)
    (fields : DarPktFields) :
    packet.layout.seen (decoded packet fields).2 =
      (packet.byteAt (packet.layout.consumed - 1)).testBit 7 := by
  have meets := (@decodeBody_agrees rioMaxPktBytes packet (Nat.le_refl _) (by decide) bounded
    (layout_sound packet).consumed_le (not_flow_of_consumed long)).meets (SameTo.refl _)
  obtain ⟨normal, early⟩ := meets (show At packet 0 _ ⟨packet, fields, 0⟩ from ⟨rfl, rfl, trivial⟩)
  rw [decoded, darPktBytesToFields_eq, if_neg (Nat.not_lt.mpr least)]
  cases ran : decodeBody.run ⟨packet, fields, 0⟩ with
  | ok value after => exact (normal ran).2 long
  | error stop after => exact (early ran).2 long

theorem decoded_stale
    (truncated : packet.numChars < packet.layout.consumed) (fields : DarPktFields) :
    ¬ReadsOnlyPacket packet fields := by
  intro readsOnly
  have long : 8 < packet.layout.consumed := by omega
  have inside : packet.layout.consumed - 1 < rioMaxPktBytes := by
    have fits := (layout_sound packet).consumed_le
    omega
  have layout_eq := flip_layout packet inside (by omega)
  have same := readsOnly _ (flip_agreeTo packet inside (by omega))
  have original := decoded_seen bounded least long fields
  have flipped := @decoded_seen (packet.flip _ inside) bounded least
    (by rw [layout_eq]; exact long) fields
  rw [layout_eq, same, original, flip_byteAt, Nat.testBit_xor] at flipped
  cases bit : (packet.byteAt (packet.layout.consumed - 1)).testBit 7 <;> rw [bit] at flipped <;>
    cases flipped

theorem decoded_complete
    (complete : packet.layout.consumed ≤ packet.numChars) (fields : DarPktFields) :
    ReadsOnlyPacket packet fields := by
  intro other agree
  have related : SameTo packet.numChars ⟨packet, fields, 0⟩ ⟨other, fields, 0⟩ :=
    ⟨agree, rfl, rfl⟩
  have alike : ∃ Post Fail, Alike (SameTo packet.numChars) Post Fail
      (decodeBody.run ⟨packet, fields, 0⟩) (decodeBody.run ⟨other, fields, 0⟩) := by
    by_cases flow : packet.logStart ≠ none ∧ packet.ftype = 7
    · exact ⟨_, _, decodeBody_flow bounded least flow.1 flow.2 related
        (show At packet 0 (fun kept => kept.pktBytes = fields.pktBytes) _ from ⟨rfl, rfl, rfl⟩)⟩
    · exact ⟨_, _, decodeBody_agrees bounded least (Nat.le_refl _) complete
        (fun defined isFlow => flow ⟨defined, isFlow⟩) related ⟨rfl, rfl, trivial⟩⟩
  obtain ⟨Post, Fail, alike⟩ := alike
  rw [decoded, decoded, darPktBytesToFields_eq, darPktBytesToFields_eq, agree.numChars,
    if_neg (Nat.not_lt.mpr least), if_neg (Nat.not_lt.mpr least)]
  generalize decodeBody.run ⟨packet, fields, 0⟩ = ran,
    decodeBody.run ⟨other, fields, 0⟩ = otherRan at alike
  cases alike with
  | ok same _ => exact Prod.ext rfl same.fieldsOut
  | error same _ => exact Prod.ext rfl same.fieldsOut

end

/-- The decoder reads the packet only exactly if the packet is refused for its length, or has all
bytes that its header asks for. -/
theorem readsOnlyPacket_iff {packet : DarPktBytes} (bounded : packet.numChars ≤ rioMaxPktBytes)
    (fields : DarPktFields) :
    ReadsOnlyPacket packet fields ↔
      packet.numChars < 8 ∨ packet.layout.consumed ≤ packet.numChars := by
  by_cases short : packet.numChars < 8
  · refine iff_of_true ?_ (Or.inl short)
    intro other agree
    rw [decoded, decoded, darPktBytesToFields_eq, darPktBytesToFields_eq, agree.numChars,
      if_pos short, if_pos short]
  · have least := Nat.not_lt.mp short
    constructor
    · intro readsOnly
      right
      by_contra truncated
      exact decoded_stale bounded least (Nat.not_le.mp truncated) fields readsOnly
    · intro whole
      exact decoded_complete bounded least (whole.resolve_left short) fields

/-- A read request with a 34-bit address has ten bytes. -/
def readSample (numChars : Nat) : DarPktBytes :=
  { darUtilPktBytesInit with
    numChars := numChars
    pktData := ((Vector.replicate rioMaxPktBytes 0).set 1 2 one_lt_rioMaxPktBytes).set 4 0x48 }

theorem readsOnlyPacket_readSample :
    (readSample 10).numChars ≤ rioMaxPktBytes ∧
      ReadsOnlyPacket (readSample 10) DarPktFields.cleared :=
  ⟨by decide, (readsOnlyPacket_iff (by decide) DarPktFields.cleared).mpr
    (Or.inr (by decide +kernel))⟩

/-- Cut off after eight bytes it is decoded all the same, with two bytes of the address from behind
the packet. -/
theorem readSample_stale :
    ∃ other, AgreeTo 8 (readSample 8) other ∧
      (decoded (readSample 8) DarPktFields.cleared).1 = none ∧
      (decoded (readSample 8) DarPktFields.cleared).2.logRw.addr0 = 0 ∧
      (decoded other DarPktFields.cleared).1 = none ∧
      (decoded other DarPktFields.cleared).2.logRw.addr0 = 0x80 ∧
      ¬ReadsOnlyPacket (readSample 8) DarPktFields.cleared := by
  have agree : AgreeTo 8 (readSample 8) ((readSample 8).flip 9 (by decide)) :=
    flip_agreeTo _ _ (by decide)
  have first : (decoded (readSample 8) DarPktFields.cleared).2.logRw.addr0 = 0 := by decide +kernel
  have second : (decoded ((readSample 8).flip 9 (by decide))
      DarPktFields.cleared).2.logRw.addr0 = 0x80 := by decide +kernel
  refine ⟨_, agree, by decide +kernel, first, by decide +kernel, second, fun readsOnly => ?_⟩
  rw [readsOnly _ agree, first] at second
  cases second

end RioFabric.Packet

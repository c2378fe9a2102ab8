import RioFabric.Lib.Bits
import RioFabric.Packet.Parse
import RioFabric.Packet.Composed

/-!
# Parsing a composed header

Reading back the physical header, the transport header and the address that composition
writes.  A stretch of packet memory is described by the list of bytes it holds, `Ahead`.
-/

namespace RioFabric.Packet

open Lib

/-- Packet memory holds `bytes` from `index` on. -/
def PktData.Ahead (pkt : PktData) : Nat → List Byte → Prop
  | _, [] => True
  | index, value :: rest => pkt.read index = some value ∧ pkt.Ahead (index + 1) rest

namespace PktData

@[simp] theorem ahead_nil (pkt : PktData) (index : Nat) : pkt.Ahead index [] := True.intro

variable {pkt : PktData} {index : Nat} {bytes : List Byte}

@[simp] theorem ahead_cons {value : Byte} {rest : List Byte} :
    pkt.Ahead index (value :: rest) ↔
      pkt.read index = some value ∧ pkt.Ahead (index + 1) rest := Iff.rfl

theorem ahead_append {left right : List Byte} :
    pkt.Ahead index (left ++ right) ↔
      pkt.Ahead index left ∧ pkt.Ahead (index + left.length) right := by
  induction left generalizing index with
  | nil => simp
  | cons value rest ih =>
    simp only [List.cons_append, ahead_cons, ih, List.length_cons, and_assoc]
    rw [Nat.add_right_comm index 1 rest.length, Nat.add_assoc]

theorem Ahead.read {offset : Nat} {value : Byte} (ahead : pkt.Ahead index bytes)
    (present : bytes[offset]? = some value) :
    pkt.read (index + offset) = some value := by
  induction bytes generalizing index offset with
  | nil => simp at present
  | cons first rest ih =>
    cases offset with
    | zero =>
      rw [List.getElem?_cons_zero] at present
      exact present ▸ ahead.1
    | succ offset =>
      rw [List.getElem?_cons_succ] at present
      rw [← Nat.add_assoc, Nat.add_right_comm]
      exact ih ahead.2 present

theorem ahead_of_getElem?
    (same : ∀ offset < bytes.length, pkt.read (index + offset) = bytes[offset]?) :
    pkt.Ahead index bytes := by
  induction bytes generalizing index with
  | nil => exact ahead_nil pkt index
  | cons first rest ih =>
    refine ⟨same 0 (Nat.succ_pos _), ih ?_⟩
    intro offset inside
    have here := same (offset + 1) (Nat.succ_lt_succ inside)
    rw [List.getElem?_cons_succ] at here
    rw [Nat.add_right_comm]
    exact here

end PktData

theorem toNat_u8 {value : Nat} (bounded : value < 2 ^ 8) : (u8 value).toNat = value :=
  (BitVec.toNat_ofNat _ _).trans (Nat.mod_eq_of_lt bounded)

section Run

variable {state : ParseState}

@[simp] theorem skip_run (count : Nat) :
    (skip count).run state = .ok () { state with pktIndex := state.pktIndex + count } := rfl

@[simp] theorem setFields_run (change : DarPktFields → DarPktFields) :
    (setFields change).run state =
      .ok () { state with fieldsOut := change state.fieldsOut } := rfl

theorem peek_run (offset : Nat) :
    (peek offset).run state =
      match state.bytesIn.pktData.read (state.pktIndex + offset) with
      | some value => .ok value.toNat state
      | none => .error .fault state := by
  simp only [peek, EStateM.run_bind, EStateM.run_get]
  cases state.bytesIn.pktData.read (state.pktIndex + offset) <;> rfl

theorem next_run :
    next.run state =
      match state.bytesIn.pktData.read state.pktIndex with
      | some value => .ok value.toNat { state with pktIndex := state.pktIndex + 1 }
      | none => .error .fault state := by
  simp only [next, EStateM.run_bind, peek_run, Nat.add_zero]
  cases state.bytesIn.pktData.read state.pktIndex <;> rfl

theorem getWptr_run :
    getWptr.run state =
      match state.bytesIn.pktData.read (state.pktIndex - 1) with
      | some value => .ok ((value.toNat &&& 4) >>> 2) state
      | none => .error .fault state := by
  simp only [getWptr, EStateM.run_bind, EStateM.run_get]
  cases state.bytesIn.pktData.read (state.pktIndex - 1) <;> rfl

end Run

/-- Members of the physical and transport header that fit their wire fields. -/
structure DarPktFields.FrontFits (fields : DarPktFields) : Prop where
  pktVc : fields.phys.pktVc ≤ 1
  pktPrio : fields.phys.pktPrio ≤ 3
  destId : fields.trans.destId < if fields.trans.ttCode = .ttSmall then 2 ^ 8 else 2 ^ 16
  srcId : fields.trans.srcId < if fields.trans.ttCode = .ttSmall then 2 ^ 8 else 2 ^ 16

/-- The front of a description after parsing: the ackID is 0 and the hop count is left
alone. -/
def DarPktFields.withFront (out fields : DarPktFields) : DarPktFields :=
  { out with
    phys := { fields.phys with pktAckId := 0 }
    trans := { fields.trans with hopcount := out.trans.hopcount } }

variable {fields out : DarPktFields} {packet : DarPktBytes}

theorem physHdr_fields (fits : fields.FrontFits) (byte0 byte1 : Byte)
    (written : physHdrBytes fields = [byte0, byte1]) :
    (byte0.toNat &&& 0xFC) >>> 2 = 0 ∧ (byte0.toNat &&& 2) >>> 1 = fields.phys.pktVc ∧
      decide (byte0.toNat &&& 1 ≠ 0) = fields.phys.crf ∧
      (byte1.toNat &&& 0xC0) >>> 6 = fields.phys.pktPrio ∧
      RioTtCode.ofCode ((byte1.toNat &&& 0x30) >>> 4) = fields.trans.ttCode ∧
      byte1.toNat &&& 0x0F = darUtilGetFtype fields.pktType % 16 := by
  have vc := fits.pktVc
  have prio := fits.pktPrio
  simp only [physHdrBytes, List.cons.injEq, and_true] at written
  obtain ⟨rfl, rfl⟩ := written
  generalize fields.phys.pktVc = pktVc at vc
  generalize fields.phys.pktPrio = pktPrio at prio
  have first : ∀ crf : Bool, ∀ pktVc ≤ 1,
      let byte := (u8 (((if pktVc ≠ 0 then 1 else 0) <<< 1) ||| (if crf then 1 else 0))).toNat
      (byte &&& 0xFC) >>> 2 = 0 ∧ (byte &&& 2) >>> 1 = pktVc ∧
        decide (byte &&& 1 ≠ 0) = crf := by decide
  have second : ∀ pktPrio ≤ 3, ∀ ftype ≤ 16,
      let byte := (u8 (((pktPrio &&& 3) <<< 6) ||| (fields.trans.ttCode.code <<< 4) |||
        (ftype &&& 0xF))).toNat
      (byte &&& 0xC0) >>> 6 = pktPrio ∧
        RioTtCode.ofCode ((byte &&& 0x30) >>> 4) = fields.trans.ttCode ∧
        byte &&& 0x0F = ftype % 16 := by
    cases fields.trans.ttCode <;> decide
  have ftype_le : darUtilGetFtype fields.pktType ≤ 16 := by cases fields.pktType <;> decide
  obtain ⟨ack, vc_eq, crf_eq⟩ := first fields.phys.crf pktVc vc
  exact ⟨ack, vc_eq, crf_eq, second pktPrio prio _ ftype_le⟩

theorem parsePhysHdr_run (fits : fields.FrontFits)
    (ahead : packet.pktData.Ahead 0 (physHdrBytes fields)) :
    parsePhysHdr.run ⟨packet, out, 0⟩ =
      .ok (darUtilGetFtype fields.pktType % 16)
        ⟨packet, { out with
          phys := { fields.phys with pktAckId := 0 }
          trans.ttCode := fields.trans.ttCode }, 2⟩ := by
  obtain ⟨byte0, byte1, written⟩ : ∃ byte0 byte1, physHdrBytes fields = [byte0, byte1] :=
    ⟨_, _, rfl⟩
  obtain ⟨ack, vc, crf, prio, tt, ftype⟩ := physHdr_fields fits byte0 byte1 written
  rw [written] at ahead
  simp only [PktData.ahead_cons, PktData.ahead_nil, and_true] at ahead
  simp only [parsePhysHdr, EStateM.run_bind, next_run, ahead.1, ahead.2, setFields_run,
    EStateM.run_pure, ack, vc, crf, prio, tt, ftype]

theorem parseTransHdr_run {index : Nat} (fits : fields.FrontFits)
    (ttDefined : fields.trans.ttCode.Defined) (sameTt : out.trans.ttCode = fields.trans.ttCode)
    (ahead : packet.pktData.Ahead index (transHdrBytes fields.trans)) :
    parseTransHdr.run ⟨packet, out, index⟩ =
      .ok () ⟨packet, { out with
          trans.destId := fields.trans.destId
          trans.srcId := fields.trans.srcId },
        index + (transHdrBytes fields.trans).length⟩ := by
  have dest := fits.destId
  have src := fits.srcId
  rcases ttDefined with small | large
  · rw [small, if_pos rfl] at dest src
    simp only [transHdrBytes, small, PktData.ahead_cons, PktData.ahead_nil, and_true] at ahead
    rw [small] at sameTt
    simp only [parseTransHdr, EStateM.run_bind, EStateM.run_get, sameTt, next_run, ahead.1,
      ahead.2, setFields_run, BitVec.toNat_ofNat, low_byte, Nat.mod_eq_of_lt dest,
      Nat.mod_eq_of_lt src, transHdrBytes, small, List.length_cons, List.length_nil,
      Nat.add_assoc]
  · rw [large, if_neg (by decide)] at dest src
    simp only [transHdrBytes, large, PktData.ahead_cons, PktData.ahead_nil, and_true] at ahead
    obtain ⟨first, second, third, fourth⟩ := ahead
    rw [large] at sameTt
    simp only [parseTransHdr, EStateM.run_bind, EStateM.run_get, sameTt, next_run, first,
      second, third, fourth, setFields_run, BitVec.toNat_ofNat, low_byte,
      two_bytes dest, two_bytes src, transHdrBytes, large, List.length_cons, List.length_nil,
      Nat.add_assoc]

/-- An address that fits the wire field of its size. -/
def DarPktLogRwHdr.AddrFits (hdr : DarPktLogRwHdr) : Prop :=
  match hdr.pktAddrSize with
  | .rioAddr21 => hdr.addr0 < 2 ^ 24
  | .rioAddr32 => hdr.addr0 < 2 ^ 32
  | .rioAddr34 => hdr.addr0 < 2 ^ 32 ∧ hdr.addr1 < 2 ^ 2
  | .rioAddr50 => hdr.addr0 < 2 ^ 32 ∧ hdr.addr1 < 2 ^ 18
  | .rioAddr66 => hdr.addr0 < 2 ^ 32 ∧ hdr.addr1 < 2 ^ 32 ∧ hdr.addr2 < 2 ^ 2

/-- The words `addr[1]` and `addr[2]`, those outside the address size cleared. -/
def DarPktLogRwHdr.upperAddr (hdr : DarPktLogRwHdr) : Nat × Nat :=
  match hdr.pktAddrSize with
  | .rioAddr21 | .rioAddr32 => (0, 0)
  | .rioAddr34 | .rioAddr50 => (hdr.addr1, 0)
  | .rioAddr66 => (hdr.addr1, hdr.addr2)

theorem addr_last_byte (addr0 : Nat) {wptr xamsbs : Nat} (wptr_lt : wptr < 2)
    (xamsbs_lt : xamsbs < 4) :
    let last := ((addr0 &&& 0x000000F8) + ((wptr &&& 1) <<< 2) + xamsbs) % 2 ^ 8
    last &&& 0xF8 = addr0 % 2 ^ 8 / 8 * 8 ∧ last &&& 3 = xamsbs ∧ (last &&& 4) >>> 2 = wptr := by
  have every : ∀ bits < 32, ∀ wptr < 2, ∀ xamsbs < 4,
      let last := (bits * 8 + ((wptr &&& 1) <<< 2) + xamsbs) % 2 ^ 8
      last &&& 0xF8 = bits * 8 ∧ last &&& 3 = xamsbs ∧ (last &&& 4) >>> 2 = wptr := by decide
  have bits_eq : addr0 % 2 ^ 8 / 8 = addr0 / 2 ^ 3 % 2 ^ 5 := by omega
  rw [bits_eq, and_field addr0 0x000000F8 3 5 rfl]
  exact every _ (by omega) wptr wptr_lt xamsbs xamsbs_lt

/-- A doubleword address: the low three bits cleared. -/
abbrev dwAddr (addr : Nat) : Nat := addr / 8 * 8

section

variable (hdr : DarPktLogRwHdr)

/-- The extended address bits that share the last byte with the word pointer. -/
def DarPktLogRwHdr.xamsbs : Nat :=
  match hdr.pktAddrSize with
  | .rioAddr66 => hdr.addr2 &&& 3
  | .rioAddr50 => (hdr.addr1 >>> 16) &&& 3
  | .rioAddr34 => hdr.addr1 &&& 3
  | .rioAddr32 | .rioAddr21 => 0

theorem xamsbs_lt : hdr.xamsbs < 4 := by
  have masked : ∀ value : Nat, value &&& 3 < 4 := by
    intro value
    exact Nat.and_lt_two_pow value (show 3 < 2 ^ 2 by decide)
  unfold DarPktLogRwHdr.xamsbs
  split <;> first | exact masked _ | decide

/-- The bytes of the second address word. -/
def DarPktLogRwHdr.upperBytes : List Byte :=
  match hdr.pktAddrSize with
  | .rioAddr66 =>
    [u8 ((hdr.addr1 >>> 24) &&& 0x000000FF), u8 ((hdr.addr1 >>> 16) &&& 0x000000FF),
     u8 ((hdr.addr1 >>> 8) &&& 0x000000FF), u8 (hdr.addr1 &&& 0x000000FF)]
  | .rioAddr50 => [u8 ((hdr.addr1 >>> 8) &&& 0x000000FF), u8 (hdr.addr1 &&& 0x000000FF)]
  | .rioAddr34 | .rioAddr32 | .rioAddr21 => []

/-- The bytes of the first address word. -/
def DarPktLogRwHdr.lowerBytes (wptr : Nat) : List Byte :=
  (if hdr.pktAddrSize = .rioAddr21 then [] else [u8 ((hdr.addr0 >>> 24) &&& 0x000000FF)]) ++
    [u8 ((hdr.addr0 &&& 0x00FF0000) >>> 16), u8 ((hdr.addr0 &&& 0x0000FF00) >>> 8),
     u8 ((hdr.addr0 &&& 0x000000F8) + ((wptr &&& 1) <<< 2) + hdr.xamsbs)]

theorem wireAddr_eq (wptr : Nat) :
    hdr.wireAddr wptr = hdr.upperBytes ++ hdr.lowerBytes wptr := by
  unfold DarPktLogRwHdr.wireAddr DarPktLogRwHdr.upperBytes DarPktLogRwHdr.lowerBytes
    DarPktLogRwHdr.xamsbs rwAddrBytes
  cases hdr.pktAddrSize <;> rfl

end

section Address

variable {hdr : DarPktLogRwHdr} {packet : DarPktBytes} {out : DarPktFields} {index wptr : Nat}

theorem getUpperAddr_run (fits : hdr.AddrFits) (wptr_lt : wptr < 2)
    (ahead : packet.pktData.Ahead index (hdr.wireAddr wptr)) :
    (getUpperAddr hdr.pktAddrSize).run ⟨packet, out, index⟩ =
      .ok hdr.upperAddr ⟨packet, out, index + hdr.upperBytes.length⟩ := by
  obtain ⟨-, low, -⟩ := addr_last_byte hdr.addr0 wptr_lt (xamsbs_lt hdr)
  rw [wireAddr_eq] at ahead
  unfold DarPktLogRwHdr.AddrFits at fits
  cases size : hdr.pktAddrSize <;>
    simp only [size, DarPktLogRwHdr.upperBytes, DarPktLogRwHdr.lowerBytes,
      DarPktLogRwHdr.xamsbs, reduceCtorEq, if_false, List.nil_append, List.cons_append,
      PktData.ahead_cons, PktData.ahead_nil, and_true] at fits ahead low
  case rioAddr21 | rioAddr32 =>
    simp only [getUpperAddr, EStateM.run_pure, DarPktLogRwHdr.upperAddr,
      DarPktLogRwHdr.upperBytes, size]
    rfl
  case rioAddr34 =>
    have addr1_eq : hdr.addr1 &&& 3 = hdr.addr1 := by
      rw [and_field hdr.addr1 3 0 2 rfl]
      omega
    rw [addr1_eq] at ahead low
    simp only [getUpperAddr, EStateM.run_bind, peek_run, ahead, BitVec.toNat_ofNat, low,
      EStateM.run_pure, DarPktLogRwHdr.upperAddr,
      DarPktLogRwHdr.upperBytes, size]
    rfl
  case rioAddr50 =>
    have addr1_eq : (hdr.addr1 >>> 16 &&& 3) <<< 16 ||| (hdr.addr1 >>> 8 % 2 ^ 8) <<< 8 |||
        hdr.addr1 % 2 ^ 8 = hdr.addr1 := by
      have top : hdr.addr1 >>> 16 &&& 3 = hdr.addr1 >>> 16 % 2 ^ 8 := by
        rw [and_field (hdr.addr1 >>> 16) 3 0 2 rfl, Nat.shiftRight_eq_div_pow]
        omega
      rw [top, three_bytes (by omega) (by omega)]
      omega
    simp only [getUpperAddr, EStateM.run_bind, peek_run, next_run, ahead, BitVec.toNat_ofNat,
      low_byte, low, EStateM.run_pure, DarPktLogRwHdr.upperAddr,
      DarPktLogRwHdr.upperBytes, size, addr1_eq]
    rfl
  case rioAddr66 =>
    have addr2_eq : hdr.addr2 &&& 3 = hdr.addr2 := by
      rw [and_field hdr.addr2 3 0 2 rfl]
      omega
    rw [addr2_eq] at ahead low
    have addr1_eq : hdr.addr1 / 2 ^ 8 * 2 ^ 8 + hdr.addr1 % 2 ^ 8 = hdr.addr1 := by omega
    simp only [getUpperAddr, EStateM.run_bind, peek_run, next_run, ahead, BitVec.toNat_ofNat,
      low_byte, low, EStateM.run_pure, DarPktLogRwHdr.upperAddr,
      DarPktLogRwHdr.upperBytes, size,
      four_bytes fits.2.1 (Nat.mod_lt hdr.addr1 (show 0 < 2 ^ 8 by decide)), addr1_eq]
    rfl

theorem getLowerAddr_run (fits : hdr.AddrFits) (wptr_lt : wptr < 2)
    (ahead : packet.pktData.Ahead index (hdr.lowerBytes wptr)) :
    (getLowerAddr hdr.pktAddrSize).run ⟨packet, out, index⟩ =
      .ok (dwAddr hdr.addr0) ⟨packet, out, index + (hdr.lowerBytes wptr).length⟩ := by
  obtain ⟨last, -, -⟩ := addr_last_byte hdr.addr0 wptr_lt (xamsbs_lt hdr)
  have low_lt : hdr.addr0 % 2 ^ 8 / 8 * 8 < 2 ^ 8 := by omega
  have whole : hdr.addr0 / 2 ^ 8 * 2 ^ 8 + hdr.addr0 % 2 ^ 8 / 8 * 8 = dwAddr hdr.addr0 := by
    unfold dwAddr
    omega
  unfold DarPktLogRwHdr.AddrFits at fits
  by_cases small : hdr.pktAddrSize = .rioAddr21
  · simp only [small] at fits
    simp only [DarPktLogRwHdr.lowerBytes, small, if_true, List.nil_append, PktData.ahead_cons,
      PktData.ahead_nil, and_true] at ahead
    simp only [small, getLowerAddr, EStateM.run_bind, next_run, ahead, BitVec.toNat_ofNat,
      masked_byte _ 0x00FF0000 16 rfl, masked_byte _ 0x0000FF00 8 rfl, last,
      three_bytes fits low_lt, whole, EStateM.run_pure, DarPktLogRwHdr.lowerBytes]
    rfl
  · have addr0_lt : hdr.addr0 < 2 ^ 32 := by
      cases size : hdr.pktAddrSize <;> simp only [size] at fits small <;> omega
    simp only [DarPktLogRwHdr.lowerBytes, small, if_false, List.cons_append, List.nil_append,
      PktData.ahead_cons, PktData.ahead_nil, and_true] at ahead
    simp only [getLowerAddr, EStateM.run_bind, next_run, ahead, BitVec.toNat_ofNat, low_byte,
      masked_byte _ 0x00FF0000 16 rfl, masked_byte _ 0x0000FF00 8 rfl, last,
      four_bytes addr0_lt low_lt, whole, EStateM.run_pure, DarPktLogRwHdr.lowerBytes, small]
    rfl

/-- An address is parsed back in each of its forms. -/
theorem darGetRwAddr_run (fits : hdr.AddrFits) (sameSize : packet.pktAddrSize = hdr.pktAddrSize)
    (wptr_lt : wptr < 2) (ahead : packet.pktData.Ahead index (hdr.wireAddr wptr)) :
    darGetRwAddr.run ⟨packet, out, index⟩ =
      .ok () ⟨packet, { out with
          logRw.pktAddrSize := hdr.pktAddrSize
          logRw.addr0 := dwAddr hdr.addr0
          logRw.addr1 := hdr.upperAddr.1
          logRw.addr2 := hdr.upperAddr.2 },
        index + (hdr.wireAddr wptr).length⟩ := by
  have lowerAhead := ahead
  rw [wireAddr_eq, PktData.ahead_append] at lowerAhead
  simp [darGetRwAddr, sameSize, getUpperAddr_run fits wptr_lt ahead, getLowerAddr_run fits
    wptr_lt lowerAhead.2, wireAddr_eq, Nat.add_assoc]

theorem getWptr_run_of_ahead (wptr_lt : wptr < 2)
    (ahead : packet.pktData.Ahead index (hdr.wireAddr wptr)) :
    getWptr.run ⟨packet, out, index + (hdr.wireAddr wptr).length⟩ =
      .ok wptr ⟨packet, out, index + (hdr.wireAddr wptr).length⟩ := by
  obtain ⟨-, -, wptr_eq⟩ := addr_last_byte hdr.addr0 wptr_lt (xamsbs_lt hdr)
  have present : (hdr.wireAddr wptr)[(hdr.wireAddr wptr).length - 1]? =
      some (u8 ((hdr.addr0 &&& 0x000000F8) + ((wptr &&& 1) <<< 2) + hdr.xamsbs)) := by
    rw [← List.getLast?_eq_getElem?, wireAddr_eq, DarPktLogRwHdr.lowerBytes]
    simp
  have position : index + (hdr.wireAddr wptr).length - 1 =
      index + ((hdr.wireAddr wptr).length - 1) := by
    have inside := (List.getElem?_eq_some_iff.mp present).1
    omega
  simp only [getWptr_run, position, ahead.read present, BitVec.toNat_ofNat, wptr_eq]

end Address

end RioFabric.Packet

import RioFabric.Lib.SideBySide
import RioFabric.Packet.Header
import RioFabric.Packet.Layout

/-!
# The decoder, byte by byte

Two runs of the decoder are followed side by side, for packets that agree on their first bytes.  As
long as nothing behind these bytes is looked at the runs are the same, and the left one does what
the layout of its packet says.
-/

namespace RioFabric.Packet

open Lib

/-- Two packets that differ behind their first `n` bytes only. -/
structure AgreeTo (n : Nat) (packet other : DarPktBytes) : Prop where
  pktAddrSize : other.pktAddrSize = packet.pktAddrSize
  pktHasCrc : other.pktHasCrc = packet.pktHasCrc
  pktPadded : other.pktPadded = packet.pktPadded
  numChars : other.numChars = packet.numChars
  pktData : ∀ i < n, other.pktData.read i = packet.pktData.read i

theorem AgreeTo.refl (n : Nat) (packet : DarPktBytes) : AgreeTo n packet packet :=
  ⟨rfl, rfl, rfl, rfl, fun _ _ => rfl⟩

variable {n : Nat} {packet : DarPktBytes} {P : DarPktFields → Prop} {state : ParseState}
  {count : Nat} {layout : Layout} {pktType : DarPktType} {plan : GetPlan} {size : RioAddrSize}

theorem AgreeTo.byteAt {other : DarPktBytes} (agree : AgreeTo n packet other) {i : Nat}
    (inside : i < n) : other.byteAt i = packet.byteAt i := by
  rw [DarPktBytes.byteAt, DarPktBytes.byteAt, agree.pktData i inside]

/-- The states of two runs that have been the same so far. -/
structure SameTo (n : Nat) (left right : ParseState) : Prop where
  bytesIn : AgreeTo n left.bytesIn right.bytesIn
  fieldsOut : right.fieldsOut = left.fieldsOut
  pktIndex : right.pktIndex = left.pktIndex

theorem SameTo.refl (n : Nat) (state : ParseState) : SameTo n state state :=
  ⟨.refl n _, rfl, rfl⟩

/-- The decoder has come to `index`, and what it has filled in so far satisfies `P`. -/
structure At (packet : DarPktBytes) (index : Nat) (P : DarPktFields → Prop) (state : ParseState) :
    Prop where
  bytesIn : state.bytesIn = packet
  pktIndex : state.pktIndex = index
  fieldsOut : P state.fieldsOut

theorem At.weaken {index : Nat} {Q : DarPktFields → Prop} (before : At packet index P state)
    (weaker : ∀ fields, P fields → Q fields) :
    At packet index Q state :=
  ⟨before.bytesIn, before.pktIndex, weaker _ before.fieldsOut⟩

/-! ## Statements -/

theorem peek_inside {offset : Nat} (inside : state.pktIndex + offset < rioMaxPktBytes) :
    (peek offset).run state = .ok (state.bytesIn.byteAt (state.pktIndex + offset)) state := by
  obtain ⟨value, read⟩ := state.bytesIn.pktData.read_some inside
  rw [peek_run, read, DarPktBytes.byteAt_of_read read]

theorem next_inside (inside : state.pktIndex < rioMaxPktBytes) :
    next.run state = .ok (state.bytesIn.byteAt state.pktIndex)
      { state with pktIndex := state.pktIndex + 1 } := by
  obtain ⟨value, read⟩ := state.bytesIn.pktData.read_some inside
  rw [next_run, read, DarPktBytes.byteAt_of_read read]

section Statements

variable {n : Nat} {packet : DarPktBytes} {index : Nat} {P : DarPktFields → Prop} {α : Type}
  {Post : α → ParseState → Prop} {Fail : DarStop → ParseState → Prop} {tail : Nat → ParseM α}
  {change : DarPktFields → DarPktFields}

theorem peekBind {offset : Nat} (inside : index + offset < n) (bounded : n ≤ rioMaxPktBytes)
    (rest : Agrees (SameTo n) (At packet index P) (tail (packet.byteAt (index + offset)))
      (tail (packet.byteAt (index + offset))) Post Fail) :
    Agrees (SameTo n) (At packet index P) (peek offset >>= tail) (peek offset >>= tail) Post
      Fail := by
  intro left right same before
  have place : left.pktIndex + offset < n := before.pktIndex ▸ inside
  have value : right.bytesIn.byteAt (right.pktIndex + offset) = packet.byteAt (index + offset) := by
    rw [same.pktIndex, same.bytesIn.byteAt place, before.bytesIn, before.pktIndex]
  have room : left.pktIndex + offset < rioMaxPktBytes := Nat.lt_of_lt_of_le place bounded
  rw [EStateM.run_bind, EStateM.run_bind, peek_inside room, peek_inside (same.pktIndex ▸ room),
    value, before.bytesIn, before.pktIndex]
  exact rest same before

theorem nextBind (inside : index < n) (bounded : n ≤ rioMaxPktBytes)
    (rest : Agrees (SameTo n) (At packet (index + 1) P) (tail (packet.byteAt index))
      (tail (packet.byteAt index)) Post Fail) :
    Agrees (SameTo n) (At packet index P) (next >>= tail) (next >>= tail) Post Fail := by
  intro left right same before
  have place : left.pktIndex < n := before.pktIndex ▸ inside
  have value : right.bytesIn.byteAt right.pktIndex = packet.byteAt index := by
    rw [same.pktIndex, same.bytesIn.byteAt place, before.bytesIn, before.pktIndex]
  have room : left.pktIndex < rioMaxPktBytes := Nat.lt_of_lt_of_le place bounded
  have leftValue : left.bytesIn.byteAt left.pktIndex = packet.byteAt index := by
    rw [before.bytesIn, before.pktIndex]
  rw [EStateM.run_bind, EStateM.run_bind, next_inside room, next_inside (same.pktIndex ▸ room),
    value, leftValue]
  exact rest ⟨same.bytesIn, same.fieldsOut, congrArg (· + 1) same.pktIndex⟩
    ⟨before.bytesIn, congrArg (· + 1) before.pktIndex, before.fieldsOut⟩

theorem skipBind {count : Nat} {tail : Unit → ParseM α}
    (rest : Agrees (SameTo n) (At packet (index + count) P) (tail ()) (tail ()) Post Fail) :
    Agrees (SameTo n) (At packet index P) (skip count >>= tail) (skip count >>= tail) Post
      Fail := by
  intro left right same before
  exact rest ⟨same.bytesIn, same.fieldsOut, congrArg (· + count) same.pktIndex⟩
    ⟨before.bytesIn, congrArg (· + count) before.pktIndex, before.fieldsOut⟩

theorem setFieldsBind (Q : DarPktFields → Prop) {tail : Unit → ParseM α}
    (holds : ∀ fields, P fields → Q (change fields))
    (rest : Agrees (SameTo n) (At packet index Q) (tail ()) (tail ()) Post Fail) :
    Agrees (SameTo n) (At packet index P) (setFields change >>= tail) (setFields change >>= tail)
      Post Fail := by
  intro left right same before
  exact rest ⟨same.bytesIn, congrArg change same.fieldsOut, same.pktIndex⟩
    ⟨before.bytesIn, before.pktIndex, holds _ before.fieldsOut⟩

theorem setFields_agrees {Post : Unit → ParseState → Prop}
    (holds : ∀ state, At packet index P state →
      Post () { state with fieldsOut := change state.fieldsOut }) :
    Agrees (SameTo n) (At packet index P) (setFields change) (setFields change) Post Fail :=
  Agrees.modify
    (fun _ _ same => ⟨same.bytesIn, congrArg change same.fieldsOut, same.pktIndex⟩) holds

theorem setAddrSizeBind (size : RioAddrSize) {tail : PUnit → ParseM α}
    (rest : Agrees (SameTo n) (At { packet with pktAddrSize := size } index P) (tail ⟨⟩) (tail ⟨⟩)
      Post Fail) :
    Agrees (SameTo n) (At packet index P)
      (modify (fun state => { state with bytesIn.pktAddrSize := size }) >>= tail)
      (modify (fun state => { state with bytesIn.pktAddrSize := size }) >>= tail) Post Fail := by
  intro left right same before
  exact rest
    ⟨⟨rfl, same.bytesIn.pktHasCrc, same.bytesIn.pktPadded, same.bytesIn.numChars,
      same.bytesIn.pktData⟩, same.fieldsOut, same.pktIndex⟩
    ⟨congrArg (fun bytesIn : DarPktBytes => { bytesIn with pktAddrSize := size }) before.bytesIn,
      before.pktIndex, before.fieldsOut⟩

theorem getWptrBind (inside : index - 1 < n) (bounded : n ≤ rioMaxPktBytes)
    (rest : Agrees (SameTo n) (At packet index P) (tail (packet.wptrAt index))
      (tail (packet.wptrAt index)) Post Fail) :
    Agrees (SameTo n) (At packet index P) (getWptr >>= tail) (getWptr >>= tail) Post Fail := by
  intro left right same before
  have looks : ∀ state : ParseState, state.pktIndex = index →
      state.bytesIn.byteAt (index - 1) = packet.byteAt (index - 1) →
      getWptr.run state = .ok (packet.wptrAt index) state := by
    intro state position value
    obtain ⟨byte, read⟩ := state.bytesIn.pktData.read_some (Nat.lt_of_lt_of_le inside bounded)
    rw [DarPktBytes.byteAt_of_read read] at value
    rw [getWptr, get_bind_run, position, read, orFail_some, pure_bind, value]
    rfl
  rw [EStateM.run_bind, EStateM.run_bind,
    looks left before.pktIndex (by rw [before.bytesIn]),
    looks right (same.pktIndex.trans before.pktIndex)
      (by rw [same.bytesIn.byteAt inside, before.bytesIn])]
  exact rest same before

end Statements

/-! ## Addresses -/

theorem lower_addr (upper last : Nat) (whole : upper % 2 ^ 8 = 0) :
    (upper ||| (last &&& 0xF8)) &&& 7 = 0 ∧
      (upper ||| (last &&& 0xF8)).testBit 7 = last.testBit 7 := by
  have masked : last &&& 0xF8 = last / 2 ^ 3 % 2 ^ 5 * 2 ^ 3 := and_field last 0xF8 3 5 rfl
  have sum : upper ||| (last &&& 0xF8) = upper + last / 2 ^ 3 % 2 ^ 5 * 2 ^ 3 := by
    rw [masked, or_eq_add 8 whole (by omega)]
  constructor
  · rw [sum, and_field _ 7 0 3 rfl]
    omega
  · rw [sum, Nat.testBit_eq_decide_div_mod_eq, Nat.testBit_eq_decide_div_mod_eq]
    congr 1
    rw [eq_iff_iff]
    omega

theorem or_whole {left right : Nat} (left_eq : left % 2 ^ 8 = 0) (right_eq : right % 2 ^ 8 = 0) :
    (left ||| right) % 2 ^ 8 = 0 := by
  rw [Nat.or_mod_two_pow, left_eq, right_eq]
  rfl

theorem shiftLeft_whole (value : Nat) (moved : 8 ≤ count) :
    (value <<< count) % 2 ^ 8 = 0 := by
  rw [Nat.shiftLeft_eq]
  exact Nat.mod_eq_zero_of_dvd (Nat.dvd_mul_left_of_dvd (Nat.pow_dvd_pow 2 moved) value)

section Address

variable {n : Nat} {packet : DarPktBytes} {P : DarPktFields → Prop} {α : Type}
  {Post : α → ParseState → Prop} {Fail : DarStop → ParseState → Prop} {start : Nat}

theorem getUpperAddrBind {tail : Nat × Nat → ParseM α} (bounded : n ≤ rioMaxPktBytes)
    (inside : start + packet.pktAddrSize.addrCount ≤ n)
    (rest : ∀ upper, Agrees (SameTo n) (At packet (start + packet.pktAddrSize.upperCount) P)
      (tail upper) (tail upper) Post Fail) :
    Agrees (SameTo n) (At packet start P) (getUpperAddr packet.pktAddrSize >>= tail)
      (getUpperAddr packet.pktAddrSize >>= tail) Post Fail := by
  cases size : packet.pktAddrSize with
  | rioAddr66 =>
    rw [size] at inside rest
    have room : start + 8 ≤ n := inside
    simp only [getUpperAddr, bind_assoc, pure_bind]
    apply peekBind (by omega) bounded
    apply nextBind (by omega) bounded
    apply nextBind (by omega) bounded
    apply nextBind (by omega) bounded
    apply nextBind (by omega) bounded
    exact rest _
  | rioAddr50 =>
    rw [size] at inside rest
    have room : start + 6 ≤ n := inside
    simp only [getUpperAddr, bind_assoc, pure_bind]
    apply peekBind (by omega) bounded
    apply nextBind (by omega) bounded
    apply nextBind (by omega) bounded
    exact rest _
  | rioAddr34 =>
    rw [size] at inside rest
    have room : start + 4 ≤ n := inside
    simp only [getUpperAddr, bind_assoc, pure_bind]
    apply peekBind (by omega) bounded
    exact rest _
  | rioAddr32 | rioAddr21 =>
    rw [size] at rest
    exact rest _

theorem getLowerAddrBind {size : RioAddrSize} {tail : Nat → ParseM α}
    (bounded : n ≤ rioMaxPktBytes) (inside : start + size.lowerCount ≤ n)
    (rest : ∀ lower, lower &&& 7 = 0 →
      lower.testBit 7 = (packet.byteAt (start + size.lowerCount - 1)).testBit 7 →
      Agrees (SameTo n) (At packet (start + size.lowerCount) P) (tail lower) (tail lower) Post
        Fail) :
    Agrees (SameTo n) (At packet start P) (getLowerAddr size >>= tail)
      (getLowerAddr size >>= tail) Post Fail := by
  cases size with
  | rioAddr21 =>
    have room : start + 3 ≤ n := inside
    simp only [getLowerAddr, bind_assoc, pure_bind]
    apply nextBind (by omega) bounded
    apply nextBind (by omega) bounded
    apply nextBind (by omega) bounded
    obtain ⟨aligned, last⟩ := lower_addr
      ((packet.byteAt start <<< 16) ||| (packet.byteAt (start + 1) <<< 8))
      (packet.byteAt (start + 2))
      (or_whole (shiftLeft_whole _ (by decide)) (shiftLeft_whole _ (by decide)))
    exact rest _ aligned last
  | rioAddr66 | rioAddr50 | rioAddr34 | rioAddr32 =>
    have room : start + 4 ≤ n := inside
    simp only [getLowerAddr, bind_assoc, pure_bind]
    apply nextBind (by omega) bounded
    apply nextBind (by omega) bounded
    apply nextBind (by omega) bounded
    apply nextBind (by omega) bounded
    obtain ⟨aligned, last⟩ := lower_addr
      ((packet.byteAt start <<< 24) ||| (packet.byteAt (start + 1) <<< 16) |||
        (packet.byteAt (start + 2) <<< 8))
      (packet.byteAt (start + 3))
      (or_whole (or_whole (shiftLeft_whole _ (by decide)) (shiftLeft_whole _ (by decide)))
        (shiftLeft_whole _ (by decide)))
    exact rest _ aligned last

theorem darGetRwAddrBind (Q : DarPktFields → Prop) {tail : Unit → ParseM α}
    (bounded : n ≤ rioMaxPktBytes) (inside : start + packet.pktAddrSize.addrCount ≤ n)
    (holds : ∀ fields : DarPktFields, P fields → ∀ addr0 addr1 addr2, addr0 &&& 7 = 0 →
      addr0.testBit 7 =
        (packet.byteAt (start + packet.pktAddrSize.addrCount - 1)).testBit 7 →
      Q { fields with
        logRw.pktAddrSize := packet.pktAddrSize
        logRw.addr0 := addr0
        logRw.addr1 := addr1
        logRw.addr2 := addr2 })
    (rest : Agrees (SameTo n) (At packet (start + packet.pktAddrSize.addrCount) Q) (tail ())
      (tail ()) Post Fail) :
    Agrees (SameTo n) (At packet start P) (darGetRwAddr >>= tail) (darGetRwAddr >>= tail) Post
      Fail := by
  simp only [darGetRwAddr, bind_assoc]
  apply Agrees.getBind
  intro left right same before
  rw [same.bytesIn.pktAddrSize, before.bytesIn]
  apply getUpperAddrBind bounded inside
  intro upper
  rw [RioAddrSize.addrCount, ← Nat.add_assoc] at inside holds rest
  apply getLowerAddrBind bounded inside
  intro lower aligned last
  apply setFieldsBind Q
  · intro fields filled
    exact holds fields filled lower upper.1 upper.2 aligned last
  · exact rest

end Address

/-! ## Logical headers -/

/-- What a header leaves in the description. -/
structure HdrFields (packet : DarPktBytes) (layout : Layout) (count align : Nat)
    (fields : DarPktFields) : Prop where
  pktBytes : fields.pktBytes = count
  align : layout.hasData = true → count ≤ 8 →
    (if unaligned fields.pktType then 0 else fields.logRw.addr0 &&& 7) = align
  inPlace : layout.rounds = 1 ∨ unaligned fields.pktType = false
  echo : 8 < layout.hdrEnd → layout.echo fields = (packet.byteAt (layout.hdrEnd - 1)).testBit 7

/-- The header has been read to its end, and the plan is what its layout says. -/
structure HdrDone (packet : DarPktBytes) (layout : Layout) (plan : GetPlan) (state : ParseState) :
    Prop where
  getData : plan.getData = layout.hasData
  repeatDataBytes : plan.repeatDataBytes = layout.rounds
  reached : ∃ size count align, layout.sizes = some (count, align) ∧
    At { packet with pktAddrSize := size } layout.hdrEnd (HdrFields packet layout count align) state

/-- The header is refused. -/
structure HdrStopped (packet : DarPktBytes) (layout : Layout) (stop : DarStop)
    (state : ParseState) : Prop where
  coded : stop ≠ .fault
  sizes : layout.sizes = none
  echo : 8 < layout.hdrEnd →
    layout.echo state.fieldsOut = (packet.byteAt (layout.hdrEnd - 1)).testBit 7

theorem hdrStopped_refused {hdrEnd : Nat} (early : hdrEnd ≤ 8) {code : DarUtilRc} :
    HdrStopped packet (.refused hdrEnd) (.rc code) state :=
  ⟨nofun, rfl, fun late => absurd late (Nat.not_lt.mpr early)⟩

/-- The description behind an address. -/
structure AddrFields (packet : DarPktBytes) (hdrEnd : Nat) (pktType : DarPktType)
    (fields : DarPktFields) : Prop where
  pktType : fields.pktType = pktType
  aligned : fields.logRw.addr0 &&& 7 = 0
  last : fields.logRw.addr0.testBit 7 = (packet.byteAt (hdrEnd - 1)).testBit 7

theorem AddrFields.merge {fields : DarPktFields}
    (addr : AddrFields packet layout.hdrEnd pktType fields) (inPlace : unaligned pktType = false)
    (echo : layout.echo = addrEcho) {align : Nat} (align_lt : align < 8) :
    HdrFields packet layout count align { fields with
      pktBytes := count
      logRw.addr0 := fields.logRw.addr0 ||| align } := by
  constructor
  · rfl
  · intro _ _
    have low : align &&& 7 = align := by
      rw [and_field align 7 0 3 rfl]
      omega
    rw [addr.pktType, inPlace, Nat.and_or_distrib_right, addr.aligned, low, Nat.zero_or]
    rfl
  · right
    rw [addr.pktType, inPlace]
  · intro _
    have clear : align.testBit 7 = false := Nat.testBit_lt_two_pow (by omega)
    rw [echo, addrEcho, Nat.testBit_or, clear, Bool.or_false]
    exact addr.last

theorem setFieldsDone {index : Nat} (layout : Layout) {change : DarPktFields → DarPktFields}
    {align : Nat} {Fail : DarStop → ParseState → Prop} (hdrEnd : index = layout.hdrEnd)
    (sizes : layout.sizes = some (count, align)) (getData : plan.getData = layout.hasData)
    (rounds : plan.repeatDataBytes = layout.rounds)
    (holds : ∀ fields, P fields → HdrFields packet layout count align (change fields)) :
    Agrees (SameTo n) (At packet index P) (do setFields change; pure plan)
      (do setFields change; pure plan) (HdrDone packet layout) Fail := by
  apply setFieldsBind (HdrFields packet layout count align) holds
  apply Agrees.pure
  intro state before
  exact ⟨getData, rounds, packet.pktAddrSize, count, align, sizes, hdrEnd ▸ before⟩

theorem rdTransOf_inPlace {code : Nat} (trans : rdTransOf code = some pktType) :
    unaligned pktType = false := by
  unfold rdTransOf at trans
  split at trans <;> cases trans <;> rfl

theorem wrTransOf_inPlace {code : Nat} (trans : wrTransOf code = some pktType) :
    unaligned pktType = false := by
  unfold wrTransOf at trans
  split at trans <;> cases trans <;> rfl

theorem mtcTransOf_inPlace (code : Nat) : unaligned (mtcTransOf code) = false := by
  unfold mtcTransOf
  split <;> rfl

theorem HdrDone.ofSize (done : HdrDone { packet with pktAddrSize := size } layout plan state) :
    HdrDone packet layout plan state := by
  obtain ⟨getData, rounds, last, count, align, sizes, reached⟩ := done
  exact ⟨getData, rounds, last, count, align, sizes, reached.weaken fun _ fields =>
    ⟨fields.pktBytes, fields.align, fields.inPlace, fields.echo⟩⟩

theorem HdrStopped.ofSize {stop : DarStop}
    (stopped : HdrStopped { packet with pktAddrSize := size } layout stop state) :
    HdrStopped packet layout stop state :=
  ⟨stopped.coded, stopped.sizes, stopped.echo⟩

theorem sizesOrFail_some (sizes : Nat × Nat) : sizesOrFail (some sizes) = pure sizes := by
  rw [sizesOrFail, if_neg nofun]
  rfl

theorem pair_testBit (high low : Nat) : ((high <<< 8) + low).testBit 7 = low.testBit 7 := by
  rw [Nat.testBit_eq_decide_div_mod_eq, Nat.testBit_eq_decide_div_mod_eq, Nat.shiftLeft_eq]
  congr 1
  rw [eq_iff_iff]
  omega

section Headers

variable {n start : Nat} {packet : DarPktBytes} (bounded : n ≤ rioMaxPktBytes)

include bounded

theorem sizedTail_agrees {layout : Layout} {pktType : DarPktType} {plan : GetPlan}
    {decode : Nat → Option (Nat × Nat)} (inside : layout.hdrEnd ≤ n) (nonempty : 0 < layout.hdrEnd)
    (sizes_eq : layout.sizes = decode (packet.wptrAt layout.hdrEnd))
    (align_lt : ∀ sizes, layout.sizes = some sizes → sizes.2 < 8)
    (getData : plan.getData = layout.hasData) (rounds : plan.repeatDataBytes = layout.rounds)
    (inPlace : unaligned pktType = false) (echo : layout.echo = addrEcho) :
    Agrees (SameTo n) (At packet layout.hdrEnd (AddrFields packet layout.hdrEnd pktType))
      (do
        let wptr ← getWptr
        let decoded ← sizesOrFail (decode wptr)
        setBytesNAlign decoded
        pure plan)
      (do
        let wptr ← getWptr
        let decoded ← sizesOrFail (decode wptr)
        setBytesNAlign decoded
        pure plan)
      (HdrDone packet layout) (HdrStopped packet layout) := by
  apply getWptrBind (by omega) bounded
  rw [← sizes_eq]
  cases sizes : layout.sizes with
  | none =>
    intro left right same before
    refine .error ⟨same.bytesIn, ?_, same.pktIndex⟩ ⟨nofun, sizes, fun _ => ?_⟩
    · exact congrArg (fun fields : DarPktFields => { fields with pktBytes := 0 }) same.fieldsOut
    · rw [echo]
      exact before.fieldsOut.last
  | some decoded =>
    rw [sizesOrFail_some, pure_bind]
    apply setFieldsBind (HdrFields packet layout decoded.1 decoded.2)
    · intro fields addr
      exact addr.merge inPlace echo (align_lt decoded sizes)
    · exact Agrees.pure fun state before =>
        ⟨getData, rounds, packet.pktAddrSize, decoded.1, decoded.2, sizes, before⟩

theorem parseSwrite_agrees (inside : (swriteLayout packet start).hdrEnd ≤ n) :
    Agrees (SameTo n) (At packet start fun _ => True) parseSwrite parseSwrite
      (HdrDone packet (swriteLayout packet start))
      (HdrStopped packet (swriteLayout packet start)) := by
  apply setFieldsBind fun _ => True
  · exact fun _ _ => trivial
  · apply darGetRwAddrBind fun fields => fields.logRw.addr0.testBit 7 =
      (packet.byteAt ((swriteLayout packet start).hdrEnd - 1)).testBit 7
    · exact bounded
    · exact inside
    · exact fun _ _ _ _ _ _ last => last
    · refine setFieldsDone (swriteLayout packet start) rfl rfl rfl rfl fun fields last => ?_
      exact ⟨rfl, fun _ short => absurd short (by decide), Or.inl rfl, fun _ => last⟩

theorem parseFc_agrees {old : Nat} {Fail : DarStop → ParseState → Prop} (inside : start + 2 ≤ n) :
    Agrees (SameTo n) (At packet start fun fields => fields.pktBytes = old) parseFc parseFc
      (fun plan state => plan = ⟨false, false, 1⟩ ∧
        At packet (start + 2) (fun fields => fields.pktBytes = old) state) Fail := by
  apply nextBind (by omega) bounded
  apply nextBind (by omega) bounded
  apply setFieldsBind fun fields => fields.pktBytes = old
  · exact fun _ same => same
  · exact Agrees.pure fun _ before => ⟨rfl, before⟩

theorem parseDb_agrees (inside : start + 4 ≤ n) :
    Agrees (SameTo n) (At packet start fun _ => True) parseDb parseDb
      (HdrDone packet (dbLayout start)) (HdrStopped packet (dbLayout start)) := by
  apply skipBind
  apply nextBind (by omega) bounded
  apply nextBind (by omega) bounded
  apply nextBind (by omega) bounded
  refine setFieldsDone (dbLayout start) rfl rfl rfl rfl fun fields _ => ?_
  refine ⟨rfl, nofun, Or.inl rfl, fun _ => ?_⟩
  have last : (u8 (packet.byteAt (start + 3))).toNat = packet.byteAt (start + 3) :=
    toNat_u8 (packet.byteAt_lt _)
  show (Vector.set _ 1 (u8 (packet.byteAt (start + 3))))[1].toNat.testBit 7 =
    (packet.byteAt (start + 3)).testBit 7
  rw [Vector.getElem_set_self, last]

omit bounded in
theorem parseRaw_agrees :
    Agrees (SameTo n) (At packet start fun _ => True) parseRaw parseRaw
      (HdrDone packet rawLayout) (HdrStopped packet rawLayout) := by
  apply setFieldsBind fun fields => fields.pktBytes = 276
  · exact fun _ _ => rfl
  · intro left right same before
    refine .ok ⟨same.bytesIn, same.fieldsOut, rfl⟩
      ⟨rfl, rfl, packet.pktAddrSize, 276, 0, rfl, before.bytesIn, rfl, before.fieldsOut, ?_,
        Or.inl rfl, nofun⟩
    exact fun _ short => absurd short (by decide)

variable (early : start ≤ 6)

include early

theorem rw_agrees {layout : Layout} {transOf : Nat → Option DarPktType}
    {decode : Nat → Nat → Option (Nat × Nat)} {plan : DarPktType → GetPlan}
    (refused : transOf (packet.transAt start) = none → layout = .refused (start + 1))
    (hdrEnd : ∀ pktType, transOf (packet.transAt start) = some pktType →
      layout.hdrEnd = packet.rwEnd start ∧ layout.echo = addrEcho)
    (sizes : ∀ pktType, transOf (packet.transAt start) = some pktType →
      layout.sizes = decode (packet.sizeAt start) (packet.wptrAt layout.hdrEnd))
    (small : ∀ wptr sizes, decode (packet.sizeAt start) wptr = some sizes → sizes.2 < 8)
    (planned : ∀ pktType, transOf (packet.transAt start) = some pktType →
      (plan pktType).getData = layout.hasData ∧ (plan pktType).repeatDataBytes = layout.rounds)
    (inPlace : ∀ pktType, transOf (packet.transAt start) = some pktType →
      unaligned pktType = false)
    (inside : layout.hdrEnd ≤ n) :
    let arm : ParseM GetPlan := do
      let byte ← next
      let pktType ← orFail (transOf ((byte &&& 0xF0) >>> 4)) (.rc .unknownTrans)
      let tid ← next
      setFields fun fields => { fields with pktType := pktType, logRw.tid := tid }
      darGetRwAddr
      let wptr ← getWptr
      let decoded ← sizesOrFail (decode (byte &&& 0xF) wptr)
      setBytesNAlign decoded
      pure (plan pktType)
    Agrees (SameTo n) (At packet start fun _ => True) arm arm (HdrDone packet layout)
      (HdrStopped packet layout) := by
  intro arm
  cases trans : transOf (packet.transAt start) with
  | none =>
    rw [refused trans] at inside ⊢
    apply nextBind inside bounded
    apply Agrees.orFailBind
    · exact fun _ _ _ => hdrStopped_refused (by omega)
    · intro pktType present
      cases trans.symm.trans present
  | some pktType =>
    obtain ⟨end_eq, echo⟩ := hdrEnd pktType trans
    obtain ⟨getData, rounds⟩ := planned pktType trans
    have room : start + 2 + packet.pktAddrSize.addrCount ≤ n := by
      rw [end_eq] at inside
      exact inside
    apply nextBind (by omega) bounded
    apply Agrees.orFailBind
    · intro _ _ absent
      cases trans.symm.trans absent
    · intro found present
      obtain rfl : pktType = found := Option.some.inj (trans.symm.trans present)
      apply nextBind (by omega) bounded
      apply setFieldsBind fun fields => fields.pktType = pktType
      · exact fun _ _ => rfl
      · apply darGetRwAddrBind (AddrFields packet layout.hdrEnd pktType) bounded room
        · intro fields filled addr0 addr1 addr2 aligned last
          exact ⟨filled, aligned, end_eq ▸ last⟩
        · have place : start + 1 + 1 + packet.pktAddrSize.addrCount = layout.hdrEnd :=
            end_eq.symm
          rw [place]
          apply sizedTail_agrees bounded inside (by omega) (sizes pktType trans) _ getData rounds
            (inPlace pktType trans) echo
          intro decoded succeeds
          exact small _ decoded ((sizes pktType trans).symm.trans succeeds)

theorem parseNread_agrees (inside : (nreadLayout packet start).hdrEnd ≤ n) :
    Agrees (SameTo n) (At packet start fun _ => True) parseNread parseNread
      (HdrDone packet (nreadLayout packet start))
      (HdrStopped packet (nreadLayout packet start)) := by
  have accepted : ∀ pktType, rdTransOf (packet.transAt start) = some pktType →
      rdTransOf (packet.transAt start) ≠ none := fun pktType trans => trans ▸ nofun
  apply @rw_agrees _ _ _ bounded early _ rdTransOf darUtilComputeRdBytesNAlign
    fun _ => ⟨false, false, 1⟩
  case refused => exact fun trans => if_pos trans
  case hdrEnd =>
    intro pktType trans
    rw [nreadLayout, if_neg (accepted pktType trans)]
    exact ⟨rfl, rfl⟩
  case sizes =>
    intro pktType trans
    rw [nreadLayout, if_neg (accepted pktType trans)]
  case small =>
    intro wptr sizes decoded
    exact (smallSizes_bounded (Or.inl decoded) (packet.sizeAt_lt start)).2.2.1
  case planned =>
    intro pktType trans
    rw [nreadLayout, if_neg (accepted pktType trans)]
    exact ⟨rfl, rfl⟩
  case inPlace => exact fun pktType => rdTransOf_inPlace
  case inside => exact inside

theorem parseNwrite_agrees (inside : (nwriteLayout packet start).hdrEnd ≤ n) :
    Agrees (SameTo n) (At packet start fun _ => True) parseNwrite parseNwrite
      (HdrDone packet (nwriteLayout packet start))
      (HdrStopped packet (nwriteLayout packet start)) := by
  have accepted : ∀ pktType, wrTransOf (packet.transAt start) = some pktType →
      wrTransOf (packet.transAt start) ≠ none := fun pktType trans => trans ▸ nofun
  apply @rw_agrees _ _ _ bounded early _ wrTransOf darUtilComputeWrBytesNAlign
    fun pktType => ⟨true, false, if pktType = .pktNwCmpSwap then 2 else 1⟩
  case refused => exact fun trans => if_pos trans
  case hdrEnd =>
    intro pktType trans
    rw [nwriteLayout, if_neg (accepted pktType trans)]
    exact ⟨rfl, rfl⟩
  case sizes =>
    intro pktType trans
    rw [nwriteLayout, if_neg (accepted pktType trans)]
  case small =>
    intro wptr sizes decoded
    exact (smallSizes_bounded (Or.inr decoded) (packet.sizeAt_lt start)).2.2.1
  case planned =>
    intro pktType trans
    rw [nwriteLayout, if_neg (accepted pktType trans), trans]
    simp only [Option.some.injEq, and_self]
  case inPlace => exact fun pktType => wrTransOf_inPlace
  case inside => exact inside

theorem parseMsg_agrees (inside : (msgLayout packet start).hdrEnd ≤ n) :
    Agrees (SameTo n) (At packet start fun _ => True) parseMsg parseMsg
      (HdrDone packet (msgLayout packet start)) (HdrStopped packet (msgLayout packet start)) := by
  by_cases small : packet.sizeAt start < 9
  · have layout_eq : msgLayout packet start = .refused (start + 1) := if_pos small
    rw [layout_eq] at inside ⊢
    apply nextBind inside bounded
    apply setFieldsBind fun _ => True
    · exact fun _ _ => trivial
    · apply Agrees.failIfBind
      · exact fun _ _ _ => hdrStopped_refused (by omega)
      · exact fun large => absurd small large
  · have layout_eq : msgLayout packet start = ⟨start + 2,
        some (8 <<< (packet.sizeAt start - 9), 0), true, 1, fun _ => false⟩ := if_neg small
    rw [layout_eq] at inside ⊢
    have room : start + 2 ≤ n := inside
    have atFront : ¬8 < start + 2 := by omega
    apply nextBind (by omega) bounded
    apply setFieldsBind fun fields => fields.pktType = .pktMsg
    · exact fun _ _ => rfl
    · apply Agrees.failIfBind
      · exact fun _ _ refused => absurd refused small
      · intro _
        apply nextBind (by omega) bounded
        refine setFieldsDone _ rfl rfl rfl rfl fun fields isMsg =>
          ⟨rfl, fun _ _ => ?_, Or.inl rfl, ?_⟩
        · rw [isMsg]
          rfl
        · exact fun late => absurd late atFront

theorem parseResp_agrees (inside : start + 2 ≤ n) :
    Agrees (SameTo n) (At packet start fun _ => True) parseResp parseResp
      (HdrDone packet (respLayout packet start)) (HdrStopped packet (respLayout packet start)) := by
  have atFront : ¬8 < start + 2 := by omega
  apply nextBind (by omega) bounded
  apply Agrees.orFailBind
  · intro _ _ absent
    have layout_eq : respLayout packet start = .refused (start + 1) := by
      rw [respLayout, DarPktBytes.transAt, absent]
    rw [layout_eq]
    exact hdrStopped_refused (by omega)
  · intro pktType trans
    apply setFieldsBind fun fields =>
      fields.pktBytes = if pktType = .pktRespData then 256 else 0
    · exact fun _ _ => rfl
    · apply Agrees.orFailBind
      · intro _ _ absent
        have layout_eq : respLayout packet start = .refused (start + 1) := by
          rw [respLayout, DarPktBytes.sizeAt, absent]
          cases respTransOf (packet.transAt start) <;> rfl
        rw [layout_eq]
        exact hdrStopped_refused (by omega)
      · intro status known
        generalize layout_eq : respLayout packet start = layout
        rw [respLayout, DarPktBytes.transAt, DarPktBytes.sizeAt, trans, known] at layout_eq
        subst layout_eq
        apply setFieldsBind fun fields => fields.pktBytes =
          if pktType = .pktRespData ∧ status ≠ .pktRetry then 256 else 0
        · intro fields before
          show (if status = .pktRetry then 0 else fields.pktBytes) = _
          rw [before]
          split <;> simp_all
        · rw [parseRespTid, bind_assoc]
          apply nextBind (by omega) bounded
          refine setFieldsDone _ rfl rfl rfl rfl fun fields before =>
            ⟨?_, ?_, Or.inl rfl, ?_⟩
          · split <;> exact before
          · intro hasData short
            rw [if_pos (of_decide_eq_true hasData)] at short
            exact absurd short (by decide)
          · exact fun late => absurd late atFront

omit early in
theorem mtcPlan_agrees {layout : Layout} {pktType : DarPktType} {sizeRc : Nat}
    (inside : layout.hdrEnd ≤ n) (nonempty : 0 < layout.hdrEnd)
    (sizes : layout.sizes =
      match pktType with
      | .pktMr => darUtilComputeRdBytesNAlign sizeRc (packet.wptrAt layout.hdrEnd)
      | .pktMrr => some (64, 0)
      | .pktMwr => some (0, 0)
      | _ => darUtilComputeWrBytesNAlign sizeRc (packet.wptrAt layout.hdrEnd))
    (sizeRc_lt : sizeRc < 16)
    (hasData : layout.hasData = (pktType ≠ .pktMr ∧ pktType ≠ .pktMwr : Bool))
    (rounds : layout.rounds = 1) (echo : layout.echo = addrEcho)
    (inPlace : unaligned pktType = false) :
    let arm : ParseM GetPlan := do
      let plan ← parseMtcPlan pktType sizeRc
      setBytesNAlign plan.1
      pure ⟨plan.2, false, 1⟩
    Agrees (SameTo n) (At packet layout.hdrEnd (AddrFields packet layout.hdrEnd pktType)) arm arm
      (HdrDone packet layout) (HdrStopped packet layout) := by
  intro arm
  have merged : ∀ count fields, AddrFields packet layout.hdrEnd pktType fields →
      HdrFields packet layout count 0
        { fields with pktBytes := count, logRw.addr0 := fields.logRw.addr0 ||| 0 } :=
    fun count fields addr => addr.merge inPlace echo (by decide)
  by_cases isMr : pktType = .pktMr
  · subst isMr
    simp only [arm, parseMtcPlan, bind_assoc, pure_bind]
    apply sizedTail_agrees bounded inside nonempty sizes _ hasData.symm rounds.symm inPlace echo
    intro decoded succeeds
    exact (smallSizes_bounded (Or.inl (sizes ▸ succeeds)) sizeRc_lt).2.2.1
  · by_cases isMrr : pktType = .pktMrr
    · subst isMrr
      exact setFieldsDone layout rfl sizes hasData.symm rounds.symm (merged 64)
    · by_cases isMwr : pktType = .pktMwr
      · subst isMwr
        exact setFieldsDone layout rfl sizes hasData.symm rounds.symm (merged 0)
      · have plan_eq : parseMtcPlan pktType sizeRc = (do
            let wptr ← getWptr
            let decoded ← sizesOrFail (darUtilComputeWrBytesNAlign sizeRc wptr)
            pure (decoded, true)) := by
          unfold parseMtcPlan
          split <;> first | contradiction | rfl
        have wrSizes : layout.sizes =
            darUtilComputeWrBytesNAlign sizeRc (packet.wptrAt layout.hdrEnd) := by
          rw [sizes]
          split <;> first | contradiction | rfl
        have getData : true = layout.hasData := by
          rw [hasData]
          exact (decide_eq_true ⟨isMr, isMwr⟩).symm
        simp only [arm, plan_eq, bind_assoc, pure_bind]
        apply sizedTail_agrees bounded inside nonempty wrSizes _ getData rounds.symm inPlace echo
        intro decoded succeeds
        exact (smallSizes_bounded (Or.inr (wrSizes ▸ succeeds)) sizeRc_lt).2.2.1

theorem parseMtc_agrees (inside : (mtcLayout packet start).hdrEnd ≤ n) :
    Agrees (SameTo n) (At packet start fun _ => True) parseMtc parseMtc
      (HdrDone packet (mtcLayout packet start)) (HdrStopped packet (mtcLayout packet start)) := by
  by_cases unknown : packet.transAt start > 4
  · have layout_eq : mtcLayout packet start = .refused (start + 1) := if_pos unknown
    rw [layout_eq] at inside ⊢
    apply peekBind inside bounded
    apply Agrees.failIfBind
    · exact fun _ _ _ => hdrStopped_refused (by omega)
    · exact fun known => absurd unknown known
  · generalize layout_eq : mtcLayout packet start = layout at inside ⊢
    rw [mtcLayout, if_neg unknown] at layout_eq
    have hdrEnd : layout.hdrEnd = start + 6 := layout_eq ▸ rfl
    have room : start + 6 ≤ n := hdrEnd ▸ inside
    apply peekBind (by omega) bounded
    apply Agrees.failIfBind
    · exact fun _ _ refused => absurd refused unknown
    · intro _
      apply skipBind
      apply nextBind (by omega) bounded
      apply nextBind (by omega) bounded
      apply setFieldsBind fun fields => fields.pktType = mtcTransOf (packet.transAt start)
      · exact fun _ _ => rfl
      · apply setAddrSizeBind .rioAddr21
        apply darGetRwAddrBind (AddrFields { packet with pktAddrSize := .rioAddr21 } layout.hdrEnd
          (mtcTransOf (packet.transAt start))) bounded room
        · intro fields filled addr0 addr1 addr2 aligned last
          exact ⟨filled, aligned, hdrEnd ▸ last⟩
        · have place : start + 1 + 1 + 1 + RioAddrSize.rioAddr21.addrCount = layout.hdrEnd :=
            hdrEnd.symm
          rw [place]
          subst layout_eq
          have rest := @mtcPlan_agrees n { packet with pktAddrSize := .rioAddr21 } bounded _
            (mtcTransOf (packet.transAt start)) (packet.sizeAt start) inside (Nat.succ_pos _) rfl
            (packet.sizeAt_lt start) rfl rfl rfl (mtcTransOf_inPlace (packet.transAt start))
          exact rest.weaken (fun _ before => before) (fun _ _ => HdrDone.ofSize)
            fun _ _ => HdrStopped.ofSize

omit early in
theorem parseDstmXh_agrees (inside : start + 8 ≤ n) (xh : packet.byteAt (start + 1) &&& 4 ≠ 0) :
    Agrees (SameTo n) (At packet (start + 1) fun _ => True) parseDstmXh parseDstmXh
      (HdrDone packet (dstmLayout packet start)) (HdrStopped packet (dstmLayout packet start)) := by
  have layout_eq : dstmLayout packet start = ⟨start + 8, some (0, 0), false, 1,
      fun fields => fields.logDs.dstmXhParm2.testBit 7⟩ := if_pos xh
  rw [layout_eq]
  apply nextBind (by omega) bounded
  apply nextBind (by omega) bounded
  apply nextBind (by omega) bounded
  apply nextBind (by omega) bounded
  apply nextBind (by omega) bounded
  apply nextBind (by omega) bounded
  apply nextBind (by omega) bounded
  exact setFieldsDone _ rfl rfl rfl rfl fun fields _ =>
    ⟨rfl, nofun, Or.inl rfl, fun _ => rfl⟩

theorem parseDstmSeg_agrees (inside : (dstmLayout packet start).hdrEnd ≤ n)
    (seg : ¬packet.byteAt (start + 1) &&& 4 ≠ 0) :
    Agrees (SameTo n) (At packet (start + 1) fun _ => True) parseDstmSeg parseDstmSeg
      (HdrDone packet (dstmLayout packet start)) (HdrStopped packet (dstmLayout packet start)) := by
  have noShort : ¬256 ≤ 8 := by decide
  rw [dstmLayout, if_neg seg] at inside ⊢
  by_cases startSeg : packet.byteAt (start + 1) &&& 0x80 ≠ 0
  · rw [if_pos startSeg] at inside ⊢
    have room : start + 4 ≤ n := inside
    apply nextBind (by omega) bounded
    have isStart := decide_eq_true startSeg
    simp only [parseDstmPair, isStart, if_true, bind_assoc, pure_bind]
    apply nextBind (by omega) bounded
    apply nextBind (by omega) bounded
    exact setFieldsDone _ rfl rfl rfl rfl fun fields _ =>
      ⟨rfl, fun _ short => absurd short noShort, Or.inl rfl, fun _ => pair_testBit _ _⟩
  · have noStart := decide_eq_false startSeg
    rw [if_neg startSeg] at inside ⊢
    by_cases endSeg : packet.byteAt (start + 1) &&& 0x40 ≠ 0
    · rw [if_pos endSeg] at inside ⊢
      have room : start + 4 ≤ n := inside
      apply nextBind (by omega) bounded
      have isEnd := decide_eq_true endSeg
      simp only [parseDstmPair, noStart, isEnd, Bool.false_eq_true, if_true, if_false, bind_assoc,
        pure_bind]
      apply nextBind (by omega) bounded
      apply nextBind (by omega) bounded
      exact setFieldsDone _ rfl rfl rfl rfl fun fields _ =>
        ⟨rfl, fun _ short => absurd short noShort, Or.inl rfl, fun _ => pair_testBit _ _⟩
    · rw [if_neg endSeg] at inside ⊢
      have room : start + 2 ≤ n := inside
      apply nextBind (by omega) bounded
      have noEnd := decide_eq_false endSeg
      simp only [parseDstmPair, noStart, noEnd, Bool.false_eq_true, if_false, pure_bind]
      have atFront : ¬8 < start + 2 := by omega
      exact setFieldsDone _ rfl rfl rfl rfl fun fields _ =>
        ⟨rfl, fun _ short => absurd short noShort, Or.inl rfl, fun late => absurd late atFront⟩

theorem parseDstm_agrees (inside : (dstmLayout packet start).hdrEnd ≤ n) (two : start + 2 ≤ n) :
    Agrees (SameTo n) (At packet start fun _ => True) parseDstm parseDstm
      (HdrDone packet (dstmLayout packet start)) (HdrStopped packet (dstmLayout packet start)) := by
  apply nextBind (by omega) bounded
  apply setFieldsBind fun _ => True
  · exact fun _ _ => trivial
  · apply peekBind (by omega) bounded
    apply Agrees.ite
    · intro xh
      have whole : (dstmLayout packet start).hdrEnd = start + 8 := by
        rw [dstmLayout, if_pos xh]
      exact parseDstmXh_agrees bounded (whole ▸ inside) xh
    · exact parseDstmSeg_agrees bounded early inside

end Headers

/-! ## From the first byte on -/

section Front

variable {n : Nat} {packet : DarPktBytes} (bounded : n ≤ rioMaxPktBytes) (whole : 8 ≤ n)
  {P : DarPktFields → Prop} {Fail : DarStop → ParseState → Prop}

include bounded whole

theorem physHdrBind {α : Type} {Post : α → ParseState → Prop} {tail : Nat → ParseM α}
    (front : ∀ fields phys trans, P fields → P { fields with phys := phys, trans := trans })
    (rest : Agrees (SameTo n)
      (At packet 2 fun fields => P fields ∧
        fields.trans.ttCode = .ofCode ((packet.byteAt 1 &&& 0x30) >>> 4))
      (tail packet.ftype) (tail packet.ftype) Post Fail) :
    Agrees (SameTo n) (At packet 0 P) (parsePhysHdr >>= tail) (parsePhysHdr >>= tail) Post
      Fail := by
  simp only [parsePhysHdr, bind_assoc, pure_bind]
  apply nextBind (by omega) bounded
  apply nextBind (by omega) bounded
  apply setFieldsBind fun fields => P fields ∧
    fields.trans.ttCode = .ofCode ((packet.byteAt 1 &&& 0x30) >>> 4)
  · exact fun fields before => ⟨front fields _ _ before, rfl⟩
  · exact rest

theorem transHdrBind {α : Type} {Post : α → ParseState → Prop} {tail : Unit → ParseM α}
    (front : ∀ fields trans, P fields → P { fields with trans := trans })
    (refused : packet.logStart = none → ∀ state, Fail (.rc .invalidTt) state)
    (rest : ∀ start, packet.logStart = some start →
      Agrees (SameTo n) (At packet start P) (tail ()) (tail ()) Post Fail) :
    Agrees (SameTo n)
      (At packet 2 fun fields => P fields ∧
        fields.trans.ttCode = .ofCode ((packet.byteAt 1 &&& 0x30) >>> 4))
      (parseTransHdr >>= tail) (parseTransHdr >>= tail) Post Fail := by
  rw [parseTransHdr, bind_assoc]
  apply Agrees.getBind
  intro left right same before
  rw [same.fieldsOut, before.fieldsOut.2]
  unfold DarPktBytes.logStart at refused rest
  cases ttCode : RioTtCode.ofCode ((packet.byteAt 1 &&& 0x30) >>> 4) with
  | ttSmall =>
    rw [ttCode] at rest
    simp only [bind_assoc]
    apply nextBind (by omega) bounded
    apply nextBind (by omega) bounded
    apply setFieldsBind P
    · exact fun fields before => front fields _ before.1
    · exact rest 4 rfl
  | ttLarge =>
    rw [ttCode] at rest
    simp only [bind_assoc]
    apply nextBind (by omega) bounded
    apply nextBind (by omega) bounded
    apply nextBind (by omega) bounded
    apply nextBind (by omega) bounded
    apply setFieldsBind P
    · exact fun fields before => front fields _ before.1
    · exact rest 6 rfl
  | undef2 | undef3 =>
    rw [ttCode] at refused
    exact fun _ _ same _ => .error same (refused rfl _)

end Front

theorem parseLogHdr_agrees (bounded : n ≤ rioMaxPktBytes) (whole : 8 ≤ n) {start : Nat}
    (found : packet.logStart = some start) (notFlow : packet.ftype ≠ 7)
    (inside : packet.layout.hdrEnd ≤ n) :
    Agrees (SameTo n) (At packet start fun _ => True) (parseLogHdr packet.ftype)
      (parseLogHdr packet.ftype) (HdrDone packet packet.layout)
      (HdrStopped packet packet.layout) := by
  have early := DarPktBytes.logStart_le found
  have layout_eq : packet.layout = logLayout packet start packet.ftype := by
    rw [DarPktBytes.layout, found]
  rw [layout_eq] at inside ⊢
  generalize packet.ftype = ftype at notFlow inside ⊢
  by_cases listed : ftype ∈ [2, 5, 6, 7, 8, 9, 10, 11, 13]
  · simp only [List.mem_cons, List.not_mem_nil, or_false] at listed
    rcases listed with rfl | rfl | rfl | rfl | rfl | rfl | rfl | rfl | rfl
    · exact parseNread_agrees bounded early inside
    · exact parseNwrite_agrees bounded early inside
    · exact parseSwrite_agrees bounded inside
    · exact absurd rfl notFlow
    · exact parseMtc_agrees bounded early inside
    · exact parseDstm_agrees bounded early inside (by omega)
    · exact parseDb_agrees bounded inside
    · exact parseMsg_agrees bounded early inside
    · exact parseResp_agrees bounded early (by omega)
  · have isRaw : parseLogHdr ftype = parseRaw := by
      unfold parseLogHdr
      split <;> first | rfl | exact absurd (by decide) listed
    have rawLayout_eq : logLayout packet start ftype = rawLayout := by
      unfold logLayout
      split <;> first | rfl | exact absurd (by decide) listed
    rw [isRaw, rawLayout_eq]
    exact parseRaw_agrees

end RioFabric.Packet

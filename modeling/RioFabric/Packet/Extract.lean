import RioFabric.Packet.Decode

/-!
# The payload, byte by byte

The common code behind the headers: a short payload is taken from inside of one doubleword or two,
whatever the packet's length is; a long one ends where the packet does.
-/

namespace RioFabric.Packet

open Lib

/-- Stopped with a code, and `P` holds of what has been filled in. -/
def StoppedWith (P : DarPktFields → Prop) (stop : DarStop) (state : ParseState) : Prop :=
  stop ≠ .fault ∧ P state.fieldsOut

section Statements

variable {n : Nat} {packet : DarPktBytes} {index : Nat} {P : DarPktFields → Prop} {α : Type}
  {Post : α → ParseState → Prop} {Fail : DarStop → ParseState → Prop}

theorem PktData.write_inside (pkt : PktData) {i : Nat} (inside : i < rioMaxPktBytes)
    (value : Byte) :
    pkt.write i value = some (pkt.set i value) := dif_pos inside

theorem putDataBind (Q : DarPktFields → Prop) {place : Nat} {value : Byte} {tail : Unit → ParseM α}
    (inside : place < rioMaxPktBytes)
    (holds : ∀ fields, P fields → Q { fields with pktData := fields.pktData.set place value })
    (rest : Agrees (SameTo n) (At packet index Q) (tail ()) (tail ()) Post Fail) :
    Agrees (SameTo n) (At packet index P) (putData place value >>= tail)
      (putData place value >>= tail) Post Fail := by
  have writes : ∀ state : ParseState, (putData place value).run state =
      .ok () { state with fieldsOut :=
        { state.fieldsOut with pktData := state.fieldsOut.pktData.set place value } } := by
    intro state
    rw [putData, get_bind_run, PktData.write_inside _ inside, orFail_some, pure_bind]
    rfl
  intro left right same before
  rw [EStateM.run_bind, EStateM.run_bind, writes, writes]
  apply rest
  · refine ⟨same.bytesIn, ?_, same.pktIndex⟩
    rw [same.fieldsOut]
  · exact ⟨before.bytesIn, before.pktIndex, holds _ before.fieldsOut⟩

theorem strideBind {align count : Nat} {tail : PUnit → ParseM α}
    (rest : Agrees (SameTo n) (At packet (index + 8 - align - count) P) (tail ⟨⟩) (tail ⟨⟩) Post
      Fail) :
    Agrees (SameTo n) (At packet index P)
      (modify (fun state => { state with pktIndex := state.pktIndex + 8 - align - count }) >>= tail)
      (modify (fun state => { state with pktIndex := state.pktIndex + 8 - align - count }) >>= tail)
      Post Fail := by
  intro left right same before
  exact rest
    ⟨same.bytesIn, same.fieldsOut, congrArg (fun index => index + 8 - align - count) same.pktIndex⟩
    ⟨before.bytesIn, congrArg (fun index => index + 8 - align - count) before.pktIndex,
      before.fieldsOut⟩

end Statements

/-- What does not depend on the payload that has been found. -/
def PayloadFree (P : DarPktFields → Prop) : Prop :=
  ∀ (fields : DarPktFields) padBytes pktBytes pktData, P fields →
    P { fields with padBytes := padBytes, pktBytes := pktBytes, pktData := pktData }

/-- What does not depend on the bytes of the payload. -/
def DataFree (P : DarPktFields → Prop) : Prop :=
  ∀ (fields : DarPktFields) pktData, P fields → P { fields with pktData := pktData }

section Short

variable {n : Nat} {packet : DarPktBytes} (bounded : n ≤ rioMaxPktBytes) {P : DarPktFields → Prop}

include bounded

theorem getBytes_agrees (free : DataFree P) {place index count : Nat}
    {Fail : DarStop → ParseState → Prop} (inside : index + (count + 1) ≤ n)
    (room : place + (count + 1) ≤ rioMaxPktBytes) :
    Agrees (SameTo n) (At packet index P) (getBytes place (count + 1)) (getBytes place (count + 1))
      (fun _ => At packet (index + (count + 1)) fun fields => P fields ∧
        fields.pktData.read (place + count) = some (u8 (packet.byteAt (index + count)))) Fail := by
  induction count generalizing place index P with
  | zero =>
    apply nextBind (by omega) bounded
    apply putDataBind (fun fields => P fields ∧
      fields.pktData.read place = some (u8 (packet.byteAt index))) room
    · intro fields before
      refine ⟨free fields _ before, ?_⟩
      rw [PktData.read, Vector.getElem?_set_self]
    · exact Agrees.pure fun _ before => before
  | succ count ih =>
    rw [getBytes]
    apply nextBind (by omega) bounded
    apply putDataBind P (show place < rioMaxPktBytes by omega)
    · exact fun fields before => free fields _ before
    · have rest := @ih P free (place + 1) (index + 1) (by omega) (by omega)
      rw [Nat.add_right_comm index 1, Nat.add_right_comm place 1 count,
        Nat.add_right_comm index 1 count] at rest
      exact rest

theorem getShortData_agrees (free : DataFree P) {count align left dataRepeat index : Nat}
    {Fail : DarStop → ParseState → Prop} (place : ∀ fields, P fields →
      (if unaligned fields.pktType then 0 else fields.logRw.addr0 &&& 7) = align)
    (inPlace : ∀ fields, P fields → left = 0 ∨ unaligned fields.pktType = false)
    (inside : index + 8 * left + align + (count + 1) ≤ n)
    (room : (dataRepeat + left) * (count + 1) + (count + 1) ≤ rioMaxPktBytes) :
    Agrees (SameTo n) (At packet index P) (getShortData (count + 1) dataRepeat (left + 1))
      (getShortData (count + 1) dataRepeat (left + 1))
      (fun _ state => P state.fieldsOut ∧
        state.fieldsOut.pktData.read ((dataRepeat + left) * (count + 1) + count) =
          some (u8 (packet.byteAt (index + 8 * left + align + count)))) Fail := by
  induction left generalizing dataRepeat index with
  | zero =>
    rw [getShortData]
    apply Agrees.getBind
    intro before right same holds
    rw [same.fieldsOut]
    dsimp only
    rw [place _ holds.fieldsOut]
    apply skipBind
    apply Agrees.bind (getBytes_agrees bounded free inside room)
    intro _
    rw [getShortData]
    split
    · exact Agrees.pure fun _ after => after.fieldsOut
    · exact strideBind (Agrees.pure fun _ after => after.fieldsOut)
  | succ left ih =>
    rw [getShortData]
    apply Agrees.getBind
    intro before right same holds
    have aligned : unaligned before.fieldsOut.pktType = false :=
      (inPlace _ holds.fieldsOut).resolve_left (Nat.succ_ne_zero left)
    rw [same.fieldsOut]
    dsimp only
    rw [place _ holds.fieldsOut]
    apply skipBind
    have readOn : index + align + (count + 1) ≤ n := by omega
    have rounds : dataRepeat + (left + 1) = dataRepeat + 1 + left := by omega
    rw [rounds] at room ⊢
    have product : dataRepeat * (count + 1) + (count + 1) ≤ rioMaxPktBytes := by
      have fewer : dataRepeat * (count + 1) ≤ (dataRepeat + 1 + left) * (count + 1) :=
        Nat.mul_le_mul_right _ (by omega)
      omega
    apply Agrees.bind (getBytes_agrees bounded free readOn product)
    intro _
    rw [if_neg (by rw [aligned]; exact Bool.false_ne_true)]
    apply strideBind
    have next : index + align + (count + 1) + 8 - align - (count + 1) = index + 8 := by omega
    have place_eq : index + 8 * (left + 1) = index + 8 + 8 * left := by omega
    rw [place_eq] at inside ⊢
    rw [next]
    have rest := @ih (dataRepeat + 1) (index + 8)
      (fun fields known => Or.inr ((inPlace fields known).resolve_left (Nat.succ_ne_zero left)))
      inside room
    exact rest.weakenPre fun _ after => after.weaken fun _ known => known.1

end Short

section Long

variable {n : Nat} {packet : DarPktBytes} {index : Nat} {P : DarPktFields → Prop}
  (bounded : n ≤ rioMaxPktBytes) (free : PayloadFree P) {Fail : DarStop → ParseState → Prop}

include bounded free

theorem getLongBytes_agrees {i count : Nat} (inside : i + count ≤ n) :
    Agrees (SameTo n) (At packet index fun fields => P fields ∧ fields.pktBytes ≤ i)
      (getLongBytes i count) (getLongBytes i count) (fun _ => At packet index P) Fail := by
  induction count generalizing i with
  | zero => exact Agrees.pure fun _ before => before.weaken fun _ known => known.1
  | succ count ih =>
    have rest := ih (show i + 1 + count ≤ n by omega)
    rw [getLongBytes]
    apply Agrees.getBind
    intro before right same holds
    obtain ⟨value, read⟩ := before.bytesIn.pktData.read_some
      (show i < rioMaxPktBytes by omega)
    rw [same.fieldsOut, same.bytesIn.pktData i (by omega), read]
    dsimp only
    apply Agrees.ite
    · intro _
      have stored := holds.fieldsOut.2
      rw [orFail_some, pure_bind]
      apply putDataBind (fun fields => P fields ∧ fields.pktBytes ≤ i)
        (show before.fieldsOut.pktBytes < rioMaxPktBytes by omega)
      · exact fun fields known => ⟨free fields _ _ _ known.1, known.2⟩
      · apply setFieldsBind fun fields => P fields ∧ fields.pktBytes ≤ i + 1
        · exact fun fields known => ⟨free fields _ _ _ known.1, Nat.succ_le_succ known.2⟩
        · exact rest
    · intro _
      exact rest.weakenPre fun _ after => after.weaken fun _ known =>
        ⟨known.1, Nat.le_succ_of_le known.2⟩

omit bounded in
theorem dropBytes_agrees {count : Nat} :
    Agrees (SameTo n) (At packet index P) (dropBytes count) (dropBytes count)
      (fun _ => At packet index P) Fail :=
  setFields_agrees fun _ before => ⟨before.bytesIn, before.pktIndex, free _ _ _ _ before.fieldsOut⟩

theorem stripPadding_agrees (whole : packet.numChars ≤ n) (nonempty : 0 < n) :
    Agrees (SameTo n) (At packet index P) stripPadding stripPadding (fun _ => At packet index P)
      Fail := by
  apply setFieldsBind P
  · exact fun fields known => free fields _ _ _ known
  · apply Agrees.getBind
    intro before right same holds
    have length_le : before.bytesIn.numChars ≤ n := holds.bytesIn ▸ whole
    obtain ⟨last, readLast⟩ := before.bytesIn.pktData.read_some
      (show before.bytesIn.numChars - 1 < rioMaxPktBytes by omega)
    obtain ⟨second, readSecond⟩ := before.bytesIn.pktData.read_some
      (show before.bytesIn.numChars - 2 < rioMaxPktBytes by omega)
    dsimp only
    rw [same.bytesIn.numChars, same.bytesIn.pktHasCrc, same.bytesIn.pktData _ (by omega),
      same.bytesIn.pktData _ (by omega), readLast, readSecond]
    apply Agrees.ite
    · intro _
      rw [orFail_some, pure_bind, orFail_some, pure_bind]
      apply Agrees.ite
      · intro _
        apply setFieldsBind P
        · exact fun fields known => free fields _ _ _ known
        · exact dropBytes_agrees free
      · exact fun _ => Agrees.pure fun _ after => after
    · exact fun _ => Agrees.pure fun _ after => after

omit bounded in
theorem checkDstmSize_agrees :
    Agrees (SameTo n) (At packet index P) checkDstmSize checkDstmSize (fun _ => At packet index P)
      (StoppedWith P) := by
  have stopped : ∀ (code : DarUtilRc) state, At packet index P state →
      StoppedWith P (.rc code) state := fun code state holds => ⟨nofun, holds.fieldsOut⟩
  apply Agrees.getBind
  intro before right same holds
  rw [same.fieldsOut]
  dsimp only
  apply Agrees.ite
  · intro _
    apply Agrees.failIfBind fun state known _ => stopped _ state known
    intro _
    apply Agrees.failIfBind fun state known _ => stopped _ state known
    intro _
    apply Agrees.ite
    · exact fun _ => dropBytes_agrees free
    · exact fun _ => Agrees.pure fun _ after => after
  · intro _
    exact Agrees.failIf (fun _ known _ => known) fun state known _ => stopped _ state known

theorem getLongData_agrees (whole : packet.numChars ≤ n) (nonempty : 0 < n) (reached : index ≤ n) :
    Agrees (SameTo n) (At packet index P) getLongData getLongData (fun _ => At packet index P)
      (StoppedWith P) := by
  apply setFieldsBind fun fields => P fields ∧ fields.pktBytes ≤ index
  · exact fun fields known => ⟨free fields _ _ _ known, Nat.zero_le _⟩
  · apply Agrees.getBind
    intro before right same holds
    dsimp only
    rw [same.bytesIn.numChars, same.bytesIn.pktHasCrc, same.pktIndex, holds.bytesIn, holds.pktIndex]
    apply Agrees.bind (getLongBytes_agrees bounded free (by omega))
    intro _
    apply Agrees.getBind
    intro middle right same holds
    rw [same.fieldsOut]
    apply Agrees.failIfBind fun state known _ => ⟨nofun, known.fieldsOut⟩
    intro _
    apply Agrees.bind (stripPadding_agrees bounded free whole nonempty)
    intro _
    apply Agrees.ite
    · exact fun _ => checkDstmSize_agrees free
    · exact fun _ => Agrees.pure fun _ after => after

end Long

/-- What is decoded shows the last byte that is taken. -/
def Seen (packet : DarPktBytes) (layout : Layout) (fields : DarPktFields) : Prop :=
  8 < layout.consumed →
    layout.seen fields = (packet.byteAt (layout.consumed - 1)).testBit 7

section Data

variable {n : Nat} {packet : DarPktBytes} {layout : Layout} {count align : Nat}

theorem dataSize_agrees {Q : DarPktFields → Prop} {exactly : Bool} :
    Agrees (SameTo n) (fun state => Q state.fieldsOut)
      (do
        let state ← get
        failIf (state.fieldsOut.pktBytes > count) (.rc .badDataSize)
        failIf (state.fieldsOut.pktBytes ≠ count ∧ exactly) (.rc .badDataSize))
      (do
        let state ← get
        failIf (state.fieldsOut.pktBytes > count) (.rc .badDataSize)
        failIf (state.fieldsOut.pktBytes ≠ count ∧ exactly) (.rc .badDataSize))
      (fun _ state => state.fieldsOut.pktBytes ≤ count ∧ Q state.fieldsOut) (StoppedWith Q) := by
  apply Agrees.getBindAt
  intro before right same holds
  rw [same.fieldsOut]
  apply Agrees.failIfBind
  · rintro _ rfl _
    exact ⟨nofun, holds⟩
  · intro notMore
    apply Agrees.failIf
    · rintro _ rfl _
      exact ⟨Nat.not_lt.mp notMore, holds⟩
    · rintro _ rfl _
      exact ⟨nofun, holds⟩

theorem short_eq_some (sizes : layout.sizes = some (count, align)) (hasData : layout.hasData = true)
    (short : count ≤ 8) : layout.short = some (count, align) := by
  rw [Layout.short, sizes, Option.filter_some, if_pos (decide_eq_true ⟨hasData, short⟩)]

theorem short_eq_none (sizes : layout.sizes = some (count, align))
    (none : layout.hasData = false ∨ 8 < count) : layout.short = .none := by
  rw [Layout.short, sizes, Option.filter_some, if_neg]
  simp only [decide_eq_true_eq]
  rintro ⟨hasData, short⟩
  cases none with
  | inl noData => exact absurd (hasData.symm.trans noData) (by decide)
  | inr long => omega

theorem HdrFields.seen {fields : DarPktFields} (filled : HdrFields packet layout count align fields)
    (none : layout.short = .none) : Seen packet layout fields := by
  unfold Seen Layout.seen Layout.consumed
  rw [none]
  exact filled.echo

theorem longData_agrees {exactly : Bool} (bounded : n ≤ rioMaxPktBytes) (sound : layout.Sound)
    (sizes : layout.sizes = some (count, align)) (hasData : layout.hasData = true)
    (long : 8 < count)
    (inside : layout.consumed ≤ n) (whole : packet.numChars ≤ n) (nonempty : 0 < n) :
    let program : ParseM Unit := do
      getLongData
      let state ← get
      failIf (state.fieldsOut.pktBytes > count) (.rc .badDataSize)
      failIf (state.fieldsOut.pktBytes ≠ count ∧ exactly) (.rc .badDataSize)
    Agrees (SameTo n) (At packet layout.hdrEnd (HdrFields packet layout count align))
      program program
      (fun _ state => state.fieldsOut.pktBytes ≤ count ∧ Seen packet layout state.fieldsOut)
      (StoppedWith (Seen packet layout)) := by
  have noShort := short_eq_none sizes (Or.inr long)
  have consumed : layout.consumed = layout.hdrEnd := by rw [Layout.consumed, noShort]
  have seen : ∀ fields, layout.seen fields = layout.echo fields := by
    intro fields
    rw [Layout.seen, noShort]
  have free : PayloadFree (Seen packet layout) := by
    intro fields padBytes pktBytes pktData known late
    rw [seen, sound.echo hasData, ← seen]
    exact known late
  have extracted := @getLongData_agrees n packet layout.hdrEnd _ bounded free whole nonempty
    (consumed ▸ inside)
  apply Agrees.bind (extracted.weakenPre fun state before =>
    before.weaken fun _ filled => filled.seen noShort)
  exact fun _ => dataSize_agrees.weakenPre fun state after => after.fieldsOut

theorem shortData_agrees {exactly : Bool} (bounded : n ≤ rioMaxPktBytes) (sound : layout.Sound)
    (sizes : layout.sizes = some (count, align)) (hasData : layout.hasData = true)
    (short : count ≤ 8) (inside : layout.consumed ≤ n) :
    let program : ParseM Unit := do
      getShortData count 0 layout.rounds
      let state ← get
      failIf (state.fieldsOut.pktBytes > count) (.rc .badDataSize)
      failIf (state.fieldsOut.pktBytes ≠ count ∧ exactly) (.rc .badDataSize)
    Agrees (SameTo n) (At packet layout.hdrEnd (HdrFields packet layout count align))
      program program
      (fun _ state => state.fieldsOut.pktBytes ≤ count ∧ Seen packet layout state.fieldsOut)
      (StoppedWith (Seen packet layout)) := by
  have isShort := short_eq_some sizes hasData short
  obtain ⟨pos, fits⟩ := sound.short count align sizes hasData short
  obtain ⟨last, rfl⟩ := Nat.exists_eq_succ_of_ne_zero (Nat.ne_of_gt pos)
  obtain ⟨left, rounds, few⟩ : ∃ left, layout.rounds = left + 1 ∧ left ≤ 1 := by
    cases sound.rounds with
    | inl one => exact ⟨0, one, by decide⟩
    | inr two => exact ⟨1, two, by decide⟩
  have consumed : layout.consumed = layout.hdrEnd + 8 * left + align + (last + 1) := by
    rw [Layout.consumed, isShort, rounds]
    rfl
  have product : (0 + left) * (last + 1) ≤ 1 * 8 := Nat.mul_le_mul (by omega) short
  have extracted := @getShortData_agrees n packet bounded
    (fun fields => (if unaligned fields.pktType then 0 else fields.logRw.addr0 &&& 7) = align ∧
      (left = 0 ∨ unaligned fields.pktType = false))
    (fun _ _ known => known) last align left 0 layout.hdrEnd (StoppedWith (Seen packet layout))
    (fun _ known => known.1) (fun _ known => known.2) (consumed ▸ inside)
    (show (0 + left) * (last + 1) + (last + 1) ≤ 276 by omega)
  rw [rounds]
  apply Agrees.bind (extracted.weakenPre fun state before => before.weaken fun fields filled =>
    ⟨filled.align hasData short, filled.inPlace.imp_left fun one => by omega⟩)
  intro _
  apply dataSize_agrees.weakenPre
  intro state after _
  have place : layout.rounds * (last + 1) - 1 = (0 + left) * (last + 1) + last := by
    rw [rounds, Nat.zero_add, Nat.succ_mul]
    rfl
  have seen : layout.seen state.fieldsOut =
      ((state.fieldsOut.pktData.read (layout.rounds * (last + 1) - 1)).getD 0).toNat.testBit 7 := by
    rw [Layout.seen, isShort]
  rw [seen, place, after.2, Option.getD_some, toNat_u8 (packet.byteAt_lt _), consumed]
  rfl

theorem parseData_agrees {plan : GetPlan} (bounded : n ≤ rioMaxPktBytes) (sound : layout.Sound)
    (sizes : layout.sizes = some (count, align)) (getData : plan.getData = layout.hasData)
    (rounds : plan.repeatDataBytes = layout.rounds) (inside : layout.consumed ≤ n)
    (whole : packet.numChars ≤ n) (nonempty : 0 < n) :
    Agrees (SameTo n) (At packet layout.hdrEnd (HdrFields packet layout count align))
      (parseData plan) (parseData plan)
      (fun _ state => state.fieldsOut.pktBytes ≤ count ∧ Seen packet layout state.fieldsOut)
      (StoppedWith (Seen packet layout)) := by
  unfold parseData
  rw [getData]
  cases hasData : layout.hasData with
  | false =>
    have noShort := short_eq_none sizes (Or.inl hasData)
    exact Agrees.pure fun state before =>
      ⟨Nat.le_of_eq before.fieldsOut.pktBytes, before.fieldsOut.seen noShort⟩
  | true =>
    rw [if_pos rfl]
    apply Agrees.getBind
    intro before right same holds
    rw [same.fieldsOut]
    dsimp only
    rw [holds.fieldsOut.pktBytes]
    apply Agrees.ite
    · intro short
      rw [rounds]
      exact shortData_agrees bounded sound sizes hasData short inside
    · intro notShort
      exact longData_agrees bounded sound sizes hasData (Nat.not_le.mp notShort) inside whole
        nonempty

end Data

section Whole

variable {n : Nat} {packet : DarPktBytes}

theorem Layout.hdrEnd_le_consumed (layout : Layout) : layout.hdrEnd ≤ layout.consumed := by
  unfold Layout.consumed
  split <;> omega

theorem HdrStopped.seen {layout : Layout} {stop : DarStop} {state : ParseState}
    (stopped : HdrStopped packet layout stop state) :
    StoppedWith (Seen packet layout) stop state := by
  refine ⟨stopped.coded, ?_⟩
  have noShort : layout.short = none := by rw [Layout.short, stopped.sizes, Option.filter_none]
  unfold Seen Layout.seen Layout.consumed
  rw [noShort]
  exact stopped.echo

/-- The body of `DAR_pkt_bytes_to_fields`, past the check of the length. -/
def decodeBody : ParseM Unit := do
  let ftype ← parsePhysHdr
  parseTransHdr
  let plan ← parseLogHdr ftype
  parseData plan

theorem decodeBody_agrees (bounded : n ≤ rioMaxPktBytes) (least : 8 ≤ n)
    (whole : packet.numChars ≤ n) (inside : packet.layout.consumed ≤ n)
    (notFlow : packet.logStart ≠ none → packet.ftype ≠ 7) :
    Agrees (SameTo n) (At packet 0 fun _ => True) decodeBody decodeBody
      (fun _ state => state.fieldsOut.pktBytes ≤ packet.layout.announced ∧
        Seen packet packet.layout state.fieldsOut)
      (StoppedWith (Seen packet packet.layout)) := by
  have hdrInside := Nat.le_trans packet.layout.hdrEnd_le_consumed inside
  apply physHdrBind bounded least fun _ _ _ _ => trivial
  apply transHdrBind bounded least fun _ _ _ => trivial
  · intro undefined state
    have layout_eq : packet.layout = .refused 2 := by rw [DarPktBytes.layout, undefined]
    rw [layout_eq]
    have noFault : DarStop.rc DarUtilRc.invalidTt ≠ .fault := by decide
    exact ⟨noFault, fun late => absurd late (show ¬8 < 2 by decide)⟩
  · intro start found
    have header := parseLogHdr_agrees bounded least found (notFlow (by simp [found])) hdrInside
    apply Agrees.bind (header.weaken (fun _ before => before) (fun _ _ done => done)
      fun _ _ stopped => stopped.seen)
    intro plan left right same done
    obtain ⟨size, count, align, sizes, reached⟩ := done.reached
    have announced : packet.layout.announced = count := by
      rw [Layout.announced, sizes]
      rfl
    rw [announced]
    have payload :=
      @parseData_agrees n { packet with pktAddrSize := size } packet.layout count align
      plan bounded (layout_sound packet) sizes done.getData done.repeatDataBytes inside whole
      (by omega)
    exact payload same (reached.weaken fun _ filled =>
      ⟨filled.pktBytes, filled.align, filled.inPlace, filled.echo⟩)

theorem decodeBody_flow {old : Nat} (bounded : n ≤ rioMaxPktBytes) (least : 8 ≤ n)
    (found : packet.logStart ≠ none) (flow : packet.ftype = 7) :
    Agrees (SameTo n) (At packet 0 fun fields => fields.pktBytes = old) decodeBody decodeBody
      (fun _ state => state.fieldsOut.pktBytes = old) (fun _ _ => False) := by
  apply physHdrBind bounded least fun _ _ _ same => same
  apply transHdrBind bounded least fun _ _ same => same
  · exact fun undefined => absurd undefined found
  · intro start found
    have early := DarPktBytes.logStart_le found
    rw [flow]
    apply Agrees.bind (parseFc_agrees bounded (by omega))
    rintro plan left right same ⟨rfl, after⟩
    exact .ok same after.fieldsOut

end Whole

end RioFabric.Packet

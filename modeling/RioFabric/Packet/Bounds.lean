import RioFabric.Lib.Hoare
import RioFabric.Packet.Parsed

/-!
# Composition stays inside packet memory

Neither the stores of header and payload nor the CRC routine with its shift check a bound: what
keeps them inside the 276 bytes is the length of the payload.  The length of the stream is followed
from statement to statement.
-/

namespace RioFabric.Packet

open Lib

/-- A routine stops with a code, not with an access outside an array. -/
def Coded {σ : Type} (stop : DarStop) (_ : σ) : Prop := stop ≠ .fault

variable {code : DarUtilRc}

theorem failIf_coded {σ : Type} {condition : Prop} [Decidable condition] {Pre : σ → Prop} :
    Meets Pre (failIf condition (DarStop.rc code) : EStateM DarStop σ Unit)
      (fun _ => Pre) Coded :=
  Meets.failIf (fun _ before _ => before) fun _ _ _ => nofun

theorem orFail_coded {σ α : Type} {result : Option α} {Pre : σ → Prop} :
    Meets Pre (orFail result (DarStop.rc code) : EStateM DarStop σ α) (fun _ => Pre) Coded :=
  Meets.orFail (fun _ _ _ before => before) fun _ _ _ => nofun

/-- The stream has `used` bytes so far; the caller's description still has the payload length and
the address size of `fields`. -/
structure Used (fields : DarPktFields) (used : Nat) (state : ComposeState) : Prop where
  numChars : state.bytesOut.numChars = used
  pktBytes : state.fieldsIn.pktBytes = fields.pktBytes
  pktAddrSize : state.fieldsIn.logRw.pktAddrSize = fields.logRw.pktAddrSize

section Stores

variable {fields : DarPktFields} {used : Nat} {Fail : DarStop → ComposeState → Prop}

theorem store_used {value : Byte} (fits : used < rioMaxPktBytes) :
    Meets (Used fields used) (store value) (fun _ => Used fields (used + 1)) Fail := by
  apply Meets.ofRun
  intro state before
  have room : state.bytesOut.numChars < rioMaxPktBytes := by
    rw [before.numChars]
    exact fits
  refine ⟨(), state.append [value], store_ok_iff.mpr ⟨room, rfl⟩, ?_, before.pktBytes,
    before.pktAddrSize⟩
  rw [ComposeState.append, DarPktBytes.append_numChars, before.numChars]
  rfl

theorem emit_used {bytes : List Byte} (later : Nat) (length_eq : used + bytes.length = later)
    (fits : later ≤ rioMaxPktBytes) :
    Meets (Used fields used) (emit bytes) (fun _ => Used fields later) Fail := by
  subst length_eq
  apply Meets.ofRun
  intro state before
  have room : state.Room bytes.length := by
    rw [ComposeState.Room, before.numChars]
    exact Or.inr fits
  refine ⟨(), state.append bytes, emit_ok_iff.mpr ⟨room, rfl⟩, ?_, before.pktBytes,
    before.pktAddrSize⟩
  rw [ComposeState.append, DarPktBytes.append_numChars, before.numChars]

theorem storeData_used {index amount : Nat} (inArray : index + amount ≤ rioMaxPktBytes)
    (fits : used + amount ≤ rioMaxPktBytes) :
    Meets (Used fields used) (storeData index amount) (fun _ => Used fields (used + amount))
      Coded := by
  induction amount generalizing index used with
  | zero => exact Meets.pure fun _ holds => holds
  | succ amount ih =>
    rw [storeData]
    apply Meets.getBind
    intro start _
    have present : start.fieldsIn.pktData.read index =
        some (start.fieldsIn.pktData.get ⟨index, by omega⟩) := by
      simp [PktData.read, Vector.get, show index < rioMaxPktBytes by omega]
    rw [present, orFail_some, pure_bind]
    have stored : Meets (Used fields used) (store (start.fieldsIn.pktData.get ⟨index, by omega⟩))
        (fun _ => Used fields (used + 1)) Coded := store_used (by omega)
    apply Meets.bind stored
    intro _
    have rest := @ih (used + 1) (index + 1) (by omega) (by omega)
    rwa [Nat.add_assoc, Nat.add_comm 1 amount] at rest

theorem storeDoublewords_used {align count amount dataRepeat left : Nat}
    (bounded : align + count ≤ 8) (inside : amount ≤ count)
    (inArray : (dataRepeat + left) * amount ≤ rioMaxPktBytes)
    (fits : used + left * 8 ≤ rioMaxPktBytes) :
    Meets (fun state => ∃ reached ≤ used, Used fields reached state)
      (storeDoublewords align count amount dataRepeat left)
      (fun _ state => ∃ reached ≤ used + left * 8, Used fields reached state) Coded := by
  induction left generalizing used dataRepeat with
  | zero => exact Meets.pure fun _ holds => by simpa using holds
  | succ left ih =>
    apply Meets.ofExists
    intro reached
    apply Meets.assume
    intro reached_le
    have product : (dataRepeat + (left + 1)) * amount =
        dataRepeat * amount + amount + left * amount := by
      rw [Nat.add_mul, Nat.add_mul]
      omega
    rw [storeDoublewords]
    apply Meets.bind (emit_used (reached + align) (by simp) (by omega))
    intro _
    apply Meets.bind (storeData_used (by omega) (by omega))
    intro _
    apply Meets.bind
      (emit_used (reached + align + amount + (8 - (align + count))) (by simp) (by omega))
    intro _
    have left_eq : dataRepeat + 1 + left = dataRepeat + (left + 1) := by omega
    have rest := @ih (used + 8) (dataRepeat + 1) (left_eq ▸ inArray) (by omega)
    rw [Nat.succ_mul, Nat.add_comm (left * 8), ← Nat.add_assoc]
    exact rest.weakenPre fun state holds => ⟨_, by omega, holds⟩

end Stores

/-- What a switch arm leaves: room for the payload that is still to come, or all of it. -/
def PlanFits (fields : DarPktFields) (plan : DataPlan) (state : ComposeState) : Prop :=
  ∃ used, Used fields used state ∧
    (plan.addData = true → used ≤ 16 ∧ used % 2 = 0 ∧ plan.dataBytes ≤ fields.pktBytes ∧
      plan.repeatDataBytes ≤ 2) ∧
    (plan.addData = false → used ≤ 270)

section Arms

variable {fields : DarPktFields} {front : Nat}

theorem composeTransHdr_used :
    Meets (Used fields 2) (composeTransHdr fields.trans)
      (fun _ state => ∃ front, (front = 4 ∨ front = 6) ∧ Used fields front state) Coded := by
  unfold composeTransHdr
  split
  · exact (emit_used 4 rfl (by decide)).weakenPost fun _ _ holds => ⟨4, Or.inl rfl, holds⟩
  · exact (emit_used 6 rfl (by decide)).weakenPost fun _ _ holds => ⟨6, Or.inr rfl, holds⟩
  all_goals exact Meets.throw fun _ _ => nofun

theorem darAddRwAddr_used {used wptr : Nat} (hdr : DarPktLogRwHdr)
    (fits : used + 8 ≤ rioMaxPktBytes) :
    Meets (Used fields used) (darAddRwAddr hdr wptr)
      (fun _ => Used fields (used + (hdr.wireAddr wptr).length)) Coded := by
  have length_le : (hdr.wireAddr wptr).length ≤ 8 := by
    rw [wireAddr_length]
    cases hdr.pktAddrSize <;> decide
  unfold darAddRwAddr
  apply Meets.bind failIf_coded
  intro _
  apply Meets.bind (emit_used (used + (hdr.wireAddr wptr).length) rfl (by omega))
  intro _
  exact Meets.modify fun _ holds => ⟨holds.numChars, holds.pktBytes, holds.pktAddrSize⟩

theorem wireAddr_even {hdr : DarPktLogRwHdr} (wptr : Nat) (large : hdr.pktAddrSize ≠ .rioAddr21) :
    (hdr.wireAddr wptr).length ≤ 8 ∧ (hdr.wireAddr wptr).length % 2 = 0 := by
  rw [wireAddr_length]
  cases size : hdr.pktAddrSize
  case rioAddr21 => exact absurd size large
  all_goals decide

theorem composeMtcPlan_used {used : Nat} :
    Meets (Used fields used) (composeMtcPlan fields) (fun _ => Used fields used) Coded := by
  unfold composeMtcPlan
  have cleared : Meets (Used fields used) clearAddr (fun _ => Used fields used) Coded :=
    Meets.modify fun _ holds => ⟨holds.numChars, holds.pktBytes, holds.pktAddrSize⟩
  have done : ∀ plan : MtcPlan,
      Meets (Used fields used) (pure plan) (fun _ => Used fields used) Coded :=
    fun _ => Meets.pure fun _ holds => holds
  split
  · exact Meets.bind orFail_coded fun _ => Meets.bind failIf_coded fun _ => done _
  · exact Meets.bind orFail_coded fun _ => Meets.bind failIf_coded fun _ => done _
  · exact Meets.bind orFail_coded fun _ => Meets.bind failIf_coded fun _ =>
      Meets.bind cleared fun _ => done _
  · exact Meets.bind cleared fun _ => done _
  · exact Meets.bind orFail_coded fun _ => Meets.bind failIf_coded fun _ => done _
  · exact Meets.throw fun _ _ => nofun

variable (isFront : front = 4 ∨ front = 6)

include isFront

theorem composeNread_fits :
    Meets (Used fields front) (composeNread fields) (PlanFits fields) Coded := by
  have inMemory : front + 10 ≤ rioMaxPktBytes := by
    unfold rioMaxPktBytes
    omega
  unfold composeNread
  apply Meets.bind orFail_coded
  intro sizes
  apply Meets.bind failIf_coded
  intro _
  apply Meets.bind (emit_used (front + 2) rfl (by omega))
  intro _
  apply Meets.bind (darAddRwAddr_used fields.logRw (by omega))
  intro _
  apply Meets.pure
  intro state holds
  have length_le : (fields.logRw.wireAddr sizes.2).length ≤ 8 := by
    rw [wireAddr_length]
    cases fields.logRw.pktAddrSize <;> decide
  exact ⟨_, holds, nofun, fun _ => by omega⟩

theorem composeNwrite_fits (large : fields.logRw.pktAddrSize ≠ .rioAddr21) :
    Meets (Used fields front) (composeNwrite fields) (PlanFits fields) Coded := by
  have inMemory : front + 10 ≤ rioMaxPktBytes := by
    unfold rioMaxPktBytes
    omega
  unfold composeNwrite
  apply Meets.bind failIf_coded
  intro _
  apply Meets.bind orFail_coded
  intro transType
  apply Meets.bind orFail_coded
  intro sizes
  apply Meets.bind (emit_used (front + 2) rfl (by omega))
  intro _
  apply Meets.bind (darAddRwAddr_used fields.logRw (by omega))
  intro _
  apply Meets.pure
  intro state holds
  have addr := wireAddr_even sizes.2 large
  exact ⟨_, holds, fun _ => ⟨by omega, by omega, Nat.le_refl _, by dsimp only; split <;> decide⟩,
    nofun⟩

theorem composeSwrite_fits (large : fields.logRw.pktAddrSize ≠ .rioAddr21) :
    Meets (Used fields front) (composeSwrite fields) (PlanFits fields) Coded := by
  have inMemory : front + 8 ≤ rioMaxPktBytes := by
    unfold rioMaxPktBytes
    omega
  unfold composeSwrite
  apply Meets.bind (darAddRwAddr_used fields.logRw inMemory)
  intro _
  apply Meets.pure
  intro state holds
  have addr := wireAddr_even 0 large
  exact ⟨_, holds, fun _ => ⟨by omega, by omega, Nat.zero_le _, by decide⟩, nofun⟩

theorem composeFc_fits :
    Meets (Used fields front) (composeFc fields) (PlanFits fields) Coded := by
  have inMemory : front + 2 ≤ rioMaxPktBytes := by
    unfold rioMaxPktBytes
    omega
  unfold composeFc
  apply Meets.bind (emit_used (front + 2) rfl inMemory)
  intro _
  exact Meets.pure fun state holds => ⟨_, holds, nofun, fun _ => by omega⟩

theorem composeMtc_fits :
    Meets (Used fields front) (composeMtc fields) (PlanFits fields) Coded := by
  have inMemory : front + 11 ≤ rioMaxPktBytes := by
    unfold rioMaxPktBytes
    omega
  unfold composeMtc
  apply Meets.bind composeMtcPlan_used
  intro plan
  apply Meets.bind (emit_used (front + 3) rfl (by omega))
  intro _
  apply Meets.failIfBind fun _ _ _ => nofun
  intro agrees
  have small : fields.logRw.pktAddrSize = .rioAddr21 := not_not.mp agrees
  apply Meets.getBind
  intro start holds
  have size : start.fieldsIn.logRw.pktAddrSize = .rioAddr21 := holds.pktAddrSize.trans small
  apply Meets.bind (darAddRwAddr_used start.fieldsIn.logRw (by omega))
  intro _
  apply Meets.pure
  intro state after
  have addr : (start.fieldsIn.logRw.wireAddr plan.wdptr).length = 3 := by
    rw [wireAddr_length, size]
  exact ⟨_, after, fun _ => ⟨by omega, by omega, Nat.le_refl _, by dsimp only; decide⟩,
    fun _ => by omega⟩

theorem composeDstm_fits (bounded : fields.pktBytes ≤ 256) :
    Meets (Used fields front) (composeDstm fields) (PlanFits fields) Coded := by
  have inMemory : front + 261 ≤ rioMaxPktBytes := by
    unfold rioMaxPktBytes
    omega
  have seg : 1 ≤ (dstmSegBytes fields.logDs).length ∧ (dstmSegBytes fields.logDs).length ≤ 3 := by
    unfold dstmSegBytes
    cases fields.logDs.dstmStartSeg <;> cases fields.logDs.dstmEndSeg <;> simp
  have header : Meets (Used fields (front + 1)) (composeDstmHdr fields)
      (fun _ state => ∃ used ≤ front + 261, Used fields used state) Coded := by
    unfold composeDstmHdr
    apply Meets.ite
    · intro _
      exact (emit_used (front + 8) rfl (by omega)).weakenPost fun _ _ holds => ⟨_, by omega, holds⟩
    · intro _
      unfold composeDstmSeg
      apply Meets.bind (emit_used (front + 1 + (dstmSegBytes fields.logDs).length) rfl (by omega))
      intro _
      apply Meets.bind (storeData_used (by omega) (by omega))
      intro _
      apply Meets.bind failIf_coded
      intro _
      split
      · exact (emit_used _ rfl (by simp only [List.length_singleton]; omega)).weakenPost
          fun _ _ holds => ⟨_, by simp only [List.length_singleton]; omega, holds⟩
      · exact (emit_used _ rfl (by simp only [List.length_nil]; omega)).weakenPost
          fun _ _ holds => ⟨_, by simp only [List.length_nil]; omega, holds⟩
  unfold composeDstm
  apply Meets.bind (emit_used (front + 1) rfl (by omega))
  intro _
  apply Meets.bind header
  intro _
  apply Meets.pure
  rintro state ⟨used, used_le, holds⟩
  exact ⟨used, holds, nofun, fun _ => by omega⟩

theorem composeDb_fits :
    Meets (Used fields front) (composeDb fields) (PlanFits fields) Coded := by
  have inMemory : front + 4 ≤ rioMaxPktBytes := by
    unfold rioMaxPktBytes
    omega
  unfold composeDb
  apply Meets.bind (emit_used (front + 2) rfl (by omega))
  intro _
  apply Meets.bind failIf_coded
  intro _
  apply Meets.bind (storeData_used (by decide) (by omega))
  intro _
  exact Meets.pure fun state holds => ⟨_, holds, nofun, fun _ => by omega⟩

theorem composeMsg_fits :
    Meets (Used fields front) (composeMsg fields) (PlanFits fields) Coded := by
  have inMemory : front + 2 ≤ rioMaxPktBytes := by
    unfold rioMaxPktBytes
    omega
  unfold composeMsg
  apply Meets.bind orFail_coded
  intro ssize
  apply Meets.bind (emit_used (front + 2) rfl inMemory)
  intro _
  exact Meets.pure fun state holds =>
    ⟨_, holds, fun _ => ⟨by omega, by omega, Nat.zero_le _, by dsimp only; decide⟩, nofun⟩

theorem composeResp_fits :
    Meets (Used fields front) (composeResp fields) (PlanFits fields) Coded := by
  have inMemory : front + 2 ≤ rioMaxPktBytes := by
    unfold rioMaxPktBytes
    omega
  have done : ∀ addData, Meets (Used fields (front + 2)) (pure (⟨addData, 0, 1⟩ : DataPlan))
      (PlanFits fields) Coded := fun addData => Meets.pure fun state holds =>
    ⟨_, holds, fun _ => ⟨by omega, by omega, Nat.zero_le _, by dsimp only; decide⟩,
      fun _ => by omega⟩
  unfold composeResp
  split
  · exact Meets.bind (emit_used (front + 2) rfl inMemory) fun _ =>
      Meets.bind failIf_coded fun _ => done _
  · exact Meets.bind failIf_coded fun _ =>
      Meets.bind (emit_used (front + 2) rfl inMemory) fun _ => done _
  · exact Meets.bind failIf_coded fun _ =>
      Meets.bind (emit_used (front + 2) rfl inMemory) fun _ => done _
  · exact Meets.throw fun _ _ => nofun

theorem composeLogHdr_fits (bounded : fields.pktBytes ≤ 256)
    (agrees : ¬((darUtilGetFtype fields.pktType = 8 ∧ fields.logRw.pktAddrSize ≠ .rioAddr21) ∨
      (darUtilGetFtype fields.pktType ≠ 8 ∧ fields.logRw.pktAddrSize = .rioAddr21))) :
    Meets (Used fields front) (composeLogHdr fields) (PlanFits fields) Coded := by
  have large : darUtilGetFtype fields.pktType ≠ 8 → fields.logRw.pktAddrSize ≠ .rioAddr21 :=
    fun other small => agrees (Or.inr ⟨other, small⟩)
  unfold composeLogHdr
  split
  · exact composeNread_fits isFront
  next kind => exact composeNwrite_fits isFront (large (by rw [kind]; decide))
  next kind => exact composeSwrite_fits isFront (large (by rw [kind]; decide))
  · exact composeFc_fits isFront
  · exact composeMtc_fits isFront
  · exact composeDstm_fits isFront bounded
  · exact composeDb_fits isFront
  · exact composeMsg_fits isFront
  · exact composeResp_fits isFront
  · exact Meets.throw fun _ _ => nofun

end Arms

/-- Lengths that leave room for the CRCs and the padding: 271 is not among them, for with four
bytes of CRC its padding would end one byte too far. -/
def BodyFits (used : Nat) : Prop := used ≤ 270 ∨ used = 272

section Tail

variable {fields : DarPktFields}

theorem composeData_used {plan : DataPlan} {used : Nat} (bounded : fields.pktBytes ≤ 256)
    (withData : plan.addData = true → used ≤ 16 ∧ used % 2 = 0 ∧
      plan.dataBytes ≤ fields.pktBytes ∧ plan.repeatDataBytes ≤ 2)
    (noData : plan.addData = false → used ≤ 270) :
    Meets (Used fields used) (composeData plan)
      (fun _ state => ∃ total, BodyFits total ∧ Used fields total state) Coded := by
  unfold composeData
  apply Meets.getBind
  intro start before
  dsimp only
  rw [before.pktBytes]
  apply Meets.ite
  · rintro ⟨addData, -⟩
    obtain ⟨short, even, inside, repeats⟩ := withData addData
    apply Meets.ite
    · intro single
      have inArray : (0 + plan.repeatDataBytes) * plan.dataBytes ≤ 2 * 8 :=
        Nat.mul_le_mul (by omega) (by omega)
      apply Meets.failIfBind fun _ _ _ => nofun
      intro fits
      have stored := @storeDoublewords_used fields used (start.fieldsIn.logRw.addr0 &&& 7)
        fields.pktBytes plan.dataBytes 0 plan.repeatDataBytes (by omega) inside
        (by unfold rioMaxPktBytes; omega) (by unfold rioMaxPktBytes; omega)
      apply stored.weaken
      · exact fun state holds => ⟨used, Nat.le_refl used, holds⟩
      · rintro _ state ⟨total, total_le, holds⟩
        exact ⟨total, Or.inl (by omega), holds⟩
      · exact fun _ _ coded => coded
    · intro long
      apply Meets.failIfBind fun _ _ _ => nofun
      intro aligned
      rw [and_seven, and_seven] at aligned
      have stored := @storeData_used fields used 0 fields.pktBytes
        (by unfold rioMaxPktBytes; omega) (by unfold rioMaxPktBytes; omega)
      exact stored.weakenPost fun _ state holds =>
        ⟨_, by unfold BodyFits; omega, holds⟩
  · intro nothing
    apply Meets.pure
    intro state holds
    refine ⟨used, Or.inl ?_, holds⟩
    cases addData : plan.addData with
    | true => exact Nat.le_trans (withData addData).1 (by decide)
    | false => exact noData addData

theorem composeBody_fits (bounded : fields.pktBytes ≤ 256) :
    Meets (Used fields 0) (composeBody fields)
      (fun _ state => ∃ total, BodyFits total ∧ Used fields total state) Coded := by
  unfold composeBody
  apply Meets.bind (emit_used 2 rfl (by decide))
  intro _
  apply Meets.bind composeTransHdr_used
  intro _
  apply Meets.ofExists
  intro front
  apply Meets.assume
  intro isFront
  apply Meets.failIfBind fun _ _ _ => nofun
  intro agrees
  apply Meets.bind (composeLogHdr_fits isFront bounded agrees)
  intro plan
  apply Meets.ofExists
  intro used
  apply Meets.assumeRight
  rintro ⟨withData, noData⟩
  exact composeData_used bounded withData noData

theorem PktData.write_some {pkt : PktData} {index : Nat} (value : Byte)
    (inBounds : index < rioMaxPktBytes) : ∃ after, pkt.write index value = some after :=
  ⟨_, PktData.write_eq_some.mpr ⟨inBounds, rfl⟩⟩

theorem PktData.writeCrc_some (pkt : PktData) {index : Nat} (crc : Nat)
    (inBounds : index + 2 ≤ rioMaxPktBytes) : ∃ after, pkt.writeCrc index crc = some after := by
  obtain ⟨middle, first⟩ := @PktData.write_some pkt index (u8 ((crc >>> 8) &&& 0x00ff)) (by omega)
  obtain ⟨after, second⟩ := @PktData.write_some middle (index + 1) (u8 (crc &&& 0x00ff)) (by omega)
  exact ⟨after, by rw [PktData.writeCrc, first]; exact second⟩

theorem PktData.shiftTail_some (pkt : PktData) {last : Nat} (inBounds : last + 2 < rioMaxPktBytes) :
    ∃ after, pkt.shiftTail last = some after := by
  induction last generalizing pkt with
  | zero => exact ⟨pkt, rfl⟩
  | succ last ih =>
    unfold PktData.shiftTail
    split
    next =>
      have inside : last + 1 < rioMaxPktBytes := by omega
      have read : pkt.read (last + 1) = some pkt[last + 1] := by simp [PktData.read, inside]
      obtain ⟨middle, written⟩ := @PktData.write_some pkt (last + 1 + 2) pkt[last + 1] inBounds
      obtain ⟨after, rest⟩ := ih middle (by omega)
      exact ⟨after, by rw [read, Option.bind_eq_bind, Option.bind_some, written]; exact rest⟩
    next => exact ⟨pkt, rfl⟩

theorem computePktCrc_some (pkt : PktData) {numBytes : Nat}
    (fits : numBytes + (if 80 < numBytes then 4 else 2) ≤ rioMaxPktBytes) :
    ∃ after, computePktCrc pkt numBytes =
      some (after, numBytes + if 80 < numBytes then 4 else 2) := by
  have closed : ∀ (pkt : PktData) (count : Nat), count + 2 ≤ rioMaxPktBytes →
      ∃ after, pkt.appendCrc count = some (after, count + 2) := by
    intro pkt count inBounds
    have crc : pkt.crc count = some (crcCompBytewise (pkt.toList.take count)) :=
      if_pos (by omega)
    obtain ⟨after, written⟩ :=
      pkt.writeCrc_some (crcCompBytewise (pkt.toList.take count)) inBounds
    refine ⟨after, ?_⟩
    rw [PktData.appendCrc, crc, Option.bind_eq_bind, Option.bind_some, written]
    rfl
  by_cases long : 80 < numBytes
  · rw [if_pos long] at fits ⊢
    have crc : pkt.crc 80 = some (crcCompBytewise (pkt.toList.take 80)) := if_pos (by decide)
    obtain ⟨shifted, moved⟩ := @PktData.shiftTail_some pkt numBytes (by omega)
    obtain ⟨middle, stored⟩ := @PktData.writeCrc_some shifted 80
      (crcCompBytewise (pkt.toList.take 80)) (by decide)
    have inserted : pkt.insertInnerCrc numBytes = some (middle, numBytes + 2) := by
      rw [PktData.insertInnerCrc, if_pos long, crc]
      simp [moved, stored]
    obtain ⟨after, rest⟩ := closed middle (numBytes + 2) (by omega)
    exact ⟨after, by rw [computePktCrc, inserted]; exact rest⟩
  · rw [if_neg long] at fits ⊢
    have inserted : pkt.insertInnerCrc numBytes = some (pkt, numBytes) := if_neg long
    obtain ⟨after, rest⟩ := closed pkt numBytes fits
    exact ⟨after, by rw [computePktCrc, inserted]; exact rest⟩

theorem composeTail_fits {used : Nat} (fits : BodyFits used) :
    Meets (Used fields used) composeTail
      (fun _ state => state.bytesOut.numChars ≤ rioMaxPktBytes) fun _ _ => False := by
  unfold composeTail
  apply Meets.getBindAt
  intro start before
  have room : used + (if 80 < used then 4 else 2) ≤ rioMaxPktBytes := by
    unfold rioMaxPktBytes
    unfold BodyFits at fits
    split <;> omega
  obtain ⟨pkt, closed⟩ := computePktCrc_some start.bytesOut.pktData room
  rw [before.numChars, closed, orFail_some, pure_bind]
  generalize total_eq : used + (if 80 < used then 4 else 2) = total at room ⊢
  have whole : total &&& 2 ≠ 0 → total ≤ 274 := by
    rw [and_field total 2 1 1 rfl]
    unfold BodyFits at fits
    split at total_eq <;> omega
  refine @Meets.bind _ _ _ _ _ _ _ (fun _ => Used fields total) _ _ ?_ ?_
  · apply Meets.ofRun
    rintro state rfl
    exact ⟨(), _, rfl, rfl, before.pktBytes, before.pktAddrSize⟩
  · intro _
    split
    next isPadded =>
      have stored : Meets (Used fields total) (emit [0, 0]) (fun _ => Used fields (total + 2))
          fun _ _ => False := emit_used (total + 2) rfl
            (by have := whole isPadded; unfold rioMaxPktBytes; omega)
      apply Meets.bind stored
      intro _
      apply Meets.modify
      intro state holds
      have reached := holds.numChars
      have bounded := whole isPadded
      change state.bytesOut.numChars ≤ rioMaxPktBytes
      unfold rioMaxPktBytes
      omega
    next =>
      have stored : Meets (Used fields total) (emit []) (fun _ => Used fields total)
          fun _ _ => False := emit_used total rfl room
      apply Meets.bind stored
      intro _
      apply Meets.modify
      intro state holds
      exact Nat.le_trans (Nat.le_of_eq holds.numChars) room

end Tail

/-- `DAR_pkt_fields_to_bytes` and `compute_pkt_crc` access no byte outside of packet memory, and a
packet that is composed fits into it. -/
theorem darPktFieldsToBytes_inBounds (fields : DarPktFields) (bounded : fields.pktBytes ≤ 256) :
    (∀ final, darPktFieldsToBytes fields ≠ .error .fault final) ∧
      ∀ after, darPktFieldsToBytes fields = .ok () after →
        after.bytesOut.numChars ≤ rioMaxPktBytes := by
  have head : Meets (Used fields 0) (composeHead fields)
      (fun _ state => ∃ total, BodyFits total ∧ Used fields total state) Coded := by
    unfold composeHead
    apply Meets.ite
    · intro _
      have copied := @storeData_used fields 0 0 fields.pktBytes
        (by unfold rioMaxPktBytes; omega) (by unfold rioMaxPktBytes; omega)
      exact copied.weakenPost fun _ state holds =>
        ⟨_, by unfold BodyFits; omega, holds⟩
    · exact fun _ => composeBody_fits bounded
  have whole := Meets.bind head fun _ => Meets.ofExists fun _ => Meets.assume fun fits =>
    (composeTail_fits fits).weakenFail fun _ _ stopped => stopped.elim
  have start : Used fields 0 ⟨fields, darUtilPktBytesInit⟩ := ⟨rfl, rfl, rfl⟩
  obtain ⟨normal, early⟩ := whole start
  exact ⟨fun final ran => early ran rfl, fun after ran => normal ran⟩

/-- The longest packet: it fills packet memory to the last byte. -/
def longestSample : DarPktFields :=
  { DarPktFields.cleared with
    pktType := .pktNw
    pktBytes := 256
    trans.ttCode := .ttLarge
    logRw.pktAddrSize := .rioAddr66 }

theorem darPktFieldsToBytes_inBounds_longestSample :
    longestSample.pktBytes ≤ 256 ∧
      (∀ final, darPktFieldsToBytes longestSample ≠ .error .fault final) ∧
      ∀ after, darPktFieldsToBytes longestSample = .ok () after →
        after.bytesOut.numChars ≤ rioMaxPktBytes :=
  ⟨by decide, darPktFieldsToBytes_inBounds longestSample (by decide)⟩

end RioFabric.Packet

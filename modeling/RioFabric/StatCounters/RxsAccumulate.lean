import RioFabric.StatCounters.RxsRequest

/-!
# Totals of RXS counters

A counter of the device has 32 bits and wraps.  The lower half of an entry's total is what the
counter held when it was read last, so a smaller value means that it has wrapped since.  If it has
not seen 2^32 events between two reads, then no event is lost, and none is counted twice.
-/

namespace RioFabric.StatCounters

open Lib Dar

theorem toNat_low (total : BitVec 64) :
    (total &&& 0x00000000FFFFFFFF).toNat = total.toNat % 2 ^ 32 := by
  rw [BitVec.toNat_and]
  exact Nat.and_two_pow_sub_one_eq_mod total.toNat 32

theorem high_eq (total : BitVec 64) :
    total &&& (0xFFFFFFFF00000000 : BitVec 64) = (total >>> 32) <<< 32 := by
  rw [show (0xFFFFFFFF00000000 : BitVec 64) = BitVec.allOnes 64 <<< 32 from rfl]
  ext i inRange
  simp only [BitVec.getElem_and, BitVec.getElem_shiftLeft, BitVec.getElem_allOnes]
  by_cases low : i < 32
  · simp [low]
  · simp [low, Nat.add_sub_cancel' (Nat.le_of_not_lt low), BitVec.getLsbD_eq_getElem inRange]

theorem toNat_high (total : BitVec 64) :
    (total &&& 0xFFFFFFFF00000000).toNat = (total.toNat / 2 ^ 32) <<< 32 := by
  rw [high_eq, BitVec.toNat_shiftLeft, BitVec.toNat_ushiftRight, Nat.shiftRight_eq_div_pow]
  apply Nat.mod_eq_of_lt
  rw [Nat.shiftLeft_eq]
  have := total.isLt
  omega

theorem toNat_high_or (total : BitVec 64) (count : BitVec 32) :
    ((total &&& 0xFFFFFFFF00000000) ||| count.setWidth 64).toNat =
      2 ^ 32 * (total.toNat / 2 ^ 32) + count.toNat := by
  rw [BitVec.toNat_or, toNat_high, BitVec.toNat_setWidth,
    Nat.mod_eq_of_lt (Nat.lt_trans count.isLt (by decide)),
    ← Nat.shiftLeft_add_eq_or_of_lt count.isLt, Nat.shiftLeft_eq, Nat.mul_comm]

theorem toNat_or_wrapped (count : BitVec 32) :
    (count.setWidth 64 ||| (0x0000000100000000 : BitVec 64)).toNat = 2 ^ 32 + count.toNat := by
  rw [BitVec.or_comm, BitVec.toNat_or, BitVec.toNat_setWidth,
    Nat.mod_eq_of_lt (Nat.lt_trans count.isLt (by decide))]
  exact (Nat.shiftLeft_add_eq_or_of_lt count.isLt 1).symm

section Accumulate

variable {counter : RioScCtrVal} {count : BitVec 32} {amount : Nat}

theorem wrapped_iff (before : BitVec 64) :
    before &&& 0x00000000FFFFFFFF > count.setWidth 64 ↔ count.toNat < before.toNat % 2 ^ 32 := by
  rw [gt_iff_lt, BitVec.lt_def, toNat_low, BitVec.toNat_setWidth,
    Nat.mod_eq_of_lt (Nat.lt_trans count.isLt (by decide))]

theorem toNat_total_accumulate (small : amount < 2 ^ 32)
    (advanced : count.toNat = (counter.total.toNat + amount) % 2 ^ 32) :
    (counter.accumulate count).total.toNat = (counter.total.toNat + amount) % 2 ^ 64 := by
  have bounded := counter.total.isLt
  unfold RioScCtrVal.accumulate
  simp only [wrapped_iff]
  split
  next wrapped =>
    rw [BitVec.toNat_add, toNat_high_or,
      show (0x0000000100000000 : BitVec 64).toNat = 2 ^ 32 from rfl]
    omega
  next notWrapped =>
    rw [toNat_high_or]
    omega

theorem toNat_lastInc_accumulate (small : amount < 2 ^ 32)
    (advanced : count.toNat = (counter.total.toNat + amount) % 2 ^ 32) :
    (counter.accumulate count).lastInc.toNat = amount := by
  have bounded := counter.total.isLt
  unfold RioScCtrVal.accumulate
  simp only [wrapped_iff]
  split
  next wrapped =>
    rw [BitVec.toNat_setWidth, BitVec.toNat_sub, toNat_or_wrapped, toNat_low]
    omega
  next notWrapped =>
    rw [BitVec.toNat_setWidth, BitVec.toNat_sub, toNat_low, BitVec.toNat_setWidth]
    omega

end Accumulate

theorem RioScCtrVal.sc_accumulate {counter : RioScCtrVal} {count : BitVec 32} :
    (counter.accumulate count).sc = counter.sc := by
  unfold accumulate
  simp only
  split
  · rfl
  · rfl

theorem HwCounter.register_advance {counter : HwCounter} {amount : Nat} :
    (counter.advance amount).register = counter.register + BitVec.ofNat 32 amount := by
  rw [register, register, advance, BitVec.ofNat_add, BitVec.add_assoc]

namespace RxsHardware

variable (hw : RxsHardware)

/-- Whether a counter counts: its control register selects something. -/
def counts (port idx : Nat) : Bool := hw.ctl port idx &&& 0x7F ≠ 0x7F

/-- The device after some events; those counters see them that count. -/
def afterEvents (amount : Nat → Nat → Nat) : RxsHardware :=
  { hw with
    cnt := fun port idx =>
      if hw.counts port idx then (hw.cnt port idx).advance (amount port idx)
      else hw.cnt port idx }

end RxsHardware

/-- Some events, and then a call that reads counters, in which some accesses fail. -/
structure ReadRound where
  amount : Nat → Nat → Nat
  readFault : RxsReg → Option Nat
  inParms : ScPortsIn

/-- What the call finds. -/
def ReadRound.before (round : ReadRound) (state : Attached RioScDevCtrs RxsHardware) :
    Attached RioScDevCtrs RxsHardware :=
  ⟨state.memory, { state.device.afterEvents round.amount with readFault := round.readFault }⟩

/-- What is there after the call, also after one that fails. -/
def readRound (numPorts : Nat) (state : Attached RioScDevCtrs RxsHardware) (round : ReadRound) :
    Attached RioScDevCtrs RxsHardware :=
  finalState ((rxsRioScReadCtrs numPorts round.inParms).run (round.before state))

/-- A counter of a port, and the element of `p_ctrs` for the port. -/
structure Place where
  port : Nat
  entry : Nat
  ctr : Nat

namespace Place

variable (place : Place)

section

variable (state : Attached RioScDevCtrs RxsHardware)

def val : RioScCtrVal :=
  (state.memory.pCtrs place.entry).ctrs place.ctr

def counter : HwCounter :=
  state.device.cnt place.port place.ctr

/-- The counter has not seen 2^32 events since it was read. -/
def SmallAdvance (round : ReadRound) : Prop :=
  (place.counter (round.before state)).events < (place.counter state).synced + 2 ^ 32

end

instance (state : Attached RioScDevCtrs RxsHardware) (round : ReadRound) :
    Decidable (place.SmallAdvance state round) := inferInstanceAs (Decidable (_ < _))

/-- The call succeeds, and the port is one of those it reads. -/
def ReadBy (numPorts : Nat) (state : Attached RioScDevCtrs RxsHardware) (round : ReadRound) :
    Prop :=
  (∃ final, (rxsRioScReadCtrs numPorts round.inParms).run (round.before state) = .ok () final) ∧
    ∃ ports, darDbRioGetPortList numPorts round.inParms.ptl = .ok ports ∧ place.port ∈ ports

/-- The entry holds the events since there were `base` of them, and those since the read before. -/
structure Exact (base : Nat) (before after : Attached RioScDevCtrs RxsHardware) : Prop where
  total : (place.val after).total.toNat = ((place.counter after).events - base) % 2 ^ 64
  lastInc : (place.val after).lastInc.toNat =
    (place.counter after).events - (place.counter before).synced

/-- After each call that reads the counter, the entry is exact.  If the call fails, it is exact or
has not been changed. -/
def ReadsExactly (numPorts : Nat) (configured : Attached RioScDevCtrs RxsHardware) : Prop :=
  ∀ rounds round,
    Guarded (readRound numPorts) place.SmallAdvance configured (rounds ++ [round]) →
      let before := run (readRound numPorts) configured rounds
      let after := readRound numPorts before round
      let base := (place.counter configured).events
      (place.ReadBy numPorts before round → place.Exact base before after) ∧
        (place.Exact base before after ∨ place.val after = place.val before)

end Place

/-- A counter was just configured. -/
structure JustConfigured (numPorts : Nat) (inParms : ScCfgRxsCtrIn)
    (start configured : Attached RioScDevCtrs RxsHardware) (place : Place) : Prop where
  setUp : start.memory.SetUp
  valid : inParms.ctrIdx < rxs2448MaxSc
  ran : (rioScCfgRxsCtr numPorts inParms).run start = .ok () configured
  isPort : ∃ ports, darDbRioGetPortList numPorts inParms.ptl = .ok ports ∧ place.port ∈ ports
  isEntry : place.entry ∈ start.memory.entriesOf place.port
  isCtr : place.ctr = inParms.ctrIdx

/-- What reading a counter makes of its entry. -/
def RioScCtrVal.afterRead (entry : RioScCtrVal) (counter : HwCounter) : RioScCtrVal :=
  if entry.sc = .disabled then entry else entry.accumulate counter.register

/-- What reading a counter makes of it; that of a disabled entry is not read. -/
def HwCounter.afterReadFor (counter : HwCounter) (entry : RioScCtrVal) : HwCounter :=
  if entry.sc = .disabled then counter else counter.afterRead

namespace Place

variable {place : Place} {start : Attached RioScDevCtrs RxsHardware} {entry : RioScCtrVal}
  {counter : HwCounter}

/-- An entry and a counter within a call that reads. -/
structure At (place : Place) (start : Attached RioScDevCtrs RxsHardware) (entry : RioScCtrVal)
    (counter : HwCounter) (state : Attached RioScDevCtrs RxsHardware) : Prop where
  shape : state.memory.shape = start.memory.shape
  ctl : state.device.ctl = start.device.ctl
  entryIs : place.val state = entry
  counterIs : place.counter state = counter

namespace At

variable {state : Attached RioScDevCtrs RxsHardware} {idx port ctr : Nat}
  (holds : place.At start entry counter state)
include holds

theorem afterRead_of_ne (different : port ≠ place.port ∨ ctr ≠ place.ctr) :
    place.At start entry counter ⟨state.memory, state.device.afterRead (.cnt port ctr)⟩ := by
  refine { holds with counterIs := ?_ }
  rw [← holds.counterIs]
  change (state.device.setCnt port ctr HwCounter.afterRead).cnt place.port place.ctr = _
  exact RxsHardware.cnt_setCnt_of_or different

theorem setCtr_of_ne (different : idx ≠ place.entry ∨ ctr ≠ place.ctr)
    {change : RioScCtrVal → RioScCtrVal} :
    place.At start entry counter ⟨state.memory.setCtr idx ctr change, state.device⟩ := by
  refine { holds with shape := ?_, entryIs := ?_ }
  · exact RioScDevCtrs.shape_setCtr.trans holds.shape
  · rw [← holds.entryIs]
    exact RioScDevCtrs.ctrs_setCtr_of_or different

theorem afterRead :
    place.At start entry counter.afterRead
      ⟨state.memory, state.device.afterRead (.cnt place.port place.ctr)⟩ := by
  refine { holds with counterIs := ?_ }
  rw [← holds.counterIs]
  exact RxsHardware.cnt_setCnt_self

theorem setCtr (change : RioScCtrVal → RioScCtrVal) :
    place.At start (change entry) counter
      ⟨state.memory.setCtr place.entry place.ctr change, state.device⟩ := by
  refine { holds with shape := ?_, entryIs := ?_ }
  · exact RioScDevCtrs.shape_setCtr.trans holds.shape
  · rw [← holds.entryIs]
    exact RioScDevCtrs.ctrs_setCtr_self

end At

/-- How a call that reads ends early: before the counter is read, or after. -/
def EitherWay (place : Place) (start : Attached RioScDevCtrs RxsHardware) (entry : RioScCtrVal)
    (counter : HwCounter) (state : Attached RioScDevCtrs RxsHardware) : Prop :=
  place.At start entry counter state ∨
    place.At start (entry.afterRead counter) (counter.afterReadFor entry) state

section Loops

variable {portNum srchI cntr srchP : Nat}

theorem rxsReadCtr_other (different : portNum ≠ place.port ∧ srchI ≠ place.entry ∨ cntr ≠ place.ctr)
    :
    Meets (place.At start entry counter) (rxsReadCtr srchI portNum cntr)
      (fun _ => place.At start entry counter) fun _ => place.At start entry counter := by
  apply getDevCtrs_bind
  intro devCtrs
  apply Meets.ite
  · exact fun _ => Meets.pure fun _ before => before.1
  · intro _
    apply Meets.bind (@read_meets _ _ _ _ (fun _ => place.At start entry counter) ?_ ?_)
    · intro count
      apply setCtr_meets
      · exact fun _ holds _ _ => holds.setCtr_of_ne (different.imp And.right id)
      · exact fun _ holds _ => holds
    · exact fun _ before _ => before.1.afterRead_of_ne (different.imp And.left id)
    · exact fun _ _ before _ => before.1

theorem rxsReadCtr_this (allocated : place.entry < start.memory.numPCtrs)
    (used : place.ctr < rioMaxSc) :
    Meets (place.At start entry counter) (rxsReadCtr place.entry place.port place.ctr)
      (fun _ => place.At start (entry.afterRead counter) (counter.afterReadFor entry))
      fun _ => place.EitherWay start entry counter := by
  apply getDevCtrs_bind
  intro devCtrs
  apply Meets.startingAt
  intro now before
  obtain ⟨holds, isMemory⟩ := before
  have isEntry : (devCtrs.pCtrs place.entry).ctrs place.ctr = entry := by
    rw [← isMemory, ← holds.entryIs]
    rfl
  rw [isEntry]
  apply Meets.ite
  · intro disabled
    apply Meets.pure
    intro state same
    rw [RioScCtrVal.afterRead, HwCounter.afterReadFor, if_pos disabled, if_pos disabled, same]
    exact holds
  · intro counting
    rw [RioScCtrVal.afterRead, HwCounter.afterReadFor, if_neg counting, if_neg counting]
    apply Meets.bind (@read_meets _ _ _ _ (fun count state =>
      count = counter.register ∧ place.At start entry counter.afterRead state) ?_ ?_)
    · intro count
      apply Meets.assume
      intro isCount
      rw [isCount]
      apply setCtr_meets
      · exact fun _ after _ _ => after.setCtr fun entry => entry.accumulate counter.register
      · intro state after outside
        rw [RioScDevCtrs.numPCtrs_eq after.shape] at outside
        exact absurd outside (not_or.mpr ⟨Nat.not_le.mpr allocated, Nat.not_le.mpr used⟩)
    · intro state same _
      rw [same]
      refine ⟨?_, holds.afterRead⟩
      rw [← holds.counterIs]
      rfl
    · intro state _ same _
      rw [same]
      exact .inl holds

theorem readPort_other (isEntry : place.entry ∈ start.memory.entriesOf place.port)
    (different : portNum ≠ place.port) :
    Meets (place.At start entry counter) (readPort portNum srchP)
      (fun _ => place.At start entry counter) fun _ => place.At start entry counter := by
  apply getDevCtrs_bind
  intro devCtrs
  apply Meets.startingAt
  intro now before
  obtain ⟨holds, isMemory⟩ := before
  have sameEntries : devCtrs.entriesOf portNum = start.memory.entriesOf portNum := by
    rw [← isMemory, RioScDevCtrs.entriesOf_eq holds.shape]
  rw [sameEntries]
  have entries : Meets (place.At start entry counter)
      ((start.memory.entriesOf portNum).forM (rxsReadCtrs portNum))
      (fun _ => place.At start entry counter) fun _ => place.At start entry counter := by
    apply Meets.forM
    intro srchI isOther
    have differentEntry : srchI ≠ place.entry := by
      intro same
      apply different
      rw [← (RioScDevCtrs.mem_entriesOf.mp isOther).2, same,
        (RioScDevCtrs.mem_entriesOf.mp isEntry).2]
    apply Meets.forM
    exact fun cntr _ => rxsReadCtr_other (.inl ⟨different, differentEntry⟩)
  apply Meets.bind (entries.weakenPre fun state (same : state = now) => same ▸ holds)
  exact fun _ => Meets.failIf (fun _ after _ => after) fun _ after _ => after

theorem readPort_this (setUp : start.memory.SetUp)
    (isEntry : place.entry ∈ start.memory.entriesOf place.port) (used : place.ctr < rxs2448MaxSc) :
    Meets (place.At start entry counter) (readPort place.port srchP)
      (fun _ => place.At start (entry.afterRead counter) (counter.afterReadFor entry))
      fun _ => place.EitherWay start entry counter := by
  have allocated : place.entry < start.memory.numPCtrs :=
    Nat.lt_of_lt_of_le (RioScDevCtrs.mem_entriesOf.mp isEntry).1 setUp.allocated
  have inRange : place.ctr < rioMaxSc := Nat.lt_trans used (by decide)
  have ctrs : Meets (place.At start entry counter) (rxsReadCtrs place.port place.entry)
      (fun _ => place.At start (entry.afterRead counter) (counter.afterReadFor entry))
      fun _ => place.EitherWay start entry counter := by
    apply Meets.forM_once List.nodup_range (List.mem_range.mpr used)
    · exact fun cntr _ different =>
        (rxsReadCtr_other (.inr different)).weakenFail fun _ _ holds => .inl holds
    · exact rxsReadCtr_this allocated inRange
    · exact fun cntr _ different =>
        (rxsReadCtr_other (.inr different)).weakenFail fun _ _ holds => .inr holds
  apply getDevCtrs_bind
  intro devCtrs
  apply Meets.startingAt
  intro now before
  obtain ⟨holds, isMemory⟩ := before
  have onlyEntry : devCtrs.entriesOf place.port = [place.entry] := by
    rw [← isMemory, RioScDevCtrs.entriesOf_eq holds.shape]
    exact setUp.entriesOf_of_mem isEntry
  rw [onlyEntry]
  have entries : Meets (fun state => state = now) ([place.entry].forM (rxsReadCtrs place.port))
      (fun _ => place.At start (entry.afterRead counter) (counter.afterReadFor entry))
      fun _ => place.EitherWay start entry counter := by
    apply Meets.bind (ctrs.weakenPre fun state (same : state = now) => same ▸ holds)
    exact fun _ => Meets.pure fun _ after => after
  apply Meets.bind entries
  intro _
  exact Meets.failIf (fun _ after _ => after) fun _ after _ => .inr after

/-- A read counts each listed counter once, or stops before it. -/
theorem rxsRioScReadCtrs_meets {numPorts : Nat} {inParms : ScPortsIn} (setUp : start.memory.SetUp)
    (isEntry : place.entry ∈ start.memory.entriesOf place.port) (used : place.ctr < rxs2448MaxSc) :
    Meets (place.At start entry counter) (rxsRioScReadCtrs numPorts inParms)
      (fun _ state => place.EitherWay start entry counter state ∧
        ∀ ports, darDbRioGetPortList numPorts inParms.ptl = .ok ports → place.port ∈ ports →
          place.At start (entry.afterRead counter) (counter.afterReadFor entry) state)
      fun _ => place.EitherWay start entry counter := by
  apply Meets.bind (checkRead_meets fun _ _ holds => .inl holds)
  intro ports
  apply Meets.assume
  intro made
  have distinct := (darDbRioGetPortList_ok made).1
  rw [← List.zipIdx_map_fst 0 ports] at distinct
  by_cases isPort : place.port ∈ ports
  · rw [← List.zipIdx_map_fst 0 ports] at isPort
    obtain ⟨cell, isCell, samePort⟩ := List.mem_map.mp isPort
    have others : ∀ other ∈ ports.zipIdx, other ≠ cell → other.1 ≠ place.port := by
      intro other isOther different same
      exact different (List.inj_on_of_nodup_map distinct isOther isCell (same.trans samePort.symm))
    apply Meets.weakenPost
    · apply Meets.forM_once (distinct.of_map Prod.fst) isCell
      · exact fun other isOther different => (readPort_other isEntry
          (others other isOther different)).weakenFail fun _ _ holds => .inl holds
      · change Meets _ (readPort cell.1 cell.2) _ _
        rw [samePort]
        exact readPort_this setUp isEntry used
      · exact fun other isOther different => (readPort_other isEntry
          (others other isOther different)).weakenFail fun _ _ holds => .inr holds
    · exact fun _ _ after => ⟨.inr after, fun _ _ _ => after⟩
  · apply Meets.weakenPost
    · apply Meets.forM
      intro cell isCell
      have different : cell.1 ≠ place.port := by
        intro same
        apply isPort
        rw [← same, ← List.zipIdx_map_fst 0 ports]
        exact List.mem_map_of_mem isCell
      exact (readPort_other isEntry different).weakenFail fun _ _ holds => .inl holds
    · intro _ state after
      refine ⟨.inl after, fun ports' made' isMember => ?_⟩
      rw [Except.ok.inj (made'.symm.trans made)] at isMember
      exact absurd isMember isPort

end Loops

/-- An entry that has been exact since there were `base` events, up to the last read. -/
structure Tracked (place : Place) (base : Nat) (state : Attached RioScDevCtrs RxsHardware) :
    Prop where
  setUp : state.memory.SetUp
  isEntry : place.entry ∈ state.memory.entriesOf place.port
  sinceBase : base ≤ (place.counter state).synced
  notAhead : (place.counter state).synced ≤ (place.counter state).events
  register : (place.counter state).register =
    BitVec.ofNat 32 ((place.counter state).events - base)
  total : (place.val state).total.toNat = ((place.counter state).synced - base) % 2 ^ 64
  disabled : (place.val state).sc = .disabled →
    state.device.counts place.port place.ctr = false ∧
      (place.counter state).events = (place.counter state).synced ∧ (place.val state).lastInc = 0

namespace Tracked

variable {base numPorts : Nat} {state after : Attached RioScDevCtrs RxsHardware}
  {round : ReadRound}

section

variable (tracked : place.Tracked base state)
include tracked

theorem before (round : ReadRound) :
    place.Tracked base (round.before state) := by
  have isCounter : place.counter (round.before state) =
      if state.device.counts place.port place.ctr then
        (place.counter state).advance (round.amount place.port place.ctr)
      else place.counter state := rfl
  by_cases counts : state.device.counts place.port place.ctr = true
  · rw [if_pos counts] at isCounter
    refine { tracked with
      sinceBase := ?_, notAhead := ?_, register := ?_, total := ?_, disabled := ?_ }
    · rw [isCounter]
      exact tracked.sinceBase
    · rw [isCounter]
      exact Nat.le_add_right_of_le tracked.notAhead
    · rw [isCounter, HwCounter.register_advance, tracked.register, ← BitVec.ofNat_add]
      congr 1
      exact (Nat.sub_add_comm (Nat.le_trans tracked.sinceBase tracked.notAhead)).symm
    · rw [isCounter]
      exact tracked.total
    · intro disabled
      rw [(tracked.disabled disabled).1] at counts
      cases counts
  · rw [if_neg counts] at isCounter
    refine { tracked with
      sinceBase := ?_, notAhead := ?_, register := ?_, total := ?_, disabled := ?_ }
    all_goals rw [isCounter]
    · exact tracked.sinceBase
    · exact tracked.notAhead
    · exact tracked.register
    · exact tracked.total
    · exact tracked.disabled

theorem notRead (holds : place.At state (place.val state) (place.counter state) after) :
    place.Tracked base after := by
  constructor
  · exact tracked.setUp.of_shape holds.shape
  · rw [RioScDevCtrs.entriesOf_eq holds.shape]
    exact tracked.isEntry
  all_goals rw [holds.counterIs]
  · exact tracked.sinceBase
  · exact tracked.notAhead
  · exact tracked.register
  · rw [holds.entryIs]
    exact tracked.total
  · rw [holds.entryIs, RxsHardware.counts, holds.ctl]
    exact tracked.disabled

theorem accumulate (small : (place.counter state).events < (place.counter state).synced + 2 ^ 32) :
    ((place.val state).accumulate (place.counter state).register).total.toNat =
        ((place.counter state).events - base) % 2 ^ 64 ∧
      ((place.val state).accumulate (place.counter state).register).lastInc.toNat =
        (place.counter state).events - (place.counter state).synced := by
  have sinceBase := tracked.sinceBase
  have notAhead := tracked.notAhead
  have advance : (place.counter state).events - (place.counter state).synced < 2 ^ 32 := by omega
  have advanced : (place.counter state).register.toNat = ((place.val state).total.toNat +
      ((place.counter state).events - (place.counter state).synced)) % 2 ^ 32 := by
    rw [tracked.register, tracked.total, BitVec.toNat_ofNat]
    omega
  refine ⟨?_, toNat_lastInc_accumulate advance advanced⟩
  rw [toNat_total_accumulate advance advanced, tracked.total]
  omega

theorem read (small : (place.counter state).events < (place.counter state).synced + 2 ^ 32)
    (holds : place.At state ((place.val state).afterRead (place.counter state))
      ((place.counter state).afterReadFor (place.val state)) after) :
    place.Tracked base after ∧ place.Exact base state after := by
  by_cases disabled : (place.val state).sc = .disabled
  · rw [RioScCtrVal.afterRead, HwCounter.afterReadFor, if_pos disabled, if_pos disabled] at holds
    obtain ⟨_, noneSeen, noInc⟩ := tracked.disabled disabled
    refine ⟨tracked.notRead holds, ?_⟩
    constructor
    · rw [holds.entryIs, holds.counterIs, noneSeen]
      exact tracked.total
    · rw [holds.entryIs, holds.counterIs, noneSeen, noInc, Nat.sub_self]
      rfl
  · rw [RioScCtrVal.afterRead, HwCounter.afterReadFor, if_neg disabled, if_neg disabled] at holds
    obtain ⟨total, lastInc⟩ := tracked.accumulate small
    have isExact : place.Exact base state after := by
      constructor
      · rw [holds.entryIs, holds.counterIs]
        exact total
      · rw [holds.entryIs, holds.counterIs]
        exact lastInc
    refine ⟨?_, isExact⟩
    constructor
    · exact tracked.setUp.of_shape holds.shape
    · rw [RioScDevCtrs.entriesOf_eq holds.shape]
      exact tracked.isEntry
    · rw [holds.counterIs]
      exact Nat.le_trans tracked.sinceBase tracked.notAhead
    · rw [holds.counterIs]
      exact Nat.le_refl _
    · rw [holds.counterIs]
      exact tracked.register
    · rw [isExact.total, holds.counterIs]
      rfl
    · intro isDisabled
      rw [holds.entryIs, RioScCtrVal.sc_accumulate] at isDisabled
      exact absurd isDisabled disabled

theorem call (used : place.ctr < rxs2448MaxSc) (small : place.SmallAdvance state round) :
    place.Tracked base (readRound numPorts state round) ∧
      (place.ReadBy numPorts state round →
        place.Exact base state (readRound numPorts state round)) ∧
      (place.Exact base state (readRound numPorts state round) ∨
        place.val (readRound numPorts state round) = place.val state) := by
  have found := tracked.before round
  have sameSynced : (place.counter (round.before state)).synced =
      (place.counter state).synced := by
    change (if state.device.counts place.port place.ctr then
      (place.counter state).advance (round.amount place.port place.ctr)
      else place.counter state).synced = _
    split
    · rfl
    · rfl
  have smallNow : (place.counter (round.before state)).events <
      (place.counter (round.before state)).synced + 2 ^ 32 := sameSynced ▸ small
  have starts : place.At (round.before state) (place.val (round.before state))
      (place.counter (round.before state)) (round.before state) := ⟨rfl, rfl, rfl, rfl⟩
  obtain ⟨normal, early⟩ := @rxsRioScReadCtrs_meets place (round.before state) _ _ numPorts
    round.inParms found.setUp found.isEntry used _ starts
  have isRead : ∀ after, place.At (round.before state)
      ((place.val (round.before state)).afterRead (place.counter (round.before state)))
      ((place.counter (round.before state)).afterReadFor (place.val (round.before state))) after →
        place.Tracked base after ∧ place.Exact base state after := by
    intro after holds
    obtain ⟨trackedAfter, exactAfter⟩ := found.read smallNow holds
    exact ⟨trackedAfter, exactAfter.total, sameSynced ▸ exactAfter.lastInc⟩
  have eitherWay : ∀ after, place.EitherWay (round.before state) (place.val (round.before state))
      (place.counter (round.before state)) after → place.Tracked base after ∧
        (place.Exact base state after ∨ place.val after = place.val state) := by
    intro after either
    cases either with
    | inl holds => exact ⟨found.notRead holds, .inr holds.entryIs⟩
    | inr holds => exact ⟨(isRead after holds).1, .inl (isRead after holds).2⟩
  unfold readRound
  cases ran : (rxsRioScReadCtrs numPorts round.inParms).run (round.before state) with
  | ok value final =>
    obtain ⟨either, listed⟩ := normal ran
    obtain ⟨trackedAfter, exactOrSame⟩ := eitherWay final either
    refine ⟨trackedAfter, ?_, exactOrSame⟩
    intro ⟨_, ports, made, isPort⟩
    exact (isRead final (listed ports made isPort)).2
  | error code final =>
    obtain ⟨trackedAfter, exactOrSame⟩ := eitherWay final (early ran)
    refine ⟨trackedAfter, ?_, exactOrSame⟩
    intro ⟨⟨_, succeeds⟩, _⟩
    rw [ran] at succeeds
    cases succeeds

end

theorem readsExactly (tracked : place.Tracked (place.counter state).events state)
    (used : place.ctr < rxs2448MaxSc) : place.ReadsExactly numPorts state := by
  intro rounds round guarded
  obtain ⟨before, last⟩ := (guarded_append _ _ _).mp guarded
  have now : place.Tracked (place.counter state).events (run (readRound numPorts) state rounds) :=
    run_invariant (place.Tracked (place.counter state).events)
      (fun state round tracked small => (tracked.call used small).1) tracked before
  exact (now.call used last.1).2

end Tracked

end Place

section Configured

variable {numPorts : Nat} {inParms : ScCfgRxsCtrIn}
  {start configured : Attached RioScDevCtrs RxsHardware} {place : Place}

theorem newCtl_disabled {sel : BitVec 32} {srio : Bool}
    (selected : inParms.select = .ok (sel, srio)) (disabled : inParms.ctrType = .disabled) :
    inParms.newCtl sel &&& 0x7F = 0x7F := by
  rw [ScCfgRxsCtrIn.select, disabled] at selected
  cases selected
  have absorbed : ∀ a b : Bool, ((a || b) && b) = b := by decide
  ext i inRange
  rw [ScCfgRxsCtrIn.newCtl, BitVec.getElem_and, BitVec.getElem_or]
  exact absorbed _ _

theorem JustConfigured.processed (just : JustConfigured numPorts inParms start configured place) :
    ∃ (ports : List Nat) (sel : BitVec 32) (srio : Bool),
      inParms.select = .ok (sel, srio) ∧ place.port ∈ ports ∧
      inParms.Processed (inParms.newCtl sel) srio start {pt | pt ∈ ports} configured := by
  have inRange : inParms.ctrIdx < rioMaxSc := Nat.lt_trans just.valid (by decide)
  obtain ⟨listed, made, isPort⟩ := just.isPort
  have ran := just.ran
  cases checks : (checkCfg numPorts inParms).run start with
  | error code state =>
    rw [run_of_rejected checks] at ran
    cases ran
  | ok checked state =>
    obtain ⟨ports, newCtl, srio⟩ := checked
    obtain ⟨rfl, accepted⟩ := (ScCfgRxsCtrIn.checkCfg_meets rfl).1 checks
    rw [run_of_accepted checks] at ran
    obtain ⟨sel, selected, (isCtl : newCtl = inParms.newCtl sel)⟩ := accepted.selected
    have processed := (ScCfgRxsCtrIn.cfgPorts_meets just.setUp inRange rfl).1 ran
    rw [Except.ok.inj (made.symm.trans accepted.portList)] at isPort
    rw [isCtl] at processed
    exact ⟨ports, sel, srio, selected, isPort, processed.1⟩

theorem JustConfigured.tracked (just : JustConfigured numPorts inParms start configured place)
    (changed : ∀ sel srio, inParms.select = .ok (sel, srio) →
      inParms.Changed (inParms.newCtl sel) start place.port) :
    place.Tracked (place.counter configured).events configured := by
  obtain ⟨ports, sel, srio, selected, isPort, processed⟩ := just.processed
  obtain ⟨inRange, samePort⟩ := RioScDevCtrs.mem_entriesOf.mp just.isEntry
  have isChanged := changed sel srio selected
  have counter : place.counter configured =
      (start.device.cnt place.port inParms.ctrIdx).written 0 := by
    rw [← processed.cntChanged place.port isPort isChanged, ← just.isCtr]
    rfl
  have val : place.val configured = inParms.newCtr srio := by
    rw [Place.val, just.isCtr, processed.changed place.entry inRange (samePort ▸ isPort)
      (samePort ▸ isChanged), RioScDevCtrs.ctrs_setCtr_self]
  constructor
  · exact just.setUp.of_shape processed.shape
  · rw [RioScDevCtrs.entriesOf_eq processed.shape]
    exact just.isEntry
  · rw [counter]
    exact Nat.le_refl _
  · rw [counter]
    exact Nat.le_refl _
  · rw [Nat.sub_self, counter, HwCounter.register]
    exact BitVec.sub_add_cancel _ _
  · rw [val, counter]
    exact (congrArg (· % 2 ^ 64) (Nat.sub_self _)).symm
  · intro disabled
    rw [val] at disabled ⊢
    refine ⟨?_, ?_, rfl⟩
    · rw [RxsHardware.counts, just.isCtr, processed.ctlDone place.port isPort,
        newCtl_disabled selected disabled]
      rfl
    · rw [counter]
      rfl

/-- The total of a counter that has been configured to count something else is exact after each
read, and so is the last increment. -/
theorem readsExactly_of_changed (numPorts : Nat) (inParms : ScCfgRxsCtrIn)
    (start configured : Attached RioScDevCtrs RxsHardware) (place : Place)
    (just : JustConfigured numPorts inParms start configured place)
    (changed : ∀ sel srio, inParms.select = .ok (sel, srio) →
      inParms.Changed (inParms.newCtl sel) start place.port) :
    place.ReadsExactly numPorts configured := by
  apply (just.tracked changed).readsExactly
  rw [just.isCtr]
  exact just.valid

end Configured

/-- The packets that port 0 receives are to be counted. -/
def receivedPackets : ScCfgRxsCtrIn := { sentPackets with tx := false }

/-- The counters of port 0 are read after some events. -/
def readAfter (amount : Nat) : ReadRound :=
  ⟨fun _ _ => amount, fun _ => none, ⟨⟨1, fun _ => 0⟩, true⟩⟩

theorem readsExactly_receivedPackets :
    ∃ configured, (rioScCfgRxsCtr 2 receivedPackets).run leftOver = .ok () configured ∧
      (⟨0, 0, 0⟩ : Place).ReadsExactly 2 configured := by
  refine ⟨_, rfl, readsExactly_of_changed 2 receivedPackets leftOver _ ⟨0, 0, 0⟩
    ⟨leftOver_setUp, by decide, rfl, ⟨[0], rfl, List.mem_cons_self⟩, by decide, rfl⟩ ?_⟩
  intro sel srio selected
  cases selected
  exact fun same => absurd same (by decide)

/-- A counter that is configured to count what it has been counting goes on from its total. -/
theorem not_always_readsExactly :
    ¬∀ (numPorts : Nat) (inParms : ScCfgRxsCtrIn)
      (start configured : Attached RioScDevCtrs RxsHardware) (place : Place),
      JustConfigured numPorts inParms start configured place →
        place.ReadsExactly numPorts configured := by
  intro always
  have again := always 2 receivedPackets (readRound 2
    (finalState ((rioScCfgRxsCtr 2 receivedPackets).run leftOver)) (readAfter 5)) _ ⟨0, 0, 0⟩
    { setUp := ⟨by decide, fun idx valid other validOther _ =>
        (Nat.lt_one_iff.mp valid).trans (Nat.lt_one_iff.mp validOther).symm⟩
      valid := by decide
      ran := rfl
      isPort := ⟨[0], rfl, List.mem_cons_self⟩
      isEntry := by decide
      isCtr := rfl }
  have total := ((again [] (readAfter 3) ⟨by decide, trivial⟩).1
    ⟨⟨_, rfl⟩, [0], rfl, List.mem_cons_self⟩).total
  exact absurd total (by decide)

end RioFabric.StatCounters

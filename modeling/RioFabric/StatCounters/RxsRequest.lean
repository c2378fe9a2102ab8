import RioFabric.StatCounters.RxsConfigure

/-!
# What a request for RXS counters asks for

A call of `rio_sc_cfg_rxs_ctr` that succeeds is to leave the entries of its ports as requested.
It does so when the counters are enabled and the control registers are changed: an entry is not
looked at when the register holds the requested value already.  When the counters are disabled, it
is not the entries of the ports that are reset, but the element behind the valid ones.
-/

namespace RioFabric.StatCounters

open Lib Dar

/-- Whether a type of counter is about the RapidIO interface, and not about the fabric. -/
def RioScCtr.isSrio : RioScCtr → Bool
  | .fabPkt | .fabPload => false
  | _ => true

/-- The elements of `ctrs` that are not for counters of the device stay as they are. -/
def RioScDevCtrs.SameUnused (before after : RioScDevCtrs) : Prop :=
  ∀ idx ctrIdx, rxs2448MaxSc ≤ ctrIdx →
    (after.pCtrs idx).ctrs ctrIdx = (before.pCtrs idx).ctrs ctrIdx

namespace ScCfgRxsCtrIn

variable (inParms : ScCfgRxsCtrIn) (numPorts : Nat) (start : Attached RioScDevCtrs RxsHardware)

/-- The parameters are accepted, and lead to a list of ports, a control value and an interface. -/
structure Accepted (ports : List Nat) (newCtl : BitVec 32) (srio : Bool) : Prop where
  acceptable : start.memory.Acceptable inParms.present
  enough : ¬((inParms.ptl.numPorts = rioAllPorts ∧
      start.memory.numPCtrs < numRxsPorts numPorts) ∨
    (inParms.ptl.numPorts ≠ rioAllPorts ∧ start.memory.numPCtrs < inParms.ptl.numPorts))
  portList : darDbRioGetPortList numPorts inParms.ptl = .ok ports
  entries : ¬(start.memory.numPCtrs < ports.length ∨ start.memory.validPCtrs < ports.length)
  selected : ∃ sel, inParms.select = .ok (sel, srio) ∧ newCtl = inParms.newCtl sel

/-- The entry of a counter says what is counted. -/
def Describes (counter : RioScCtrVal) : Prop :=
  counter.sc = inParms.ctrType ∧ counter.tx = inParms.tx ∧
    counter.srio = inParms.ctrType.isSrio

/-- The entries of a port are as requested: the counter is described, or all are disabled. -/
def AsRequested (port : RioScPCtrsVal) : Prop :=
  if inParms.ctrEn then inParms.Describes (port.ctrs inParms.ctrIdx)
  else ∀ ctrIdx < rxs2448MaxSc, port.ctrs ctrIdx = initRioScCtrVal

/-- The ports of the list are as requested, and the others as they were. -/
structure Configured (ports : List Nat) (before after : RioScDevCtrs) : Prop where
  shape : after.shape = before.shape
  listed : ∀ pt ∈ ports, ∃ idx ∈ before.entriesOf pt, inParms.AsRequested (after.pCtrs idx)
  others : ∀ idx < before.validPCtrs, (before.pCtrs idx).pnum ∉ ports →
    after.pCtrs idx = before.pCtrs idx

/-- A call that succeeds configures the ports of its list, and no call accesses an element
outside. -/
def Configures : Prop :=
  match (rioScCfgRxsCtr numPorts inParms).run start with
  | .ok _ final => start.memory.SameUnused final.memory ∧
      ∀ ports, darDbRioGetPortList numPorts inParms.ptl = .ok ports →
        inParms.Configured ports start.memory final.memory
  | .error code final => start.memory.SameUnused final.memory ∧ code ≠ .outOfBounds

/-- When the call does the right thing with an entry.  If counters are enabled, the control register
changes or the entry is right already.  If they are disabled, the other counters are disabled
already, and this one too unless the control register changes to what a disabled counter has. -/
def GoodEntry (newCtl : BitVec 32) (pt idx : Nat) : Prop :=
  let port := start.memory.pCtrs idx
  if inParms.ctrEn then
    inParms.Changed newCtl start pt ∨ inParms.Describes (port.ctrs inParms.ctrIdx)
  else
    (∀ ctrIdx < rxs2448MaxSc, ctrIdx ≠ inParms.ctrIdx → port.ctrs ctrIdx = initRioScCtrVal) ∧
      if inParms.Changed newCtl start pt then inParms.ctrType = .disabled ∧ inParms.tx = false
      else port.ctrs inParms.ctrIdx = initRioScCtrVal

/-- All entries of the ports are good ones, unless an access fails. -/
def GoodEntries (ports : List Nat) (newCtl : BitVec 32) : Prop :=
  (∀ pt ∈ ports, inParms.Passes newCtl start pt) →
    ∀ pt ∈ ports, ∀ idx ∈ start.memory.entriesOf pt, inParms.GoodEntry start newCtl pt idx

/-- There is an element behind the valid ones if counters are disabled, unless an access for the
first port fails. -/
def HasSpare (ports : List Nat) (newCtl : BitVec 32) : Prop :=
  inParms.ctrEn = false → ∀ pt ∈ ports.head?, inParms.Passes newCtl start pt →
    start.memory.validPCtrs < start.memory.numPCtrs

/-- When a call does the right thing. -/
def HoldsWhen : Prop :=
  ∀ ports newCtl srio, inParms.Accepted numPorts start ports newCtl srio →
    inParms.GoodEntries start ports newCtl ∧ inParms.HasSpare start ports newCtl

end ScCfgRxsCtrIn

namespace ScCfgRxsCtrIn

variable {numPorts : Nat} {inParms : ScCfgRxsCtrIn} {start : Attached RioScDevCtrs RxsHardware}
  {newCtl : BitVec 32} {srio : Bool} {ports : List Nat}

theorem select_srio {sel : BitVec 32} (selected : inParms.select = .ok (sel, srio)) :
    srio = inParms.ctrType.isSrio := by
  unfold select at selected
  split at selected
  case h_2 isType | h_4 isType =>
    split at selected
    · cases selected
    · cases selected
      rw [isType]
      rfl
  case h_5 isType | h_8 isType =>
    split at selected
    · cases selected
    · cases selected
      rw [isType]
      rfl
  case h_10 => cases selected
  all_goals
    cases selected
    simp only [*, RioScCtr.isSrio]

theorem Accepted.isSrio (accepted : inParms.Accepted numPorts start ports newCtl srio) :
    srio = inParms.ctrType.isSrio := by
  obtain ⟨sel, selected, _⟩ := accepted.selected
  exact select_srio selected

theorem Accepted.unique (accepted : inParms.Accepted numPorts start ports newCtl srio)
    {ports' : List Nat} {newCtl' : BitVec 32} {srio' : Bool}
    (other : inParms.Accepted numPorts start ports' newCtl' srio') :
    ports' = ports ∧ newCtl' = newCtl := by
  have samePorts := other.portList.symm.trans accepted.portList
  obtain ⟨sel, selected, isCtl⟩ := accepted.selected
  obtain ⟨sel', selected', isCtl'⟩ := other.selected
  rw [selected] at selected'
  cases selected'
  exact ⟨Except.ok.inj samePorts, isCtl'.trans isCtl.symm⟩

theorem checkCfg_meets :
    Meets (fun state => state = start) (checkCfg numPorts inParms)
      (fun checked state => state = start ∧
        inParms.Accepted numPorts start checked.1 checked.2.1 checked.2.2)
      fun code state => (state = start ∧ code ≠ .outOfBounds) ∧
        ∀ ports newCtl srio, ¬inParms.Accepted numPorts start ports newCtl srio := by
  apply Meets.bind (checkDevCtrs_meets fun state rc impRc same fails =>
    ⟨⟨same, nofun⟩, fun _ _ _ accepted => fails (same ▸ accepted.acceptable)⟩)
  intro _
  apply Meets.startingAt
  intro now before
  obtain ⟨acceptable, rfl⟩ := before
  apply getDevCtrs_bind
  intro devCtrs
  apply Meets.startingAt
  intro again isStart
  obtain ⟨rfl, rfl⟩ := isStart
  apply Meets.failIfBind
  · exact fun state isStart few =>
      ⟨⟨isStart, nofun⟩, fun _ _ _ accepted => accepted.enough few⟩
  intro enough
  apply Meets.bind (getPortList_meets ?_ ?_)
  · intro ports
    apply Meets.assume
    intro portList
    apply Meets.failIfBind
    · intro state isStart few
      refine ⟨⟨isStart, nofun⟩, fun _ _ _ accepted => accepted.entries ?_⟩
      rwa [← Except.ok.inj (portList.symm.trans accepted.portList)]
    · intro entries
      split
      next code notSelected =>
        apply Meets.throw
        intro state isStart
        refine ⟨⟨isStart, nofun⟩, fun _ _ _ accepted => ?_⟩
        obtain ⟨sel, selected, _⟩ := accepted.selected
        rw [notSelected] at selected
        cases selected
      next sel srio selected =>
        exact Meets.pure fun _ isStart =>
          ⟨isStart, acceptable, enough, portList, entries, sel, selected, rfl⟩
  · intro state rc isStart fails
    refine ⟨⟨isStart, nofun⟩, fun _ _ _ accepted => ?_⟩
    rw [accepted.portList] at fails
    cases fails
  · intro state isStart fails
    refine ⟨⟨isStart, nofun⟩, fun _ _ _ accepted => ?_⟩
    rw [accepted.portList] at fails
    cases fails

end ScCfgRxsCtrIn

theorem RioScDevCtrs.sameUnused_stable (before : RioScDevCtrs) :
    Stable fun devCtrs => before.SameUnused devCtrs := by
  intro devCtrs idx ctrIdx change used same place other unused
  by_cases samePlace : place = idx
  · have different : other ≠ ctrIdx := fun same => Nat.not_lt.mpr unused (same ▸ used)
    rw [samePlace, RioScDevCtrs.pCtrs_setCtr_self, ← same idx other unused]
    exact Function.update_of_ne different _ _
  · rw [RioScDevCtrs.pCtrs_setCtr_of_ne samePlace]
    exact same place other unused

theorem rioScCfgRxsCtr_sameUnused {numPorts : Nat} {inParms : ScCfgRxsCtrIn}
    (used : inParms.ctrIdx < rxs2448MaxSc) (start : Attached RioScDevCtrs RxsHardware) :
    Meets (fun state => state = start) (rioScCfgRxsCtr numPorts inParms)
      (fun _ state => start.memory.SameUnused state.memory)
      fun _ state => start.memory.SameUnused state.memory :=
  (Keeps.rioScCfgRxsCtr start.memory.sameUnused_stable used).weakenPre
    fun _ same _ _ _ => same ▸ rfl

section Exact

variable {numPorts : Nat} {inParms : ScCfgRxsCtrIn} {newCtl : BitVec 32} {srio : Bool}
  {start final : Attached RioScDevCtrs RxsHardware} {ports : List Nat} {pt idx : Nat}

theorem describes_newCtr (isSrio : srio = inParms.ctrType.isSrio) :
    inParms.Describes (inParms.newCtr srio) := ⟨rfl, rfl, isSrio⟩

theorem newCtr_eq_init_iff (isSrio : srio = inParms.ctrType.isSrio) :
    inParms.newCtr srio = initRioScCtrVal ↔ inParms.ctrType = .disabled ∧ inParms.tx = false := by
  constructor
  · intro same
    exact ⟨congrArg RioScCtrVal.sc same, congrArg RioScCtrVal.tx same⟩
  · intro disabled
    rw [ScCfgRxsCtrIn.newCtr, isSrio, disabled.1, disabled.2]
    rfl

theorem forall_ctrs_iff {ctrIdx : Nat} (valid : ctrIdx < rxs2448MaxSc) {ctrs : Nat → RioScCtrVal} :
    (∀ other < rxs2448MaxSc, ctrs other = initRioScCtrVal) ↔
      (∀ other < rxs2448MaxSc, other ≠ ctrIdx → ctrs other = initRioScCtrVal) ∧
        ctrs ctrIdx = initRioScCtrVal := by
  constructor
  · intro all
    exact ⟨fun other small _ => all other small, all ctrIdx valid⟩
  · intro ⟨others, this⟩ other small
    by_cases same : other = ctrIdx
    · rw [same, this]
    · exact others other small same

theorem asRequested_iff (valid : inParms.ctrIdx < rxs2448MaxSc)
    (isSrio : srio = inParms.ctrType.isSrio)
    (processed : inParms.Processed newCtl srio start {pt | pt ∈ ports} final) (isPort : pt ∈ ports)
    (isEntry : idx ∈ start.memory.entriesOf pt) :
    inParms.AsRequested (final.memory.pCtrs idx) ↔ inParms.GoodEntry start newCtl pt idx := by
  obtain ⟨inRange, samePort⟩ := RioScDevCtrs.mem_entriesOf.mp isEntry
  unfold ScCfgRxsCtrIn.AsRequested ScCfgRxsCtrIn.GoodEntry
  rw [forall_ctrs_iff valid]
  by_cases changed : inParms.Changed newCtl start pt
  · have entry := processed.changed idx inRange (samePort ▸ isPort) (samePort ▸ changed)
    have others : ∀ other, other ≠ inParms.ctrIdx →
        (final.memory.pCtrs idx).ctrs other = (start.memory.pCtrs idx).ctrs other := by
      intro other different
      rw [entry, RioScDevCtrs.pCtrs_setCtr_self]
      exact Function.update_of_ne different _ _
    have this : (final.memory.pCtrs idx).ctrs inParms.ctrIdx = inParms.newCtr srio := by
      rw [entry, RioScDevCtrs.pCtrs_setCtr_self]
      exact Function.update_self _ _ _
    have sameOthers : (∀ other < rxs2448MaxSc, other ≠ inParms.ctrIdx →
        (final.memory.pCtrs idx).ctrs other = initRioScCtrVal) ↔
        ∀ other < rxs2448MaxSc, other ≠ inParms.ctrIdx →
          (start.memory.pCtrs idx).ctrs other = initRioScCtrVal := by
      apply forall₃_congr
      intro other _ different
      rw [others other different]
    rw [sameOthers, this, newCtr_eq_init_iff isSrio]
    simp [changed, describes_newCtr isSrio]
  · have entry := processed.same idx inRange (samePort ▸ fun both => changed both.2)
    rw [entry]
    simp [changed]

section Loop

variable (setUp : start.memory.SetUp) (valid : inParms.ctrIdx < rxs2448MaxSc)
include setUp valid

theorem configured_iff (isSrio : srio = inParms.ctrType.isSrio)
    (processed : inParms.Processed newCtl srio start {pt | pt ∈ ports} final)
    (passes : ∀ pt ∈ ports, inParms.Passes newCtl start pt) :
    inParms.Configured ports start.memory final.memory ↔
      inParms.GoodEntries start ports newCtl := by
  constructor
  · intro configured _ pt isPort idx isEntry
    obtain ⟨entry, hasEntry, asRequested⟩ := configured.listed pt isPort
    rw [setUp.entriesOf_of_mem hasEntry, List.mem_singleton] at isEntry
    rw [isEntry]
    exact (asRequested_iff valid isSrio processed isPort hasEntry).mp asRequested
  · intro good
    constructor
    · exact processed.shape
    · intro pt isPort
      obtain ⟨idx, isEntry⟩ := List.exists_mem_of_ne_nil _ (passes pt isPort).hasEntry
      have goodEntry := good passes pt isPort idx isEntry
      exact ⟨idx, isEntry, (asRequested_iff valid isSrio processed isPort isEntry).mpr goodEntry⟩
    · exact fun idx inRange notListed =>
        processed.same idx inRange fun both => notListed both.1

theorem error_iff {code : ScStop}
    (stopped : (ports.forM (inParms.cfgPort newCtl srio)).run start = .error code final) :
    code ≠ .outOfBounds ↔
      inParms.GoodEntries start ports newCtl ∧ inParms.HasSpare start ports newCtl := by
  have inRange : inParms.ctrIdx < rioMaxSc := Nat.lt_trans valid (by decide)
  obtain ⟨pt, isPort, fails⟩ := (ScCfgRxsCtrIn.cfgPorts_meets setUp inRange rfl).2 stopped
  cases ports with
  | nil => cases isPort
  | cons first rest =>
    cases code with
    | failed rc impRc =>
      refine ⟨fun _ => ⟨?_, ?_⟩, fun _ => nofun⟩
      · exact fun passes => absurd (passes pt isPort) fails
      · intro disabled other isFirst passes
        cases isFirst
        by_contra full
        cases (ScCfgRxsCtrIn.first_outside setUp inRange passes disabled
          (Nat.not_lt.mp full) rfl).2 stopped
    | outOfBounds =>
      refine ⟨fun inside => absurd rfl inside, ?_⟩
      intro ⟨_, hasSpare⟩
      by_cases passes : inParms.Passes newCtl start first
      · exact absurd fails.2.2 (Nat.not_le.mpr (hasSpare fails.2.1 first rfl passes))
      · exact (ScCfgRxsCtrIn.first_fails setUp inRange passes rfl).2 stopped
    | ptlOutOfBounds => exact fails.elim

theorem ok_iff (isSrio : srio = inParms.ctrType.isSrio)
    (ran : (ports.forM (inParms.cfgPort newCtl srio)).run start = .ok ⟨⟩ final) :
    inParms.Configured ports start.memory final.memory ↔
      inParms.GoodEntries start ports newCtl ∧ inParms.HasSpare start ports newCtl := by
  have inRange : inParms.ctrIdx < rioMaxSc := Nat.lt_trans valid (by decide)
  obtain ⟨processed, portsDone⟩ := (ScCfgRxsCtrIn.cfgPorts_meets setUp inRange rfl).1 ran
  rw [configured_iff setUp valid isSrio processed fun pt isPort => (portsDone pt isPort).1]
  refine (and_iff_left ?_).symm
  intro disabled pt isFirst _
  exact (portsDone pt (List.mem_of_mem_head? isFirst)).2 disabled

end Loop

theorem run_of_rejected {code : ScStop}
    (checks : (checkCfg numPorts inParms).run start = .error code final) :
    (rioScCfgRxsCtr numPorts inParms).run start = .error code final := by
  rw [rioScCfgRxsCtr, EStateM.run_bind, checks]

theorem run_of_accepted
    (checks : (checkCfg numPorts inParms).run start = .ok (ports, newCtl, srio) final) :
    (rioScCfgRxsCtr numPorts inParms).run start =
      (ports.forM (inParms.cfgPort newCtl srio)).run final := by
  rw [rioScCfgRxsCtr, EStateM.run_bind, checks]

/-- A call does the right thing for entries of different ports exactly when it starts with good ones
and an element to reset. -/
theorem configures_iff (numPorts : Nat) (inParms : ScCfgRxsCtrIn)
    (start : Attached RioScDevCtrs RxsHardware) (distinct : start.memory.Distinct)
    (valid : inParms.ctrIdx < rxs2448MaxSc) :
    inParms.Configures numPorts start ↔ inParms.HoldsWhen numPorts start := by
  obtain ⟨sameOk, sameError⟩ := @rioScCfgRxsCtr_sameUnused numPorts inParms valid start _ rfl
  obtain ⟨accepts, rejects⟩ := @ScCfgRxsCtrIn.checkCfg_meets numPorts inParms start _ rfl
  unfold ScCfgRxsCtrIn.Configures
  cases checks : (checkCfg numPorts inParms).run start with
  | error code state =>
    obtain ⟨⟨same, inside⟩, notAccepted⟩ := rejects checks
    have run := run_of_rejected checks
    rw [run]
    exact iff_of_true ⟨sameError run, inside⟩ fun ports newCtl srio accepted =>
      (notAccepted ports newCtl srio accepted).elim
  | ok checked state =>
    obtain ⟨ports, newCtl, srio⟩ := checked
    obtain ⟨rfl, accepted⟩ := accepts checks
    have setUp : state.memory.SetUp :=
      ⟨Nat.not_lt.mp fun fewer => accepted.acceptable.2.2 (.inr (.inr fewer)), distinct⟩
    have condition : inParms.HoldsWhen numPorts state ↔
        inParms.GoodEntries state ports newCtl ∧ inParms.HasSpare state ports newCtl := by
      constructor
      · exact fun holds => holds ports newCtl srio accepted
      · intro holds ports' newCtl' srio' other
        obtain ⟨rfl, rfl⟩ := accepted.unique other
        exact holds
    rw [condition]
    cases ran : (ports.forM (inParms.cfgPort newCtl srio)).run state with
    | ok _ final =>
      have run := (run_of_accepted checks).trans ran
      rw [run, ← ok_iff setUp valid accepted.isSrio ran]
      refine ⟨fun configures => configures.2 ports accepted.portList, ?_⟩
      intro configured
      refine ⟨sameOk run, fun ports' made => ?_⟩
      rwa [← Except.ok.inj (accepted.portList.symm.trans made)]
    | error code final =>
      have run := (run_of_accepted checks).trans ran
      rw [run, ← error_iff setUp valid ran]
      exact and_iff_right (sameError run)

/-- The entry of port 0 has been set up; the control registers hold a value from before. -/
def leftOver : Attached RioScDevCtrs RxsHardware :=
  ⟨⟨2, 1, true, fun _ => initPCtrs 0 ⟨0, 0, fun _ => initRioScCtrVal⟩⟩,
    ⟨fun _ => 0, fun _ _ => 0xFF80, fun _ _ => ⟨0, 0, 0⟩, fun _ => none, fun _ => none⟩⟩

/-- The packets that port 0 sends are to be counted. -/
def sentPackets : ScCfgRxsCtrIn := ⟨⟨1, fun _ => 0⟩, 0, 0xFF, true, true, .pkt, true⟩

theorem leftOver_setUp : leftOver.memory.SetUp := by
  constructor
  · decide
  · intro idx valid other validOther _
    rw [Nat.lt_one_iff.mp valid, Nat.lt_one_iff.mp validOther]

theorem configures_iff_leftOver :
    sentPackets.Configures 2 leftOver ↔ sentPackets.HoldsWhen 2 leftOver :=
  configures_iff 2 sentPackets leftOver leftOver_setUp.distinct (by decide)

/-- Entries that were just set up need not be as requested afterwards. -/
theorem not_always_configures :
    ¬∀ (numPorts : Nat) (initParms : ScPortsIn) (inParms : ScCfgRxsCtrIn)
      (before start : Attached RioScDevCtrs RxsHardware),
      (rxsRioScInitDevCtrs numPorts initParms).run before = .ok () start →
        inParms.ctrIdx < rxs2448MaxSc → inParms.Configures numPorts start := by
  intro always
  obtain ⟨start, init, numbers, ran⟩ : ∃ start,
      (rxsRioScInitDevCtrs 2 ⟨⟨1, fun _ => 0⟩, true⟩).run leftOver = .ok () start ∧
        start.memory.entriesOf 0 = [0] ∧
          ∃ final, (rioScCfgRxsCtr 2 sentPackets).run start = .ok () final ∧
            ((final.memory.pCtrs 0).ctrs 0).sc = .disabled := ⟨_, rfl, rfl, _, rfl, rfl⟩
  obtain ⟨final, configured, disabled⟩ := ran
  have configures := always 2 _ sentPackets leftOver start init (by decide)
  unfold ScCfgRxsCtrIn.Configures at configures
  rw [configured] at configures
  obtain ⟨idx, isEntry, asRequested⟩ := (configures.2 [0] rfl).listed 0 List.mem_cons_self
  rw [numbers, List.mem_singleton] at isEntry
  rw [isEntry] at asRequested
  have described : ((final.memory.pCtrs 0).ctrs 0).sc = .pkt := asRequested.1
  rw [disabled] at described
  cases described

/-- Counters are set up, configured and read. -/
theorem setUp_of_run_leftOver :
    ∃ start, (rxsRioScInitDevCtrs 2 ⟨⟨1, fun _ => 0⟩, true⟩).run leftOver = .ok () start ∧
      (run (scStep 2) start [⟨.cfg sentPackets, start.device⟩,
        ⟨.read ⟨⟨1, fun _ => 0⟩, true⟩, start.device⟩]).memory.SetUp :=
  ⟨_, rfl, @setUp_of_run 2 ⟨⟨1, fun _ => 0⟩, true⟩ leftOver _ _ rfl
    ⟨⟨(by decide : 0 < rxs2448MaxSc), trivial⟩, ⟨trivial, trivial⟩, trivial⟩⟩

end Exact

end RioFabric.StatCounters

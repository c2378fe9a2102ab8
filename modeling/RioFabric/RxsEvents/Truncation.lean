import RioFabric.RxsEvents.Status

/-!
# Lists that are cut off

The calls that look for events go through the device in the same way whatever room there is for
events.  So what they report is cut off from one list of all the events.  The number of events is
counted in a field of 8 bits, which all ports together cannot exceed.
-/

namespace RioFabric.RxsEvents

open Lib Dar
open StatCounters (numRxsPorts)

/-- Whatever is reported, the structures that two sinks write stay related. -/
structure EventSink.Matches {μ ν : Type} (sink : EventSink μ) (other : EventSink ν)
    (R : μ → ν → Prop) : Prop where
  setImpRc : ∀ impRc memory otherMemory, R memory otherMemory →
    R (sink.setImpRc impRc memory) (other.setImpRc impRc otherMemory)
  addEvent : ∀ event memory otherMemory, R memory otherMemory →
    R (sink.addEvent event memory) (other.addEvent event otherMemory)
  setOtherEvents : ∀ memory otherMemory, R memory otherMemory →
    R (sink.setOtherEvents memory) (other.setOtherEvents otherMemory)

section SideBySide

variable {μ ν δ α : Type} {sink : EventSink μ} {other : EventSink ν} {P R : μ → ν → Prop}
  (same : sink.Matches other R) (device : RegDevice Reg δ)

include same

theorem leave_simulates (impRc rc : Nat) :
    Simulates (OverMemory (δ := δ) R) (leave sink impRc rc : EmProgram μ δ α)
      (leave other impRc rc) (OverMemory R) :=
  Simulates.bind (modifyMemory_simulates (same.setImpRc impRc)) fun _ => Simulates.throw _

theorem readReg_simulates (reg : Reg) (impRc : Nat) :
    Simulates (OverMemory R) (readReg sink device reg impRc) (readReg other device reg impRc)
      (OverMemory R) :=
  regRead_simulates.onStop fun _ _ related => ⟨same.setImpRc impRc _ _ related.1, related.2⟩

theorem addIf_simulates (condition : Prop) [Decidable condition] (event : RioEmEvents)
    (portNum : Nat) :
    Simulates (OverMemory (δ := δ) R) (addIf sink condition event portNum)
      (addIf other condition event portNum) (OverMemory R) :=
  Simulates.ite (modifyMemory_simulates (same.addEvent _)) (Simulates.pure ())

theorem otherIf_simulates (condition : Prop) [Decidable condition] :
    Simulates (OverMemory (δ := δ) R) (otherIf sink condition) (otherIf other condition)
      (OverMemory R) :=
  Simulates.ite (modifyMemory_simulates same.setOtherEvents) (Simulates.pure ())

theorem getPortList_simulates (numPorts : Nat) (ptl : DarPtl) (impRc : Nat) :
    Simulates (OverMemory (δ := δ) R) (getPortList sink numPorts ptl impRc)
      (getPortList other numPorts ptl impRc) (OverMemory R) := by
  unfold getPortList
  split
  · exact Simulates.pure _
  · exact leave_simulates same impRc _
  · exact Simulates.throw _

theorem addMaxDenial_simulates (query : PortQuery) (port : Nat) (plmStat : BitVec 32) :
    Simulates (OverMemory R) (addMaxDenial sink device query port plmStat)
      (addMaxDenial other device query port plmStat) (OverMemory R) := by
  apply Simulates.ite
  · apply Simulates.bind (readReg_simulates same device _ _)
    intro plmDenialCtl
    apply Simulates.bind (addIf_simulates same _ _ _)
    intro _
    apply Simulates.ite
    · apply Simulates.bind (readReg_simulates same device _ _)
      intro pnaCap
      exact addIf_simulates same _ _ _
    · exact Simulates.pure ()
  · exact Simulates.pure ()

theorem getStatPort_simulates (query : PortQuery) (port : Nat) :
    Simulates (OverMemory R) (getStatPort sink device query port)
      (getStatPort other device query port) (OverMemory R) := by
  iterate 8
    apply Simulates.bind (readReg_simulates same device _ _)
    intro _
  apply Simulates.bind (Simulates.forM fun entry => ?_)
  · intro _
    apply Simulates.bind (addIf_simulates same _ _ _)
    intro _
    apply Simulates.bind (addIf_simulates same _ _ _)
    intro _
    apply Simulates.bind (addMaxDenial_simulates same device query port _)
    intro _
    iterate 5
      apply Simulates.bind (addIf_simulates same _ _ _)
      intro _
    apply Simulates.bind (otherIf_simulates same _)
    intro _
    apply Simulates.bind (otherIf_simulates same _)
    intro _
    exact otherIf_simulates same _
  · apply Simulates.bind (readReg_simulates same device _ _)
    intro _
    exact Simulates.pure ()

theorem addDevEvent_simulates (asserted : Prop) [Decidable asserted] (event : RioEmEvents)
    (reg : DevReg) (mask : BitVec 32) (impRc : Nat) :
    Simulates (OverMemory R) (addDevEvent sink device asserted event reg mask impRc)
      (addDevEvent other device asserted event reg mask impRc) (OverMemory R) := by
  apply Simulates.ite
  · exact modifyMemory_simulates (same.addEvent _)
  · apply Simulates.bind (readReg_simulates same device _ _)
    intro shown
    exact otherIf_simulates same _

theorem getDevIntStatus_simulates :
    Simulates (OverMemory R) (getDevIntStatus sink device) (getDevIntStatus other device)
      (OverMemory R) := by
  iterate 2
    apply Simulates.bind (readReg_simulates same device _ _)
    intro _
  iterate 2
    apply Simulates.bind (addDevEvent_simulates same device _ _ _ _ _)
    intro _
  exact otherIf_simulates same _

theorem getDevPwStatus_simulates :
    Simulates (OverMemory R) (getDevPwStatus sink device) (getDevPwStatus other device)
      (OverMemory R) := by
  iterate 2
    apply Simulates.bind (readReg_simulates same device _ _)
    intro _
  iterate 2
    apply Simulates.bind (addDevEvent_simulates same device _ _ _ _ _)
    intro _
  exact otherIf_simulates same _

variable (cleared : ∀ memory otherMemory, P memory otherMemory →
  R (sink.clear memory) (other.clear otherMemory))

include cleared

theorem parsePw_simulates (numPorts : Nat) (pw : PwWords) (room : Bool) :
    Simulates (OverMemory (δ := δ) P) (parsePw sink numPorts pw room)
      (parsePw other numPorts pw room) (OverMemory R) := by
  apply Simulates.bind (modifyMemory_simulates cleared)
  intro _
  apply Simulates.ite
  · apply Simulates.ite
    · exact leave_simulates same _ _
    · iterate 12
        apply Simulates.bind (addIf_simulates same _ _ _)
        intro _
      exact otherIf_simulates same _
  · exact leave_simulates same _ _

theorem getIntStat_simulates (numPorts : Nat) (ptl : DarPtl) (room : Bool) :
    Simulates (OverMemory P) (getIntStat sink device numPorts ptl room)
      (getIntStat other device numPorts ptl room) (OverMemory R) := by
  apply Simulates.bind (modifyMemory_simulates cleared)
  intro _
  apply Simulates.ite
  · apply Simulates.bind (getPortList_simulates same _ _ _)
    intro ports
    apply Simulates.bind (Simulates.forM fun port => getStatPort_simulates same device _ port)
    intro _
    exact getDevIntStatus_simulates same device
  · exact leave_simulates same _ _

theorem getPwStat_simulates (numPorts : Nat) (ptl : DarPtl) (pwPortNum : Nat) (room : Bool) :
    Simulates (OverMemory P) (getPwStat sink device numPorts ptl pwPortNum room)
      (getPwStat other device numPorts ptl pwPortNum room) (OverMemory R) := by
  apply Simulates.bind (modifyMemory_simulates cleared)
  intro _
  apply Simulates.ite
  · apply Simulates.bind (getPortList_simulates same _ _ _)
    intro ports
    apply Simulates.bind (Simulates.forM fun port => ?_)
    · intro _
      apply Simulates.ite
      · apply Simulates.bind (getStatPort_simulates same device _ _)
        intro _
        apply (getDevPwStatus_simulates same device).atEnd
        exact fun _ _ related => ⟨same.addEvent _ _ _ related.1, related.2⟩
      · exact getDevPwStatus_simulates same device
    · exact Simulates.ite (Simulates.pure ()) (getStatPort_simulates same device _ port)
  · exact leave_simulates same _ _

end SideBySide

/-- What would be reported if there were room for everything. -/
structure EventLog where
  impRc : Nat
  events : List RioEmEventNLoc
  otherEvents : Bool

/-- The report to a log. -/
def eventLog : EventSink EventLog where
  clear _ := ⟨0, [], false⟩
  setImpRc impRc log := { log with impRc }
  addEvent event log := { log with events := log.events ++ [event] }
  setOtherEvents log := { log with otherEvents := true }

section Filling

variable {width capacity : Nat} {before : Nat → RioEmEventNLoc}

/-- The list has as many of the events as there is room for, and nothing else is written. -/
structure Filled (capacity : Nat) (before : Nat → RioEmEventNLoc) (events : List RioEmEventNLoc)
    (out : EventsOut width) : Prop where
  numEvents : out.numEvents.toNat = min capacity events.length
  tooMany : out.tooMany = decide (capacity < events.length)
  events : ∀ idx, out.events idx =
    if idx < capacity then events[idx]?.getD (before idx) else before idx

/-- The report tells the same as the log, as long as the number of events can be counted. -/
structure Shows (capacity : Nat) (before : Nat → RioEmEventNLoc) (log : EventLog)
    (out : EventsOut width) : Prop where
  impRc : log.impRc = out.impRc
  otherEvents : log.otherEvents = out.otherEvents
  filled : log.events.length < 2 ^ width → Filled capacity before log.events out

theorem Filled.add {events : List RioEmEventNLoc} {out : EventsOut width}
    (filled : Filled capacity before events out) (event : RioEmEventNLoc)
    (few : events.length + 1 < 2 ^ width) :
    Filled capacity before (events ++ [event]) (safeAddEventNLoc capacity event out) := by
  have count := filled.numEvents
  rw [safeAddEventNLoc]
  split
  next room =>
    have isLength : out.numEvents.toNat = events.length := by omega
    rw [isLength] at room
    constructor
    · rw [BitVec.toNat_add, isLength, List.length_append, List.length_singleton]
      have one : (1 : BitVec width).toNat = 1 := by
        rw [BitVec.ofNat_eq_ofNat, BitVec.toNat_ofNat]
        exact Nat.mod_eq_of_lt (Nat.lt_of_le_of_lt (Nat.le_add_left 1 _) few)
      rw [one, Nat.mod_eq_of_lt few]
      omega
    · rw [filled.tooMany, List.length_append, List.length_singleton]
      exact decide_eq_decide.mpr (by omega)
    · intro idx
      dsimp only
      rw [isLength]
      by_cases isLast : idx = events.length
      · subst isLast
        rw [Function.update_self, if_pos room, List.getElem?_append_right (Nat.le_refl _),
          Nat.sub_self]
        rfl
      · rw [Function.update_of_ne isLast, filled.events]
        rcases Nat.lt_or_gt_of_ne isLast with earlier | later
        · rw [List.getElem?_append_left earlier]
        · rw [List.getElem?_eq_none (Nat.le_of_lt later), List.getElem?_eq_none]
          rw [List.length_append, List.length_singleton]
          exact later
  next full =>
    constructor
    · rw [List.length_append, List.length_singleton]
      dsimp only
      omega
    · rw [List.length_append, List.length_singleton]
      exact (decide_eq_true (by omega)).symm
    · intro idx
      dsimp only
      rw [filled.events]
      by_cases inRange : idx < capacity
      · rw [if_pos inRange, if_pos inRange, List.getElem?_append_left (by omega)]
      · rw [if_neg inRange, if_neg inRange]

theorem outParms_matches :
    eventLog.Matches (outParms width capacity) (Shows capacity before) where
  setImpRc _ _ _ shows := by
    refine ⟨rfl, shows.otherEvents, fun few => ?_⟩
    have filled := shows.filled few
    exact ⟨filled.numEvents, filled.tooMany, filled.events⟩
  addEvent event log out shows := by
    have kept : (safeAddEventNLoc capacity event out).impRc = out.impRc ∧
        (safeAddEventNLoc capacity event out).otherEvents = out.otherEvents := by
      rw [safeAddEventNLoc]
      split
      · exact ⟨rfl, rfl⟩
      · exact ⟨rfl, rfl⟩
    refine ⟨shows.impRc.trans kept.1.symm, shows.otherEvents.trans kept.2.symm, fun few => ?_⟩
    have more : log.events.length + 1 < 2 ^ width := by
      simpa only [eventLog, List.length_append, List.length_singleton] using few
    exact (shows.filled (Nat.lt_of_succ_lt more)).add event more
  setOtherEvents _ _ shows := by
    refine ⟨shows.impRc, rfl, fun few => ?_⟩
    have filled := shows.filled few
    exact ⟨filled.numEvents, filled.tooMany, filled.events⟩

theorem outParms_clear (log : EventLog) (out : EventsOut width) (isBefore : out.events = before) :
    Shows capacity before (eventLog.clear log) ((outParms width capacity).clear out) := by
  refine ⟨rfl, rfl, fun _ => ⟨?_, ?_, fun idx => ?_⟩⟩
  · exact BitVec.toNat_zero.trans (Nat.min_zero _).symm
  · exact (decide_eq_false (Nat.not_lt_zero _)).symm
  · split
    · exact congrFun isBefore idx
    · exact congrFun isBefore idx

end Filling

/-- A program reports at most so many events. -/
def ReportsAtMost {δ α : Type} (count : Nat) (program : EmProgram EventLog δ α) : Prop :=
  ∀ bound, Meets (fun state => state.memory.events.length ≤ bound) program
    (fun _ state => state.memory.events.length ≤ bound + count)
    fun _ state => state.memory.events.length ≤ bound + count

namespace ReportsAtMost

variable {δ α β : Type} {count more : Nat} {program : EmProgram EventLog δ α}

theorem mono (most : ReportsAtMost count program) (fewer : count ≤ more) :
    ReportsAtMost more program := by
  intro bound
  have weaker : ∀ state : Attached EventLog δ, state.memory.events.length ≤ bound + count →
      state.memory.events.length ≤ bound + more :=
    fun state few => few.trans (Nat.add_le_add_left fewer bound)
  exact (most bound).weaken (fun _ few => few) (fun _ => weaker) fun _ => weaker

theorem pure (value : α) : ReportsAtMost 0 (Pure.pure value : EmProgram EventLog δ α) :=
  fun _ => Meets.pure fun _ few => few

theorem throw (stop : PtlStop) : ReportsAtMost 0 (throw stop : EmProgram EventLog δ α) :=
  fun _ => Meets.throw fun _ few => few

theorem bind {next : α → EmProgram EventLog δ β} (head : ReportsAtMost count program)
    (tail : ∀ value, ReportsAtMost more (next value)) :
    ReportsAtMost (more + count) (program >>= next) := by
  intro bound
  apply Meets.bind ((head bound).weakenFail fun _ _ few => few.trans (by omega))
  intro value
  have total : bound + count + more = bound + (more + count) := by omega
  exact total ▸ tail value (bound + count)

theorem ite {condition : Prop} [Decidable condition] {other : EmProgram EventLog δ α}
    (yes : ReportsAtMost count program) (no : ReportsAtMost count other) :
    ReportsAtMost count (if condition then program else other) := by
  split
  · exact yes
  · exact no

theorem forM {ι : Type} {body : ι → EmProgram EventLog δ PUnit} {cells : List ι}
    (turn : ∀ idx, ReportsAtMost count (body idx)) :
    ReportsAtMost (cells.length * count) (cells.forM body) := by
  induction cells with
  | nil => exact (pure _).mono (Nat.zero_le _)
  | cons idx cells ih =>
    rw [List.length_cons, Nat.succ_mul]
    exact (turn idx).bind fun _ => ih

theorem atEnd_addEvent (most : ReportsAtMost count program) (event : RioEmEventNLoc) :
    ReportsAtMost (count + 1) (atEnd program fun state => { state with
      memory := eventLog.addEvent event state.memory }) := by
  intro bound
  have one : ∀ state : Attached EventLog δ, state.memory.events.length ≤ bound + count →
      (eventLog.addEvent event state.memory).events.length ≤ bound + (count + 1) := by
    intro state few
    rw [eventLog, List.length_append]
    exact Nat.succ_le_succ few
  exact atEnd_meets ((most bound).weaken (fun _ few => few) (fun _ => one) fun _ => one)

end ReportsAtMost

section Counts

variable {δ α : Type} (device : RegDevice Reg δ)

theorem setImpRc_reports (impRc : Nat) : ReportsAtMost 0
    (modifyMemory (eventLog.setImpRc impRc) : EmProgram EventLog δ PUnit) :=
  fun _ => Meets.modify fun _ few => few

theorem addEvent_reports (event : RioEmEventNLoc) : ReportsAtMost 1
    (modifyMemory (eventLog.addEvent event) : EmProgram EventLog δ PUnit) := by
  intro bound
  apply Meets.modify
  intro state few
  rw [eventLog, List.length_append]
  exact Nat.succ_le_succ few

theorem leave_reports (impRc rc : Nat) :
    ReportsAtMost 0 (leave eventLog impRc rc : EmProgram EventLog δ α) :=
  (setImpRc_reports impRc).bind fun _ => ReportsAtMost.throw _

theorem readReg_reports (reg : Reg) (impRc : Nat) :
    ReportsAtMost 0 (readReg eventLog device reg impRc) := by
  intro bound
  apply onStop_meets
  apply regRead_meets
  · exact fun _ _ _ few _ => few
  · exact fun _ _ _ few _ => few

theorem addIf_reports (condition : Prop) [Decidable condition] (event : RioEmEvents)
    (portNum : Nat) :
    ReportsAtMost 1 (addIf eventLog condition event portNum : EmProgram EventLog δ Unit) :=
  (addEvent_reports _).ite ((ReportsAtMost.pure ()).mono (Nat.zero_le _))

theorem otherIf_reports (condition : Prop) [Decidable condition] :
    ReportsAtMost 0 (otherIf eventLog condition : EmProgram EventLog δ Unit) := by
  have set : ReportsAtMost 0
      (modifyMemory eventLog.setOtherEvents : EmProgram EventLog δ PUnit) :=
    fun _ => Meets.modify fun _ few => few
  exact set.ite (ReportsAtMost.pure ())

theorem addMaxDenial_reports (query : PortQuery) (port : Nat) (plmStat : BitVec 32) :
    ReportsAtMost 2 (addMaxDenial eventLog device query port plmStat) := by
  apply ReportsAtMost.ite
  · apply (readReg_reports device _ _).bind
    intro plmDenialCtl
    apply (addIf_reports _ _ _).bind
    intro _
    apply ReportsAtMost.ite
    · apply (readReg_reports device _ _).bind
      intro pnaCap
      exact addIf_reports _ _ _
    · exact (ReportsAtMost.pure ()).mono (Nat.zero_le _)
  · exact (ReportsAtMost.pure ()).mono (Nat.zero_le _)

theorem getStatPort_reports (query : PortQuery) (port : Nat) :
    ReportsAtMost 9 (getStatPort eventLog device query port) := by
  iterate 8
    apply (readReg_reports device _ _).bind
    intro _
  have reads : ReportsAtMost 0 (query.unused.forM fun entry => do
      let _ ← readReg eventLog device (.dev entry.1) entry.2
      pure ()) := by
    change ReportsAtMost (query.unused.length * 0) _
    apply ReportsAtMost.forM
    intro entry
    exact (readReg_reports device _ _).bind fun _ => ReportsAtMost.pure ()
  apply reads.bind
  intro _
  apply (addIf_reports _ _ _).bind
  intro _
  apply (addIf_reports _ _ _).bind
  intro _
  apply (addMaxDenial_reports device query port _).bind
  intro _
  iterate 5
    apply (addIf_reports _ _ _).bind
    intro _
  iterate 2
    apply (otherIf_reports _).bind
    intro _
  exact otherIf_reports _

theorem addDevEvent_reports (asserted : Prop) [Decidable asserted] (event : RioEmEvents)
    (reg : DevReg) (mask : BitVec 32) (impRc : Nat) :
    ReportsAtMost 1 (addDevEvent eventLog device asserted event reg mask impRc) := by
  apply (addEvent_reports _).ite
  apply ((readReg_reports device _ _).bind fun shown => otherIf_reports _).mono
  exact Nat.zero_le _

theorem getDevIntStatus_reports : ReportsAtMost 2 (getDevIntStatus eventLog device) := by
  iterate 2
    apply (readReg_reports device _ _).bind
    intro _
  iterate 2
    apply (addDevEvent_reports device _ _ _ _ _).bind
    intro _
  exact otherIf_reports _

theorem getDevPwStatus_reports : ReportsAtMost 2 (getDevPwStatus eventLog device) := by
  iterate 2
    apply (readReg_reports device _ _).bind
    intro _
  iterate 2
    apply (addDevEvent_reports device _ _ _ _ _).bind
    intro _
  exact otherIf_reports _

theorem length_of_getPortList {numPorts : Nat} {ptl : DarPtl} {ports : List Nat}
    (made : darDbRioGetPortList numPorts ptl = .ok ports) : ports.length ≤ rioMaxPorts := by
  unfold darDbRioGetPortList at made
  split at made
  · cases made
  split at made
  · cases made
  next fits =>
    split at made
    · cases made
    split at made
    · split at made
      · cases made
      next small =>
        cases made
        rw [List.length_range]
        exact Nat.le_of_not_lt small
    next some =>
      split at made
      · cases made
      · cases made
        rw [List.length_map, List.length_range]
        exact Nat.le_of_not_lt fun large => fits ⟨large, some⟩

theorem getPortList_reports {β : Type} {numPorts impRc each more : Nat} {ptl : DarPtl}
    {next : List Nat → EmProgram EventLog δ β}
    (tail : ∀ ports, ReportsAtMost (more + ports.length * each) (next ports)) :
    ReportsAtMost (more + rioMaxPorts * each)
      (getPortList eventLog numPorts ptl impRc >>= next) := by
  intro bound
  have enough : ∀ state : Attached EventLog δ, state.memory.events.length ≤ bound →
      state.memory.events.length ≤ bound + (more + rioMaxPorts * each) :=
    fun _ few => few.trans (Nat.le_add_right bound _)
  have made : Meets (fun state : Attached EventLog δ => state.memory.events.length ≤ bound)
      (getPortList eventLog numPorts ptl impRc)
      (fun ports state => ports.length ≤ rioMaxPorts ∧ state.memory.events.length ≤ bound)
      fun _ state => state.memory.events.length ≤ bound + (more + rioMaxPorts * each) := by
    unfold getPortList
    split
    next ports made => exact Meets.pure fun _ few => ⟨length_of_getPortList made, few⟩
    next =>
      have set := setImpRc_reports (δ := δ) impRc bound
      apply Meets.bind (set.weakenFail fun _ => enough)
      intro _
      exact Meets.throw enough
    next => exact Meets.throw enough
  apply Meets.bind made
  intro ports
  apply Meets.assume
  intro short
  have fewer := Nat.add_le_add_left (Nat.mul_le_mul_right each short) more
  exact (tail ports).mono fewer bound

/-- The log of a call has at most so many events. -/
abbrev LogsAtMost (count : Nat) (call : EmProgram EventLog δ Unit) : Prop :=
  Meets (fun _ => True) call (fun _ state => state.memory.events.length ≤ count)
    fun _ state => state.memory.events.length ≤ count

theorem logsAtMost_clear {count : Nat} {rest : PUnit → EmProgram EventLog δ Unit}
    (most : ReportsAtMost count (rest ⟨⟩)) :
    LogsAtMost count (modifyMemory eventLog.clear >>= rest) := by
  have all := most 0
  rw [Nat.zero_add] at all
  exact Meets.modifyBind _ (fun _ _ => Nat.le_refl 0) all

theorem parsePw_logs (numPorts : Nat) (pw : PwWords) (room : Bool) :
    LogsAtMost 12 (parsePw eventLog numPorts pw room : EmProgram EventLog δ Unit) := by
  apply logsAtMost_clear
  apply ReportsAtMost.ite
  · apply ReportsAtMost.ite
    · exact (leave_reports _ _).mono (Nat.zero_le _)
    · iterate 12
        apply (addIf_reports _ _ _).bind
        intro _
      exact otherIf_reports _
  · exact (leave_reports _ _).mono (Nat.zero_le _)

theorem getIntStat_logs (numPorts : Nat) (ptl : DarPtl) (room : Bool) :
    LogsAtMost 218 (getIntStat eventLog device numPorts ptl room) := by
  apply logsAtMost_clear
  apply ReportsAtMost.ite
  · change ReportsAtMost (2 + rioMaxPorts * 9) _
    apply getPortList_reports
    intro ports
    apply (ReportsAtMost.forM fun port => getStatPort_reports device intQuery port).bind
    intro _
    exact getDevIntStatus_reports device
  · exact (leave_reports _ _).mono (Nat.zero_le _)

theorem getPwStat_logs (numPorts : Nat) (ptl : DarPtl) (pwPortNum : Nat) (room : Bool) :
    LogsAtMost 228 (getPwStat eventLog device numPorts ptl pwPortNum room) := by
  apply logsAtMost_clear
  apply ReportsAtMost.ite
  · change ReportsAtMost (12 + rioMaxPorts * 9) _
    apply getPortList_reports
    intro ports
    have each : ∀ port, ReportsAtMost 9 (if pwPortNum = port then pure ()
        else rxsRioEmGetPwStatPort eventLog device port) := by
      intro port
      exact ((ReportsAtMost.pure ()).mono (Nat.zero_le _)).ite
        (getStatPort_reports device pwQuery port)
    apply (ReportsAtMost.forM each).bind
    intro _
    apply ReportsAtMost.ite
    · change ReportsAtMost (3 + 9) _
      apply (getStatPort_reports device pwQuery pwPortNum).bind
      intro _
      exact (getDevPwStatus_reports device).atEnd_addEvent _
    · exact (getDevPwStatus_reports device).mono (by decide)
  · exact (leave_reports _ _).mono (Nat.zero_le _)

end Counts

section Cutting

variable {δ : Type} {width bits capacity largest : Nat} {before : Nat → RioEmEventNLoc}

/-- The entries that are valid. -/
def EventsOut.entries (out : EventsOut width) : List RioEmEventNLoc :=
  (List.range out.numEvents.toNat).map out.events

theorem Filled.entries_eq {events : List RioEmEventNLoc} {out : EventsOut width}
    (filled : Filled capacity before events out) : out.entries = events.take capacity := by
  rw [EventsOut.entries, filled.numEvents]
  apply List.ext_getElem
  · rw [List.length_map, List.length_range, List.length_take]
  · intro idx inRange _
    rw [List.length_map, List.length_range] at inRange
    obtain ⟨inRoom, inEvents⟩ := Nat.lt_min.mp inRange
    rw [List.getElem_map, List.getElem_range, List.getElem_take, filled.events, if_pos inRoom,
      List.getElem?_eq_getElem inEvents]
    rfl

/-- A report is the beginning of one for which there was more room, it says whether anything is
missing, and nothing is written behind its room. -/
structure Truncated (capacity : Nat) (before : Nat → RioEmEventNLoc)
    (short long : EventsOut width) : Prop where
  entries : short.entries = long.entries.take capacity
  numEvents : short.numEvents.toNat = min capacity long.numEvents.toNat
  tooMany : short.tooMany = true ↔ capacity < long.numEvents.toNat
  impRc : short.impRc = long.impRc
  otherEvents : short.otherEvents = long.otherEvents
  unwritten : ∀ idx, capacity ≤ idx → short.events idx = before idx

theorem truncated_of_shows {log : EventLog} {short long : EventsOut width}
    (few : log.events.length < 2 ^ width) (shows : Shows capacity before log short)
    (showsLong : Shows largest before log long) (all : long.tooMany = false) :
    Truncated capacity before short long := by
  have filled := shows.filled few
  have filledLong := showsLong.filled few
  have room : log.events.length ≤ largest :=
    Nat.le_of_not_lt (of_decide_eq_false (filledLong.tooMany.symm.trans all))
  have count : long.numEvents.toNat = log.events.length :=
    filledLong.numEvents.trans (Nat.min_eq_right room)
  constructor
  · rw [filled.entries_eq, filledLong.entries_eq, List.take_of_length_le room]
  · rw [count]
    exact filled.numEvents
  · rw [count, filled.tooMany]
    exact decide_eq_true_iff
  · exact shows.impRc.symm.trans showsLong.impRc
  · exact shows.otherEvents.symm.trans showsLong.otherEvents
  · intro idx outside
    rw [filled.events, if_neg (Nat.not_lt.mpr outside)]

/-- A call, whose argument says how much room there is, ends in the same way whatever room there
is, and its report is cut off from that with enough room; some list that is not larger than the
largest one has enough. -/
structure Truncates (call : BitVec bits → EmProgram (EventsOut width) δ Unit) : Prop where
  cuts : ∀ room enough : BitVec bits, room ≠ 0 → enough ≠ 0 → ∀ start,
    (finalState ((call enough).run start)).memory.tooMany = false →
      SameOutcome
        (OverMemory (Truncated room.toNat start.memory.events))
        ((call room).run start) ((call enough).run start)
  enough : ∃ enough : BitVec bits, enough ≠ 0 ∧ enough.toNat ≤ emMaxEventListSize ∧
    ∀ start, (finalState ((call enough).run start)).memory.tooMany = false

theorem truncates_of_simulates {call : BitVec bits → EmProgram (EventsOut width) δ Unit}
    {logged : EmProgram EventLog δ Unit} {most : BitVec bits}
    (simulates : ∀ (room : BitVec bits) before, room ≠ 0 →
      Simulates (OverMemory fun _ out => out.events = before) logged (call room)
        (OverMemory (Shows room.toNat before)))
    (logs : LogsAtMost most.toNat logged) (some : most ≠ 0)
    (inList : most.toNat ≤ emMaxEventListSize) (counted : most.toNat < 2 ^ width) :
    Truncates call := by
  have ran : ∀ (room : BitVec bits), room ≠ 0 → ∀ start : Attached (EventsOut width) δ,
      SameOutcome (fun log out => OverMemory (Shows room.toNat start.memory.events) log out ∧
          log.memory.events.length ≤ most.toNat)
        (logged.run ⟨⟨0, [], false⟩, start.device⟩) ((call room).run start) := by
    intro room notZero start
    exact (simulates room start.memory.events notZero).meeting logs ⟨⟨rfl, rfl⟩, trivial⟩
  constructor
  · intro room enough roomNotZero enoughNotZero start all
    have cut : ∀ short long : Attached (EventsOut width) δ,
        (∃ log : Attached EventLog δ,
          (OverMemory (Shows room.toNat start.memory.events) log short ∧
            log.memory.events.length ≤ most.toNat) ∧
          OverMemory (Shows enough.toNat start.memory.events) log long ∧
            log.memory.events.length ≤ most.toNat) →
        long.memory.tooMany = false →
          OverMemory (Truncated room.toNat start.memory.events) short long := by
      rintro short long ⟨log, ⟨⟨shows, sameDevice⟩, few⟩, ⟨showsLong, sameLong⟩, -⟩ all
      exact ⟨truncated_of_shows (few.trans_lt counted) shows showsLong all,
        sameDevice.symm.trans sameLong⟩
    have both := (ran room roomNotZero start).join (ran enough enoughNotZero start)
    revert both all
    generalize (call room).run start = short
    generalize (call enough).run start = long
    intro all both
    cases both with
    | ok value related => exact .ok value (cut _ _ related all)
    | error code related => exact .error code (cut _ _ related all)
  · refine ⟨most, some, inList, fun start => ?_⟩
    obtain ⟨⟨shows, -⟩, few⟩ := (ran most some start).finalState
    rw [(shows.filled (few.trans_lt counted)).tooMany]
    exact decide_eq_false (Nat.not_lt.mpr few)

end Cutting

section Calls

variable {δ : Type} {numPorts : Nat} {before : Nat → RioEmEventNLoc}

theorem rxsRioEmParsePw_simulates (pw : PwWords) {room : BitVec 8} (some : room ≠ 0) :
    Simulates (OverMemory (δ := δ) fun _ out => out.events = before)
      (parsePw eventLog numPorts pw true) (rxsRioEmParsePw numPorts ⟨pw, room, true⟩)
      (OverMemory (Shows room.toNat before)) := by
  rw [rxsRioEmParsePw, decide_eq_true (And.intro some rfl)]
  exact parsePw_simulates outParms_matches (fun log out => outParms_clear log out) _ _ _

variable (device : RegDevice Reg δ)

theorem rxsRioEmGetIntStat_simulates (ptl : DarPtl) {room : BitVec 16} (some : room ≠ 0) :
    Simulates (OverMemory fun _ out => out.events = before)
      (getIntStat eventLog device numPorts ptl true)
      (rxsRioEmGetIntStat device numPorts ⟨ptl, room, true⟩)
      (OverMemory (Shows room.toNat before)) := by
  rw [rxsRioEmGetIntStat, decide_eq_true (And.intro some rfl)]
  exact getIntStat_simulates outParms_matches device (fun log out => outParms_clear log out) _ _ _

theorem rxsRioEmGetPwStat_simulates (ptl : DarPtl) (pwPortNum : Nat) {room : BitVec 16}
    (some : room ≠ 0) :
    Simulates (OverMemory fun _ out => out.events = before)
      (getPwStat eventLog device numPorts ptl pwPortNum true)
      (rxsRioEmGetPwStat device numPorts ⟨ptl, pwPortNum, room, true⟩)
      (OverMemory (Shows room.toNat before)) := by
  rw [rxsRioEmGetPwStat, decide_eq_true (And.intro some rfl)]
  exact getPwStat_simulates outParms_matches device (fun log out => outParms_clear log out) _ _ _ _

end Calls

/-- The lists of events of the three calls are cut off correctly, for every device, whether its
registers can be accessed or not. -/
theorem eventLists_truncate {δ : Type} (device : RegDevice Reg δ) (numPorts : Nat) :
    (∀ pw, Truncates (δ := δ) fun room => rxsRioEmParsePw numPorts ⟨pw, room, true⟩) ∧
    (∀ ptl, Truncates fun room => rxsRioEmGetIntStat device numPorts ⟨ptl, room, true⟩) ∧
    (∀ ptl pwPortNum,
      Truncates fun room => rxsRioEmGetPwStat device numPorts ⟨ptl, pwPortNum, room, true⟩) := by
  refine ⟨fun pw => ?_, fun ptl => ?_, fun ptl pwPortNum => ?_⟩
  · exact @truncates_of_simulates _ _ _ _ _ 12
      (fun room _ some => rxsRioEmParsePw_simulates pw some)
      (parsePw_logs numPorts pw true) (by decide) (by decide) (by decide)
  · exact @truncates_of_simulates _ _ _ _ _ 218
      (fun room _ some => rxsRioEmGetIntStat_simulates device ptl some)
      (getIntStat_logs device numPorts ptl true) (by decide) (by decide) (by decide)
  · exact @truncates_of_simulates _ _ _ _ _ 228
      (fun room _ some => rxsRioEmGetPwStat_simulates device ptl pwPortNum some)
      (getPwStat_logs device numPorts ptl pwPortNum true) (by decide) (by decide) (by decide)

end RioFabric.RxsEvents

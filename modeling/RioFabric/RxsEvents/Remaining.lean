import RioFabric.RxsEvents.Agreement
import RioFabric.RxsEvents.Cleared

/-!
# Events that remain

Two flags say whether the ports with listed events or the device still have an event after it was
cleared.  They are made from the calls that look for interrupts and port-writes, with lists that
have room for one event.  The number of the port that sends port-writes is not set for them.
-/

namespace RioFabric.RxsEvents

open Lib Dar
open StatCounters (numRxsPorts)

/-- The event is one of a port, not of the device. -/
def RioEmEvents.isOfPort (kind : RioEmEvents) : Bool :=
  kind ≠ .dLog ∧ kind ≠ .iInitFail ∧ kind ≠ .aNoEvent

/-- The ports of which an event is listed. -/
def listedPorts (numPorts : Nat) (events : List RioEmEventNLoc) : List Nat :=
  (List.range numPorts).filter (listedAt RioEmEvents.isOfPort events)

/-- The ports that are looked at.  A port for which only the end of port-writes is listed is left
out. -/
def queriedPorts (numPorts : Nat) (events : List RioEmEventNLoc) : List Nat :=
  (List.range numPorts).filter fun port =>
    listedAt RioEmEvents.needsReset events port || listedAt RioEmEvents.needsClear events port

section Ports

variable {numPorts : Nat} {events : List RioEmEventNLoc} {sorted : SortedEvents}

theorem copySortedPorts_pnums (newPtl sortedPtl : DarPtl) :
    (List.range (copySortedPorts newPtl sortedPtl).numPorts).map
        (copySortedPorts newPtl sortedPtl).pnums =
      (List.range sortedPtl.numPorts).filter fun port => sortedPtl.pnums port ≠ port := by
  unfold copySortedPorts
  generalize sortedPtl.numPorts = count
  induction count with
  | zero => rfl
  | succ count ih =>
    rw [List.range_succ, List.foldl_append, List.filter_append, ← ih]
    generalize (List.range count).foldl _ _ = ptl
    rw [List.foldl_cons, List.foldl_nil]
    by_cases unchanged : sortedPtl.pnums count = count
    · rw [if_pos unchanged, List.filter_singleton, decide_eq_false (not_not.mpr unchanged)]
      exact (List.append_nil _).symm
    · rw [if_neg unchanged, List.filter_singleton, decide_eq_true unchanged]
      dsimp only
      rw [List.range_succ, List.map_append, List.map_singleton, Function.update_self]
      congr 1
      apply List.map_congr_left
      intro idx isBefore
      exact Function.update_of_ne (List.mem_range.mp isBefore).ne _ _

section

variable (few : numPorts ≤ rioMaxPorts) (sorts : SortedFor numPorts events sorted)
include few sorts

theorem SortedFor.pnums_ne_iff {port : Nat}
    (isPort : port < numPorts) :
    sorted.ptl.pnums port ≠ port ↔ (listedAt RioEmEvents.needsReset events port ||
      listedAt RioEmEvents.needsClear events port) = true := by
  have notAll : port ≠ rioAllPorts := by
    rintro rfl
    exact absurd (isPort.le.trans few) (by decide)
  rw [sorts.pnums port isPort, sortedPnum, numRxsPorts_eq few]
  cases listedAt RioEmEvents.needsReset events port with
  | true => exact iff_of_true notAll.symm rfl
  | false =>
    cases listedAt RioEmEvents.needsClear events port with
    | true => exact iff_of_true isPort.ne' rfl
    | false => exact iff_of_false (not_not.mpr rfl) Bool.false_ne_true

theorem SortedFor.copied (newPtl : DarPtl) :
    (List.range (copySortedPorts newPtl sorted.ptl).numPorts).map
      (copySortedPorts newPtl sorted.ptl).pnums = queriedPorts numPorts events := by
  rw [copySortedPorts_pnums, sorts.numPorts_eq, queriedPorts]
  apply List.filter_congr
  intro port inRange
  have isPort := List.mem_range.mp inRange
  exact Bool.eq_iff_iff.mpr (decide_eq_true_iff.trans (sorts.pnums_ne_iff few isPort))

theorem SortedFor.copied_numPorts (newPtl : DarPtl) :
    (copySortedPorts newPtl sorted.ptl).numPorts = (queriedPorts numPorts events).length := by
  rw [← sorts.copied few newPtl, List.length_map, List.length_range]

theorem SortedFor.made (newPtl : DarPtl)
    (some : queriedPorts numPorts events ≠ []) :
    darDbRioGetPortList numPorts (copySortedPorts newPtl sorted.ptl) =
      .ok (queriedPorts numPorts events) := by
  apply darDbRioGetPortList_of_nodup (sorts.copied few newPtl) (List.nodup_range.filter _) some
  · exact (List.length_filter_le _ _).trans List.length_range.le
  · exact few
  · exact fun port isMember => List.mem_range.mp (List.mem_of_mem_filter isMember)

end

end Ports

section Asserted

variable (values : Reg → BitVec 32) (ports : List Nat) {pwPortNum : Nat}

/-- A port has an event, or a status that is not enabled, or the device has an event or a register
that shows one. -/
def Asserted (query : PortQuery) (asserted : BitVec 32) : Prop :=
  (∃ port ∈ ports, portEvents values query port ≠ [] ∨ portOther values query port = true) ∨
    devEvents asserted ≠ [] ∨ devOther values asserted false = true

/-- There are interrupts, or a status of the device that would raise one if it were enabled. -/
def IntRemains : Prop :=
  Asserted values ports intQuery (intAsserted values) ∨
    devUnenabled (values (.dev .emIntStat)) (values (.dev .emIntEn)) = true

/-- There are port-writes, or a status of the device that would lead to one if it were enabled. -/
def PwRemains : Prop :=
  Asserted values ports pwQuery (pwAsserted values) ∨
    devUnenabled (values (.dev .emPwStat)) (values (.dev .emPwEn)) = true

instance (query : PortQuery) (asserted : BitVec 32) :
    Decidable (Asserted values ports query asserted) :=
  inferInstanceAs (Decidable ((∃ port ∈ ports, _ ∨ _) ∨ _ ∨ _))

instance : Decidable (PwRemains values ports) := inferInstanceAs (Decidable (_ ∨ _))

/-- A port with a listed event that is not looked at has an event, or a status that is not
enabled. -/
def SkippedTells (numPorts : Nat) (events : List RioEmEventNLoc) (query : PortQuery) : Prop :=
  ∃ port ∈ listedPorts numPorts events, port ∉ queriedPorts numPorts events ∧
    (portEvents values query port ≠ [] ∨ portOther values query port = true)

instance (numPorts : Nat) (events : List RioEmEventNLoc) (query : PortQuery) :
    Decidable (SkippedTells values numPorts events query) :=
  inferInstanceAs (Decidable (∃ port ∈ listedPorts numPorts events, _ ∧ (_ ∨ _)))

/-- A log has something to tell. -/
def EventLog.Tells (log : EventLog) : Prop := log.events ≠ [] ∨ log.otherEvents = true

variable {values ports}

theorem tells_iff_asserted {query : PortQuery} {asserted : BitVec 32} {unenabled : Bool}
    {more : List RioEmEventNLoc} :
    EventLog.Tells ⟨0, ports.flatMap (portEvents values query) ++ devEvents asserted ++ more,
        ports.any (portOther values query) || devOther values asserted unenabled⟩ ↔
      Asserted values ports query asserted ∨ unenabled = true ∨ more ≠ [] := by
  rw [EventLog.Tells, Asserted]
  dsimp only
  rw [devOther_unenabled, Ne, List.append_eq_nil_iff, List.append_eq_nil_iff,
    List.flatMap_eq_nil_iff, Bool.or_eq_true, Bool.or_eq_true, List.any_eq_true]
  grind

theorem intLog_tells : (intLog values ports).Tells ↔ IntRemains values ports := by
  have tells := @tells_iff_asserted values ports intQuery (intAsserted values)
    (devUnenabled (values (.dev .emIntStat)) (values (.dev .emIntEn))) []
  rw [List.append_nil] at tells
  rw [intLog, tells, IntRemains]
  simp

theorem mem_pwOrder {port : Nat} : port ∈ pwOrder ports pwPortNum ↔ port ∈ ports := by
  unfold pwOrder
  split
  next isMember =>
    rw [List.mem_append, List.mem_filter, List.mem_singleton, decide_eq_true_iff]
    constructor
    · rintro (⟨inPorts, -⟩ | rfl)
      · exact inPorts
      · exact isMember
    · intro inPorts
      by_cases same : pwPortNum = port
      · exact .inr same.symm
      · exact .inl ⟨inPorts, same⟩
  next => rfl

theorem pwLogAll_tells : (pwLogAll values ports pwPortNum).Tells ↔
    Asserted values ports pwQuery (pwAsserted values) ∨ pwPortNum ∈ ports := by
  have ordered : Asserted values (pwOrder ports pwPortNum) pwQuery (pwAsserted values) ↔
      Asserted values ports pwQuery (pwAsserted values) := by
    simp only [Asserted, mem_pwOrder]
  rw [pwLogAll, pwLog, tells_iff_asserted, ordered]
  unfold eventIf
  split
  next isMember => simp [isMember]
  next notMember => simp [notMember]

end Asserted

section Looking

variable {effect : WriteEffect Reg} {Holds : (Reg → BitVec 32) → RegisterFile Reg → Prop}
  {Fail : Prop} {values : Reg → BitVec 32} {numPorts : Nat} {events : List RioEmEventNLoc}
  {sorted : SortedEvents} {ports : List Nat} {width : Nat} {before : Nat → RioEmEventNLoc}
  {log : EventLog}

theorem readsGive_of_accessible (access : Accessible effect Holds Fail) :
    ReadsGive (Holds values) (fun _ _ => Fail) (registerFile effect) values := by
  intro reg impRc log
  exact onStop_meets (access.read (· = log) values reg _)

/-- The report has an event, or says that there are others. -/
def EventsOut.Tells {width : Nat} (out : EventsOut width) : Prop :=
  out.numEvents ≠ 0 ∨ out.otherEvents = true

theorem Shows.tells_iff {out : EventsOut width} (shows : Shows 1 before log out)
    (few : log.events.length < 2 ^ width) : out.Tells ↔ log.Tells := by
  have count := (shows.filled few).numEvents
  have noEvents : out.numEvents = 0 ↔ log.events = [] := by
    rw [← BitVec.toNat_inj, count, ← List.length_eq_zero_iff]
    simp only [BitVec.ofNat_eq_ofNat, BitVec.toNat_ofNat, Nat.zero_mod]
    omega
  rw [EventsOut.Tells, EventLog.Tells, shows.otherEvents, Ne, noEvents]

theorem tells_of_logged {δ : Type} {most : Nat} {logged : EmProgram EventLog δ Unit}
    {call : EmProgram (EventsOut width) δ Unit} {P : EventLog → EventsOut width → Prop}
    {start : EventsOut width} {Inv : δ → Prop} {Fail : Prop} (first : EventLog)
    (simulates : Simulates (OverMemory P) logged call (OverMemory (Shows 1 before)))
    (related : P first start) (logs : Meets (fun state => state.memory = first) logged
      (fun _ state => state.memory.events.length ≤ most)
      fun _ state => state.memory.events.length ≤ most) (counted : most < 2 ^ width)
    (contents : Meets (fun state => state.memory = first ∧ Inv state.device) logged
      (fun _ state => state.memory = log ∧ Inv state.device) fun _ _ => Fail) :
    Meets (fun state => state.memory = start ∧ Inv state.device) call
      (fun _ state => (state.memory.Tells ↔ log.Tells) ∧ Inv state.device) fun _ _ => Fail := by
  have ran := (simulates.meeting logs).transfer contents
  apply ran.weaken
  · rintro ⟨memory, device⟩ ⟨rfl, holds⟩
    exact ⟨⟨first, device⟩, ⟨⟨related, rfl⟩, rfl⟩, rfl, holds⟩
  · rintro _ state ⟨logState, ⟨⟨shows, sameDevice⟩, few⟩, rfl, holds⟩
    exact ⟨shows.tells_iff (few.trans_lt counted), sameDevice ▸ holds⟩
  · rintro _ _ ⟨_, _, fails⟩
    exact fails

theorem onLocal_meets {δ ν : Type} {start : ν} {impRcOf : ν → Nat} {program : EmProgram ν δ Unit}
    {Inv : δ → Prop} {Post : ν → Prop} {Fail : Prop} (Kept : RioEmClrEventsOut → Prop)
    (meets : Meets (fun state => state.memory = start ∧ Inv state.device) program
      (fun _ state => Post state.memory ∧ Inv state.device) fun _ _ => Fail) :
    Meets (fun state => Kept state.memory ∧ Inv state.device) (onLocal start impRcOf program)
      (fun result state => Post result ∧ Kept state.memory ∧ Inv state.device) fun _ _ => Fail := by
  rintro ⟨memory, device⟩ ⟨kept, holds⟩
  obtain ⟨normal, early⟩ := @meets ⟨start, device⟩ ⟨rfl, holds⟩
  simp only [EStateM.run, onLocal] at normal early ⊢
  cases ran : program ⟨start, device⟩ with
  | ok value after =>
    obtain ⟨post, holdsAfter⟩ := normal ran
    exact ⟨fun _ _ same => by cases same; exact ⟨post, kept, holdsAfter⟩, nofun⟩
  | error code after => exact ⟨nofun, fun _ _ same => by cases same; exact early ran⟩

theorem setFlag_meets {set : RioEmClrEventsOut → RioEmClrEventsOut}
    {Before After : Attached RioEmClrEventsOut (RegisterFile Reg) → Prop}
    (told : log.Tells → ∀ state, Before state → After ⟨set state.memory, state.device⟩)
    (notTold : ¬log.Tells → ∀ state, Before state → After state) (out : EventsOut width) :
    Meets (fun state => (out.Tells ↔ log.Tells) ∧ Before state)
      (if out.numEvents ≠ 0 ∨ out.otherEvents then modifyMemory set
      else pure () : ClrProgram (RegisterFile Reg) Unit)
      (fun _ => After) fun _ _ => Fail := by
  apply Meets.assume
  intro tells
  apply Meets.ite
  · exact fun isTold => Meets.modify (told (tells.mp isTold))
  · exact fun isNotTold => Meets.pure (notTold fun isTold => isNotTold (tells.mpr isTold))

/-- The flag for interrupts is set. -/
def IntFlagSet (Holds : (Reg → BitVec 32) → RegisterFile Reg → Prop) (values : Reg → BitVec 32)
    (ports : List Nat) (state : Attached RioEmClrEventsOut (RegisterFile Reg)) : Prop :=
  (state.memory.pwEventsRemain = false ∧
    (state.memory.intEventsRemain = true ↔ IntRemains values ports)) ∧ Holds values state.device

variable (access : Accessible effect Holds Fail) (few : numPorts ≤ rioMaxPorts)
  (sorts : SortedFor numPorts events sorted) (stale : Stale)

include access few sorts

/-- The flag for interrupts says whether any remain. -/
theorem clrEventsGetIntStat_meets :
    Meets (BeforeStatus Holds values)
      (clrEventsGetIntStat (registerFile effect) numPorts stale sorted.ptl)
      (fun _ => IntFlagSet Holds values (queriedPorts numPorts events)) fun _ _ => Fail := by
  have reads := @readsGive_of_accessible effect Holds Fail values access
  have count := sorts.copied_numPorts few stale.intPtl
  have setFlag := @setFlag_meets Fail 8 (intLog values (queriedPorts numPorts events))
    (fun out => { out with intEventsRemain := true }) (BeforeStatus Holds values)
    (IntFlagSet Holds values (queriedPorts numPorts events))
    (fun told state before =>
      ⟨⟨before.1.1, iff_of_true rfl (intLog_tells.mp told)⟩, before.2⟩)
    fun notTold state before =>
      ⟨⟨before.1.1, iff_of_false (ne_true_of_eq_false before.1.2) (mt intLog_tells.mpr notTold)⟩,
        before.2⟩
  unfold clrEventsGetIntStat
  dsimp only
  apply Meets.ite
  · intro some
    have isSome : queriedPorts numPorts events ≠ [] := fun none => some (by rw [count, none]; rfl)
    have contents := getIntStat_contents reads (sorts.made few stale.intPtl isSome)
    refine Meets.bind (onLocal_meets
      (fun out => out.pwEventsRemain = false ∧ out.intEventsRemain = false) ?_) setFlag
    apply tells_of_logged ⟨0, [], false⟩
      (rxsRioEmGetIntStat_simulates (registerFile effect) _ (by decide)) rfl
    · exact (getIntStat_logs (registerFile effect) numPorts _ true).weakenPre fun _ _ => trivial
    · decide
    · exact contents.weakenPre fun _ before => before.2
  · intro none
    have isNone : queriedPorts numPorts events = [] :=
      List.eq_nil_of_length_eq_zero (count.symm.trans (not_not.mp none))
    rw [isNone] at setFlag ⊢
    refine Meets.bind (onLocal_meets
      (fun out => out.pwEventsRemain = false ∧ out.intEventsRemain = false) ?_) setFlag
    apply tells_of_logged ⟨0, [], false⟩
      (getDevIntStatus_simulates outParms_matches (registerFile effect))
      (outParms_clear ⟨0, [], false⟩ stale.intOut rfl)
    · exact (getDevIntStatus_reports (registerFile effect) 0).weakenPre
        fun _ isFirst => by rw [isFirst]; rfl
    · decide
    · exact getDevIntStatus_logs reads ⟨0, [], false⟩

/-- Both flags are set. -/
def FlagsSet (Holds : (Reg → BitVec 32) → RegisterFile Reg → Prop) (values : Reg → BitVec 32)
    (ports : List Nat) (pwPortNum : Nat) (state : Attached RioEmClrEventsOut (RegisterFile Reg)) :
    Prop :=
  ((state.memory.pwEventsRemain = true ↔
      Asserted values ports pwQuery (pwAsserted values) ∨ pwPortNum ∈ ports) ∧
    (state.memory.intEventsRemain = true ↔ IntRemains values ports)) ∧ Holds values state.device

/-- The flag for port-writes says whether any remain. -/
theorem clrEventsGetPwStat_meets :
    Meets (IntFlagSet Holds values (queriedPorts numPorts events))
      (clrEventsGetPwStat (registerFile effect) numPorts stale sorted.ptl)
      (fun _ => FlagsSet Holds values (queriedPorts numPorts events) stale.pwPortNum)
      fun _ _ => Fail := by
  have reads := @readsGive_of_accessible effect Holds Fail values access
  have count := sorts.copied_numPorts few stale.pwPtl
  have setFlag := @setFlag_meets Fail 16
    (pwLogAll values (queriedPorts numPorts events) stale.pwPortNum)
    (fun out => { out with pwEventsRemain := true })
    (IntFlagSet Holds values (queriedPorts numPorts events))
    (FlagsSet Holds values (queriedPorts numPorts events) stale.pwPortNum)
    (fun told state before =>
      ⟨⟨iff_of_true rfl (pwLogAll_tells.mp told), before.1.2⟩, before.2⟩)
    fun notTold state before =>
      ⟨⟨iff_of_false (ne_true_of_eq_false before.1.1) (mt pwLogAll_tells.mpr notTold), before.1.2⟩,
        before.2⟩
  unfold clrEventsGetPwStat
  dsimp only
  apply Meets.ite
  · intro some
    have isSome : queriedPorts numPorts events ≠ [] := fun none => some (by rw [count, none]; rfl)
    have contents := @getPwStat_contents _ _ _ _ _ _ _ reads stale.pwPortNum _
      (sorts.made few stale.pwPtl isSome) fun _ _ fails => fails
    refine Meets.bind (onLocal_meets (fun out => out.pwEventsRemain = false ∧
      (out.intEventsRemain = true ↔ IntRemains values (queriedPorts numPorts events))) ?_) setFlag
    apply tells_of_logged ⟨0, [], false⟩
      (rxsRioEmGetPwStat_simulates (registerFile effect) _ _ (by decide)) rfl
    · exact (getPwStat_logs (registerFile effect) numPorts _ _ true).weakenPre fun _ _ => trivial
    · decide
    · exact contents.weakenPre fun _ before => before.2
  · intro none
    have isNone : queriedPorts numPorts events = [] :=
      List.eq_nil_of_length_eq_zero (count.symm.trans (not_not.mp none))
    rw [isNone] at setFlag ⊢
    refine Meets.bind (onLocal_meets (fun out => out.pwEventsRemain = false ∧
      (out.intEventsRemain = true ↔ IntRemains values [])) ?_) setFlag
    apply tells_of_logged ⟨0, [], false⟩
      (getDevPwStatus_simulates outParms_matches (registerFile effect))
      (outParms_clear ⟨0, [], false⟩ stale.pwOut rfl)
    · exact (getDevPwStatus_reports (registerFile effect) 0).weakenPre
        fun _ isFirst => by rw [isFirst]; rfl
    · decide
    · have logs := getDevPwStatus_logs reads ⟨0, [], false⟩
      rwa [← List.append_nil (_ ++ _)] at logs

end Looking

section Call

variable {effect : WriteEffect Reg} {Holds : (Reg → BitVec 32) → RegisterFile Reg → Prop}
  {Fail : Prop} {values : Reg → BitVec 32} {numPorts : Nat} {inParms : RioEmClrEventsIn}
  {pnums : Nat → Nat} {events : List RioEmEventNLoc}

theorem darDbRioGetPortList_all (few : numPorts ≤ rioMaxPorts) :
    darDbRioGetPortList numPorts ⟨rioAllPorts, pnums⟩ = .ok (List.range numPorts) := by
  unfold darDbRioGetPortList
  dsimp only
  rw [if_neg fun large => large.2 rfl, if_neg fun large => large.2 rfl, if_neg (by decide),
    if_pos rfl, if_neg (Nat.not_lt.mpr few)]

theorem getPortList_all {ports : List Nat}
    (made : darDbRioGetPortList numPorts ⟨rioAllPorts, pnums⟩ = .ok ports) :
    numPorts ≤ rioMaxPorts ∧ ports = List.range numPorts := by
  unfold darDbRioGetPortList at made
  dsimp only at made
  rw [if_neg fun large => large.2 rfl, if_neg fun large => large.2 rfl, if_neg (by decide),
    if_pos rfl] at made
  split at made
  · cases made
  next small =>
    cases made
    exact ⟨Nat.le_of_not_lt small, rfl⟩

/-- The events are accepted, and no event stops the loop over the events of a port. -/
structure Accepts (numPorts : Nat) (inParms : RioEmClrEventsIn) : Prop where
  events : inParms.events ≠ []
  hasEvents : inParms.hasEvents = true
  few : numPorts ≤ rioMaxPorts
  sorts : ∃ sorted, sortEvents numPorts (List.range numPorts) inParms.events = .ok sorted ∧
    PortsEnd numPorts inParms.events sorted

theorem Accepts.ends (accepts : Accepts numPorts inParms) {sorted : SortedEvents}
    (ok : sortEvents numPorts (List.range numPorts) inParms.events = .ok sorted) :
    PortsEnd numPorts inParms.events sorted := by
  obtain ⟨_, isSorted, ends⟩ := accepts.sorts
  rw [ok] at isSorted
  cases isSorted
  exact ends

theorem getSortedEvents_meets {Pre : Attached RioEmClrEventsOut (RegisterFile Reg) → Prop}
    (keeps : ∀ failureIdx, Meets Pre (setFailureIdx failureIdx) (fun _ => Pre) fun _ _ => Fail)
    (accepts : Accepts numPorts inParms ∨ Fail) :
    Meets Pre (getSortedEvents numPorts inParms.events : ClrProgram (RegisterFile Reg) _)
      (fun sorted state => (numPorts ≤ rioMaxPorts ∧
        sortEvents numPorts (List.range numPorts) inParms.events = .ok sorted) ∧ Pre state)
      fun _ _ => Fail := by
  unfold getSortedEvents
  split
  next stop notMade =>
    refine onStop_meets (Meets.throw fun _ _ => accepts.resolve_left fun accepts => ?_)
    rw [darDbRioGetPortList_all accepts.few] at notMade
    cases notMade
  next ports made =>
    obtain ⟨few, rfl⟩ := getPortList_all made
    split
    next sorted ok =>
      apply Meets.bind (keeps 0)
      intro _
      exact Meets.pure fun _ before => ⟨⟨few, ok⟩, before⟩
    next idx refused =>
      apply Meets.bind (keeps idx)
      intro _
      refine onStop_meets (Meets.throw fun _ _ => accepts.resolve_left fun accepts => ?_)
      obtain ⟨sorted, ok, -⟩ := accepts.sorts
      rw [refused] at ok
      cases ok

/-- The call clears the listed events and sets both flags by what remains. -/
theorem rxsRioEmClrEvents_meets (access : Accessible effect Holds Fail) (stale : Stale)
    (accepts : Accepts numPorts inParms ∨ Fail) :
    Meets (fun state : Attached _ (RegisterFile Reg) => Holds values state.device)
      (rxsRioEmClrEvents (registerFile effect) numPorts stale inParms)
      (fun _ state => ∃ sorted, (numPorts ≤ rioMaxPorts ∧
          sortEvents numPorts (List.range numPorts) inParms.events = .ok sorted) ∧
        FlagsSet Holds (clearedRegs effect numPorts inParms.events sorted values)
          (queriedPorts numPorts inParms.events) stale.pwPortNum state)
      fun _ _ => Fail := by
  unfold rxsRioEmClrEvents
  apply Meets.ite
  · intro noEvents
    apply Meets.modifyBind fun _ => True
    · exact fun _ _ => trivial
    · refine Meets.throw fun _ _ => accepts.resolve_left fun accepts => ?_
      rcases noEvents with none | missing
      · exact accepts.events none
      · rw [accepts.hasEvents] at missing
        cases missing
  intro _
  apply Meets.modifyBind (BeforeStatus Holds values)
  · exact fun _ holds => ⟨⟨rfl, rfl⟩, holds⟩
  apply Meets.bind (getSortedEvents_meets setFailureIdx_keeps accepts)
  intro sorted
  apply Meets.assume
  rintro ⟨few, ok⟩
  have sorts := sortedFor_of_sortEvents few ok
  apply Meets.bind (clearListed_meets access few sorts
    (accepts.imp_left fun accepts => accepts.ends ok))
  intro _
  apply Meets.bind (clrEventsGetIntStat_meets access few sorts stale)
  intro _
  apply (clrEventsGetPwStat_meets access few sorts stale).weakenPost
  exact fun _ _ flags => ⟨sorted, ⟨few, ok⟩, flags⟩

theorem rxsRioEmClrEvents_flags (stale : Stale) :
    Meets (fun state : Attached _ (RegisterFile Reg) => state.device.value = values)
      (rxsRioEmClrEvents (registerFile effect) numPorts stale inParms)
      (fun _ state => ∃ sorted, (numPorts ≤ rioMaxPorts ∧
          sortEvents numPorts (List.range numPorts) inParms.events = .ok sorted) ∧
        FlagsSet (fun values file => file.value = values)
          (clearedRegs effect numPorts inParms.events sorted values)
          (queriedPorts numPorts inParms.events) stale.pwPortNum state)
      fun _ _ => True :=
  rxsRioEmClrEvents_meets accessible_values stale (.inr trivial)

/-- The flags tell whether events remain. -/
def FlagsExact (ports : List Nat)
    (final : Attached RioEmClrEventsOut (RegisterFile Reg)) : Prop :=
  (final.memory.pwEventsRemain = true ↔ PwRemains final.device.value ports) ∧
    (final.memory.intEventsRemain = true ↔ IntRemains final.device.value ports)

theorem listedAt_mono {kinds others : RioEmEvents → Bool} {port : Nat}
    (implies : ∀ kind, kinds kind = true → others kind = true)
    (listed : listedAt kinds events port = true) : listedAt others events port = true := by
  obtain ⟨event, isMember, here⟩ := List.any_eq_true.mp listed
  rw [Bool.and_eq_true] at here
  exact List.any_eq_true.mpr
    ⟨event, isMember, (Bool.and_eq_true _ _).mpr ⟨implies _ here.1, here.2⟩⟩

theorem asserted_listedPorts {query : PortQuery} {asserted : BitVec 32} :
    Asserted values (listedPorts numPorts events) query asserted ↔
      Asserted values (queriedPorts numPorts events) query asserted ∨
        SkippedTells values numPorts events query := by
  have within : ∀ port ∈ queriedPorts numPorts events, port ∈ listedPorts numPorts events := by
    intro port isQueried
    obtain ⟨isPort, listed⟩ := List.mem_filter.mp isQueried
    refine List.mem_filter.mpr ⟨isPort, ?_⟩
    rcases (Bool.or_eq_true _ _).mp listed with isReset | isClear
    · exact listedAt_mono (fun kind => by cases kind <;> decide) isReset
    · exact listedAt_mono (fun kind => by cases kind <;> decide) isClear
  constructor
  · rintro (⟨port, isListed, tells⟩ | ofDevice)
    · by_cases isQueried : port ∈ queriedPorts numPorts events
      · exact .inl (.inl ⟨port, isQueried, tells⟩)
      · exact .inr ⟨port, isListed, isQueried, tells⟩
    · exact .inl (.inr ofDevice)
  · rintro ((⟨port, isQueried, tells⟩ | ofDevice) | ⟨port, isListed, -, tells⟩)
    · exact .inl ⟨port, within port isQueried, tells⟩
    · exact .inr ofDevice
    · exact .inl ⟨port, isListed, tells⟩

end Call

/-- Structures that are not set. -/
def staleAt (pwPortNum : Nat) : Stale where
  intPtl := ⟨0, fun _ => 0⟩
  intOut := blankOut 8
  pwPtl := ⟨0, fun _ => 0⟩
  pwPortNum := pwPortNum
  pwOut := blankOut 16

/-- A port to reset. -/
def oneLos : RioEmClrEventsIn := ⟨[⟨0, .fLos⟩], true⟩

def blankClrOut : RioEmClrEventsOut := ⟨0, 0, false, false⟩

end RioFabric.RxsEvents

import RioFabric.RxsEvents.Remaining

/-!
# Reported events are accepted

An event is reported of a port, with its number, or of the device, and the event that ends
port-writes is reported once.  Such events may be listed to be cleared.
-/

namespace RioFabric.RxsEvents

open Lib Dar
open StatCounters (numRxsPorts)

/-- An event of a port of the device, or one of the device. -/
def IsReport (numPorts : Nat) (event : RioEmEventNLoc) : Prop :=
  (event.event.needsReset || event.event.isCleared) = true ∧ event.portNum < numPorts ∨
    (event.event = .dLog ∨ event.event = .iInitFail) ∧ event.portNum = rioAllPorts

def endsPortWrites (event : RioEmEventNLoc) : Bool := event.event = .aClrPwpnd

/-- Events of which at most one is to end port-writes. -/
structure Listable (numPorts : Nat) (events : List RioEmEventNLoc) : Prop where
  report : ∀ event ∈ events, IsReport numPorts event
  once : events.countP endsPortWrites ≤ 1

section Listable

variable {numPorts idx : Nat} {events : List RioEmEventNLoc} {event : RioEmEventNLoc}
  {sorted : SortedEvents}

theorem Listable.take (listable : Listable numPorts events) (count : Nat) :
    Listable numPorts (events.take count) where
  report event isMember := listable.report event (List.mem_of_mem_take isMember)
  once := ((List.take_sublist count events).countP_le).trans listable.once

section

variable (few : numPorts ≤ rioMaxPorts)
include few

theorem sortEvent_ok (report : IsReport numPorts event)
    (first : event.event = .aClrPwpnd → sorted.pwPt = rioAllPorts) :
    ∃ next, sortEvent numPorts sorted (event, idx) = .ok next := by
  have size := numRxsPorts_eq few
  unfold sortEvent
  rw [size]
  dsimp only
  rcases report with ⟨ofPort, isPort⟩ | ⟨isLog | isInit, -⟩
  · have inRange := Nat.not_le.mpr isPort
    cases kind : event.event with
    | fLos | fPortErr | f2manyRetx | f2manyPna | fErrRate => exact ⟨_, if_neg inRange⟩
    | dTtl | dRte | iSigDet | iRstReq =>
      dsimp only
      rw [if_neg inRange, ← apply_ite Except.ok]
      exact ⟨_, rfl⟩
    | aClrPwpnd =>
      dsimp only
      rw [if_neg (not_not.mpr (first kind).symm), if_neg inRange]
      exact ⟨_, rfl⟩
    | dLog | iInitFail | aNoEvent | last =>
      rw [kind] at ofPort
      cases ofPort
  · rw [isLog]
    exact ⟨_, rfl⟩
  · rw [isInit]
    exact ⟨_, rfl⟩

/-- What is left may be sorted if the event that ends port-writes was not met yet or is not met
again. -/
def MaySort (numPorts : Nat) (rest : List (RioEmEventNLoc × Nat)) (sorted : SortedEvents) : Prop :=
  Listable numPorts (rest.map Prod.fst) ∧
    (sorted.pwPt = rioAllPorts ∨ (rest.map Prod.fst).countP endsPortWrites = 0)

theorem MaySort.turn {rest : List (RioEmEventNLoc × Nat)}
    (may : MaySort numPorts ((event, idx) :: rest) sorted) :
    ∃ next, sortEvent numPorts sorted (event, idx) = .ok next ∧ MaySort numPorts rest next := by
  obtain ⟨listable, first⟩ := may
  have once := listable.once
  rw [List.map_cons, List.countP_cons] at first once
  have isFirst : event.event = .aClrPwpnd → sorted.pwPt = rioAllPorts ∧
      (rest.map Prod.fst).countP endsPortWrites = 0 := by
    intro kind
    have ends : endsPortWrites event = true := decide_eq_true kind
    rw [if_pos ends] at first once
    exact ⟨first.resolve_right (Nat.succ_ne_zero _), Nat.le_zero.mp (Nat.le_of_succ_le_succ once)⟩
  have report := listable.report event List.mem_cons_self
  obtain ⟨next, ok⟩ := @sortEvent_ok _ idx _ _ few report fun kind => (isFirst kind).1
  refine ⟨next, ok, ⟨?_, ?_⟩, ?_⟩
  · exact fun other isMember => listable.report other (List.mem_cons_of_mem _ isMember)
  · exact (Nat.le_add_right _ _).trans once
  · obtain ⟨-, -, -, pwPt⟩ := (sortsEvent_of_ok ok).marks
    by_cases kind : event.event = .aClrPwpnd
    · exact .inr (isFirst kind).2
    · rw [pwPt, if_neg kind]
      exact first.imp_right fun none => (Nat.add_eq_zero_iff.mp none).1

theorem sortEvents_ok (listable : Listable numPorts events) :
    ∃ sorted, sortEvents numPorts (List.range numPorts) events = .ok sorted := by
  have before : ∀ sorted, sorted.pwPt = rioAllPorts →
      MaySort numPorts events.zipIdx sorted := by
    intro sorted first
    rw [MaySort, List.zipIdx_map_fst]
    exact ⟨listable, .inl first⟩
  exact foldlM_rest_total (fun _ _ _ may => may.turn few) (before _ rfl)

end

theorem clrPortEnds_of_isCleared {port rc : Nat}
    (cleared : ∀ event ∈ events, event.portNum = port → event.event.isCleared = true) :
    clrPortEnds port rc events = true := by
  induction events generalizing rc with
  | nil => rfl
  | cons event events ih =>
    have rest := fun other isMember => cleared other (List.mem_cons_of_mem event isMember)
    rw [clrPortEnds]
    split
    · exact ih rest
    next here =>
      rw [if_pos (cleared event List.mem_cons_self (not_not.mp here).symm)]
      exact ih rest

theorem Listable.portsEnd (listable : Listable numPorts events) (few : numPorts ≤ rioMaxPorts)
    (sorts : SortedFor numPorts events sorted) : PortsEnd numPorts events sorted := by
  intro port isPort notReset _
  apply clrPortEnds_of_isCleared
  rintro event isMember rfl
  rcases listable.report event isMember with ⟨ofPort, -⟩ | ⟨-, all⟩
  · rcases Bool.or_eq_true_iff.mp ofPort with isReset | isCleared
    · have listed : listedAt RioEmEvents.needsReset events event.portNum = true :=
        List.any_eq_true.mpr ⟨event, isMember, by rw [isReset, decide_eq_true rfl]; rfl⟩
      have reset := (sortedPnum_eq_all few isPort).mpr listed
      exact absurd ((sorts.pnums _ isPort).trans reset) notReset
    · exact isCleared
  · exact absurd (all ▸ isPort.le.trans few) (by decide)

theorem Listable.accepted {effect : WriteEffect Reg} (listable : Listable numPorts events)
    (few : numPorts ≤ rioMaxPorts) (some : events ≠ []) (stale : Stale) {file : RegisterFile Reg}
    (reliable : file.Reliable) (out : RioEmClrEventsOut) :
    ∃ final, (rxsRioEmClrEvents (registerFile effect) numPorts stale ⟨events, true⟩).run
      ⟨out, file⟩ = .ok () final := by
  obtain ⟨sorted, ok⟩ := sortEvents_ok few listable
  have accepts : Accepts numPorts ⟨events, true⟩ :=
    ⟨some, rfl, few, sorted, ok, listable.portsEnd few (sortedFor_of_sortEvents few ok)⟩
  have settled : Settled file.value file := ⟨rfl, reliable⟩
  have meets := @rxsRioEmClrEvents_meets effect Settled False file.value numPorts
    ⟨events, true⟩ accessible_settled stale (.inl accepts)
  obtain ⟨_, final, ran, -⟩ := @Meets.ends _ _ _ _ _ _ meets ⟨out, file⟩ settled
  exact ⟨final, ran⟩

end Listable

section Reports

variable {numPorts port : Nat} {values : Reg → BitVec 32} {ports : List Nat} {query : PortQuery}
  {asserted : BitVec 32} {events : List RioEmEventNLoc}

/-- An event that is not to end port-writes. -/
def IsStatus (numPorts : Nat) (event : RioEmEventNLoc) : Prop :=
  IsReport numPorts event ∧ endsPortWrites event = false

theorem eventIf_status {condition : Prop} [Decidable condition] {kind : RioEmEvents}
    (status : IsStatus numPorts ⟨port, kind⟩) :
    ∀ event ∈ eventIf condition kind port, IsStatus numPorts event := by
  intro event isMember
  unfold eventIf at isMember
  split at isMember
  · rwa [List.mem_singleton.mp isMember]
  · cases isMember

theorem status_flatten {lists : List (List RioEmEventNLoc)}
    (all : ∀ events ∈ lists, ∀ event ∈ events, IsStatus numPorts event) :
    ∀ event ∈ lists.flatten, IsStatus numPorts event := by
  intro event isMember
  obtain ⟨events, isList, inList⟩ := List.mem_flatten.mp isMember
  exact all events isList event inList

theorem portStatus (isPort : port < numPorts) (kind : RioEmEvents)
    (ofPort : (kind.needsReset || kind.needsClear) = true) : IsStatus numPorts ⟨port, kind⟩ := by
  cases kind with
  | dLog | iInitFail | aClrPwpnd | aNoEvent | last => cases ofPort
  | _ => exact ⟨.inl ⟨rfl, isPort⟩, rfl⟩

theorem portEvents_status (isPort : port < numPorts) :
    ∀ event ∈ portEvents values query port, IsStatus numPorts event := by
  have status := portStatus isPort
  apply status_flatten
  simp only [List.forall_mem_cons]
  refine ⟨eventIf_status (status _ rfl), eventIf_status (status _ rfl), ?_,
    eventIf_status (status _ rfl), eventIf_status (status _ rfl), eventIf_status (status _ rfl),
    eventIf_status (status _ rfl), eventIf_status (status _ rfl), fun _ never => by cases never⟩
  intro event isMember
  unfold maxDenialEvents at isMember
  split at isMember
  · rcases List.mem_append.mp isMember with isRetx | isPna
    · exact eventIf_status (status _ rfl) event isRetx
    · split at isPna
      · exact eventIf_status (status _ rfl) event isPna
      · cases isPna
  · cases isMember

theorem devEvents_status :
    ∀ event ∈ devEvents asserted, IsStatus numPorts event := by
  apply status_flatten
  simp only [List.forall_mem_cons]
  exact ⟨eventIf_status ⟨.inr ⟨.inl rfl, rfl⟩, rfl⟩, eventIf_status ⟨.inr ⟨.inr rfl, rfl⟩, rfl⟩,
    fun _ never => by cases never⟩

theorem countP_status (status : ∀ event ∈ events, IsStatus numPorts event) :
    events.countP endsPortWrites = 0 :=
  List.countP_eq_zero.mpr fun event isMember ends =>
    absurd ((status event isMember).2.symm.trans ends) Bool.false_ne_true

theorem listable_of_status (status : ∀ event ∈ events, IsStatus numPorts event) :
    Listable numPorts events where
  report event isMember := (status event isMember).1
  once := (countP_status status).trans_le (Nat.zero_le 1)

section

variable (arePorts : ∀ port ∈ ports, port < numPorts)
include arePorts

theorem logged_status :
    ∀ event ∈ ports.flatMap (portEvents values query) ++ devEvents asserted,
      IsStatus numPorts event := by
  intro event isMember
  rcases List.mem_append.mp isMember with ofPort | ofDevice
  · obtain ⟨port, inPorts, here⟩ := List.mem_flatMap.mp ofPort
    exact portEvents_status (arePorts port inPorts) event here
  · exact devEvents_status event ofDevice

theorem intLog_listable :
    Listable numPorts (intLog values ports).events :=
  listable_of_status (logged_status arePorts)

theorem pwLogAll_listable {pwPortNum : Nat} :
    Listable numPorts (pwLogAll values ports pwPortNum).events := by
  have status : ∀ event ∈ (pwLog values (pwOrder ports pwPortNum)).events,
      IsStatus numPorts event :=
    logged_status fun port inOrder => arePorts port (mem_pwOrder.mp inOrder)
  rw [pwLogAll, eventIf]
  dsimp only
  split
  next isMember =>
    constructor
    · intro event inLog
      rcases List.mem_append.mp inLog with earlier | last
      · exact (status event earlier).1
      · rw [List.mem_singleton.mp last]
        exact .inl ⟨rfl, arePorts _ isMember⟩
    · rw [List.countP_append, countP_status status]
      exact Nat.le_refl 1
  · rw [List.append_nil]
    exact listable_of_status status

end

end Reports

section Calls

variable {δ : Type} {numPorts : Nat} {condition : Prop}
  {Fail : PtlStop → Attached EventLog δ → Prop}

/-- No event of a log is to end port-writes, and its reset requests are of ports, but for the one
of `RXS_PW_DEV_RCS`. -/
def OnlyStatus (numPorts : Nat) (events : List RioEmEventNLoc) : Prop :=
  ∀ event ∈ events, event = ⟨rioAllPorts, .iRstReq⟩ ∨ IsStatus numPorts event

theorem addIf_onlyStatus [Decidable condition] {kind : RioEmEvents} {port : Nat}
    (status : condition →
      (⟨port, kind⟩ : RioEmEventNLoc) = ⟨rioAllPorts, .iRstReq⟩ ∨ IsStatus numPorts ⟨port, kind⟩) :
    Meets (fun state : Attached EventLog δ => OnlyStatus numPorts state.memory.events)
      (addIf eventLog condition kind port)
      (fun _ state => OnlyStatus numPorts state.memory.events) Fail := by
  apply Meets.ite
  · intro holds
    apply Meets.modify
    intro state only event isMember
    rcases List.mem_append.mp isMember with earlier | last
    · exact only event earlier
    · rw [List.mem_singleton.mp last]
      exact status holds
  · exact fun _ => Meets.pure fun _ only => only

theorem otherIf_onlyStatus [Decidable condition] :
    Meets (fun state : Attached EventLog δ => OnlyStatus numPorts state.memory.events)
      (otherIf eventLog condition)
      (fun _ state => OnlyStatus numPorts state.memory.events) Fail := by
  apply Meets.ite
  · exact fun _ => Meets.modify fun _ only => only
  · exact fun _ => Meets.pure fun _ only => only

theorem leave_meets {α : Type} {Pre : Attached EventLog δ → Prop} {Post : α → _ → Prop}
    (impRc rc : Nat) :
    Meets Pre (leave eventLog impRc rc : EmProgram EventLog δ α) Post fun _ _ => True :=
  Meets.modifyBind (fun _ => True) (fun _ _ => trivial) (Meets.throw fun _ _ => trivial)

theorem parsePw_onlyStatus (few : numPorts ≤ rioMaxPorts) (pw : PwWords) (room : Bool) :
    Meets (fun _ => True) (parsePw eventLog numPorts pw room : EmProgram EventLog δ Unit)
      (fun _ state => OnlyStatus numPorts state.memory.events) fun _ _ => True := by
  apply Meets.modifyBind fun state => OnlyStatus numPorts state.memory.events
  · exact fun _ _ _ isMember => absurd isMember List.not_mem_nil
  apply Meets.ite ?_ fun _ => leave_meets _ _
  intro _
  apply Meets.ite fun _ => leave_meets _ _
  intro inRange
  rw [numRxsPorts_eq few] at inRange
  have status := portStatus (Nat.lt_of_not_le inRange)
  iterate 7 refine (addIf_onlyStatus fun _ => .inr (status _ rfl)).bind fun _ => ?_
  refine (addIf_onlyStatus fun _ => .inr ⟨.inr ⟨.inl rfl, rfl⟩, rfl⟩).bind fun _ => ?_
  refine (addIf_onlyStatus fun _ => .inr (status _ rfl)).bind fun _ => ?_
  refine (addIf_onlyStatus fun _ => .inl rfl).bind fun _ => ?_
  refine (addIf_onlyStatus fun _ => .inr (status _ rfl)).bind fun _ => ?_
  refine (addIf_onlyStatus fun _ => .inr ⟨.inr ⟨.inr rfl, rfl⟩, rfl⟩).bind fun _ => ?_
  exact otherIf_onlyStatus

variable {device : RegDevice Reg δ} {Inv : δ → Prop} {values : Reg → BitVec 32} {ptl : DarPtl}

theorem getPortList_stops {α : Type} {impRc : Nat} {stop : PtlStop} {next : List Nat → _}
    {Post : α → _ → Prop} (notMade : darDbRioGetPortList numPorts ptl = .error stop) :
    Meets (fun _ => True)
      (getPortList eventLog numPorts ptl impRc >>= next : EmProgram EventLog δ α) Post
      fun _ _ => True := by
  have stops : Meets (fun _ => True)
      (getPortList eventLog numPorts ptl impRc : EmProgram EventLog δ _) (fun _ _ => False)
      fun _ _ => True := by
    rw [getPortList, notMade]
    cases stop with
    | code rc => exact leave_meets _ _
    | outOfBounds => exact Meets.throw fun _ _ => trivial
  exact stops.bind fun _ => Meets.unreached

variable (reads : ReadsGive Inv (fun _ _ => True) device values)

include reads

theorem getIntStat_listable (room : Bool) :
    Meets (fun state => Inv state.device) (getIntStat eventLog device numPorts ptl room)
      (fun _ state => Listable numPorts state.memory.events) fun _ _ => True := by
  cases room with
  | false =>
    apply Meets.modifyBind (fun _ => True) (fun _ _ => trivial)
    exact leave_meets _ _
  | true =>
    cases made : darDbRioGetPortList numPorts ptl with
    | error stop =>
      apply Meets.modifyBind (fun _ => True) (fun _ _ => trivial)
      exact getPortList_stops made
    | ok ports =>
      apply (getIntStat_contents reads made).weakenPost
      rintro _ state ⟨isLog, -⟩
      rw [isLog]
      exact intLog_listable (darDbRioGetPortList_ok made).2

theorem getPwStat_listable (pwPortNum : Nat) (room : Bool) :
    Meets (fun state => Inv state.device) (getPwStat eventLog device numPorts ptl pwPortNum room)
      (fun _ state => Listable numPorts state.memory.events) fun _ _ => True := by
  cases room with
  | false =>
    apply Meets.modifyBind (fun _ => True) (fun _ _ => trivial)
    exact leave_meets _ _
  | true =>
    cases made : darDbRioGetPortList numPorts ptl with
    | error stop =>
      apply Meets.modifyBind (fun _ => True) (fun _ _ => trivial)
      exact getPortList_stops made
    | ok ports =>
      apply (getPwStat_contents reads made fun _ _ holds => holds).weakenPost
      rintro _ state ⟨isLog, -⟩
      rw [isLog]
      exact pwLogAll_listable (darDbRioGetPortList_ok made).2

end Calls

section Accepted

variable {effect : WriteEffect Reg} {numPorts : Nat}

theorem entries_hold {δ : Type} {width room most : Nat} (Inv : δ → Prop)
    {Reported : List RioEmEventNLoc → Prop}
    (takes : ∀ events, Reported events → Reported (events.take room))
    {logged : EmProgram EventLog δ Unit} {call : EmProgram (EventsOut width) δ Unit}
    (simulates : ∀ before, Simulates (OverMemory fun _ out => out.events = before) logged call
      (OverMemory (Shows room before)))
    (logs : LogsAtMost most logged) (counted : most < 2 ^ width)
    (reported : Meets (fun state => Inv state.device) logged
      (fun _ state => Reported state.memory.events) fun _ _ => True)
    {start final : Attached (EventsOut width) δ} (holds : Inv start.device)
    (ran : call.run start = .ok () final) : Reported final.memory.entries := by
  have ends := ((simulates start.memory.events).meeting logs).transfer reported
  obtain ⟨logState, ⟨⟨shows, -⟩, few⟩, inLog⟩ :=
    (@ends start ⟨⟨⟨0, [], false⟩, start.device⟩, ⟨⟨rfl, rfl⟩, trivial⟩, holds⟩).1 ran
  rw [(shows.filled (few.trans_lt counted)).entries_eq]
  exact takes _ inLog

/-- The events may be cleared, whatever the registers hold, as long as they can be accessed. -/
def MayBeCleared (effect : WriteEffect Reg) (numPorts : Nat) (events : List RioEmEventNLoc) :
    Prop :=
  ∀ stale file out, file.Reliable →
    ∃ final, (rxsRioEmClrEvents (registerFile effect) numPorts stale ⟨events, true⟩).run
      ⟨out, file⟩ = .ok () final

/-- Events that are reported, if there are any, may be cleared, unless a port-write tells of a
reset request of another port. -/
theorem reportedEvents_mayBeCleared (few : numPorts ≤ rioMaxPorts) (file : RegisterFile Reg) :
    (∀ inParms out final,
      (rxsRioEmParsePw numPorts inParms).run ⟨out, file⟩ = .ok () final →
        final.memory.entries ≠ [] → ⟨rioAllPorts, .iRstReq⟩ ∉ final.memory.entries →
          MayBeCleared effect numPorts final.memory.entries) ∧
    (∀ inParms out final,
      (rxsRioEmGetIntStat (registerFile effect) numPorts inParms).run ⟨out, file⟩ =
          .ok () final →
        final.memory.entries ≠ [] → MayBeCleared effect numPorts final.memory.entries) ∧
    (∀ inParms out final,
      (rxsRioEmGetPwStat (registerFile effect) numPorts inParms).run ⟨out, file⟩ =
          .ok () final →
        final.memory.entries ≠ [] → MayBeCleared effect numPorts final.memory.entries) := by
  have reads := @readsGive_of_accessible effect _ _ file.value accessible_values
  have cleared : ∀ {events}, Listable numPorts events → events ≠ [] →
      MayBeCleared effect numPorts events :=
    fun listable some stale file out reliable => listable.accepted few some stale reliable out
  refine ⟨?_, ?_, ?_⟩
  · intro inParms out final ran some notRequested
    have simulates : ∀ before, Simulates
        (OverMemory (δ := RegisterFile Reg) fun _ out => out.events = before)
        (parsePw eventLog numPorts inParms.pw
          (decide (inParms.numEvents ≠ 0 ∧ inParms.hasEvents)))
        (rxsRioEmParsePw numPorts inParms) (OverMemory (Shows inParms.numEvents.toNat before)) :=
      fun before => parsePw_simulates outParms_matches (fun log out => outParms_clear log out) _ _ _
    have status := @parsePw_onlyStatus (RegisterFile Reg) _ few inParms.pw
      (decide (inParms.numEvents ≠ 0 ∧ inParms.hasEvents))
    have only : OnlyStatus numPorts final.memory.entries :=
      entries_hold (fun _ => True) (fun _ only event isMember =>
        only event (List.mem_of_mem_take isMember)) simulates (parsePw_logs numPorts inParms.pw _)
        (by decide) (status.weakenPre fun _ _ => trivial) trivial ran
    refine cleared (listable_of_status fun event isMember => ?_) some
    exact (only event isMember).resolve_left fun same => notRequested (same ▸ isMember)
  · intro inParms out final ran some
    have simulates : ∀ before, Simulates (OverMemory fun _ out => out.events = before)
        (getIntStat eventLog (registerFile effect) numPorts inParms.ptl
          (decide (inParms.numEvents ≠ 0 ∧ inParms.hasEvents)))
        (rxsRioEmGetIntStat (registerFile effect) numPorts inParms)
        (OverMemory (Shows inParms.numEvents.toNat before)) :=
      fun before => getIntStat_simulates outParms_matches _
        (fun log out => outParms_clear log out) _ _ _
    exact cleared (entries_hold (·.value = file.value) (fun _ => (·.take _)) simulates
      (getIntStat_logs _ numPorts inParms.ptl _) (by decide)
      (getIntStat_listable reads _) rfl ran) some
  · intro inParms out final ran some
    have simulates : ∀ before, Simulates (OverMemory fun _ out => out.events = before)
        (getPwStat eventLog (registerFile effect) numPorts inParms.ptl inParms.pwPortNum
          (decide (inParms.numEvents ≠ 0 ∧ inParms.hasEvents)))
        (rxsRioEmGetPwStat (registerFile effect) numPorts inParms)
        (OverMemory (Shows inParms.numEvents.toNat before)) :=
      fun before => getPwStat_simulates outParms_matches _
        (fun log out => outParms_clear log out) _ _ _ _
    exact cleared (entries_hold (·.value = file.value) (fun _ => (·.take _)) simulates
      (getPwStat_logs _ numPorts inParms.ptl _ _) (by decide)
      (getPwStat_listable reads _ _) rfl ran) some

end Accepted

/-- A device that has no events reports none, and this is not accepted. -/
theorem not_mayBeCleared_nothing :
    ∃ final, (rxsRioEmGetIntStat (registerFile store) 2 ⟨allPorts, 300, true⟩).run
        ⟨blankOut 8, nothingFile⟩ = .ok () final ∧
      ¬MayBeCleared store 2 final.memory.entries := by
  have ends : endsWith (fun _ final => decide (final.memory.entries = []))
      ((rxsRioEmGetIntStat (registerFile store) 2 ⟨allPorts, 300, true⟩).run
        ⟨blankOut 8, nothingFile⟩) = true := by
    decide +kernel
  obtain ⟨_, final, ran, none⟩ := exists_of_endsWith ends
  refine ⟨final, ran, fun accepted => ?_⟩
  obtain ⟨cleared, refused⟩ :=
    accepted (staleAt 0) nothingFile blankClrOut fun _ _ => rfl
  rw [of_decide_eq_true none] at refused
  cases refused

/-- The error is reported by all three calls, and may be cleared. -/
theorem reportedEvents_mayBeCleared_portError :
    (∃ final, (rxsRioEmParsePw 2 ⟨⟨0, plmStatPortErr, 0⟩, 12, true⟩).run
        ⟨blankOut 8, portError⟩ = .ok () final ∧ MayBeCleared store 2 final.memory.entries) ∧
    (∃ final, (rxsRioEmGetIntStat (registerFile store) 2 ⟨allPorts, 300, true⟩).run
        ⟨blankOut 8, portError⟩ = .ok () final ∧ MayBeCleared store 2 final.memory.entries) ∧
    (∃ final, (rxsRioEmGetPwStat (registerFile store) 2 ⟨allPorts, 0, 300, true⟩).run
        ⟨blankOut 16, portError⟩ = .ok () final ∧
      MayBeCleared store 2 final.memory.entries) := by
  obtain ⟨parsed, int, pw⟩ := @reportedEvents_mayBeCleared store 2 (by decide) portError
  refine ⟨?_, ?_, ?_⟩
  · have ends : endsWith (fun _ final => decide (final.memory.entries ≠ [] ∧
          ⟨rioAllPorts, .iRstReq⟩ ∉ final.memory.entries))
        ((rxsRioEmParsePw 2 ⟨⟨0, plmStatPortErr, 0⟩, 12, true⟩).run
          ⟨blankOut 8, portError⟩) = true := by
      decide +kernel
    obtain ⟨_, final, ran, some⟩ := exists_of_endsWith ends
    obtain ⟨some, notRequested⟩ := of_decide_eq_true some
    exact ⟨final, ran, parsed _ _ _ ran some notRequested⟩
  · have ends : endsWith (fun _ final => decide (final.memory.entries ≠ []))
        ((rxsRioEmGetIntStat (registerFile store) 2 ⟨allPorts, 300, true⟩).run
          ⟨blankOut 8, portError⟩) = true := by
      decide +kernel
    obtain ⟨_, final, ran, some⟩ := exists_of_endsWith ends
    exact ⟨final, ran, int _ _ _ ran (of_decide_eq_true some)⟩
  · have ends : endsWith (fun _ final => decide (final.memory.entries ≠ []))
        ((rxsRioEmGetPwStat (registerFile store) 2 ⟨allPorts, 0, 300, true⟩).run
          ⟨blankOut 16, portError⟩) = true := by
      decide +kernel
    obtain ⟨_, final, ran, some⟩ := exists_of_endsWith ends
    exact ⟨final, ran, pw _ _ _ ran (of_decide_eq_true some)⟩

end RioFabric.RxsEvents

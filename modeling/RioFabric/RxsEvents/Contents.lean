import RioFabric.RxsEvents.Truncation

/-!
# What the reports say

The events that are reported of a port and of the device, from what the registers hold.  A program
that reports adds them to a log that may have others already.
-/

namespace RioFabric.RxsEvents

open Lib Dar

section Events

variable (values : Reg → BitVec 32)

/-- An event, if a condition holds. -/
def eventIf (condition : Prop) [Decidable condition] (event : RioEmEvents) (portNum : Nat) :
    List RioEmEventNLoc :=
  if condition then [⟨portNum, event⟩] else []

/-- The bits of the status of a port that are enabled, or need not be. -/
def plmAsserted (query : PortQuery) (port : Nat) : BitVec 32 :=
  values (.port .plmStat port) &&& (values (.port query.plmEn port) ||| plmUnmaskableMask)

/-- The events of a port whose packets were refused too often. -/
def maxDenialEvents (port : Nat) (plmStat : BitVec 32) : List RioEmEventNLoc :=
  if plmStat &&& plmStatMaxDenial ≠ 0 then
    eventIf (denialCtlCntRty &&& values (.port .denialCtl port) ≠ 0) .f2manyRetx port ++
      if denialCtlCntPna &&& values (.port .denialCtl port) ≠ 0 then
        eventIf (pnaCapValid &&& values (.port .pnaCap port) ≠ 0) .f2manyPna port
      else []
  else []

/-- The events of a port, from the bits of its status that are enabled. -/
def statusEvents (port : Nat) (plmStat pbmStat tlmStat : BitVec 32) : List RioEmEventNLoc :=
  [eventIf (plmStat &&& losEventMask ≠ 0) .fLos port,
    eventIf (plmStat &&& plmStatPortErr ≠ 0) .fPortErr port,
    maxDenialEvents values port plmStat,
    eventIf (plmStat &&& plmStatPbmFatal ≠ 0) .fErrRate port,
    eventIf (pbmStat &&& pbmStatEgTtlExpired ≠ 0) .dTtl port,
    eventIf (tlmStat &&& tlmStatLutDiscard ≠ 0) .dRte port,
    eventIf (plmStat &&& plmStatLinkInit ≠ 0) .iSigDet port,
    eventIf (plmStat &&& rstReqEventMask ≠ 0) .iRstReq port].flatten

def portEvents (query : PortQuery) (port : Nat) : List RioEmEventNLoc :=
  statusEvents values port (plmAsserted values query port)
    (values (.port .pbmStat port) &&& values (.port query.pbmEn port))
    (values (.port .tlmStat port) &&& values (.port query.tlmEn port))

/-- There are bits in a status that is not enabled. -/
def unenabledStatus (plmStat tlmStat pbmStat : BitVec 32) : Bool :=
  decide (plmStat ≠ 0) || (decide (tlmStat ≠ 0) || decide (pbmStat ≠ 0))

/-- A port has a status that is not enabled. -/
def portOther (query : PortQuery) (port : Nat) : Bool :=
  unenabledStatus
    (values (.port .plmStat port) &&&
      ~~~(values (.port query.plmEn port) ||| plmUnmaskableMask))
    (values (.port .tlmStat port) &&& ~~~values (.port query.tlmEn port))
    (values (.port .pbmStat port) &&&
      ~~~(values (.port query.pbmEn port) ||| pbmFatalEventMask))

/-- The events of the device, from the bits of its status that are enabled. -/
def devEvents (asserted : BitVec 32) : List RioEmEventNLoc :=
  [eventIf (asserted &&& emIntStatLog ≠ 0) .dLog rioAllPorts,
    eventIf (asserted &&& emIntStatExternalI2c ≠ 0) .iInitFail rioAllPorts].flatten

/-- An event of the device that is not asserted shows in the register behind it, or there is a
status that is found `unenabled`. -/
def devOther (asserted : BitVec 32) (unenabled : Bool) : Bool :=
  decide (¬asserted &&& emIntStatLog ≠ 0 ∧ values (.dev .errDet) &&& 0xffffffff ≠ 0) ||
    (decide (¬asserted &&& emIntStatExternalI2c ≠ 0 ∧
      values (.dev .i2cIntStat) &&& i2cIntStatBlFail ≠ 0) || unenabled)

/-- The device has a status that is not enabled. -/
def devUnenabled (stat en : BitVec 32) : Bool :=
  decide (stat &&& ~~~(en ||| emIntStatAggEventsMask) ≠ 0)

/-- The status of the device that raises an interrupt. -/
def intAsserted : BitVec 32 := values (.dev .emIntStat) &&& values (.dev .emIntEn)

/-- The status of the device that leads to port-writes. -/
def pwAsserted : BitVec 32 := values (.dev .emPwStat) &&& values (.dev .emPwEn)

/-- What `rxs_rio_em_get_int_stat` logs. -/
def intLog (ports : List Nat) : EventLog where
  impRc := 0
  events := ports.flatMap (portEvents values intQuery) ++ devEvents (intAsserted values)
  otherEvents := ports.any (portOther values intQuery) ||
    devOther values (intAsserted values)
      (devUnenabled (values (.dev .emIntStat)) (values (.dev .emIntEn)))

/-- What `rxs_rio_em_get_pw_stat` logs of the ports that are looked at in order. -/
def pwLog (ports : List Nat) : EventLog where
  impRc := 0
  events := ports.flatMap (portEvents values pwQuery) ++ devEvents (pwAsserted values)
  otherEvents := ports.any (portOther values pwQuery) || devOther values (pwAsserted values) false

end Events

section Logging

variable {δ : Type} (Inv : δ → Prop) (Fail : PtlStop → Attached EventLog δ → Prop)

/-- A program adds these events to a log. -/
def Logs (program : EmProgram EventLog δ Unit) (events : List RioEmEventNLoc) (other : Bool) :
    Prop :=
  ∀ log : EventLog, Meets (fun state => state.memory = log ∧ Inv state.device) program
    (fun _ state => state.memory =
        ⟨log.impRc, log.events ++ events, log.otherEvents || other⟩ ∧ Inv state.device)
    Fail

/-- Reads give what the registers hold. -/
def ReadsGive (device : RegDevice Reg δ) (values : Reg → BitVec 32) : Prop :=
  ∀ reg impRc log, Meets (fun state => state.memory = log ∧ Inv state.device)
    (readReg eventLog device reg impRc)
    (fun value state => value = values reg ∧ state.memory = log ∧ Inv state.device) Fail

end Logging

theorem and_and_not_or (stat en mask : BitVec 32) : stat &&& en &&& ~~~(en ||| mask) = 0 := by
  have apart : en &&& ~~~(en ||| mask) = 0 := by
    apply BitVec.eq_of_getLsbD_eq
    intro idx _
    cases isSet : en.getLsbD idx <;> simp [isSet]
  rw [BitVec.and_assoc, apart]
  exact BitVec.and_zero

section Programs

variable {δ : Type} {Inv : δ → Prop} {Fail : PtlStop → Attached EventLog δ → Prop}
  {device : RegDevice Reg δ} {values : Reg → BitVec 32} {program : EmProgram EventLog δ Unit}
  {events more : List RioEmEventNLoc} {other otherMore : Bool} {numPorts : Nat} {ports : List Nat}

namespace Logs

theorem bind {rest : EmProgram EventLog δ Unit} (head : Logs Inv Fail program events other)
    (tail : Logs Inv Fail rest more otherMore) :
    Logs Inv Fail (program >>= fun _ => rest) (events ++ more) (other || otherMore) := by
  intro log
  apply Meets.bind (head log)
  intro _
  have after := tail ⟨log.impRc, log.events ++ events, log.otherEvents || other⟩
  rwa [List.append_assoc, Bool.or_assoc] at after

theorem nothing : Logs Inv Fail (pure ()) [] false := by
  intro log
  apply Meets.pure
  rintro state ⟨isLog, holds⟩
  rw [List.append_nil, Bool.or_false]
  exact ⟨isLog, holds⟩

theorem addEvent (event : RioEmEventNLoc) :
    Logs Inv Fail (modifyMemory (eventLog.addEvent event)) [event] false := by
  intro log
  apply Meets.modify
  rintro state ⟨rfl, holds⟩
  rw [Bool.or_false]
  exact ⟨rfl, holds⟩

theorem addIf (condition : Prop) [Decidable condition] (event : RioEmEvents) (portNum : Nat) :
    Logs Inv Fail (addIf eventLog condition event portNum) (eventIf condition event portNum)
      false := by
  unfold RxsEvents.addIf eventIf
  split
  · exact addEvent _
  · exact nothing

theorem otherIf (condition : Prop) [Decidable condition] :
    Logs Inv Fail (otherIf eventLog condition) [] (decide condition) := by
  unfold RxsEvents.otherIf
  split
  next holds =>
    intro log
    apply Meets.modify
    rintro state ⟨rfl, kept⟩
    rw [decide_eq_true holds, Bool.or_true, List.append_nil]
    exact ⟨rfl, kept⟩
  next fails =>
    rw [decide_eq_false fails]
    exact nothing

theorem forM {ι : Type} {body : ι → EmProgram EventLog δ PUnit} {each : ι → List RioEmEventNLoc}
    {otherEach : ι → Bool} {cells : List ι}
    (turn : ∀ idx, Logs Inv Fail (body idx) (each idx) (otherEach idx)) :
    Logs Inv Fail (cells.forM body) (cells.flatMap each) (cells.any otherEach) := by
  induction cells with
  | nil => exact nothing
  | cons idx cells ih =>
    rw [List.flatMap_cons, List.any_cons]
    exact (turn idx).bind ih

theorem atEnd_addEvent (logs : Logs Inv Fail program events other) (event : RioEmEventNLoc)
    (failsAt : ∀ stop state, Fail stop state → Fail stop { state with
      memory := eventLog.addEvent event state.memory }) :
    Logs Inv Fail (atEnd program fun state => { state with
      memory := eventLog.addEvent event state.memory }) (events ++ [event]) other := by
  intro log
  apply atEnd_meets
  apply (logs log).weaken (fun _ before => before) ?_ failsAt
  rintro _ state ⟨isLog, holds⟩
  rw [isLog]
  exact ⟨congrArg (EventLog.mk _ · _) (List.append_assoc _ _ _), holds⟩

theorem read (reads : ReadsGive Inv Fail device values) {reg : Reg} {impRc : Nat}
    {next : BitVec 32 → EmProgram EventLog δ Unit}
    (tail : Logs Inv Fail (next (values reg)) events other) :
    Logs Inv Fail (readReg eventLog device reg impRc >>= next) events other := by
  intro log
  apply Meets.bind (reads reg impRc log)
  intro value
  apply Meets.assume
  rintro rfl
  exact tail log

end Logs

variable (reads : ReadsGive Inv Fail device values)

include reads

theorem addMaxDenial_logs (query : PortQuery) (port : Nat) (plmStat : BitVec 32) :
    Logs Inv Fail (addMaxDenial eventLog device query port plmStat)
      (maxDenialEvents values port plmStat) false := by
  unfold addMaxDenial maxDenialEvents
  split
  · apply Logs.read reads
    apply (Logs.addIf _ _ _).bind
    split
    · apply Logs.read reads
      exact Logs.addIf _ _ _
    · exact Logs.nothing
  · exact Logs.nothing

theorem getStatPort_logs (query : PortQuery) (port : Nat) :
    Logs Inv Fail (getStatPort eventLog device query port) (portEvents values query port)
      (portOther values query port) := by
  iterate 8 apply Logs.read reads
  have turn : ∀ entry : DevReg × Nat, Logs Inv Fail (do
      let _ ← readReg eventLog device (.dev entry.1) entry.2
      pure ()) [] false :=
    fun entry => Logs.read reads Logs.nothing
  have unused : Logs Inv Fail (query.unused.forM fun entry => do
      let _ ← readReg eventLog device (.dev entry.1) entry.2
      pure ()) [] false := by
    have all := @Logs.forM _ Inv Fail _ _ _ _ query.unused turn
    rwa [List.flatMap_eq_nil_iff.mpr fun _ _ => rfl,
      List.any_eq_false.mpr fun _ _ => Bool.false_ne_true] at all
  apply unused.bind
  apply (Logs.addIf _ _ _).bind
  apply (Logs.addIf _ _ _).bind
  apply (addMaxDenial_logs reads query port _).bind
  iterate 5 apply (Logs.addIf _ _ _).bind
  apply (Logs.otherIf _).bind
  apply (Logs.otherIf _).bind
  exact Logs.otherIf _

theorem addDevEvent_logs (asserted : Prop) [Decidable asserted] (event : RioEmEvents) (reg : DevReg)
    (mask : BitVec 32) (impRc : Nat) :
    Logs Inv Fail (addDevEvent eventLog device asserted event reg mask impRc)
      (eventIf asserted event rioAllPorts)
      (decide (¬asserted ∧ values (.dev reg) &&& mask ≠ 0)) := by
  unfold addDevEvent eventIf
  split
  next holds =>
    rw [decide_eq_false fun shown => shown.1 holds]
    exact Logs.addEvent _
  next fails =>
    rw [decide_eq_decide.mpr (and_iff_right fails)]
    apply Logs.read reads
    exact Logs.otherIf _

theorem getDevIntStatus_logs :
    Logs Inv Fail (getDevIntStatus eventLog device) (devEvents (intAsserted values))
      (devOther values (intAsserted values)
        (devUnenabled (values (.dev .emIntStat)) (values (.dev .emIntEn)))) := by
  apply Logs.read reads
  apply Logs.read reads
  apply (addDevEvent_logs reads _ _ _ _ _).bind
  apply (addDevEvent_logs reads _ _ _ _ _).bind
  exact Logs.otherIf _

theorem getDevPwStatus_logs :
    Logs Inv Fail (getDevPwStatus eventLog device) (devEvents (pwAsserted values))
      (devOther values (pwAsserted values) false) := by
  apply Logs.read reads
  apply Logs.read reads
  apply (addDevEvent_logs reads _ _ _ _ _).bind
  apply (addDevEvent_logs reads _ _ _ _ _).bind
  -- a status that is enabled is not one that is not enabled
  rw [← decide_eq_false (not_not.mpr (and_and_not_or (values (.dev .emPwStat))
    (values (.dev .emPwEn)) emPwStatAggEventsMask))]
  exact Logs.otherIf _

theorem getIntStat_contents {ptl : DarPtl} (made : darDbRioGetPortList numPorts ptl = .ok ports) :
    Meets (fun state => Inv state.device) (getIntStat eventLog device numPorts ptl true)
      (fun _ state => state.memory = intLog values ports ∧ Inv state.device) Fail := by
  apply Meets.modifyBind fun state => state.memory = ⟨0, [], false⟩ ∧ Inv state.device
  · exact fun state holds => ⟨rfl, holds⟩
  · rw [if_pos rfl, getPortList, made]
    dsimp only
    rw [pure_bind]
    have each := @Logs.forM _ Inv Fail _ _ _ _ ports fun port =>
      getStatPort_logs reads intQuery port
    exact each.bind (getDevIntStatus_logs reads) ⟨0, [], false⟩

/-- The ports in the order in which port-writes are looked for. -/
def pwOrder (ports : List Nat) (pwPortNum : Nat) : List Nat :=
  if pwPortNum ∈ ports then ports.filter (pwPortNum ≠ ·) ++ [pwPortNum] else ports

/-- What `rxs_rio_em_get_pw_stat` logs, with the event that ends port-writes. -/
def pwLogAll (values : Reg → BitVec 32) (ports : List Nat) (pwPortNum : Nat) : EventLog :=
  let log := pwLog values (pwOrder ports pwPortNum)
  { log with events := log.events ++ eventIf (pwPortNum ∈ ports) .aClrPwpnd pwPortNum }

theorem getPwStatPorts_logs (ports : List Nat) (pwPortNum : Nat) :
    Logs Inv Fail (ports.forM fun port =>
        if pwPortNum = port then pure () else rxsRioEmGetPwStatPort eventLog device port)
      ((ports.filter (pwPortNum ≠ ·)).flatMap (portEvents values pwQuery))
      ((ports.filter (pwPortNum ≠ ·)).any (portOther values pwQuery)) := by
  induction ports with
  | nil => exact Logs.nothing
  | cons port ports ih =>
    have split : ∀ rest, Logs Inv Fail rest
        ((ports.filter (pwPortNum ≠ ·)).flatMap (portEvents values pwQuery))
        ((ports.filter (pwPortNum ≠ ·)).any (portOther values pwQuery)) →
        Logs Inv Fail ((if pwPortNum = port then pure ()
          else rxsRioEmGetPwStatPort eventLog device port) >>= fun _ => rest)
        (((port :: ports).filter (pwPortNum ≠ ·)).flatMap (portEvents values pwQuery))
        (((port :: ports).filter (pwPortNum ≠ ·)).any (portOther values pwQuery)) := by
      intro rest logs
      by_cases isPw : pwPortNum = port
      · rw [if_pos isPw, List.filter_cons_of_neg (by simpa using isPw)]
        exact Logs.nothing.bind logs
      · rw [if_neg isPw, List.filter_cons_of_pos (by simpa using isPw), List.flatMap_cons,
          List.any_cons]
        exact (getStatPort_logs reads pwQuery port).bind logs
    exact split _ ih

theorem getPwStat_contents {pwPortNum : Nat} {ptl : DarPtl}
    (made : darDbRioGetPortList numPorts ptl = .ok ports)
    (failsAt : ∀ stop state, Fail stop state → Fail stop { state with
      memory := eventLog.addEvent ⟨pwPortNum, .aClrPwpnd⟩ state.memory }) :
    Meets (fun state => Inv state.device) (getPwStat eventLog device numPorts ptl pwPortNum true)
      (fun _ state => state.memory = pwLogAll values ports pwPortNum ∧ Inv state.device) Fail := by
  apply Meets.modifyBind fun state => state.memory = ⟨0, [], false⟩ ∧ Inv state.device
  · exact fun state holds => ⟨rfl, holds⟩
  · rw [if_pos rfl, getPortList, made]
    dsimp only
    rw [pure_bind, pwLogAll, pwOrder]
    have others := getPwStatPorts_logs reads ports pwPortNum
    have device := getDevPwStatus_logs reads
    by_cases isMember : pwPortNum ∈ ports
    · rw [if_pos isMember, if_pos isMember, eventIf, if_pos isMember]
      have all := others.bind ((getStatPort_logs reads pwQuery pwPortNum).bind
        (device.atEnd_addEvent ⟨pwPortNum, .aClrPwpnd⟩ failsAt)) ⟨0, [], false⟩
      apply all.weakenPost
      rintro _ state ⟨isLog, holds⟩
      refine ⟨isLog.trans ?_, holds⟩
      rw [pwLog, List.flatMap_append, List.any_append, List.flatMap_singleton, List.any_cons,
        List.any_nil, Bool.or_false, List.append_assoc, List.append_assoc, List.append_assoc,
        Bool.or_assoc]
      rfl
    · rw [if_neg isMember, if_neg isMember, eventIf, if_neg isMember, List.append_nil]
      have keepsAll : ports.filter (pwPortNum ≠ ·) = ports := by
        apply List.filter_eq_self.mpr
        intro port isPort
        exact decide_eq_true fun same => isMember (same ▸ isPort)
      rw [keepsAll] at others
      exact others.bind device ⟨0, [], false⟩

end Programs

section Files

variable {effect : WriteEffect Reg} {values : Reg → BitVec 32}
  {Fail : PtlStop → Attached EventLog (RegisterFile Reg) → Prop}

theorem readsGive_settled :
    ReadsGive (Settled values) Fail (registerFile effect) values := by
  intro reg impRc log
  apply onStop_meets
  apply regRead_file_meets
  · rintro state ⟨isLog, settled⟩ _
    exact ⟨congrFun settled.value_eq reg, isLog, settled.pass _⟩
  · rintro state failure ⟨-, settled⟩ isFault fails
    exact absurd (isFault.symm.trans (settled.reliable.fault_eq _)) fails

end Files

section Reports

variable {δ : Type} {width room most : Nat} {logged : EmProgram EventLog δ Unit}

/-- The report has all events of the log. -/
structure Complete (log : EventLog) (out : EventsOut width) : Prop where
  entries : out.entries = log.events
  otherEvents : out.otherEvents = log.otherEvents

theorem complete_of_logged {call : EmProgram (EventsOut width) δ Unit}
    (simulates : ∀ before, Simulates (OverMemory fun _ out => out.events = before) logged call
      (OverMemory (Shows room before))) (logs : LogsAtMost most logged) (counted : most < 2 ^ width)
    {start : Attached (EventsOut width) δ}
    (fits : (finalState (call.run start)).memory.tooMany = false) :
    SameOutcome (OverMemory Complete) (logged.run ⟨⟨0, [], false⟩, start.device⟩)
      (call.run start) := by
  have meeting := (simulates start.memory.events).meeting logs
  have ran := @meeting ⟨⟨0, [], false⟩, start.device⟩ start ⟨⟨rfl, rfl⟩, trivial⟩
  have complete : ∀ (log : Attached EventLog δ) (out : Attached (EventsOut width) δ),
      OverMemory (Shows room start.memory.events) log out ∧
        log.memory.events.length ≤ most → out.memory.tooMany = false →
      OverMemory Complete log out := by
    rintro log out ⟨⟨shows, sameDevice⟩, few⟩ all
    have filled := shows.filled (few.trans_lt counted)
    refine ⟨⟨?_, shows.otherEvents.symm⟩, sameDevice⟩
    rw [filled.entries_eq]
    exact List.take_of_length_le
      (Nat.le_of_not_lt (of_decide_eq_false (filled.tooMany.symm.trans all)))
  revert ran fits
  generalize logged.run ⟨⟨0, [], false⟩, start.device⟩ = result
  generalize call.run start = otherResult
  intro fits ran
  cases ran with
  | ok value related => exact .ok value (complete _ _ related fits)
  | error code related => exact .error code (complete _ _ related fits)

theorem ok_of_logged {start : Attached EventLog δ} {log : EventLog} {Inv : δ → Prop}
    {result : EStateM.Result PtlStop (Attached (EventsOut width) δ) Unit}
    (same : SameOutcome (OverMemory Complete) (logged.run start) result)
    (contents : Meets (fun state => Inv state.device) logged
      (fun _ state => state.memory = log ∧ Inv state.device) fun _ _ => False)
    (holds : Inv start.device) : ∃ final, result = .ok () final ∧ Complete log final.memory := by
  obtain ⟨value, after, ran, isLog, -⟩ := contents.ends holds
  rw [ran] at same
  obtain ⟨final, ended, complete, -⟩ := same.of_ok
  exact ⟨final, ended, isLog ▸ complete⟩

theorem stops_of_logged {start : Attached EventLog δ}
    {result : EStateM.Result PtlStop (Attached (EventsOut width) δ) Unit}
    (same : SameOutcome (OverMemory Complete) (logged.run start) result)
    (stops : Meets (fun _ => True) logged (fun _ _ => False)
      fun _ state => state.memory.events = [] ∧ state.memory.otherEvents = false) :
    ∃ code final, result = .error code final ∧ final.memory.entries = [] ∧
      final.memory.otherEvents = false := by
  cases ran : logged.run start with
  | ok value after => exact ((stops trivial).1 ran).elim
  | error code after =>
    obtain ⟨noEvents, noOthers⟩ := (stops trivial).2 ran
    rw [ran] at same
    obtain ⟨final, ended, complete, -⟩ := same.of_error
    exact ⟨code, final, ended, complete.entries.trans noEvents,
      complete.otherEvents.trans noOthers⟩

theorem getPortList_notMade {numPorts impRc : Nat} {ptl : DarPtl} {stop : PtlStop}
    (notMade : darDbRioGetPortList numPorts ptl = .error stop) {α : Type}
    {next : List Nat → EmProgram EventLog δ α} :
    Meets (fun state => state.memory.events = [] ∧ state.memory.otherEvents = false)
      (getPortList eventLog numPorts ptl impRc >>= next) (fun _ _ => False)
      fun _ state => state.memory.events = [] ∧ state.memory.otherEvents = false := by
  have stops : Meets
      (fun state : Attached EventLog δ =>
        state.memory.events = [] ∧ state.memory.otherEvents = false)
      (getPortList eventLog numPorts ptl impRc) (fun _ _ => False)
      fun _ state => state.memory.events = [] ∧ state.memory.otherEvents = false := by
    rw [getPortList, notMade]
    cases stop with
    | code rc =>
      apply Meets.modifyBind fun state =>
        state.memory.events = [] ∧ state.memory.otherEvents = false
      · exact fun _ empty => empty
      · exact Meets.throw fun _ empty => empty
    | outOfBounds => exact Meets.throw fun _ empty => empty
  exact stops.bind fun _ => Meets.unreached

end Reports

end RioFabric.RxsEvents

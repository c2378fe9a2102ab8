import RioFabric.RxsEvents.Sorting

/-!
# What clearing does to the registers

The writes that clear events, as a function of what the registers hold before.  What a write does is
left to the device.
-/

namespace RioFabric.RxsEvents

open Lib Dar
open StatCounters (numRxsPorts)

section Registers

variable (effect : WriteEffect Reg)

/-- After a port was reset. -/
def softResetRegs (port : Nat) (values : Reg → BitVec 32) : Reg → BitVec 32 :=
  let plmCtl := values (.port .impSpecCtl port)
  effect (.dev .emRstPortStat) (1 <<< port) (effect (.port .impSpecCtl port) plmCtl
    (effect (.port .impSpecCtl port) (plmCtl ||| impSpecCtlSoftRstPort) values))

/-- After an event of a port was cleared. -/
def clearEventRegs (port : Nat) (event : RioEmEvents) (values : Reg → BitVec 32) :
    Reg → BitVec 32 :=
  match event with
  | .dTtl => effect (.port .pbmStat port) pbmStatEgTtlExpired values
  | .dRte => effect (.port .tlmStat port) tlmStatLutDiscard values
  | .iSigDet => effect (.port .plmStat port) plmStatLinkInit values
  | .iRstReq => effect (.dev .emRstPortStat) (1 <<< port)
      (effect (.port .plmStat port) rstReqEventMask values)
  | .aClrPwpnd =>
    effect (.port .errStat port) (values (.port .errStat port) ||| errStatPortWP) values
  | _ => values

/-- The events of a port that are cleared: those in front of one that is not for a port. -/
def reachedEvents (port : Nat) : List RioEmEventNLoc → List RioEmEvents
  | [] => []
  | event :: rest =>
    if port ≠ event.portNum then reachedEvents port rest
    else if event.event.isCleared then event.event :: reachedEvents port rest
    else if event.event = .aNoEvent then reachedEvents port rest
    else []

/-- After the events of a port were cleared. -/
def clrPortRegs (events : List RioEmEventNLoc) (port : Nat) (values : Reg → BitVec 32) :
    Reg → BitVec 32 :=
  (reachedEvents port events).foldl (fun values event => clearEventRegs effect port event values)
    values

def clearPortRegs (events : List RioEmEventNLoc) (sorted : SortedEvents) (port : Nat)
    (values : Reg → BitVec 32) : Reg → BitVec 32 :=
  if rioAllPorts = sorted.ptl.pnums port then softResetRegs effect port values
  else clrPortRegs effect events port values

def clearTurnRegs (events : List RioEmEventNLoc) (sorted : SortedEvents)
    (values : Reg → BitVec 32) (port : Nat) : Reg → BitVec 32 :=
  if sorted.pwPt = port then values
  else if sorted.ptl.pnums port = port then values
  else clearPortRegs effect events sorted port values

/-- After the events of all ports were cleared. -/
def clearPortsRegs (numPorts : Nat) (events : List RioEmEventNLoc) (sorted : SortedEvents)
    (values : Reg → BitVec 32) : Reg → BitVec 32 :=
  let values :=
    (List.range (numRxsPorts numPorts)).foldl (clearTurnRegs effect events sorted) values
  if rioAllPorts ≠ sorted.pwPt then clearPortRegs effect events sorted sorted.pwPt values
  else values

/-- After all events that are listed were cleared. -/
def clearedRegs (numPorts : Nat) (events : List RioEmEventNLoc) (sorted : SortedEvents)
    (values : Reg → BitVec 32) : Reg → BitVec 32 :=
  let values := clearPortsRegs effect numPorts events sorted values
  let values :=
    if sorted.initErrIdx.isSome then effect (.dev .i2cIntStat) i2cIntStatBlFail values else values
  if sorted.logErrIdx.isSome then effect (.dev .errDet) 0 values else values

end Registers

/-- The loop over the events of a port, with the code that it would leave with, does not fail. -/
def clrPortEnds (port rc : Nat) : List RioEmEventNLoc → Bool
  | [] => true
  | event :: rest =>
    if port ≠ event.portNum then clrPortEnds port rc rest
    else if event.event.isCleared then clrPortEnds port 0 rest
    else if event.event = .aNoEvent then clrPortEnds port rc rest
    else rc = 0

/-- Accesses to a register file that do what they should, or lead to a failure. -/
structure Accessible (effect : WriteEffect Reg)
    (Holds : (Reg → BitVec 32) → RegisterFile Reg → Prop) (Fail : Prop) : Prop where
  read : ∀ {μ : Type} (Kept : μ → Prop) values reg (code : Nat → PtlStop),
    Meets (fun state => Kept state.memory ∧ Holds values state.device)
      (regRead (registerFile effect) reg code)
      (fun value state => value = values reg ∧ Kept state.memory ∧ Holds values state.device)
      fun _ _ => Fail
  write : ∀ {μ : Type} (Kept : μ → Prop) values reg value (code : Nat → PtlStop),
    Meets (fun state => Kept state.memory ∧ Holds values state.device)
      (regWrite (registerFile effect) reg value code)
      (fun _ state => Kept state.memory ∧ Holds (effect reg value values) state.device)
      fun _ _ => Fail

section Accessing

variable {effect : WriteEffect Reg}

theorem accessible_settled : Accessible effect Settled False where
  read Kept values reg code := by
    apply regRead_file_meets
    · rintro state ⟨kept, settled⟩ _
      exact ⟨congrFun settled.value_eq reg, kept, settled.pass _⟩
    · rintro state failure ⟨-, settled⟩ isFault fails
      exact fails (isFault.symm.trans (settled.reliable.fault_eq _))
  write Kept values reg value code := by
    apply regWrite_file_meets
    · rintro state ⟨kept, settled⟩ _
      exact ⟨kept, congrArg (effect reg value) settled.value_eq, settled.reliable.pass _⟩
    · rintro state failure ⟨-, settled⟩ isFault fails
      exact fails (isFault.symm.trans (settled.reliable.fault_eq _))

theorem accessible_values : Accessible effect (fun values file => file.value = values) True where
  read Kept values reg code := by
    apply regRead_file_meets
    · rintro state ⟨kept, same⟩ _
      exact ⟨congrFun same reg, kept, same⟩
    · exact fun _ _ _ _ _ => trivial
  write Kept values reg value code := by
    apply regWrite_file_meets
    · rintro state ⟨kept, same⟩ _
      exact ⟨kept, congrArg (effect reg value) same⟩
    · exact fun _ _ _ _ _ => trivial

end Accessing

section Programs

variable {effect : WriteEffect Reg} {Holds : (Reg → BitVec 32) → RegisterFile Reg → Prop}
  {Fail : Prop} {values : Reg → BitVec 32} {numPorts port rc : Nat}
  {events : List RioEmEventNLoc} {sorted : SortedEvents}

/-- Nothing is said to remain yet, and the registers hold these values. -/
def BeforeStatus (Holds : (Reg → BitVec 32) → RegisterFile Reg → Prop) (values : Reg → BitVec 32)
    (state : Attached RioEmClrEventsOut (RegisterFile Reg)) : Prop :=
  (state.memory.pwEventsRemain = false ∧ state.memory.intEventsRemain = false) ∧
    Holds values state.device

theorem setFailureIdx_keeps (failureIdx : Nat) :
    Meets (BeforeStatus Holds values) (setFailureIdx failureIdx)
      (fun _ => BeforeStatus Holds values) fun _ _ => Fail :=
  Meets.modify fun _ before => before

variable (access : Accessible effect Holds Fail)

include access

theorem clrRead_meets (reg : Reg) (impRc : Nat) :
    Meets (BeforeStatus Holds values)
      (clrAccess impRc (regRead (registerFile effect) reg .code))
      (fun value state => value = values reg ∧ BeforeStatus Holds values state)
      fun _ _ => Fail :=
  onStop_meets (access.read (fun out : RioEmClrEventsOut =>
    out.pwEventsRemain = false ∧ out.intEventsRemain = false) values reg _)

theorem clrWrite_meets (reg : Reg) (value : BitVec 32) (impRc : Nat) :
    Meets (BeforeStatus Holds values)
      (clrAccess impRc (regWrite (registerFile effect) reg value .code))
      (fun _ => BeforeStatus Holds (effect reg value values)) fun _ _ => Fail :=
  onStop_meets (access.write (fun out : RioEmClrEventsOut =>
    out.pwEventsRemain = false ∧ out.intEventsRemain = false) values reg value _)

theorem softReset_meets (port : Nat) :
    Meets (BeforeStatus Holds values) (softReset (registerFile effect) port)
      (fun _ => BeforeStatus Holds (softResetRegs effect port values)) fun _ _ => Fail := by
  apply Meets.bind (clrRead_meets access _ _)
  intro plmCtl
  apply Meets.assume
  rintro rfl
  apply Meets.bind (clrWrite_meets access _ _ _)
  intro _
  apply Meets.bind (clrWrite_meets access _ _ _)
  intro _
  exact clrWrite_meets access _ _ _

/-- The registers once one event is cleared. -/
theorem clearEvent_meets (port : Nat) (event : RioEmEvents) :
    Meets (BeforeStatus Holds values) (clearEvent (registerFile effect) port event)
      (fun _ => BeforeStatus Holds (clearEventRegs effect port event values)) fun _ _ => Fail := by
  cases event with
  | dTtl | dRte | iSigDet => exact clrWrite_meets access _ _ _
  | iRstReq =>
    apply Meets.bind (clrWrite_meets access _ _ _)
    intro _
    exact clrWrite_meets access _ _ _
  | aClrPwpnd =>
    apply Meets.bind (clrRead_meets access _ _)
    intro temp
    apply Meets.assume
    rintro rfl
    exact clrWrite_meets access _ _ _
  | fLos | fPortErr | f2manyRetx | f2manyPna | fErrRate | dLog | iInitFail | aNoEvent | last =>
    exact Meets.pure fun _ before => before

theorem clrPortFrom_meets {entries : List (RioEmEventNLoc × Nat)}
    (ends : clrPortEnds port rc (entries.map Prod.fst) = true ∨ Fail) :
    Meets (BeforeStatus Holds values) (clrPortFrom (registerFile effect) port rc entries)
      (fun _ => BeforeStatus Holds (clrPortRegs effect (entries.map Prod.fst) port values))
      fun _ _ => Fail := by
  induction entries generalizing rc values with
  | nil => exact setFailureIdx_keeps 0
  | cons entry entries ih =>
    obtain ⟨event, idx⟩ := entry
    rw [List.map_cons, clrPortEnds] at ends
    rw [List.map_cons, clrPortRegs, reachedEvents, clrPortFrom]
    by_cases other : port ≠ event.portNum
    · rw [if_pos other] at ends ⊢
      rw [if_pos other]
      exact ih ends
    rw [if_neg other] at ends ⊢
    rw [if_neg other]
    apply Meets.bind (setFailureIdx_keeps idx)
    intro _
    by_cases isCleared : event.event.isCleared = true
    · rw [if_pos isCleared] at ends ⊢
      rw [if_pos isCleared, List.foldl_cons]
      apply Meets.bind (clearEvent_meets access port _)
      intro _
      exact ih ends
    rw [if_neg isCleared] at ends ⊢
    rw [if_neg isCleared]
    by_cases noEvent : event.event = .aNoEvent
    · rw [if_pos noEvent] at ends ⊢
      rw [if_pos noEvent]
      exact ih ends
    rw [if_neg noEvent] at ends ⊢
    rw [if_neg noEvent]
    by_cases succeeded : rc = 0
    · rw [if_pos succeeded]
      exact setFailureIdx_keeps 0
    · rw [if_neg succeeded]
      apply Meets.throw
      intro _ _
      exact ends.resolve_left fun isZero => succeeded (of_decide_eq_true isZero)

/-- At each port that is cleared on its own, no event stops the loop. -/
def PortsEnd (numPorts : Nat) (events : List RioEmEventNLoc) (sorted : SortedEvents) : Prop :=
  ∀ port < numPorts, sorted.ptl.pnums port ≠ rioAllPorts →
    sorted.ptl.pnums port ≠ port ∨ sorted.pwPt = port →
      clrPortEnds port rioErrInvalidParameter events = true

omit access in
theorem zipIdx_fst : events.zipIdx.map Prod.fst = events := List.zipIdx_map_fst 0 events

/-- The registers once the events of one port are cleared. -/
theorem clearPort_meets (ends : sorted.ptl.pnums port ≠ rioAllPorts →
      clrPortEnds port rioErrInvalidParameter events = true ∨ Fail) :
    Meets (BeforeStatus Holds values) (clearPort (registerFile effect) events sorted port)
      (fun _ => BeforeStatus Holds (clearPortRegs effect events sorted port values))
      fun _ _ => Fail := by
  unfold clearPort clearPortRegs
  split
  · exact softReset_meets access port
  next notReset =>
    have cleared := @clrPortFrom_meets effect Holds Fail values port rioErrInvalidParameter access
      events.zipIdx
    rw [zipIdx_fst] at cleared
    exact cleared (ends (Ne.symm notReset))

theorem clearTurn_meets (ends : PortsEnd numPorts events sorted ∨ Fail) (isPort : port < numPorts) :
    Meets (BeforeStatus Holds values) (clearTurn (registerFile effect) events sorted port)
      (fun _ => BeforeStatus Holds (clearTurnRegs effect events sorted values port))
      fun _ _ => Fail := by
  unfold clearTurn clearTurnRegs
  split
  · exact Meets.pure fun _ before => before
  split
  · exact Meets.pure fun _ before => before
  next marked =>
    exact clearPort_meets access fun notReset =>
      ends.imp_left fun all => all port isPort notReset (.inl marked)

/-- The registers once the events of some ports are cleared. -/
theorem clearTurns_meets (ends : PortsEnd numPorts events sorted ∨ Fail) {ports : List Nat}
    (arePorts : ∀ port ∈ ports, port < numPorts) :
    Meets (BeforeStatus Holds values) (ports.forM (clearTurn (registerFile effect) events sorted))
      (fun _ => BeforeStatus Holds (ports.foldl (clearTurnRegs effect events sorted) values))
      fun _ _ => Fail := by
  induction ports generalizing values with
  | nil => exact Meets.pure fun _ before => before
  | cons port ports ih =>
    rw [List.foldl_cons]
    apply Meets.bind (clearTurn_meets access ends (arePorts port List.mem_cons_self))
    intro _
    exact ih fun other isMember => arePorts other (List.mem_cons_of_mem port isMember)

theorem clrWriteIf_meets (condition : Bool) (reg : Reg) (value : BitVec 32) (impRc : Nat)
    {rest : ClrProgram (RegisterFile Reg) Unit} {Post : Unit → Attached _ _ → Prop}
    (tail : ∀ values', values' = (if condition then effect reg value values else values) →
      Meets (BeforeStatus Holds values') rest Post fun _ _ => Fail) :
    Meets (BeforeStatus Holds values)
      (if condition then do
        clrAccess impRc (regWrite (registerFile effect) reg value .code)
        rest
      else rest) Post fun _ _ => Fail := by
  cases condition with
  | false => exact tail values rfl
  | true =>
    apply Meets.bind (clrWrite_meets access reg value impRc)
    intro _
    exact tail _ rfl

/-- The registers once all listed events are cleared. -/
theorem clearListed_meets (few : numPorts ≤ rioMaxPorts) (sorts : SortedFor numPorts events sorted)
    (ends : PortsEnd numPorts events sorted ∨ Fail) :
    Meets (BeforeStatus Holds values) (clearListed (registerFile effect) numPorts events sorted)
      (fun _ => BeforeStatus Holds (clearedRegs effect numPorts events sorted values))
      fun _ _ => Fail := by
  unfold clearListed clearedRegs clearPortsRegs
  rw [numRxsPorts_eq few]
  apply Meets.bind (clearTurns_meets access ends fun _ => List.mem_range.mp)
  intro _
  generalize (List.range numPorts).foldl (clearTurnRegs effect events sorted) values = turned
  dsimp only
  have device : ∀ cleared, Meets (BeforeStatus Holds cleared)
      (if sorted.initErrIdx.isSome then do
        clrAccess (emClrEvents 0x80)
          (regWrite (registerFile effect) (.dev .i2cIntStat) i2cIntStatBlFail .code)
        if sorted.logErrIdx.isSome then
          clrAccess (emClrEvents 0x90) (regWrite (registerFile effect) (.dev .errDet) 0 .code)
        else pure ()
      else
        if sorted.logErrIdx.isSome then
          clrAccess (emClrEvents 0x90) (regWrite (registerFile effect) (.dev .errDet) 0 .code)
        else pure ())
      (fun _ => BeforeStatus Holds
        (let values := if sorted.initErrIdx.isSome then
          effect (.dev .i2cIntStat) i2cIntStatBlFail cleared else cleared
        if sorted.logErrIdx.isSome then effect (.dev .errDet) 0 values else values))
      fun _ _ => Fail := by
    intro cleared
    apply clrWriteIf_meets access
    intro cleared' isCleared
    dsimp only
    rw [← isCleared]
    split
    · exact clrWrite_meets access _ _ _
    · exact Meets.pure fun _ before => before
  split
  next isPw =>
    rcases sorts.pwPt with ⟨none, -⟩ | ⟨isPort, -⟩
    · exact absurd none.symm isPw
    · apply Meets.bind (clearPort_meets access fun notReset =>
        ends.imp_left fun all => all _ isPort notReset (.inr rfl))
      exact fun _ => device _
  · exact device _

end Programs

end RioFabric.RxsEvents

import Mathlib.Data.BitVec
import RioFabric.Lib.Masks
import RioFabric.Lib.Resets
import RioFabric.RxsEvents.Remaining

/-!
# Events that are cleared

The registers of a device where a status is cleared by ones that are written to it, and where the
reset of a port clears all its events.  An event that is listed is cleared unless the clearing of
its port is left before, with success, at an event that is not for a port.
-/

namespace RioFabric.RxsEvents

open Lib Dar
open StatCounters (numRxsPorts)

/-- The registers after a port was reset. -/
def portReset (port : Nat) (values : Reg → BitVec 32) : Reg → BitVec 32
  | .port .plmStat other => if other = port then 0 else values (.port .plmStat other)
  | .port .tlmStat other => if other = port then 0 else values (.port .tlmStat other)
  | .port .pbmStat other => if other = port then 0 else values (.port .pbmStat other)
  | .port .errStat other =>
    if other = port then values (.port .errStat other) &&& ~~~errStatPortWP
    else values (.port .errStat other)
  | reg => values reg

/-- What a write does where a status is cleared by ones. -/
def clearedByOnes : WriteEffect Reg
  | .port .plmStat port, data, values => Function.update values (.port .plmStat port)
      (values (.port .plmStat port) &&& ~~~data)
  | .port .tlmStat port, data, values => Function.update values (.port .tlmStat port)
      (values (.port .tlmStat port) &&& ~~~data)
  | .port .pbmStat port, data, values => Function.update values (.port .pbmStat port)
      (values (.port .pbmStat port) &&& ~~~data)
  | .port .errStat port, data, values => Function.update values (.port .errStat port)
      (values (.port .errStat port) &&& ~~~(data &&& errStatPortWP))
  | .port .impSpecCtl port, data, values =>
    if data &&& impSpecCtlSoftRstPort ≠ 0 then
      portReset port (Function.update values (.port .impSpecCtl port) data)
    else Function.update values (.port .impSpecCtl port) data
  | .dev .i2cIntStat, data, values => Function.update values (.dev .i2cIntStat)
      (values (.dev .i2cIntStat) &&& ~~~data)
  | .dev .emRstPortStat, data, values => Function.update values (.dev .emRstPortStat)
      (values (.dev .emRstPortStat) &&& ~~~data)
  | reg, data, values => Function.update values reg data

/-- The register that shows an event. -/
def RioEmEvents.statusReg (port : Nat) : RioEmEvents → Reg
  | .fLos | .fPortErr | .f2manyRetx | .f2manyPna | .fErrRate | .iSigDet | .iRstReq =>
    .port .plmStat port
  | .dTtl => .port .pbmStat port
  | .dRte => .port .tlmStat port
  | .aClrPwpnd => .port .errStat port
  | .iInitFail => .dev .i2cIntStat
  | .dLog | .aNoEvent | .last => .dev .errDet

/-- Its bits there. -/
def RioEmEvents.statusMask : RioEmEvents → BitVec 32
  | .fLos => losEventMask
  | .fPortErr => plmStatPortErr
  | .f2manyRetx | .f2manyPna => plmStatMaxDenial
  | .fErrRate => plmStatPbmFatal
  | .iSigDet => plmStatLinkInit
  | .iRstReq => rstReqEventMask
  | .dTtl => pbmStatEgTtlExpired
  | .dRte => tlmStatLutDiscard
  | .aClrPwpnd => errStatPortWP
  | .iInitFail => i2cIntStatBlFail
  | .dLog => 0xffffffff
  | .aNoEvent | .last => 0

/-- The status bits of an event. -/
def eventBits (values : Reg → BitVec 32) (event : RioEmEventNLoc) : BitVec 32 :=
  values (event.event.statusReg event.portNum) &&& event.event.statusMask

section Writes

variable {port : Nat} {kind : RioEmEvents}

def atPort (port : Nat) (event : RioEmEventNLoc) : Bool :=
  decide (event.portNum = port) && (event.event.needsReset || event.event.isCleared)

/-- An event of some kind of a port. -/
def isEvent (port : Nat) (kind : RioEmEvents) (event : RioEmEventNLoc) : Bool :=
  decide (event.portNum = port) && decide (event.event = kind)

theorem resets_of_ones {reg : Reg} {data : BitVec 32} {which : RioEmEventNLoc → Bool}
    (hit : ∀ event, which event = true → event.event.statusReg event.portNum = reg ∧
      data &&& event.event.statusMask = event.event.statusMask)
    (miss : ∀ event, which event = false → event.event.statusReg event.portNum = reg →
      data &&& event.event.statusMask = 0) :
    Resets eventBits (fun values => Function.update values reg (values reg &&& ~~~data)) which := by
  intro values event
  rw [eventBits, eventBits]
  dsimp only
  cases isHit : which event with
  | true =>
    obtain ⟨isReg, all⟩ := hit event isHit
    rw [isReg, Function.update_self]
    exact cleared_within all
  | false =>
    by_cases isReg : event.event.statusReg event.portNum = reg
    · have apart := miss event isHit isReg
      rw [isReg, Function.update_self]
      exact cleared_apart apart
    · rw [Function.update_of_ne isReg]
      rfl

theorem resets_of_hidden {reg : Reg} {change : (Reg → BitVec 32) → BitVec 32}
    (hidden : ∀ event : RioEmEventNLoc, event.event.statusReg event.portNum ≠ reg) :
    Resets eventBits (fun values => Function.update values reg (change values))
      fun _ => false := by
  intro values event
  rw [eventBits]
  dsimp only
  rw [Function.update_of_ne (hidden event)]
  rfl

theorem statusMask_apart {other : Nat} {otherKind : RioEmEvents} (isCleared : kind.isCleared = true)
    (differ : otherKind ≠ kind) (sameReg : otherKind.statusReg other = kind.statusReg port) :
    kind.statusMask &&& otherKind.statusMask = 0 := by
  cases kind <;> cases isCleared <;> cases otherKind <;>
    first | rfl | exact absurd rfl differ | cases sameReg

theorem port_of_statusReg {other : Nat} (isCleared : kind.isCleared = true)
    (sameReg : kind.statusReg other = kind.statusReg port) : other = port := by
  cases kind <;> cases isCleared <;> cases sameReg <;> rfl

theorem clearEvent_resets (port : Nat) (isCleared : kind.isCleared = true) :
    Resets eventBits (clearEventRegs clearedByOnes port kind) (isEvent port kind) := by
  have resets : Resets eventBits (fun values => Function.update values (kind.statusReg port)
      (values (kind.statusReg port) &&& ~~~kind.statusMask)) (isEvent port kind) := by
    apply resets_of_ones
    · intro event isHit
      rw [isEvent, Bool.and_eq_true, decide_eq_true_iff, decide_eq_true_iff] at isHit
      rw [isHit.1, isHit.2]
      exact ⟨rfl, BitVec.and_self⟩
    · rintro ⟨other, otherKind⟩ isMiss sameReg
      apply statusMask_apart isCleared ?_ sameReg
      rintro rfl
      obtain rfl := port_of_statusReg isCleared sameReg
      simp [isEvent] at isMiss
  cases kind with
  | dTtl | dRte | iSigDet => exact resets
  | iRstReq =>
    have device := @resets_of_hidden (.dev .emRstPortStat)
      (fun values => values (.dev .emRstPortStat) &&& ~~~((1 : BitVec 32) <<< port))
    refine ((device fun event => ?_).comp resets).congr fun event => Bool.or_false _
    cases event.event <;> exact nofun
  | aClrPwpnd =>
    intro values event
    have same := resets values event
    rw [clearEventRegs, clearedByOnes, BitVec.or_comm, or_and_cancel]
    exact same
  | fLos | fPortErr | f2manyRetx | f2manyPna | fErrRate | dLog | iInitFail | aNoEvent | last =>
    cases isCleared

theorem portReset_resets (port : Nat) : Resets eventBits (portReset port) (atPort port) := by
  rintro values ⟨other, kind⟩
  by_cases same : other = port
  · subst same
    cases kind with
    | aClrPwpnd =>
      have cleared := @cleared_within 32 (values (.port .errStat other)) _ _
        (BitVec.and_self (x := errStatPortWP))
      simpa [eventBits, portReset, atPort, RioEmEvents.statusReg, RioEmEvents.statusMask,
        RioEmEvents.isCleared] using cleared
    | _ => simp [eventBits, portReset, atPort, RioEmEvents.statusReg, RioEmEvents.needsReset,
        RioEmEvents.isCleared]
  · cases kind <;>
      simp [eventBits, portReset, atPort, RioEmEvents.statusReg, same]

theorem impSpecCtl_bits (data : BitVec 32) (values : Reg → BitVec 32) (event : RioEmEventNLoc) :
    eventBits (clearedByOnes (.port .impSpecCtl port) data values) event =
      if data &&& impSpecCtlSoftRstPort ≠ 0 ∧ atPort port event = true then 0
      else eventBits values event := by
  have stored := @resets_of_hidden (.port .impSpecCtl port) (fun _ => data) ?_ values event
  · rw [clearedByOnes]
    by_cases resets : data &&& impSpecCtlSoftRstPort ≠ 0
    · rw [if_pos resets, portReset_resets]
      by_cases isAt : atPort port event = true
      · rw [if_pos isAt, if_pos ⟨resets, isAt⟩]
      · rw [if_neg isAt, if_neg fun both => isAt both.2]
        exact stored
    · rw [if_neg resets, if_neg fun both => resets both.1]
      exact stored
  · intro event
    cases event.event <;> exact nofun

theorem softReset_resets (port : Nat) :
    Resets eventBits (softResetRegs clearedByOnes port) (atPort port) := by
  intro values event
  have device := @resets_of_hidden (.dev .emRstPortStat)
    (fun values => values (.dev .emRstPortStat) &&& ~~~((1 : BitVec 32) <<< port)) ?_
  · rw [softResetRegs]
    refine (device _ event).trans ?_
    rw [if_neg Bool.false_ne_true]
    have isSet : (values (.port .impSpecCtl port) ||| impSpecCtlSoftRstPort) &&&
        impSpecCtlSoftRstPort ≠ 0 := by
      rw [BitVec.or_comm, or_and_cancel]
      decide
    by_cases isAt : atPort port event = true
    · have cleared := (impSpecCtl_bits _ values event).trans (if_pos ⟨isSet, isAt⟩)
      rw [impSpecCtl_bits, cleared, ite_self, if_pos isAt]
    · rw [impSpecCtl_bits, impSpecCtl_bits, if_neg fun both => isAt both.2,
        if_neg fun both => isAt both.2, if_neg isAt]
  · intro event
    cases event.event <;> exact nofun

end Writes

section Cleared

variable {numPorts port : Nat} {events : List RioEmEventNLoc} {sorted : SortedEvents}
  {event : RioEmEventNLoc}

theorem isCleared_of_reached {kind : RioEmEvents} (reached : kind ∈ reachedEvents port events) :
    kind.isCleared = true := by
  induction events with
  | nil => cases reached
  | cons first events ih =>
    rw [reachedEvents] at reached
    split at reached
    · exact ih reached
    split at reached
    next isCleared =>
      rcases List.mem_cons.mp reached with rfl | later
      · exact isCleared
      · exact ih later
    split at reached
    · exact ih reached
    · cases reached

/-- The events that are cleared with those of a port. -/
def clearsAt (events : List RioEmEventNLoc) (sorted : SortedEvents) (port : Nat)
    (event : RioEmEventNLoc) : Bool :=
  if rioAllPorts = sorted.ptl.pnums port then atPort port event
  else (reachedEvents port events).any fun kind => isEvent port kind event

theorem clearPort_resets : Resets eventBits (clearPortRegs clearedByOnes events sorted port)
    (clearsAt events sorted port) := by
  apply Resets.ite (softReset_resets port)
  exact Resets.foldl fun kind reached => clearEvent_resets port (isCleared_of_reached reached)

/-- The events that are cleared in the loop over the ports. -/
def clearsInTurn (events : List RioEmEventNLoc) (sorted : SortedEvents) (port : Nat)
    (event : RioEmEventNLoc) : Bool :=
  if sorted.pwPt = port then false
  else if sorted.ptl.pnums port = port then false
  else clearsAt events sorted port event

theorem clearTurn_resets :
    Resets eventBits (fun values => clearTurnRegs clearedByOnes events sorted values port)
      (clearsInTurn events sorted port) := by
  apply Resets.ite Resets.nothing
  exact Resets.ite Resets.nothing clearPort_resets

/-- All events that are cleared. -/
def clears (numPorts : Nat) (events : List RioEmEventNLoc) (sorted : SortedEvents)
    (event : RioEmEventNLoc) : Bool :=
  ((((List.range numPorts).any fun port => clearsInTurn events sorted port event) ||
    if rioAllPorts ≠ sorted.pwPt then clearsAt events sorted sorted.pwPt event else false) ||
    if sorted.initErrIdx.isSome then decide (event.event = .iInitFail) else false) ||
    if sorted.logErrIdx.isSome then decide (event.event = .dLog) else false

theorem cleared_resets (few : numPorts ≤ rioMaxPorts) :
    Resets eventBits (clearedRegs clearedByOnes numPorts events sorted)
      (clears numPorts events sorted) := by
  have ports : Resets eventBits (fun values =>
      (List.range (numRxsPorts numPorts)).foldl (clearTurnRegs clearedByOnes events sorted) values)
      fun event => (List.range numPorts).any fun port => clearsInTurn events sorted port event := by
    rw [numRxsPorts_eq few]
    exact Resets.foldl fun port _ => clearTurn_resets
  have init : Resets eventBits (fun values =>
      clearedByOnes (.dev .i2cIntStat) i2cIntStatBlFail values)
      fun event => decide (event.event = .iInitFail) := by
    apply resets_of_ones
    · rintro ⟨other, kind⟩ isInit
      obtain rfl := of_decide_eq_true isInit
      exact ⟨rfl, BitVec.and_self⟩
    · rintro ⟨other, kind⟩ notInit sameReg
      cases kind with
      | iInitFail => cases notInit
      | _ => cases sameReg
  have log : Resets eventBits (fun values => clearedByOnes (.dev .errDet) 0 values)
      fun event => decide (event.event = .dLog) := by
    rintro values ⟨other, kind⟩
    cases kind <;> simp [eventBits, clearedByOnes, RioEmEvents.statusReg, RioEmEvents.statusMask]
  have pwPort : Resets eventBits (fun values => if rioAllPorts ≠ sorted.pwPt then
      clearPortRegs clearedByOnes events sorted sorted.pwPt values else values)
      fun event => if rioAllPorts ≠ sorted.pwPt then clearsAt events sorted sorted.pwPt event
        else false :=
    clearPort_resets.ite Resets.nothing
  have initIf : Resets eventBits (fun values => if sorted.initErrIdx.isSome then
      clearedByOnes (.dev .i2cIntStat) i2cIntStatBlFail values else values)
      fun event => if sorted.initErrIdx.isSome then decide (event.event = .iInitFail)
        else false :=
    init.ite Resets.nothing
  have logIf : Resets eventBits (fun values => if sorted.logErrIdx.isSome then
      clearedByOnes (.dev .errDet) 0 values else values)
      fun event => if sorted.logErrIdx.isSome then decide (event.event = .dLog) else false :=
    log.ite Resets.nothing
  exact logIf.comp (initIf.comp (pwPort.comp ports))

theorem clearsAt_port (clears : clearsAt events sorted port event = true) :
    event.portNum = port := by
  unfold clearsAt at clears
  split at clears
  · exact of_decide_eq_true (Bool.and_eq_true_iff.mp clears).1
  · obtain ⟨kind, -, isKind⟩ := List.any_eq_true.mp clears
    exact of_decide_eq_true (Bool.and_eq_true_iff.mp isKind).1

theorem clearsInTurn_port (clears : clearsInTurn events sorted port event = true) :
    clearsAt events sorted port event = true := by
  unfold clearsInTurn at clears
  split at clears
  · cases clears
  split at clears
  · cases clears
  · exact clears

theorem needsClear_or_clrPwpnd {kind : RioEmEvents} (isCleared : kind.isCleared = true) :
    kind.needsClear = true ∨ kind = .aClrPwpnd := by
  cases kind <;> first | cases isCleared; done | exact .inl rfl | exact .inr rfl

theorem listedAt_of_mem {kinds : RioEmEvents → Bool} (isMember : event ∈ events)
    (isKind : kinds event.event = true) : listedAt kinds events event.portNum = true :=
  List.any_eq_true.mpr ⟨event, isMember, by rw [isKind, decide_eq_true rfl]; rfl⟩

variable (few : numPorts ≤ rioMaxPorts) (sorts : SortedFor numPorts events sorted)
  (isMember : event ∈ events)

include few sorts isMember

theorem clears_eq_clearsAt (ofPort : (event.event.needsReset || event.event.isCleared) = true) :
    clears numPorts events sorted event = clearsAt events sorted event.portNum event := by
  have isPort := (sorts.accepted event isMember).2 ofPort
  have notKind := @ne_of_kind (fun kind => kind.needsReset || kind.isCleared) event.event
  have notInit := notKind .iInitFail ofPort rfl
  have notLog := notKind .dLog ofPort rfl
  rw [clears, decide_eq_false notInit, decide_eq_false notLog, ite_self, ite_self, Bool.or_false,
    Bool.or_false]
  apply Bool.eq_iff_iff.mpr
  rw [Bool.or_eq_true, List.any_eq_true]
  constructor
  · rintro (⟨port, -, inTurn⟩ | atPw)
    · have here := clearsInTurn_port inTurn
      rwa [clearsAt_port here]
    · split at atPw
      · rwa [clearsAt_port atPw]
      · cases atPw
  · intro here
    by_cases isPw : sorted.pwPt = event.portNum
    · right
      have notAll : rioAllPorts ≠ sorted.pwPt := by
        rw [isPw]
        rintro all
        exact absurd (all ▸ isPort.le.trans few) (by decide)
      rw [if_pos notAll, isPw]
      exact here
    · left
      refine ⟨event.portNum, List.mem_range.mpr isPort, ?_⟩
      have marked : sorted.ptl.pnums event.portNum ≠ event.portNum := by
        rw [sorts.pnums_ne_iff few isPort, Bool.or_eq_true]
        rcases Bool.or_eq_true_iff.mp ofPort with isReset | isCleared
        · exact .inl (listedAt_of_mem isMember isReset)
        rcases needsClear_or_clrPwpnd isCleared with isClear | isClrPwpnd
        · exact .inr (listedAt_of_mem isMember isClear)
        · rcases sorts.pwPt with ⟨-, none⟩ | ⟨-, -, only⟩
          · have listed : isListed .aClrPwpnd events = true :=
              List.any_eq_true.mpr ⟨event, isMember, decide_eq_true isClrPwpnd⟩
            rw [none] at listed
            cases listed
          · exact absurd (only event isMember isClrPwpnd).symm isPw
      rw [clearsInTurn, if_neg isPw, if_neg marked]
      exact here

theorem clears_of_needsReset (isReset : event.event.needsReset = true) :
    clears numPorts events sorted event = true := by
  have ofPort : (event.event.needsReset || event.event.isCleared) = true := by rw [isReset]; rfl
  have isPort := (sorts.accepted event isMember).2 ofPort
  have all := (sortedPnum_eq_all few isPort).mpr (listedAt_of_mem isMember isReset)
  rw [clears_eq_clearsAt few sorts isMember ofPort, clearsAt,
    if_pos ((sorts.pnums _ isPort).trans all).symm, atPort, ofPort, decide_eq_true rfl]
  rfl

theorem clears_iff_of_isCleared (isCleared : event.event.isCleared = true) :
    clears numPorts events sorted event = true ↔
      listedAt RioEmEvents.needsReset events event.portNum = true ∨
        event.event ∈ reachedEvents event.portNum events := by
  have ofPort : (event.event.needsReset || event.event.isCleared) = true := by
    rw [isCleared, Bool.or_true]
  have isPort := (sorts.accepted event isMember).2 ofPort
  have isReset := @sortedPnum_eq_all _ events _ few isPort
  rw [← sorts.pnums _ isPort] at isReset
  rw [clears_eq_clearsAt few sorts isMember ofPort, clearsAt]
  by_cases reset : listedAt RioEmEvents.needsReset events event.portNum = true
  · rw [if_pos (isReset.mpr reset).symm, atPort, ofPort, decide_eq_true rfl]
    exact iff_of_true rfl (.inl reset)
  · rw [if_neg fun all => reset (isReset.mp all.symm), or_iff_right reset, List.any_eq_true]
    constructor
    · rintro ⟨kind, reached, isKind⟩
      rw [isEvent, Bool.and_eq_true, decide_eq_true_iff, decide_eq_true_iff] at isKind
      rwa [isKind.2]
    · intro reached
      refine ⟨event.event, reached, ?_⟩
      rw [isEvent, decide_eq_true rfl, decide_eq_true rfl]
      rfl

theorem eventBits_cleared_iff (values : Reg → BitVec 32) :
    eventBits (clearedRegs clearedByOnes numPorts events sorted values) event = 0 ↔
      (event.event.isCleared = true →
        listedAt RioEmEvents.needsReset events event.portNum = true ∨
          event.event ∈ reachedEvents event.portNum events ∨ eventBits values event = 0) := by
  rw [cleared_resets few values event]
  by_cases isCleared : event.event.isCleared = true
  · have clearsIff := clears_iff_of_isCleared few sorts isMember isCleared
    rw [forall_prop_of_true isCleared, ← or_assoc, ← clearsIff]
    split
    next cleared => exact iff_of_true rfl (.inl cleared)
    next notCleared => rw [or_iff_right notCleared]
  refine iff_of_true ?_ fun cleared => absurd cleared isCleared
  have shown : clears numPorts events sorted event = true ∨ eventBits values event = 0 := by
    cases kind : event.event with
    | fLos | fPortErr | f2manyRetx | f2manyPna | fErrRate =>
      exact .inl (clears_of_needsReset few sorts isMember (by rw [kind]; rfl))
    | dTtl | dRte | iSigDet | iRstReq | aClrPwpnd => exact absurd (by rw [kind]; rfl) isCleared
    | dLog =>
      have listed : isListed .dLog events = true :=
        List.any_eq_true.mpr ⟨event, isMember, decide_eq_true kind⟩
      left
      rw [clears, sorts.logErr, listed, if_pos rfl, decide_eq_true kind, Bool.or_true]
    | iInitFail =>
      have listed : isListed .iInitFail events = true :=
        List.any_eq_true.mpr ⟨event, isMember, decide_eq_true kind⟩
      left
      rw [clears, sorts.initErr, listed, if_pos rfl, decide_eq_true kind, Bool.or_true,
        Bool.true_or]
    | aNoEvent | last =>
      right
      rw [eventBits, kind]
      exact BitVec.and_zero
  split
  · rfl
  next notCleared => exact shown.resolve_left notCleared

end Cleared

/-- After the call, the events that are listed are cleared if and only if each of them that needs
no reset is at a port that is reset, or is listed in front of every event for its port that is not
one of a port, or did not show before. -/
theorem listedEvents_cleared_iff {file : RegisterFile Reg} {numPorts : Nat} {stale : Stale}
    {inParms : RioEmClrEventsIn} {out : RioEmClrEventsOut}
    {final : Attached RioEmClrEventsOut (RegisterFile Reg)}
    (ran : (rxsRioEmClrEvents (registerFile clearedByOnes) numPorts stale inParms).run
      ⟨out, file⟩ = .ok () final) :
    (∀ event ∈ inParms.events, eventBits final.device.value event = 0) ↔
      ∀ event ∈ inParms.events, event.event.isCleared = true →
        listedAt RioEmEvents.needsReset inParms.events event.portNum = true ∨
          event.event ∈ reachedEvents event.portNum inParms.events ∨
            eventBits file.value event = 0 := by
  obtain ⟨sorted, ⟨few, ok⟩, -, same⟩ :=
    (@rxsRioEmClrEvents_flags clearedByOnes file.value numPorts inParms stale ⟨out, file⟩ rfl).1 ran
  have sorts := sortedFor_of_sortEvents few ok
  rw [same]
  constructor
  · intro cleared event isMember
    exact (eventBits_cleared_iff few sorts isMember file.value).mp (cleared event isMember)
  · intro reached event isMember
    exact (eventBits_cleared_iff few sorts isMember file.value).mpr (reached event isMember)

/-- Two packets of port 0 were dropped, and an error of the logical layer is listed in between with
the number of that port. -/
def logBetween : RioEmClrEventsIn := ⟨[⟨0, .dTtl⟩, ⟨0, .dLog⟩, ⟨0, .dRte⟩], true⟩

def bothDropped : RegisterFile Reg where
  value reg :=
    if reg = .port .pbmStat 0 then pbmStatEgTtlExpired
    else if reg = .port .tlmStat 0 then tlmStatLutDiscard
    else 0
  faults _ _ := 0

/-- The second event is not cleared. -/
theorem not_cleared_logBetween :
    ∃ final, (rxsRioEmClrEvents (registerFile clearedByOnes) 2 (staleAt rioAllPorts)
        logBetween).run ⟨blankClrOut, bothDropped⟩ = .ok () final ∧
      ¬∀ event ∈ logBetween.events, eventBits final.device.value event = 0 := by
  have ends : endsWith (fun _ final => decide (eventBits final.device.value ⟨0, .dRte⟩ ≠ 0))
      ((rxsRioEmClrEvents (registerFile clearedByOnes) 2 (staleAt rioAllPorts) logBetween).run
        ⟨blankClrOut, bothDropped⟩) = true := by
    decide +kernel
  obtain ⟨_, final, ran, shown⟩ := exists_of_endsWith ends
  refine ⟨final, ran, fun cleared => of_decide_eq_true shown (cleared _ ?_)⟩
  decide

/-- With the number that the device uses for it, all are cleared. -/
def logLast : RioEmClrEventsIn := ⟨[⟨0, .dTtl⟩, ⟨rioAllPorts, .dLog⟩, ⟨0, .dRte⟩], true⟩

theorem listedEvents_cleared_iff_logLast :
    ∃ final, (rxsRioEmClrEvents (registerFile clearedByOnes) 2 (staleAt rioAllPorts)
        logLast).run ⟨blankClrOut, bothDropped⟩ = .ok () final ∧
      ∀ event ∈ logLast.events, eventBits final.device.value event = 0 := by
  have ends : endsWith (fun _ _ => true)
      ((rxsRioEmClrEvents (registerFile clearedByOnes) 2 (staleAt rioAllPorts) logLast).run
        ⟨blankClrOut, bothDropped⟩) = true := by
    decide +kernel
  obtain ⟨_, final, ran, -⟩ := exists_of_endsWith ends
  refine ⟨final, ran, (listedEvents_cleared_iff ran).mpr ?_⟩
  decide

end RioFabric.RxsEvents

import RioFabric.RxsEvents.Clearing

/-!
# Sorted events

What the sorting tells of the events that are listed: which ports must be reset, which have other
events, and which one sends port-writes.
-/

namespace RioFabric.RxsEvents

open Lib Dar
open StatCounters (numRxsPorts)

/-- The events that need a reset of the port. -/
def RioEmEvents.needsReset : RioEmEvents → Bool
  | .fLos | .fPortErr | .f2manyRetx | .f2manyPna | .fErrRate => true
  | _ => false

/-- The events of a port that do not. -/
def RioEmEvents.needsClear : RioEmEvents → Bool
  | .dTtl | .dRte | .iSigDet | .iRstReq => true
  | _ => false

/-- An event of some kinds is listed for a port. -/
def listedAt (kinds : RioEmEvents → Bool) (events : List RioEmEventNLoc) (port : Nat) : Bool :=
  events.any fun event => kinds event.event && decide (event.portNum = port)

/-- An event is listed for some port. -/
def isListed (kind : RioEmEvents) (events : List RioEmEventNLoc) : Bool :=
  events.any fun event => event.event = kind

section Listed

variable {kinds : RioEmEvents → Bool} {kind : RioEmEvents} {events : List RioEmEventNLoc}
  {event : RioEmEventNLoc} {port : Nat}

theorem listedAt_append : listedAt kinds (events ++ [event]) port =
    (listedAt kinds events port || kinds event.event && decide (event.portNum = port)) := by
  rw [listedAt, List.any_append, List.any_cons, List.any_nil, Bool.or_false]
  rfl

theorem isListed_append : isListed kind (events ++ [event]) =
    (isListed kind events || decide (event.event = kind)) := by
  rw [isListed, List.any_append, List.any_cons, List.any_nil, Bool.or_false]
  rfl

end Listed

section Turns

variable {numPorts idx : Nat} {sorted next : SortedEvents} {event : RioEmEventNLoc}

/-- What a turn does that accepts its event. -/
inductive SortsEvent (numPorts : Nat) (sorted : SortedEvents) (event : RioEmEventNLoc) (idx : Nat) :
    SortedEvents → Prop where
  | reset (kind : event.event.needsReset = true) (inRange : event.portNum < numRxsPorts numPorts) :
      SortsEvent numPorts sorted event idx (sorted.mark event.portNum rioAllPorts)
  | clear (kind : event.event.needsClear = true) (inRange : event.portNum < numRxsPorts numPorts) :
      SortsEvent numPorts sorted event idx
        (if sorted.ptl.pnums event.portNum ≠ rioAllPorts then
          sorted.mark event.portNum (numRxsPorts numPorts) else sorted)
  | log (kind : event.event = .dLog) :
      SortsEvent numPorts sorted event idx { sorted with logErrIdx := some idx }
  | initFail (kind : event.event = .iInitFail) :
      SortsEvent numPorts sorted event idx { sorted with initErrIdx := some idx }
  | clrPwpnd (kind : event.event = .aClrPwpnd) (first : sorted.pwPt = rioAllPorts)
      (inRange : event.portNum < numRxsPorts numPorts) :
      SortsEvent numPorts sorted event idx { sorted with pwPt := event.portNum }
  | noEvent (kind : event.event = .aNoEvent) : SortsEvent numPorts sorted event idx sorted

theorem sortsEvent_of_ok (ok : sortEvent numPorts sorted (event, idx) = .ok next) :
    SortsEvent numPorts sorted event idx next := by
  unfold sortEvent at ok
  dsimp only at ok
  split at ok
  iterate 5
    next kind =>
      split at ok
      · cases ok
      next inRange =>
        cases ok
        exact .reset (by rw [kind]; rfl) (Nat.lt_of_not_le inRange)
  next kind =>
    cases ok
    exact .log kind
  iterate 4
    next kind =>
      split at ok
      · cases ok
      next inRange =>
        rw [← apply_ite Except.ok] at ok
        cases ok
        exact .clear (by rw [kind]; rfl) (Nat.lt_of_not_le inRange)
  next kind =>
    cases ok
    exact .initFail kind
  next kind =>
    split at ok
    · cases ok
    next first =>
      split at ok
      · cases ok
      next inRange =>
        cases ok
        exact .clrPwpnd kind (not_not.mp first).symm (Nat.lt_of_not_le inRange)
  next kind =>
    cases ok
    exact .noEvent kind
  next => cases ok

end Turns

/-- The entry for a port in the result. -/
def sortedPnum (numPorts : Nat) (events : List RioEmEventNLoc) (port : Nat) : Nat :=
  if listedAt RioEmEvents.needsReset events port then rioAllPorts
  else if listedAt RioEmEvents.needsClear events port then numRxsPorts numPorts
  else port

/-- What the result says of the events that were looked at. -/
structure SortedFor (numPorts : Nat) (events : List RioEmEventNLoc) (sorted : SortedEvents) :
    Prop where
  numPorts_eq : sorted.ptl.numPorts = numPorts
  accepted : ∀ event ∈ events, event.event ≠ .last ∧
    ((event.event.needsReset || event.event.isCleared) = true → event.portNum < numPorts)
  pnums : ∀ port < numPorts, sorted.ptl.pnums port = sortedPnum numPorts events port
  logErr : sorted.logErrIdx.isSome = isListed .dLog events
  initErr : sorted.initErrIdx.isSome = isListed .iInitFail events
  pwPt : sorted.pwPt = rioAllPorts ∧ isListed .aClrPwpnd events = false ∨
    sorted.pwPt < numPorts ∧ isListed .aClrPwpnd events = true ∧
      ∀ event ∈ events, event.event = .aClrPwpnd → event.portNum = sorted.pwPt

section Result

variable {numPorts idx : Nat} {events : List RioEmEventNLoc} {sorted next : SortedEvents}
  {event : RioEmEventNLoc}

theorem numRxsPorts_eq (few : numPorts ≤ rioMaxPorts) : numRxsPorts numPorts = numPorts :=
  if_neg (Nat.not_lt.mpr few)

theorem ne_of_kind {kinds : RioEmEvents → Bool} {kind : RioEmEvents} (other : RioEmEvents)
    (holds : kinds kind = true) (fails : kinds other = false) : kind ≠ other := by
  rintro rfl
  rw [holds] at fails
  cases fails

theorem sortedPnum_other {port : Nat}
    (other : event.event.needsReset = false ∧ event.event.needsClear = false ∨
      event.portNum ≠ port) :
    sortedPnum numPorts (events ++ [event]) port = sortedPnum numPorts events port := by
  rw [sortedPnum, sortedPnum, listedAt_append, listedAt_append]
  rcases other with ⟨noReset, noClear⟩ | elsewhere
  · rw [noReset, noClear, Bool.false_and, Bool.or_false, Bool.or_false]
  · rw [decide_eq_false elsewhere, Bool.and_false, Bool.or_false, Bool.and_false, Bool.or_false]

theorem sortedPnum_reset (kind : event.event.needsReset = true) :
    sortedPnum numPorts (events ++ [event]) event.portNum = rioAllPorts := by
  rw [sortedPnum, listedAt_append, kind, decide_eq_true rfl, Bool.and_true, Bool.or_true]
  rfl

theorem needsReset_of_needsClear {kind : RioEmEvents} (clear : kind.needsClear = true) :
    kind.needsReset = false := by
  cases kind <;> first | rfl | cases clear

theorem sortedPnum_clear (kind : event.event.needsClear = true) :
    sortedPnum numPorts (events ++ [event]) event.portNum =
      if listedAt RioEmEvents.needsReset events event.portNum then rioAllPorts
      else numRxsPorts numPorts := by
  rw [sortedPnum, listedAt_append, listedAt_append, kind, needsReset_of_needsClear kind,
    decide_eq_true rfl, Bool.false_and, Bool.or_false, Bool.and_true, Bool.or_true]
  rfl

theorem sortedPnum_eq_all {port : Nat} (few : numPorts ≤ rioMaxPorts) (isPort : port < numPorts) :
    sortedPnum numPorts events port = rioAllPorts ↔
      listedAt RioEmEvents.needsReset events port = true := by
  have apart : ∀ pnum ≤ numPorts, pnum ≠ rioAllPorts := by
    rintro pnum small rfl
    exact absurd (small.trans few) (by decide)
  rw [sortedPnum]
  split
  next reset => exact iff_of_true rfl reset
  next noReset =>
    refine iff_of_false ?_ noReset
    split
    · exact apart _ (numRxsPorts_eq few).le
    · exact apart _ isPort.le

section

variable (turned : SortsEvent numPorts sorted event idx next)
include turned

theorem SortsEvent.pnums (few : numPorts ≤ rioMaxPorts)
    (before : ∀ port < numPorts, sorted.ptl.pnums port = sortedPnum numPorts events port) :
    ∀ port < numPorts, next.ptl.pnums port = sortedPnum numPorts (events ++ [event]) port := by
  intro port isPort
  have same := before port isPort
  have other : event.event.needsReset = false ∧ event.event.needsClear = false ∨
      event.portNum ≠ port →
        sorted.ptl.pnums port = sortedPnum numPorts (events ++ [event]) port :=
    fun isOther => same.trans (sortedPnum_other isOther).symm
  by_cases elsewhere : event.portNum ≠ port
  · have kept := other (.inr elsewhere)
    cases turned with
    | reset => exact (Function.update_of_ne elsewhere.symm _ _).trans kept
    | clear =>
      split
      · exact (Function.update_of_ne elsewhere.symm _ _).trans kept
      · exact kept
    | log | initFail | clrPwpnd | noEvent => exact kept
  obtain rfl := not_not.mp elsewhere
  cases turned with
  | reset kind =>
    rw [sortedPnum_reset kind]
    exact Function.update_self _ _ _
  | clear kind =>
    have isReset := @sortedPnum_eq_all _ events _ few isPort
    rw [sortedPnum_clear kind]
    by_cases listed : listedAt RioEmEvents.needsReset events event.portNum = true
    · rw [if_pos listed, if_neg (not_not.mpr (same.trans (isReset.mpr listed)))]
      exact same.trans (isReset.mpr listed)
    · rw [if_neg listed, if_pos (fun all => listed (isReset.mp (same.symm.trans all)))]
      exact Function.update_self _ _ _
  | log kind | initFail kind | clrPwpnd kind | noEvent kind =>
    exact other (.inl ⟨by rw [kind]; rfl, by rw [kind]; rfl⟩)

theorem SortsEvent.marks :
    next.ptl.numPorts = sorted.ptl.numPorts ∧
      next.logErrIdx.isSome = (sorted.logErrIdx.isSome || decide (event.event = .dLog)) ∧
      next.initErrIdx.isSome = (sorted.initErrIdx.isSome || decide (event.event = .iInitFail)) ∧
      next.pwPt = (if event.event = .aClrPwpnd then event.portNum else sorted.pwPt) := by
  cases turned with
  | reset kind =>
    have noLog := ne_of_kind .dLog kind rfl
    have noInit := ne_of_kind .iInitFail kind rfl
    have noPw := ne_of_kind .aClrPwpnd kind rfl
    simp [noLog, noInit, noPw, SortedEvents.mark]
  | clear kind =>
    have noLog := ne_of_kind .dLog kind rfl
    have noInit := ne_of_kind .iInitFail kind rfl
    have noPw := ne_of_kind .aClrPwpnd kind rfl
    rw [if_neg noPw]
    split
    · simp [noLog, noInit, SortedEvents.mark]
    · simp [noLog, noInit]
  | log kind | initFail kind | clrPwpnd kind | noEvent kind => simp [kind]

theorem SortsEvent.clrPwpnd_first (kind : event.event = .aClrPwpnd) :
    sorted.pwPt = rioAllPorts ∧ event.portNum < numRxsPorts numPorts := by
  cases turned with
  | reset isReset => exact absurd kind (ne_of_kind _ isReset rfl)
  | clear isClear => exact absurd kind (ne_of_kind _ isClear rfl)
  | clrPwpnd _ first inRange => exact ⟨first, inRange⟩
  | log other | initFail other | noEvent other =>
    rw [kind] at other
    cases other

theorem SortsEvent.accepted (few : numPorts ≤ rioMaxPorts) : event.event ≠ .last ∧
      ((event.event.needsReset || event.event.isCleared) = true → event.portNum < numPorts) := by
  rw [← numRxsPorts_eq few]
  cases turned with
  | reset kind inRange => exact ⟨ne_of_kind _ kind rfl, fun _ => inRange⟩
  | clear kind inRange => exact ⟨ne_of_kind _ kind rfl, fun _ => inRange⟩
  | clrPwpnd kind _ inRange => exact ⟨by rw [kind]; exact nofun, fun _ => inRange⟩
  | log kind | initFail kind | noEvent kind =>
    rw [kind]
    exact ⟨nofun, fun never => absurd never Bool.false_ne_true⟩

end

theorem SortedFor.turn (few : numPorts ≤ rioMaxPorts) (before : SortedFor numPorts events sorted)
    (turned : SortsEvent numPorts sorted event idx next) :
    SortedFor numPorts (events ++ [event]) next := by
  obtain ⟨samePorts, logErr, initErr, pwPt⟩ := turned.marks
  refine ⟨samePorts.trans before.numPorts_eq, ?_, turned.pnums few before.pnums, ?_, ?_, ?_⟩
  · intro other isMember
    rcases List.mem_append.mp isMember with earlier | last
    · exact before.accepted other earlier
    · rw [List.mem_singleton.mp last]
      exact turned.accepted few
  · rw [logErr, before.logErr, isListed_append]
  · rw [initErr, before.initErr, isListed_append]
  · rw [isListed_append, pwPt]
    by_cases kind : event.event = .aClrPwpnd
    · obtain ⟨first, inRange⟩ := turned.clrPwpnd_first kind
      rw [numRxsPorts_eq few] at inRange
      have noneBefore : isListed .aClrPwpnd events = false := by
        rcases before.pwPt with ⟨-, none⟩ | ⟨small, -, -⟩
        · exact none
        · rw [first] at small
          exact absurd (small.le.trans few) (by decide)
      refine .inr ⟨by rwa [if_pos kind], by rw [decide_eq_true kind, Bool.or_true], ?_⟩
      intro other isMember isClr
      rw [if_pos kind]
      rcases List.mem_append.mp isMember with earlier | last
      · have listed : isListed .aClrPwpnd events = true :=
          List.any_eq_true.mpr ⟨other, earlier, decide_eq_true isClr⟩
        rw [noneBefore] at listed
        cases listed
      · rw [List.mem_singleton.mp last]
    · rw [if_neg kind, decide_eq_false kind, Bool.or_false]
      rcases before.pwPt with none | ⟨small, some, only⟩
      · exact .inl none
      · refine .inr ⟨small, some, fun other isMember isClr => ?_⟩
        rcases List.mem_append.mp isMember with earlier | last
        · exact only other earlier isClr
        · rw [List.mem_singleton.mp last] at isClr
          exact absurd isClr kind

theorem sortedFor_of_sortEvents (few : numPorts ≤ rioMaxPorts)
    (ok : sortEvents numPorts (List.range numPorts) events = .ok sorted) :
    SortedFor numPorts events sorted := by
  have first : SortedFor numPorts (([] : List (RioEmEventNLoc × Nat)).map Prod.fst)
      ⟨⟨(List.range numPorts).length, fun idx => (List.range numPorts).getD idx 0⟩, none, none,
        rioAllPorts⟩ := by
    refine ⟨List.length_range, fun _ isMember => absurd isMember List.not_mem_nil,
      fun port isPort => ?_, rfl, rfl, .inl ⟨rfl, rfl⟩⟩
    dsimp only
    rw [List.getD_eq_getElem?_getD, List.getElem?_range isPort]
    rfl
  have turn : ∀ (done : List (RioEmEventNLoc × Nat)) carried entry next,
      SortedFor numPorts (done.map Prod.fst) carried →
        sortEvent numPorts carried entry = .ok next →
          SortedFor numPorts ((done ++ [entry]).map Prod.fst) next := by
    rintro done carried ⟨event, idx⟩ next before turned
    rw [List.map_append]
    exact before.turn few (sortsEvent_of_ok turned)
  have all := foldlM_prefix_ok turn first ok
  rwa [List.nil_append, List.zipIdx_map_fst] at all

end Result

end RioFabric.RxsEvents

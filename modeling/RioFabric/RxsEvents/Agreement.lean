import RioFabric.RxsEvents.Contents

/-!
# Interrupts and port-writes

The two calls that look through ports and the device tell the same where interrupts and port-writes
are enabled alike, but for a status of the device that is not enabled: the call for port-writes
overlooks it, as it looks at those that are enabled instead.
-/

namespace RioFabric.RxsEvents

open Lib Dar

/-- Interrupts and port-writes are enabled alike, and the device has the same status for both. -/
structure EnabledAlike (values : Reg → BitVec 32) : Prop where
  plm : ∀ port, values (.port .plmIntEn port) = values (.port .plmPwEn port)
  tlm : ∀ port, values (.port .tlmIntEn port) = values (.port .tlmPwEn port)
  pbm : ∀ port, values (.port .pbmIntEn port) = values (.port .pbmPwEn port)
  emEn : values (.dev .emIntEn) = values (.dev .emPwEn)
  emStat : values (.dev .emIntStat) = values (.dev .emPwStat)

/-- Both reports have the same events in some order, but for one at the end that is to end
port-writes; or both calls stop and report nothing. -/
inductive SameReport {δ : Type} (pwPortNum : Nat) :
    EStateM.Result PtlStop (Attached (EventsOut 8) δ) Unit →
      EStateM.Result PtlStop (Attached (EventsOut 16) δ) Unit → Prop where
  | ok {int : Attached (EventsOut 8) δ} {pw : Attached (EventsOut 16) δ}
      (events : ∃ events, events.Perm int.memory.entries ∧ (pw.memory.entries = events ∨
        pw.memory.entries = events ++ [⟨pwPortNum, .aClrPwpnd⟩]))
      (others : int.memory.otherEvents = pw.memory.otherEvents) :
      SameReport pwPortNum (.ok () int) (.ok () pw)
  | error {code pwCode : PtlStop} {int : Attached (EventsOut 8) δ} {pw : Attached (EventsOut 16) δ}
      (noEvents : int.memory.entries = []) (pwNoEvents : pw.memory.entries = [])
      (others : int.memory.otherEvents = pw.memory.otherEvents) :
      SameReport pwPortNum (.error code int) (.error pwCode pw)

/-- There are other events that do not come from the status of the device. -/
def otherElsewhere (values : Reg → BitVec 32) (ports : List Nat) : Bool :=
  ports.any (portOther values intQuery) || devOther values (intAsserted values) false

section Alike

variable {values : Reg → BitVec 32} {ports : List Nat} {pwPortNum : Nat}

theorem EnabledAlike.portEvents_eq (alike : EnabledAlike values) :
    portEvents values pwQuery = portEvents values intQuery := by
  funext port
  rw [portEvents, portEvents, plmAsserted, plmAsserted]
  dsimp only [pwQuery, intQuery]
  rw [alike.plm, alike.tlm, alike.pbm]

theorem EnabledAlike.portOther_eq (alike : EnabledAlike values) :
    portOther values pwQuery = portOther values intQuery := by
  funext port
  rw [portOther, portOther]
  dsimp only [pwQuery, intQuery]
  rw [alike.plm, alike.tlm, alike.pbm]

theorem EnabledAlike.asserted_eq (alike : EnabledAlike values) :
    pwAsserted values = intAsserted values := by
  rw [pwAsserted, intAsserted, alike.emEn, alike.emStat]

theorem pwOrder_perm (nodup : ports.Nodup) : (pwOrder ports pwPortNum).Perm ports := by
  unfold pwOrder
  split
  next isMember =>
    have erased := List.perm_cons_erase isMember
    rw [nodup.erase_eq_filter] at erased
    have sameFilter : ports.filter (pwPortNum ≠ ·) = ports.filter (· != pwPortNum) := by
      apply List.filter_congr
      intro port _
      by_cases same : port = pwPortNum
      · simp [same]
      · simp [same, Ne.symm same]
    rw [sameFilter]
    exact List.perm_append_comm.trans erased.symm
  next => exact List.Perm.refl _

theorem devOther_unenabled (asserted : BitVec 32) (unenabled : Bool) :
    devOther values asserted unenabled = (devOther values asserted false || unenabled) := by
  simp [devOther, Bool.or_assoc]

theorem EnabledAlike.events_perm (alike : EnabledAlike values) (nodup : ports.Nodup) :
    (pwLog values (pwOrder ports pwPortNum)).events.Perm (intLog values ports).events := by
  rw [pwLog, intLog, alike.portEvents_eq, alike.asserted_eq]
  exact ((pwOrder_perm nodup).flatMap_right _).append_right _

theorem EnabledAlike.otherEvents_eq (alike : EnabledAlike values) (nodup : ports.Nodup) :
    (pwLog values (pwOrder ports pwPortNum)).otherEvents = otherElsewhere values ports := by
  rw [pwLog, otherElsewhere, alike.portOther_eq, alike.asserted_eq, (pwOrder_perm nodup).any_eq]

theorem intLog_otherEvents : (intLog values ports).otherEvents =
    (otherElsewhere values ports ||
      devUnenabled (values (.dev .emIntStat)) (values (.dev .emIntEn))) := by
  rw [intLog, otherElsewhere, devOther_unenabled, Bool.or_assoc]

end Alike

section Calls

variable {effect : WriteEffect Reg} {file : RegisterFile Reg} {numPorts pwPortNum : Nat}
  {ptl : DarPtl} {ports : List Nat} {room : BitVec 16} {out : EventsOut 16} {stop : PtlStop}

theorem intReport_ok (reliable : file.Reliable)
    (made : darDbRioGetPortList numPorts ptl = .ok ports) (some : room ≠ 0) {out : EventsOut 8}
    (fits : (finalState ((rxsRioEmGetIntStat (registerFile effect) numPorts
      ⟨ptl, room, true⟩).run ⟨out, file⟩)).memory.tooMany = false) :
    ∃ final, (rxsRioEmGetIntStat (registerFile effect) numPorts ⟨ptl, room, true⟩).run
        ⟨out, file⟩ = .ok () final ∧ Complete (intLog file.value ports) final.memory := by
  have same := complete_of_logged
    (fun _ => rxsRioEmGetIntStat_simulates (registerFile effect) ptl some)
    (getIntStat_logs (registerFile effect) numPorts ptl true) (by decide) fits
  have reads := @readsGive_settled effect file.value fun _ _ => False
  exact ok_of_logged same (getIntStat_contents reads made) ⟨rfl, reliable⟩

theorem pwReport_ok (reliable : file.Reliable) (made : darDbRioGetPortList numPorts ptl = .ok ports)
    (some : room ≠ 0) (fits : (finalState ((rxsRioEmGetPwStat (registerFile effect) numPorts
      ⟨ptl, pwPortNum, room, true⟩).run ⟨out, file⟩)).memory.tooMany = false) :
    ∃ final, (rxsRioEmGetPwStat (registerFile effect) numPorts ⟨ptl, pwPortNum, room, true⟩).run
        ⟨out, file⟩ = .ok () final ∧
      Complete (pwLogAll file.value ports pwPortNum) final.memory := by
  have same := complete_of_logged
    (fun _ => rxsRioEmGetPwStat_simulates (registerFile effect) ptl pwPortNum some)
    (getPwStat_logs (registerFile effect) numPorts ptl pwPortNum true) (by decide) fits
  have reads := @readsGive_settled effect file.value fun _ _ => False
  exact ok_of_logged same (getPwStat_contents reads made fun _ _ never => never) ⟨rfl, reliable⟩

theorem intReport_stops (notMade : darDbRioGetPortList numPorts ptl = .error stop) (some : room ≠ 0)
    {out : EventsOut 8} (fits : (finalState ((rxsRioEmGetIntStat (registerFile effect) numPorts
      ⟨ptl, room, true⟩).run ⟨out, file⟩)).memory.tooMany = false) :
    ∃ code final, (rxsRioEmGetIntStat (registerFile effect) numPorts ⟨ptl, room, true⟩).run
        ⟨out, file⟩ = .error code final ∧ final.memory.entries = [] ∧
      final.memory.otherEvents = false := by
  have same := complete_of_logged
    (fun _ => rxsRioEmGetIntStat_simulates (registerFile effect) ptl some)
    (getIntStat_logs (registerFile effect) numPorts ptl true) (by decide) fits
  apply stops_of_logged same
  exact Meets.modifyBind _ (fun _ _ => ⟨rfl, rfl⟩) (getPortList_notMade notMade)

theorem pwReport_stops (notMade : darDbRioGetPortList numPorts ptl = .error stop) (some : room ≠ 0)
    (fits : (finalState ((rxsRioEmGetPwStat (registerFile effect) numPorts
      ⟨ptl, pwPortNum, room, true⟩).run ⟨out, file⟩)).memory.tooMany = false) :
    ∃ code final, (rxsRioEmGetPwStat (registerFile effect) numPorts
        ⟨ptl, pwPortNum, room, true⟩).run ⟨out, file⟩ = .error code final ∧
      final.memory.entries = [] ∧ final.memory.otherEvents = false := by
  have same := complete_of_logged
    (fun _ => rxsRioEmGetPwStat_simulates (registerFile effect) ptl pwPortNum some)
    (getPwStat_logs (registerFile effect) numPorts ptl pwPortNum true) (by decide) fits
  apply stops_of_logged same
  exact Meets.modifyBind _ (fun _ _ => ⟨rfl, rfl⟩) (getPortList_notMade notMade)

/-- Where interrupts and port-writes are enabled alike, and there is room for all events, the two
calls report the same, unless only a status of the device that is not enabled makes other events. -/
theorem statusReports_agree_iff (reliable : file.Reliable) (alike : EnabledAlike file.value)
    {pwRoom : BitVec 16} (some : room ≠ 0) (pwSome : pwRoom ≠ 0) {out : EventsOut 8}
    {pwOut : EventsOut 16}
    (fits : (finalState ((rxsRioEmGetIntStat (registerFile effect) numPorts
      ⟨ptl, room, true⟩).run ⟨out, file⟩)).memory.tooMany = false)
    (pwFits : (finalState ((rxsRioEmGetPwStat (registerFile effect) numPorts
      ⟨ptl, pwPortNum, pwRoom, true⟩).run ⟨pwOut, file⟩)).memory.tooMany = false) :
    SameReport pwPortNum
        ((rxsRioEmGetIntStat (registerFile effect) numPorts ⟨ptl, room, true⟩).run ⟨out, file⟩)
        ((rxsRioEmGetPwStat (registerFile effect) numPorts ⟨ptl, pwPortNum, pwRoom, true⟩).run
          ⟨pwOut, file⟩) ↔
      ∀ ports, darDbRioGetPortList numPorts ptl = .ok ports →
        devUnenabled (file.value (.dev .emIntStat)) (file.value (.dev .emIntEn)) = true →
          otherElsewhere file.value ports = true := by
  cases made : darDbRioGetPortList numPorts ptl with
  | error stop =>
    obtain ⟨code, final, ran, noEvents, noOthers⟩ := intReport_stops made some fits
    obtain ⟨pwCode, pwFinal, pwRan, pwNoEvents, pwNoOthers⟩ := pwReport_stops made pwSome pwFits
    rw [ran, pwRan]
    refine iff_of_true (.error noEvents pwNoEvents (noOthers.trans pwNoOthers.symm)) ?_
    intro ports isOk
    cases isOk
  | ok ports =>
    obtain ⟨final, ran, complete⟩ := intReport_ok reliable made some fits
    obtain ⟨pwFinal, pwRan, pwComplete⟩ := pwReport_ok reliable made pwSome pwFits
    have nodup := (darDbRioGetPortList_ok made).1
    rw [ran, pwRan]
    have sameEvents : ∃ events, events.Perm final.memory.entries ∧
        (pwFinal.memory.entries = events ∨
          pwFinal.memory.entries = events ++ [⟨pwPortNum, .aClrPwpnd⟩]) := by
      refine ⟨(pwLog file.value (pwOrder ports pwPortNum)).events, ?_, ?_⟩
      · rw [complete.entries]
        exact alike.events_perm nodup
      · rw [pwComplete.entries, pwLogAll, eventIf]
        dsimp only
        split
        · exact .inr rfl
        · exact .inl (List.append_nil _)
    have others : final.memory.otherEvents = (otherElsewhere file.value ports ||
        devUnenabled (file.value (.dev .emIntStat)) (file.value (.dev .emIntEn))) :=
      complete.otherEvents.trans intLog_otherEvents
    have pwOthers : pwFinal.memory.otherEvents = otherElsewhere file.value ports :=
      pwComplete.otherEvents.trans (alike.otherEvents_eq nodup)
    constructor
    · intro same _ isOk unenabled
      cases isOk
      cases same with | ok _ sameOthers
      rw [others, pwOthers, unenabled, Bool.or_true] at sameOthers
      exact sameOthers.symm
    · intro elsewhere
      refine .ok sameEvents ?_
      rw [others, pwOthers]
      cases unenabled : devUnenabled (file.value (.dev .emIntStat))
        (file.value (.dev .emIntEn)) with
      | false => exact Bool.or_false _
      | true => rw [elsewhere ports rfl unenabled, Bool.or_true]

end Calls

/-- All ports of a device. -/
def allPorts : DarPtl := ⟨rioAllPorts, fun _ => 0⟩

/-- A device with nothing but a status that the data memory of a port had an error; nothing is
enabled. -/
def dataUncor : RegisterFile Reg where
  value reg :=
    if reg = .dev .emIntStat ∨ reg = .dev .emPwStat then 0x00000400 else 0
  faults _ _ := 0

/-- What is not written yet. -/
def blankOut (width : Nat) : EventsOut width := ⟨0, 0, false, false, fun _ => ⟨0, .fLos⟩⟩

/-- The memory error is seen by the one call and not by the other. -/
theorem not_sameReport_dataUncor :
    EnabledAlike dataUncor.value ∧
    ¬SameReport rioAllPorts
      ((rxsRioEmGetIntStat (registerFile store) 2 ⟨allPorts, 300, true⟩).run
        ⟨blankOut 8, dataUncor⟩)
      ((rxsRioEmGetPwStat (registerFile store) 2 ⟨allPorts, rioAllPorts, 300, true⟩).run
        ⟨blankOut 16, dataUncor⟩) := by
  constructor
  · exact ⟨fun _ => rfl, fun _ => rfl, fun _ => rfl, rfl, rfl⟩
  · have int : endsWith (fun _ final => final.memory.otherEvents && !final.memory.tooMany)
        ((rxsRioEmGetIntStat (registerFile store) 2 ⟨allPorts, 300, true⟩).run
          ⟨blankOut 8, dataUncor⟩) = true := by
      decide +kernel
    have pw : endsWith (fun _ final => !final.memory.otherEvents && !final.memory.tooMany)
        ((rxsRioEmGetPwStat (registerFile store) 2 ⟨allPorts, rioAllPorts, 300, true⟩).run
          ⟨blankOut 16, dataUncor⟩) = true := by
      decide +kernel
    obtain ⟨_, final, ran, shown⟩ := exists_of_endsWith int
    obtain ⟨_, pwFinal, pwRan, overlooked⟩ := exists_of_endsWith pw
    rw [ran, pwRan]
    intro report
    cases report with | ok _ same
    rw [same] at shown
    cases others : pwFinal.memory.otherEvents with
    | true => simp [others] at overlooked
    | false => simp [others] at shown

/-- A device whose registers are all 0. -/
def nothingFile : RegisterFile Reg := ⟨fun _ => 0, fun _ _ => 0⟩

/-- A device whose port 0 has an error. -/
def portError : RegisterFile Reg where
  value reg :=
    if reg = .port .plmStat 0 ∨ reg = .port .plmIntEn 0 ∨ reg = .port .plmPwEn 0 then plmStatPortErr
    else 0
  faults _ _ := 0

/-- It has a logical layer error too, and all of them are enabled for both. -/
def portAndLogError : RegisterFile Reg where
  value reg :=
    if reg = .dev .emIntStat ∨ reg = .dev .emIntEn ∨ reg = .dev .emPwStat ∨ reg = .dev .emPwEn then
      emIntStatLog
    else portError.value reg
  faults _ _ := 0

/-- Both calls report both errors. -/
theorem statusReports_agree_iff_portError :
    (finalState ((rxsRioEmGetIntStat (registerFile store) 2 ⟨allPorts, 300, true⟩).run
        ⟨blankOut 8, portAndLogError⟩)).memory.entries =
          [⟨0, .fPortErr⟩, ⟨rioAllPorts, .dLog⟩] ∧
      SameReport 0
        ((rxsRioEmGetIntStat (registerFile store) 2 ⟨allPorts, 300, true⟩).run
          ⟨blankOut 8, portAndLogError⟩)
        ((rxsRioEmGetPwStat (registerFile store) 2 ⟨allPorts, 0, 300, true⟩).run
          ⟨blankOut 16, portAndLogError⟩) := by
  have reliable : portAndLogError.Reliable := fun _ _ => rfl
  have alike : EnabledAlike portAndLogError.value := by
    refine ⟨fun port => ?_, fun _ => rfl, fun _ => rfl, rfl, rfl⟩
    simp [portAndLogError, portError]
  have fits : (finalState ((rxsRioEmGetIntStat (registerFile store) 2 ⟨allPorts, 300, true⟩).run
      ⟨blankOut 8, portAndLogError⟩)).memory.tooMany = false := by
    decide +kernel
  have pwFits : (finalState ((rxsRioEmGetPwStat (registerFile store) 2
      ⟨allPorts, 0, 300, true⟩).run ⟨blankOut 16, portAndLogError⟩)).memory.tooMany = false := by
    decide +kernel
  have agree := statusReports_agree_iff reliable alike (by decide) (by decide) fits pwFits
  refine ⟨by decide +kernel, agree.mpr fun ports _ unenabled => ?_⟩
  exact absurd unenabled (by decide)

end RioFabric.RxsEvents

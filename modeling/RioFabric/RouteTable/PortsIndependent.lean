import RioFabric.RouteTable.Isolation
import RioFabric.RouteTable.ProbeVerdicts

/-!
# Ports of a mask by themselves

Whether a port of a multicast mask takes packets is a matter of its own state.  A probe tells so
of the first port only: once a port has a reason to discard packets, the ports behind it leave
the mask too, whatever their own state is.
-/

namespace RioFabric.RouteTable

variable {reads : ProbeReads} {devInfo : DarDevInfo} {inParms : RioRtProbeIn} {mcIdx : RtIdx}

/-- The marks are those of the ports of the mask that accept by their own state. -/
def MarksAccepting (reads : ProbeReads) (devInfo : DarDevInfo) (inParms : RioRtProbeIn)
    (mcIdx : RtIdx) : Prop :=
  ∀ port, (rxsRioRtProbe reads devInfo inParms).2.mcastPorts port = true ↔
    port ∈ probedPorts devInfo inParms mcIdx ∧ PortAccepts reads devInfo port

/-- What is read differs in the state of one port only. -/
structure DifferAt (changed : Nat) (reads other : ProbeReads) : Prop where
  pktTimeLive : other.pktTimeLive = reads.pktTimeLive
  ftypeFilt : ∀ port ≠ changed, other.ftypeFilt port = reads.ftypeFilt port
  pcGetConfig : ∀ port ≠ changed, other.pcGetConfig port = reads.pcGetConfig port
  pcGetStatus : ∀ port ≠ changed, other.pcGetStatus port = reads.pcGetStatus port
  impSpecCtl : ∀ port ≠ changed, other.impSpecCtl port = reads.impSpecCtl port
  plmStat : ∀ port ≠ changed, other.plmStat port = reads.plmStat port

/-- Another state of one port changes the verdict on no other one. -/
def PortsIndependent (reads : ProbeReads) (devInfo : DarDevInfo) (inParms : RioRtProbeIn) :
    Prop :=
  ∀ changed other, DifferAt changed reads other →
    (rxsRioRtProbe other devInfo inParms).1 = .rioSuccess → ∀ port ≠ changed,
      (rxsRioRtProbe other devInfo inParms).2.mcastPorts port =
        (rxsRioRtProbe reads devInfo inParms).2.mcastPorts port

/-- All ports of a mask but the first discard packets. -/
def OnlyFirstAccepts (reads : ProbeReads) (devInfo : DarDevInfo) (inParms : RioRtProbeIn)
    (mcIdx : RtIdx) : Prop :=
  ∀ port ∈ probedPorts devInfo inParms mcIdx, ∀ behind ∈ probedPorts devInfo inParms mcIdx,
    port < behind → ¬PortAccepts reads devInfo behind

theorem DifferAt.accepts_iff {changed port : Nat} {other : ProbeReads}
    (differ : DifferAt changed reads other) (elsewhere : port ≠ changed) :
    PortAccepts other devInfo port ↔ PortAccepts reads devInfo port := by
  unfold PortAccepts
  rw [checkPort_congr false (differ.ftypeFilt port elsewhere) (differ.pcGetConfig port elsewhere)
    (differ.pcGetStatus port elsewhere) (differ.impSpecCtl port elsewhere)
    (differ.plmStat port elsewhere)]

theorem DifferAt.readable_iff {changed port : Nat} {other : ProbeReads}
    (differ : DifferAt changed reads other) (elsewhere : port ≠ changed) :
    PortReadable other devInfo port ↔ PortReadable reads devInfo port := by
  unfold PortReadable
  rw [checkPort_congr false (differ.ftypeFilt port elsewhere) (differ.pcGetConfig port elsewhere)
    (differ.pcGetStatus port elsewhere) (differ.impSpecCtl port elsewhere)
    (differ.plmStat port elsewhere)]

/-- The same state, but for a port that is not available. -/
def ProbeReads.withoutPort (reads : ProbeReads) (port : Nat) : ProbeReads :=
  { reads with
    ftypeFilt := Function.update reads.ftypeFilt port (.ok 0)
    pcGetConfig := Function.update reads.pcGetConfig port (.ok ⟨false, false, false, false, false⟩)
    pcGetStatus := Function.update reads.pcGetStatus port (.ok ⟨false, false⟩) }

theorem differAt_withoutPort (reads : ProbeReads) (port : Nat) :
    DifferAt port reads (reads.withoutPort port) where
  pktTimeLive := rfl
  ftypeFilt _ elsewhere := Function.update_of_ne elsewhere _ _
  pcGetConfig _ elsewhere := Function.update_of_ne elsewhere _ _
  pcGetStatus _ elsewhere := Function.update_of_ne elsewhere _ _
  impSpecCtl _ _ := rfl
  plmStat _ _ := rfl

theorem withoutPort_discards (reads : ProbeReads) (devInfo : DarDevInfo) (port : Nat) :
    PortReadable (reads.withoutPort port) devInfo port ∧
      ¬PortAccepts (reads.withoutPort port) devInfo port := by
  simp only [PortReadable, PortAccepts, checkPort, ProbeReads.withoutPort, Function.update_self]
  split
  · simp [RioRtProbeOut.abort]
  · simp [portDiscardReason]

section

variable (routed : RoutedToMask devInfo inParms mcIdx)
include routed

theorem marksAccepting_of_onlyFirst
    (succeeds : (rxsRioRtProbe reads devInfo inParms).1 = .rioSuccess)
    (onlyFirst : OnlyFirstAccepts reads devInfo inParms mcIdx) :
    MarksAccepting reads devInfo inParms mcIdx := by
  intro port
  rw [rxsRioRtProbe_mark_iff routed succeeds]
  refine and_congr_right fun isMember => ⟨fun accepts => accepts port isMember le_rfl, ?_⟩
  intro accepts other otherMember upTo
  obtain rfl | before := upTo.eq_or_lt
  · exact accepts
  · exact absurd accepts (onlyFirst other otherMember port isMember before)

theorem portsIndependent_of_onlyFirst
    (succeeds : (rxsRioRtProbe reads devInfo inParms).1 = .rioSuccess)
    (onlyFirst : OnlyFirstAccepts reads devInfo inParms mcIdx) :
    PortsIndependent reads devInfo inParms := by
  intro changed other differ otherSucceeds port elsewhere
  rw [Bool.eq_iff_iff, rxsRioRtProbe_mark_iff routed otherSucceeds,
    marksAccepting_of_onlyFirst routed succeeds onlyFirst port]
  refine and_congr_right fun isMember => ?_
  constructor
  · intro accepts
    exact (differ.accepts_iff elsewhere).mp (accepts port isMember le_rfl)
  · intro accepts earlier earlierMember upTo
    obtain rfl | before := upTo.eq_or_lt
    · exact (differ.accepts_iff elsewhere).mpr accepts
    · exact absurd accepts (onlyFirst earlier earlierMember port isMember before)

theorem onlyFirst_of_independent (succeeds : (rxsRioRtProbe reads devInfo inParms).1 = .rioSuccess)
    (marks : MarksAccepting reads devInfo inParms mcIdx)
    (independent : PortsIndependent reads devInfo inParms) :
    OnlyFirstAccepts reads devInfo inParms mcIdx := by
  intro port isMember behind behindMember before accepts
  have differ := differAt_withoutPort reads port
  obtain ⟨stillReadable, discards⟩ := withoutPort_discards reads devInfo port
  have otherSucceeds : (rxsRioRtProbe (reads.withoutPort port) devInfo inParms).1 =
      .rioSuccess := by
    obtain ⟨allowed, timeLive, readable⟩ := (rxsRioRtProbe_mask_iff routed).mp succeeds
    refine (rxsRioRtProbe_mask_iff routed).mpr ⟨allowed, timeLive, fun other otherMember => ?_⟩
    by_cases same : other = port
    · exact same ▸ stillReadable
    · exact (differ.readable_iff same).mpr (readable other otherMember)
  have marked := (marks behind).mpr ⟨behindMember, accepts⟩
  rw [← independent port _ differ otherSucceeds behind before.ne',
    rxsRioRtProbe_mark_iff routed otherSucceeds] at marked
  exact discards (marked.2 port isMember before.le)

end

/-- A probe of a multicast route treats the ports of the mask by themselves exactly if all but
the first discard packets anyway. -/
theorem mcastPorts_independent_iff (reads : ProbeReads) (devInfo : DarDevInfo)
    (inParms : RioRtProbeIn) (mcIdx : RtIdx) (routed : RoutedToMask devInfo inParms mcIdx)
    (succeeds : (rxsRioRtProbe reads devInfo inParms).1 = .rioSuccess) :
    MarksAccepting reads devInfo inParms mcIdx ∧ PortsIndependent reads devInfo inParms ↔
      OnlyFirstAccepts reads devInfo inParms mcIdx :=
  ⟨fun holds => onlyFirst_of_independent routed succeeds holds.1 holds.2,
    fun onlyFirst => ⟨marksAccepting_of_onlyFirst routed succeeds onlyFirst,
      portsIndependent_of_onlyFirst routed succeeds onlyFirst⟩⟩

/-- Destination ID 5 goes to mask 0, which has ports 1 and 2. -/
def pairIn : RioRtProbeIn where
  probeOnPort := 0
  tt := .ttDev8
  destId := 5
  rt :=
    { programmedRt with
      devTable := fun idx => ⟨if idx = 5 then 0x100 else 0, false⟩
      mcMasks := fun idx => ⟨5, .ttDev8, 0x6, idx = 0, idx = 0, false⟩ }

/-- A port is locked out. -/
def lockedReads (locked : Nat) : ProbeReads :=
  { quietReads with
    pcGetConfig := fun port => .ok ⟨true, true, false, port = locked, true⟩ }

theorem pairIn_routed : RoutedToMask ⟨.rxs2448, 24⟩ pairIn 0 :=
  ⟨0x100, by decide +kernel, by decide +kernel, fun dfltPort => absurd dfltPort (by decide)⟩

theorem mcastPorts_independent_pairIn :
    MarksAccepting (lockedReads 1) ⟨.rxs2448, 24⟩ pairIn 0 ∧
        PortsIndependent (lockedReads 1) ⟨.rxs2448, 24⟩ pairIn ↔
      OnlyFirstAccepts (lockedReads 1) ⟨.rxs2448, 24⟩ pairIn 0 :=
  mcastPorts_independent_iff (lockedReads 1) ⟨.rxs2448, 24⟩ pairIn 0 pairIn_routed
    (by decide +kernel)

/-- Port 2 accepts packets, but port 1 before it is locked out and takes the mark from port 2. -/
theorem mcastPorts_lockedOut :
    RoutedToMask ⟨.rxs2448, 24⟩ pairIn 0 ∧
      (rxsRioRtProbe (lockedReads 1) ⟨.rxs2448, 24⟩ pairIn).1 = .rioSuccess ∧
      PortAccepts (lockedReads 1) ⟨.rxs2448, 24⟩ 2 ∧
      (rxsRioRtProbe (lockedReads 1) ⟨.rxs2448, 24⟩ pairIn).2.mcastPorts 2 = false ∧
      ¬MarksAccepting (lockedReads 1) ⟨.rxs2448, 24⟩ pairIn 0 ∧
      DifferAt 1 (lockedReads 1) quietReads ∧
      (rxsRioRtProbe quietReads ⟨.rxs2448, 24⟩ pairIn).1 = .rioSuccess ∧
      (rxsRioRtProbe quietReads ⟨.rxs2448, 24⟩ pairIn).2.mcastPorts 2 = true ∧
      ¬PortsIndependent (lockedReads 1) ⟨.rxs2448, 24⟩ pairIn := by
  have accepts : PortAccepts (lockedReads 1) ⟨.rxs2448, 24⟩ 2 := by decide +kernel
  have unmarked : (rxsRioRtProbe (lockedReads 1) ⟨.rxs2448, 24⟩ pairIn).2.mcastPorts 2 = false := by
    decide +kernel
  have isMember : 2 ∈ probedPorts ⟨.rxs2448, 24⟩ pairIn 0 := by decide +kernel
  have unlocked : (rxsRioRtProbe quietReads ⟨.rxs2448, 24⟩ pairIn).1 = .rioSuccess := by
    decide +kernel
  have marked : (rxsRioRtProbe quietReads ⟨.rxs2448, 24⟩ pairIn).2.mcastPorts 2 = true := by
    decide +kernel
  have differ : DifferAt 1 (lockedReads 1) quietReads := by
    refine ⟨rfl, fun _ _ => rfl, fun port elsewhere => ?_, fun _ _ => rfl, fun _ _ => rfl,
      fun _ _ => rfl⟩
    simp [quietReads, lockedReads, elsewhere]
  refine ⟨pairIn_routed, by decide +kernel, accepts, unmarked, fun marks => ?_, differ, unlocked,
    marked, fun independent => ?_⟩
  · exact Bool.false_ne_true (unmarked.symm.trans ((marks 2).mpr ⟨isMember, accepts⟩))
  · have same := independent 1 quietReads differ unlocked 2 (by decide)
    exact Bool.false_ne_true (unmarked.symm.trans (same.symm.trans marked))

end RioFabric.RouteTable

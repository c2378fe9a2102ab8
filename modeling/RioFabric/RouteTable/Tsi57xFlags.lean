import RioFabric.RouteTable.Tsi57xEntries

/-!
# Marks and what a Tsi57x holds

`tsi57x_rio_rt_set_all` and `tsi57x_rio_rt_set_changed` take the mark of an entry once it is in the
device.  They take that of a mask before, and leave marks of masks that come after one with ports
that do not exist; the call may succeed all the same.
-/

namespace RioFabric.RouteTable

open Lib

/-- A trace of the accesses to a Tsi57x. -/
abbrev TsiTrace := List (RegAttempt TsiReg)

/-! ## What is in the device -/

/-- The write has succeeded. -/
def HasWritten (trace : TsiTrace) (reg : TsiReg) (value : BitVec 32) : Prop :=
  .write reg value none ∈ trace

/-- A route was written on a port, with no other access between its two writes. -/
def RouteWritten (trace : TsiTrace) (hwRte : BitVec 32 × BitVec 32) (port : Nat) : Prop :=
  [.write (.spxRouteCfgDestId port) hwRte.1 none, .write (.spxRouteCfgPort port) hwRte.2 none] <:+:
    trace

/-- The entry of the domain table was written on these ports.  The local domain is written to the
registers for the base ID. -/
def DomWritten (devInfo : DarDevInfo) (ports : List Nat) (rt : RioRtState) (destId : RtIdx)
    (trace : TsiTrace) : Prop :=
  if (rt.domTable destId).rteVal = rioRteLvlG0 then
    ∀ port ∈ ports,
      HasWritten trace (.spxRouteBase port) (BitVec.ofNat 32 (destId.val * 256) <<< 16)
  else
    ∃ hwRte, domHwRte devInfo rt destId = some hwRte ∧ ∀ port ∈ ports, RouteWritten trace hwRte port

/-- The entry of the device table was written on these ports. -/
def DevWritten (devInfo : DarDevInfo) (ports : List Nat) (rt : RioRtState) (destId : RtIdx)
    (trace : TsiTrace) : Prop :=
  ∃ hwRte, devHwRte devInfo rt destId = some hwRte ∧ ∀ port ∈ ports, RouteWritten trace hwRte port

/-- Both registers of the mask were written. -/
def MaskWritten (rt : RioRtState) (idx : RtIdx) (trace : TsiTrace) : Prop :=
  HasWritten trace (.mcIdx idx) (mcIdxValue (rt.mcMasks idx)) ∧
    HasWritten trace (.mcMskx idx) (mcMskxValue (rt.mcMasks idx))

section Grow

variable {devInfo : DarDevInfo} {ports : List Nat} {rt : RioRtState} {idx : RtIdx}
  {trace longer : TsiTrace}

theorem RouteWritten.grow {hwRte : BitVec 32 × BitVec 32} {port : Nat}
    (written : RouteWritten trace hwRte port) (grown : trace <+: longer) :
    RouteWritten longer hwRte port := written.trans grown.isInfix

theorem DomWritten.grow (written : DomWritten devInfo ports rt idx trace)
    (grown : trace <+: longer) : DomWritten devInfo ports rt idx longer := by
  unfold DomWritten at written ⊢
  split at written
  next isLocal =>
    rw [if_pos isLocal]
    exact fun port isPort => grown.subset (written port isPort)
  next isOther =>
    rw [if_neg isOther]
    obtain ⟨hwRte, isRoute, all⟩ := written
    exact ⟨hwRte, isRoute, fun port isPort => (all port isPort).grow grown⟩

theorem DevWritten.grow (written : DevWritten devInfo ports rt idx trace)
    (grown : trace <+: longer) : DevWritten devInfo ports rt idx longer := by
  obtain ⟨hwRte, isRoute, all⟩ := written
  exact ⟨hwRte, isRoute, fun port isPort => (all port isPort).grow grown⟩

end Grow

/-- A cell is as it was, or has lost its mark and was written. -/
def Tracked {γ : Type} (unmarked : γ → γ) (before after : γ) (written : Prop) : Prop :=
  after = before ∨ (after = unmarked before ∧ written)

section Tracked

variable {γ : Type} {unmarked : γ → γ} {before after : γ} {written more : Prop}

theorem Tracked.mono (tracked : Tracked unmarked before after written) (implies : written → more) :
    Tracked unmarked before after more :=
  tracked.imp_right fun both => ⟨both.1, implies both.2⟩

theorem Tracked.unmark (tracked : Tracked unmarked before after written)
    (again : ∀ cell, unmarked (unmarked cell) = unmarked cell) (isWritten : written) :
    Tracked unmarked before (unmarked after) written := by
  right
  obtain rfl | ⟨rfl, -⟩ := tracked
  · exact ⟨rfl, isWritten⟩
  · exact ⟨again before, isWritten⟩

end Tracked

/-! ## Entries -/

variable {δ : Type}

/-- The entries are tracked, the masks are those of the table, and `fact` holds of the trace. -/
structure EntriesTrack (devInfo : DarDevInfo) (ports : List Nat) (rt : RioRtState)
    (fact : TsiTrace → Prop) (state : Attached RioRtState (δ × TsiTrace)) : Prop where
  domRtes : ∀ destId, Tracked RioRtUcInfo.unmarked (rt.domTable destId)
    (state.memory.domTable destId) (DomWritten devInfo ports rt destId state.device.2)
  devRtes : ∀ destId, Tracked RioRtUcInfo.unmarked (rt.devTable destId)
    (state.memory.devTable destId) (DevWritten devInfo ports rt destId state.device.2)
  mcMasks : state.memory.mcMasks = rt.mcMasks
  facts : fact state.device.2

/-- What holds of a trace and of every longer one. -/
def Grows (fact : TsiTrace → Prop) : Prop :=
  ∀ ⦃trace longer⦄, trace <+: longer → fact trace → fact longer

namespace EntriesTrack

variable {devInfo : DarDevInfo} {ports : List Nat} {rt : RioRtState} {fact : TsiTrace → Prop}
  {state : Attached RioRtState (δ × TsiTrace)} {destId : RtIdx}

section

variable (track : EntriesTrack devInfo ports rt fact state)
include track

theorem grow (grows : Grows fact) (after : δ) {longer : TsiTrace}
    (grown : state.device.2 <+: longer) :
    EntriesTrack devInfo ports rt fact ⟨state.memory, (after, longer)⟩ where
  domRtes destId := (track.domRtes destId).mono fun written => written.grow grown
  devRtes destId := (track.devRtes destId).mono fun written => written.grow grown
  mcMasks := track.mcMasks
  facts := grows grown track.facts

theorem replaceFact {other : TsiTrace → Prop}
    (holds : other state.device.2) : EntriesTrack devInfo ports rt other state :=
  ⟨track.domRtes, track.devRtes, track.mcMasks, holds⟩

theorem domRteVal (destId : RtIdx) :
    (state.memory.domTable destId).rteVal = (rt.domTable destId).rteVal := by
  obtain same | ⟨same, -⟩ := track.domRtes destId
  · rw [same]
  · rw [same]
    rfl

theorem devRteVal (destId : RtIdx) :
    (state.memory.devTable destId).rteVal = (rt.devTable destId).rteVal := by
  obtain same | ⟨same, -⟩ := track.devRtes destId
  · rw [same]
  · rw [same]
    rfl

theorem unmarkDomRte (written : DomWritten devInfo ports rt destId state.device.2) :
    EntriesTrack devInfo ports rt fact
      { state with memory := state.memory.unmarkDomRte destId } where
  domRtes other := by
    by_cases here : other = destId
    · subst here
      show Tracked _ _ (Function.update state.memory.domTable other _ other) _
      rw [Function.update_self]
      exact (track.domRtes other).unmark (fun _ => rfl) written
    · show Tracked _ _ (Function.update state.memory.domTable destId _ other) _
      rw [Function.update_of_ne here]
      exact track.domRtes other
  devRtes := track.devRtes
  mcMasks := track.mcMasks
  facts := track.facts

theorem unmarkDevRte (written : DevWritten devInfo ports rt destId state.device.2) :
    EntriesTrack devInfo ports rt fact
      { state with memory := state.memory.unmarkDevRte destId } where
  domRtes := track.domRtes
  devRtes other := by
    by_cases here : other = destId
    · subst here
      show Tracked _ _ (Function.update state.memory.devTable other _ other) _
      rw [Function.update_self]
      exact (track.devRtes other).unmark (fun _ => rfl) written
    · show Tracked _ _ (Function.update state.memory.devTable destId _ other) _
      rw [Function.update_of_ne here]
      exact track.devRtes other
  mcMasks := track.mcMasks
  facts := track.facts

end

end EntriesTrack

/-! ## Programs that track entries -/

section Programs

variable {device : RegDevice TsiReg δ} {devInfo : DarDevInfo} {ports : List Nat}
  {progAll : Bool} {rt : RioRtState} {fact : TsiTrace → Prop} {destId : RtIdx}

theorem darWrite_tracks (grows : Grows fact) (reg : TsiReg) (value : BitVec 32) (impRc : ImpRc) :
    Meets (EntriesTrack devInfo ports rt fact) (darWrite (traced device) reg value impRc)
      (fun _ state => EntriesTrack devInfo ports rt fact state ∧
        HasWritten state.device.2 reg value)
      fun _ => EntriesTrack devInfo ports rt fact := by
  apply regWrite_traced
  · intro before after track
    exact ⟨track.grow grows after (List.prefix_append _ _),
      List.mem_append_right _ (List.mem_singleton.mpr rfl)⟩
  · exact fun before after _ track => track.grow grows after (List.prefix_append _ _)

theorem writeRte_tracks (grows : Grows fact) (hwRte : BitVec 32 × BitVec 32) (port : Nat)
    (destIdPt portPt : Nat) :
    Meets (EntriesTrack devInfo ports rt fact)
      (do
        darWrite (traced device) (.spxRouteCfgDestId port) hwRte.1 (.programRteEntries destIdPt)
        darWrite (traced device) (.spxRouteCfgPort port) hwRte.2 (.programRteEntries portPt))
      (fun _ state => EntriesTrack devInfo ports rt fact state ∧
        RouteWritten state.device.2 hwRte port)
      fun _ => EntriesTrack devInfo ports rt fact := by
  have first : Meets (EntriesTrack devInfo ports rt fact)
      (darWrite (traced device) (.spxRouteCfgDestId port) hwRte.1 (.programRteEntries destIdPt))
      (fun _ state => EntriesTrack devInfo ports rt fact state ∧
        [.write (.spxRouteCfgDestId port) hwRte.1 none] <:+ state.device.2)
      fun _ => EntriesTrack devInfo ports rt fact := by
    apply regWrite_traced
    · exact fun before after track =>
        ⟨track.grow grows after (List.prefix_append _ _), List.suffix_append _ _⟩
    · exact fun before after _ track => track.grow grows after (List.prefix_append _ _)
  apply Meets.bind first
  intro _
  apply regWrite_traced
  · rintro before after ⟨track, earlier, same⟩
    refine ⟨track.grow grows after (List.prefix_append _ _), earlier, [], ?_⟩
    rw [← same, List.append_nil, List.append_assoc]
    rfl
  · exact fun before after _ track => track.1.grow grows after (List.prefix_append _ _)

theorem forM_tracks {body : Nat → RtProgram (δ × TsiTrace) PUnit} {Q : Nat → TsiTrace → Prop}
    (stays : ∀ port, Grows (Q port)) (grows : Grows fact)
    (turn : ∀ {known : TsiTrace → Prop}, Grows known → ∀ port,
      Meets (EntriesTrack devInfo ports rt known) (body port)
        (fun _ state => EntriesTrack devInfo ports rt known state ∧ Q port state.device.2)
        fun _ => EntriesTrack devInfo ports rt known) (written : List Nat) :
    Meets (EntriesTrack devInfo ports rt fact) (written.forM body)
      (fun _ state => EntriesTrack devInfo ports rt fact state ∧
        ∀ port ∈ written, Q port state.device.2)
      fun _ => EntriesTrack devInfo ports rt fact := by
  -- what the turns have added is known to stay
  have known : ∀ done : Set Nat, Grows fun trace => fact trace ∧ ∀ port ∈ done, Q port trace :=
    fun done _ _ grown holds =>
      ⟨grows grown holds.1, fun port isMember => stays port grown (holds.2 port isMember)⟩
  have next : ∀ (done : Set Nat), ∀ port ∈ written,
      Meets
        (EntriesTrack devInfo ports rt fun trace => fact trace ∧ ∀ other ∈ done, Q other trace)
        (body port)
        (fun _ => EntriesTrack devInfo ports rt fun trace =>
          fact trace ∧ ∀ other ∈ insert port done, Q other trace)
        fun _ => EntriesTrack devInfo ports rt fact := by
    intro done port _
    apply (turn (known done) port).weaken
    · exact fun _ track => track
    · rintro _ state ⟨track, added⟩
      refine track.replaceFact ⟨track.facts.1, fun other isMember => ?_⟩
      obtain rfl | earlier := Set.mem_insert_iff.mp isMember
      · exact added
      · exact track.facts.2 other earlier
    · exact fun _ _ track => track.replaceFact track.facts.1
  apply (Meets.forM_cells next ∅).weaken
  · exact fun state track => track.replaceFact ⟨track.facts, fun _ isMember => isMember.elim⟩
  · exact fun _ state track =>
      ⟨track.replaceFact track.facts.1, fun port isMember => track.facts.2 port (.inr isMember)⟩
  · exact fun _ _ track => track

section

variable (grows : Grows fact)
include grows

theorem tsi57xWriteRte_tracks (hwRte : BitVec 32 × BitVec 32) (destIdPt portPt : Nat)
    (written : List Nat) :
    Meets (EntriesTrack devInfo ports rt fact)
      (tsi57xWriteRte (traced device) written hwRte destIdPt portPt)
      (fun _ state => EntriesTrack devInfo ports rt fact state ∧
        ∀ port ∈ written, RouteWritten state.device.2 hwRte port)
      fun _ => EntriesTrack devInfo ports rt fact :=
  forM_tracks (Q := fun port trace => RouteWritten trace hwRte port)
    (fun _ _ _ grown isWritten => isWritten.grow grown) grows
    (fun known port => writeRte_tracks known hwRte port destIdPt portPt) written

theorem programRte_tracks {idxVal : BitVec 32} {rteVal : PeRtVal}
    {pt destIdPt portPt : Nat} {change : RioRtState → RioRtState}
    (changes : ∀ route (state : Attached RioRtState (δ × TsiTrace)),
      hwRte devInfo idxVal rteVal = some route → EntriesTrack devInfo ports rt fact state →
        (∀ port ∈ ports, RouteWritten state.device.2 route port) →
          EntriesTrack devInfo ports rt fact { state with memory := change state.memory }) :
    Meets (EntriesTrack devInfo ports rt fact)
      (do
        let hwRte ← tsi57xHwRte devInfo idxVal rteVal pt
        tsi57xWriteRte (traced device) ports hwRte destIdPt portPt
        modifyMemory change : RtProgram (δ × TsiTrace) PUnit)
      (fun _ => EntriesTrack devInfo ports rt fact)
      fun _ => EntriesTrack devInfo ports rt fact := by
  rw [tsi57xHwRte_eq]
  cases isRoute : hwRte devInfo idxVal rteVal with
  | none =>
    have stops : Meets (EntriesTrack devInfo ports rt fact)
        (throw (.rioErrInvalidParameter, .programRteEntries pt) :
          RtProgram (δ × TsiTrace) (BitVec 32 × BitVec 32))
        (fun _ _ => False) fun _ => EntriesTrack devInfo ports rt fact :=
      Meets.throw fun _ track => track
    exact Meets.bind stops fun _ => Meets.unreached
  | some route =>
    show Meets _ (tsi57xWriteRte (traced device) ports route destIdPt portPt >>= fun _ =>
      modifyMemory change) _ _
    apply Meets.bind (tsi57xWriteRte_tracks grows route destIdPt portPt ports)
    exact fun _ => Meets.modify fun state after => changes route state isRoute after.1 after.2

/-- The registers for the base ID have that of the local domain. -/
def BasesWritten (ports : List Nat) (rt : RioRtState) (trace : TsiTrace) : Prop :=
  ∀ port ∈ ports, HasWritten trace (.spxRouteBase port) (routeBaseValue rt)

theorem tsi57xProgramDomRte_tracks (oneLocal : OneLocalDomain rt)
    (bases : ∀ trace, fact trace → BasesWritten ports rt trace) :
    Meets (EntriesTrack devInfo ports rt fact)
      (tsi57xProgramDomRte (traced device) devInfo ports progAll destId)
      (fun _ => EntriesTrack devInfo ports rt fact)
      fun _ => EntriesTrack devInfo ports rt fact := by
  apply Meets.getBind
  intro start track
  dsimp only
  rw [track.domRteVal destId]
  apply Meets.ite
  · intro _
    by_cases isLocal : (rt.domTable destId).rteVal = rioRteLvlG0
    · rw [if_neg (not_not.mpr isLocal)]
      refine Meets.modify fun state after => after.unmarkDomRte ?_
      rw [DomWritten, if_pos isLocal, ← localBase_eq oneLocal isLocal]
      exact bases _ after.facts
    · rw [if_pos isLocal]
      refine programRte_tracks grows fun route state isRoute after written =>
        after.unmarkDomRte ?_
      rw [DomWritten, if_neg isLocal]
      exact ⟨route, isRoute, written⟩
  · exact fun _ => Meets.pure fun _ after => after

theorem tsi57xProgramDevRte_tracks :
    Meets (EntriesTrack devInfo ports rt fact)
      (tsi57xProgramDevRte (traced device) devInfo ports progAll (localBase rt) destId)
      (fun _ => EntriesTrack devInfo ports rt fact)
      fun _ => EntriesTrack devInfo ports rt fact := by
  apply Meets.getBind
  intro start track
  dsimp only
  rw [track.devRteVal destId]
  apply Meets.ite
  · intro _
    exact programRte_tracks grows fun route state isRoute after written =>
      after.unmarkDevRte ⟨route, isRoute, written⟩
  · exact fun _ => Meets.pure fun _ after => after

theorem writeBases_tracks :
    Meets (EntriesTrack devInfo ports rt fact)
      (ports.forM fun port =>
        darWrite (traced device) (.spxRouteBase port) (routeBaseValue rt) (.programRteEntries 6))
      (fun _ state => EntriesTrack devInfo ports rt fact state ∧
        BasesWritten ports rt state.device.2)
      fun _ => EntriesTrack devInfo ports rt fact :=
  forM_tracks
    (Q := fun port trace => HasWritten trace (.spxRouteBase port) (routeBaseValue rt))
    (fun _ _ _ grown isWritten => grown.subset isWritten) grows
    (fun known port => darWrite_tracks known (.spxRouteBase port) (routeBaseValue rt)
      (.programRteEntries 6)) ports

theorem programTables_tracks (oneLocal : OneLocalDomain rt) :
    Meets (EntriesTrack devInfo ports rt fact)
      (programTables (traced device) devInfo ports progAll rt)
      (fun _ => EntriesTrack devInfo ports rt fact)
      fun _ => EntriesTrack devInfo ports rt fact := by
  -- from here on, the registers for the base ID are known to be written
  have known : Grows fun trace => fact trace ∧ BasesWritten ports rt trace :=
    fun _ _ grown holds =>
      ⟨grows grown holds.1, fun port isPort => grown.subset (holds.2 port isPort)⟩
  have domRtes : Meets
      (EntriesTrack devInfo ports rt fun trace => fact trace ∧ BasesWritten ports rt trace)
      ((List.finRange 256).forM (tsi57xProgramDomRte (traced device) devInfo ports progAll))
      (fun _ => EntriesTrack devInfo ports rt fun trace => fact trace ∧ BasesWritten ports rt trace)
      fun _ => EntriesTrack devInfo ports rt fun trace =>
        fact trace ∧ BasesWritten ports rt trace :=
    Meets.forM fun _ _ => tsi57xProgramDomRte_tracks known oneLocal fun _ holds => holds.2
  have devRtes : Meets
      (EntriesTrack devInfo ports rt fun trace => fact trace ∧ BasesWritten ports rt trace)
      ((List.finRange 256).forM
        (tsi57xProgramDevRte (traced device) devInfo ports progAll (localBase rt)))
      (fun _ => EntriesTrack devInfo ports rt fun trace => fact trace ∧ BasesWritten ports rt trace)
      fun _ => EntriesTrack devInfo ports rt fun trace =>
        fact trace ∧ BasesWritten ports rt trace :=
    Meets.forM fun _ _ => tsi57xProgramDevRte_tracks known
  apply Meets.bind (writeBases_tracks grows)
  intro _
  apply (Meets.bind domRtes fun _ => devRtes).weaken
  · exact fun _ track => track.1.replaceFact ⟨track.1.facts, track.2⟩
  · exact fun _ _ track => track.replaceFact track.facts.1
  · exact fun _ _ track => track.replaceFact track.facts.1

theorem tsi57xProgramRteEntries_tracks (pnum : Nat) :
    Meets (fun state => state.memory = rt ∧ fact state.device.2)
      (tsi57xProgramRteEntries (traced device) devInfo pnum progAll)
      (fun _ => EntriesTrack devInfo (portRange devInfo.tsi57xNumPorts pnum) rt fact)
      fun _ => EntriesTrack devInfo (portRange devInfo.tsi57xNumPorts pnum) rt fact := by
  have all : Meets (EntriesTrack devInfo (portRange devInfo.tsi57xNumPorts pnum) rt fact)
      (do
        darWrite (traced device) .lutAttr (lutAttrValue rt) (.programRteEntries 1)
        failIf (¬(localDomains rt).length ≤ 1) (.rioErrInvalidParameter, .programRteEntries 2)
        programTables (traced device) devInfo (portRange devInfo.tsi57xNumPorts pnum) progAll rt)
      (fun _ => EntriesTrack devInfo (portRange devInfo.tsi57xNumPorts pnum) rt fact)
      fun _ => EntriesTrack devInfo (portRange devInfo.tsi57xNumPorts pnum) rt fact := by
    apply Meets.bind ((darWrite_tracks grows _ _ _).weakenPost fun _ _ after => after.1)
    intro _
    apply Meets.failIfBind
    · exact fun _ track _ => track
    · exact fun few => programTables_tracks grows ((oneLocalDomain_iff rt).mpr (not_not.mp few))
  rintro state ⟨rfl, holds⟩
  rw [tsi57xProgramRteEntries_run]
  exact all ⟨fun _ => .inl rfl, fun _ => .inl rfl, rfl, holds⟩

end

end Programs

/-! ## Where a call starts to write -/

/-- The checks before the first write pass. -/
structure Starts (devInfo : DarDevInfo) (setOnPort : Nat) (progAll : Bool) (rt : RioRtState) :
    Prop where
  port : ¬(setOnPort ≠ rioAllPorts ∧ setOnPort ≥ devInfo.tsi57xNumPorts)
  defaultRoute : ¬(devInfo.tsi57xNumPorts ≤ rt.defaultRoute.toNat ∧ rt.defaultRoute ≠ rioRteDrop)
  furtherMasks : ¬∃ maskIdx : RtIdx, tsi578MaxMcMasks ≤ maskIdx.val ∧
    ((rt.mcMasks maskIdx).inUse || (rt.mcMasks maskIdx).changed ||
      (rt.mcMasks maskIdx).allocd) = true
  masks : programmedMasks devInfo progAll rt ≠ [] ∨ ∀ idx ∈ deviceMasks, PortsExist devInfo rt idx

section Starts

variable {device : RegDevice TsiReg δ} {devInfo : DarDevInfo} {setOnPort : Nat} {progAll : Bool}
  {rt : RioRtState} {state : δ} {impRc : Nat → ImpRc}

theorem nodup_deviceMasks : deviceMasks.Nodup := (List.nodup_finRange 256).filter _

theorem nodup_programmedMasks : (programmedMasks devInfo progAll rt).Nodup :=
  (nodup_deviceMasks.sublist (List.takeWhile_sublist _)).filter _

/-- The masks that are selected are written, one after the other. -/
theorem tsi57xProgramMcMasks_run (further : ¬∃ maskIdx : RtIdx, tsi578MaxMcMasks ≤ maskIdx.val ∧
      ((rt.mcMasks maskIdx).inUse || (rt.mcMasks maskIdx).changed ||
        (rt.mcMasks maskIdx).allocd) = true) :
    (tsi57xProgramMcMasks device devInfo progAll).run ⟨rt, state⟩ =
      ((programmedMasks devInfo progAll rt).forM (writeMask device rt) >>= fun _ =>
        afterMasks devInfo progAll rt false deviceMasks).run ⟨rt, state⟩ := by
  rw [tsi57xProgramMcMasks, get_bind_run, EStateM.run_bind, failIf_run, if_neg further]
  exact tsi57xProgramMcMaskLoop_run nodup_deviceMasks false fun _ _ => rfl

theorem Starts.run (starts : Starts devInfo setOnPort progAll rt) :
    (tsi57xRtSet device devInfo impRc setOnPort progAll).run ⟨rt, state⟩ =
      ((programmedMasks devInfo progAll rt).forM (writeMask device rt) >>= fun _ =>
        tsi57xProgramRteEntries device devInfo setOnPort progAll).run ⟨rt, state⟩ := by
  have noStop : afterMasks (δ := δ) devInfo progAll rt false deviceMasks = pure () := by
    rw [afterMasks, failIf, if_neg]
    rintro ⟨-, none, missing⟩
    obtain some | all := starts.masks
    · exact some none
    · exact missing all
  rw [tsi57xRtSet, EStateM.run_bind, failIf_run, if_neg starts.port]
  dsimp only
  rw [get_bind_run, EStateM.run_bind, failIf_run, if_neg starts.defaultRoute]
  dsimp only
  rw [EStateM.run_bind, tsi57xProgramMcMasks_run starts.furtherMasks, noStop, bind_pure,
    EStateM.run_bind]

theorem tsi57xRtSet_stops (notStarts : ¬Starts devInfo setOnPort progAll rt) :
    ∃ rc, (tsi57xRtSet device devInfo impRc setOnPort progAll).run ⟨rt, state⟩ =
      .error rc ⟨rt, state⟩ := by
  rw [tsi57xRtSet, EStateM.run_bind, failIf_run]
  by_cases port : setOnPort ≠ rioAllPorts ∧ setOnPort ≥ devInfo.tsi57xNumPorts
  · rw [if_pos port]
    exact ⟨_, rfl⟩
  rw [if_neg port]
  dsimp only
  rw [get_bind_run, EStateM.run_bind, failIf_run]
  by_cases defaultRoute :
      devInfo.tsi57xNumPorts ≤ rt.defaultRoute.toNat ∧ rt.defaultRoute ≠ rioRteDrop
  · rw [if_pos defaultRoute]
    exact ⟨_, rfl⟩
  rw [if_neg defaultRoute]
  dsimp only
  rw [EStateM.run_bind]
  by_cases further : ∃ maskIdx : RtIdx, tsi578MaxMcMasks ≤ maskIdx.val ∧
      ((rt.mcMasks maskIdx).inUse || (rt.mcMasks maskIdx).changed ||
        (rt.mcMasks maskIdx).allocd) = true
  · rw [tsi57xProgramMcMasks, get_bind_run, EStateM.run_bind, failIf_run, if_pos further]
    exact ⟨_, rfl⟩
  by_cases stops : programmedMasks devInfo progAll rt = [] ∧
      ¬∀ idx ∈ deviceMasks, PortsExist devInfo rt idx
  · rw [tsi57xProgramMcMasks_run further, stops.1, afterMasks, failIf, if_pos ⟨rfl, stops⟩]
    exact ⟨_, rfl⟩
  · have masks := (not_and_or.mp stops).imp_right not_not.mp
    exact absurd ⟨port, defaultRoute, further, masks⟩ notStarts

end Starts

/-! ## What a call leaves -/

/-- Each cell of the tables is as it was, or has lost its mark and was written. -/
structure FlagsTrack (devInfo : DarDevInfo) (ports : List Nat) (rt : RioRtState)
    (final : Attached RioRtState (δ × TsiTrace)) : Prop where
  domRtes : ∀ destId, Tracked RioRtUcInfo.unmarked (rt.domTable destId)
    (final.memory.domTable destId) (DomWritten devInfo ports rt destId final.device.2)
  devRtes : ∀ destId, Tracked RioRtUcInfo.unmarked (rt.devTable destId)
    (final.memory.devTable destId) (DevWritten devInfo ports rt destId final.device.2)
  mcMasks : ∀ idx, Tracked RioRtMcInfo.unmarked (rt.mcMasks idx) (final.memory.mcMasks idx)
    (MaskWritten rt idx final.device.2)

/-- Nothing of the table is marked as changed. -/
structure NothingMarked (rt : RioRtState) : Prop where
  domRtes : ∀ destId, (rt.domTable destId).changed = false
  devRtes : ∀ destId, (rt.devTable destId).changed = false
  mcMasks : ∀ idx, (rt.mcMasks idx).changed = false

/-- What was written, or was not marked, is all that is not marked; after a success that is
everything. -/
def FlagsFollow (devInfo : DarDevInfo) (ports : List Nat) (rt : RioRtState)
    (result : EStateM.Result RtRc (Attached RioRtState (δ × TsiTrace)) Unit) : Prop :=
  FlagsTrack devInfo ports rt (finalState result) ∧
    ∀ final, result = .ok () final → NothingMarked final.memory

/-- The first write that fails is one for a mask that is marked. -/
def MaskLost (device : RegDevice TsiReg δ) (devInfo : DarDevInfo) (setOnPort : Nat)
    (progAll : Bool) (rt : RioRtState) (state : δ) : Prop :=
  Starts devInfo setOnPort progAll rt ∧
    ∃ done idx left, programmedMasks devInfo progAll rt = done ++ idx :: left ∧
      (rt.mcMasks idx).changed = true ∧ device.Accepts (done.flatMap (maskWrites rt)) state ∧
        ¬device.Accepts (maskWrites rt idx) (device.after (done.flatMap (maskWrites rt)) state)

/-- A marked mask is none that is programmed. -/
def Stranded (devInfo : DarDevInfo) (progAll : Bool) (rt : RioRtState) : Prop :=
  ∃ idx, (rt.mcMasks idx).changed = true ∧ idx ∉ programmedMasks devInfo progAll rt

/-- Everything that is to be written can be, and no write fails. -/
def Completes (device : RegDevice TsiReg δ) (devInfo : DarDevInfo) (setOnPort : Nat)
    (progAll : Bool) (rt : RioRtState) (state : δ) : Prop :=
  Starts devInfo setOnPort progAll rt ∧ EntriesAble devInfo progAll rt ∧
    device.Accepts ((programmedMasks devInfo progAll rt).flatMap (maskWrites rt) ++
      entriesWrites devInfo (portRange devInfo.tsi57xNumPorts setOnPort) progAll rt) state

/-! ## Where a mask cannot be written -/

section Masks

variable {device : RegDevice TsiReg δ} {devInfo : DarDevInfo} {ports : List Nat}
  {setOnPort : Nat} {progAll : Bool} {rt : RioRtState} {state : δ} {impRc : Nat → ImpRc}
  {done left : List RtIdx} {idx : RtIdx}

theorem mask_unmarked_eq {mask : RioRtMcInfo} (clear : mask.changed = false) :
    mask.unmarked = mask := by
  rw [RioRtMcInfo.unmarked, ← clear]

theorem mem_accepted {writes : List (TsiReg × BitVec 32)} {reg : TsiReg} {value : BitVec 32} :
    .write reg value none ∈ accepted writes ↔ (reg, value) ∈ writes := by
  simp [accepted]

theorem maskWritten_of_mem {trace : TsiTrace} (isMember : idx ∈ done)
    (grown : accepted (done.flatMap (maskWrites rt)) <+: trace) : MaskWritten rt idx trace := by
  constructor
  · exact grown.subset
      (mem_accepted.mpr (List.mem_flatMap.mpr ⟨idx, isMember, by simp [maskWrites]⟩))
  · exact grown.subset
      (mem_accepted.mpr (List.mem_flatMap.mpr ⟨idx, isMember, by simp [maskWrites]⟩))

theorem mcMskx_not_mem_accepted {value : BitVec 32} (ahead : idx ∉ done) :
    .write (.mcMskx idx) value none ∉ accepted (done.flatMap (maskWrites rt)) := by
  rw [mem_accepted, List.mem_flatMap]
  rintro ⟨other, earlier, isWrite⟩
  obtain isIdx | isMskx := List.mem_pair.mp isWrite
  · cases isIdx
  · cases isMskx
    exact ahead earlier

theorem writeMasks_traced {masks : List RtIdx}
    (accepts : device.Accepts (masks.flatMap (maskWrites rt)) state) :
    (masks.forM (writeMask (traced device) rt)).run ⟨rt, (state, [])⟩ =
      .ok () ⟨rt.unmarkMcMasks masks, (device.after (masks.flatMap (maskWrites rt)) state,
        accepted (masks.flatMap (maskWrites rt)))⟩ := by
  obtain ⟨value, memory, ran, rfl⟩ :=
    (writeMasks_performs masks).ends rfl trivial (accepts_traced_iff.mpr accepts)
  rw [ran, after_traced accepts, List.nil_append]

/-- The call stops in the turn for a mask whose writes are not accepted; the mask has lost its
mark, and its ports are not in the device. -/
theorem tsi57xRtSet_maskStop (starts : Starts devInfo setOnPort progAll rt)
    (split : programmedMasks devInfo progAll rt = done ++ idx :: left)
    (early : device.Accepts (done.flatMap (maskWrites rt)) state)
    (refused : ¬device.Accepts (maskWrites rt idx)
      (device.after (done.flatMap (maskWrites rt)) state)) :
    ∃ rc final tail,
      (tsi57xRtSet (traced device) devInfo impRc setOnPort progAll).run ⟨rt, (state, [])⟩ =
        .error rc final ∧
      final.memory = rt.unmarkMcMasks (done ++ [idx]) ∧
        final.device.2 = accepted (done.flatMap (maskWrites rt)) ++ tail ∧
          ∀ value, .write (.mcMskx idx) value none ∉ tail := by
  have cannot : ¬(True ∧ (traced device).Accepts (maskWrites rt idx)
      (device.after (done.flatMap (maskWrites rt)) state,
        accepted (done.flatMap (maskWrites rt)))) := by
    rw [true_and, accepts_traced_iff]
    exact refused
  obtain ⟨rc, final, stopped⟩ :=
    (@writeMask_performs _ (traced device) rt idx done).stops rfl cannot
  obtain ⟨memory, tail, trace, unwritten⟩ := writeMask_error stopped
  refine ⟨rc, final, tail, ?_, memory.trans (unmarkMcMasks_concat rt done idx), trace, unwritten⟩
  rw [starts.run, EStateM.run_bind, split, forM_run_of_error (writeMasks_traced early) stopped]

theorem flagsTrack_maskStop_iff {final : Attached RioRtState (δ × TsiTrace)} {tail : TsiTrace}
    (ahead : idx ∉ done) (memory : final.memory = rt.unmarkMcMasks (done ++ [idx]))
    (trace : final.device.2 = accepted (done.flatMap (maskWrites rt)) ++ tail)
    (unwritten : ∀ value, .write (.mcMskx idx) value none ∉ tail) :
    FlagsTrack devInfo ports rt final ↔ (rt.mcMasks idx).changed = false := by
  have masks : ∀ other, final.memory.mcMasks other =
      clearCells RioRtMcInfo.unmarked (done ++ [idx]) rt.mcMasks other :=
    fun other => congrFun (congrArg RioRtState.mcMasks memory) other
  constructor
  · intro track
    have here := track.mcMasks idx
    rw [masks, clearCells, if_pos (by simp)] at here
    obtain same | ⟨-, -, written⟩ := here
    · exact (congrArg RioRtMcInfo.changed same).symm
    · rw [HasWritten, trace, List.mem_append] at written
      obtain earlier | late := written
      · exact absurd earlier (mcMskx_not_mem_accepted ahead)
      · exact absurd late (unwritten _)
  · intro clear
    refine ⟨fun destId => .inl ?_, fun destId => .inl ?_, fun other => ?_⟩
    · rw [memory]
      rfl
    · rw [memory]
      rfl
    · rw [masks, clearCells_concat_of_clear (mask_unmarked_eq clear)]
      by_cases earlier : other ∈ done
      · right
        rw [clearCells, if_pos earlier, trace]
        exact ⟨rfl, maskWritten_of_mem earlier (List.prefix_append _ _)⟩
      · exact .inl (clearCells_of_not_mem earlier)

end Masks

/-! ## Where all masks are written -/

section Entries

variable {device : RegDevice TsiReg δ} {devInfo : DarDevInfo} {setOnPort : Nat} {progAll : Bool}
  {rt : RioRtState} {state : δ} {impRc : Nat → ImpRc} {masks : List RtIdx}

theorem entriesAble_unmarkMcMasks :
    EntriesAble devInfo progAll (rt.unmarkMcMasks masks) ↔ EntriesAble devInfo progAll rt :=
  ⟨fun able => ⟨able.oneLocal, able.domRtes, able.devRtes⟩,
    fun able => ⟨able.oneLocal, able.domRtes, able.devRtes⟩⟩

theorem EntriesTrack.flagsTrack {ports : List Nat} {final : Attached RioRtState (δ × TsiTrace)}
    (track : EntriesTrack devInfo ports (rt.unmarkMcMasks masks)
      (fun trace => accepted (masks.flatMap (maskWrites rt)) <+: trace) final) :
    FlagsTrack devInfo ports rt final where
  domRtes := track.domRtes
  devRtes := track.devRtes
  mcMasks idx := by
    rw [track.mcMasks]
    by_cases earlier : idx ∈ masks
    · exact .inr ⟨if_pos earlier, maskWritten_of_mem earlier track.facts⟩
    · exact .inl (clearCells_of_not_mem earlier)

theorem tsi57xRtSet_entriesTrack (starts : Starts devInfo setOnPort progAll rt)
    (accepts : device.Accepts ((programmedMasks devInfo progAll rt).flatMap (maskWrites rt))
      state) :
    FlagsTrack devInfo (portRange devInfo.tsi57xNumPorts setOnPort) rt
      (finalState ((tsi57xRtSet (traced device) devInfo impRc setOnPort progAll).run
        ⟨rt, (state, [])⟩)) := by
  have grows : Grows fun trace =>
      accepted ((programmedMasks devInfo progAll rt).flatMap (maskWrites rt)) <+: trace :=
    fun _ _ grown earlier => earlier.trans grown
  rw [starts.run, EStateM.run_bind, writeMasks_traced accepts]
  dsimp only
  have meets := @tsi57xProgramRteEntries_tracks δ device devInfo progAll
    (rt.unmarkMcMasks (programmedMasks devInfo progAll rt)) _ grows setOnPort
  exact (meets.finalState ⟨rfl, List.prefix_refl _⟩).flagsTrack

theorem nothingMarked_iff :
    NothingMarked
        (rt.unmarkMcMasks (programmedMasks devInfo progAll rt)).unmarkEntries ↔
      ¬Stranded devInfo progAll rt := by
  have cleared : ∀ {γ : Type} (clear : γ → γ) (table : RtIdx → γ) idx,
      clearCells clear (List.finRange 256) table idx = clear (table idx) :=
    fun clear table idx => if_pos (List.mem_finRange idx)
  constructor
  · rintro nothing ⟨idx, marked, unprogrammed⟩
    have clear := nothing.mcMasks idx
    change (clearCells RioRtMcInfo.unmarked _ rt.mcMasks idx).changed = false at clear
    rw [clearCells_of_not_mem unprogrammed, marked] at clear
    cases clear
  · intro notStranded
    refine ⟨fun destId => ?_, fun destId => ?_, fun idx => ?_⟩
    · exact congrArg RioRtUcInfo.changed (cleared RioRtUcInfo.unmarked rt.domTable destId)
    · exact congrArg RioRtUcInfo.changed (cleared RioRtUcInfo.unmarked rt.devTable destId)
    · change (clearCells RioRtMcInfo.unmarked _ rt.mcMasks idx).changed = false
      by_cases programmed : idx ∈ programmedMasks devInfo progAll rt
      · exact congrArg RioRtMcInfo.changed (if_pos programmed)
      · rw [clearCells_of_not_mem programmed]
        exact Bool.eq_false_of_not_eq_true fun marked => notStranded ⟨idx, marked, programmed⟩

theorem tsi57xRtSet_ok_iff (starts : Starts devInfo setOnPort progAll rt)
    (accepts : device.Accepts ((programmedMasks devInfo progAll rt).flatMap (maskWrites rt))
      state) :
    (∀ final, (tsi57xRtSet (traced device) devInfo impRc setOnPort progAll).run
        ⟨rt, (state, [])⟩ = .ok () final → NothingMarked final.memory) ↔
      ¬(Completes device devInfo setOnPort progAll rt state ∧ Stranded devInfo progAll rt) := by
  have performs := @tsi57xProgramRteEntries_performs _ (traced device) devInfo progAll setOnPort
    (rt.unmarkMcMasks (programmedMasks devInfo progAll rt))
  have completes : Completes device devInfo setOnPort progAll rt state ↔
      EntriesAble devInfo progAll (rt.unmarkMcMasks (programmedMasks devInfo progAll rt)) ∧
        (traced device).Accepts
          (entriesWrites devInfo (portRange devInfo.tsi57xNumPorts setOnPort) progAll rt)
          (device.after ((programmedMasks devInfo progAll rt).flatMap (maskWrites rt)) state,
            accepted ((programmedMasks devInfo progAll rt).flatMap (maskWrites rt))) := by
    rw [Completes, RegDevice.accepts_append, accepts_traced_iff, entriesAble_unmarkMcMasks,
      and_iff_right starts, and_iff_right accepts]
  rw [starts.run, EStateM.run_bind, writeMasks_traced accepts]
  dsimp only
  by_cases complete : Completes device devInfo setOnPort progAll rt state
  · obtain ⟨able, accepted⟩ := completes.mp complete
    obtain ⟨value, memory, ran, rfl⟩ := performs.ends rfl able accepted
    rw [and_iff_right complete, ← nothingMarked_iff, ran]
    exact ⟨fun all => all _ rfl, fun nothing final same => by cases same; exact nothing⟩
  · obtain ⟨rc, final, stopped⟩ := performs.stops rfl fun both => complete (completes.mpr both)
    rw [stopped]
    exact iff_of_true nofun fun both => complete both.1

theorem tsi57xRtSet_flagsFollow_iff (device : RegDevice TsiReg δ) (devInfo : DarDevInfo)
    (impRc : Nat → ImpRc) (setOnPort : Nat) (progAll : Bool) (rt : RioRtState) (state : δ) :
    FlagsFollow devInfo (portRange devInfo.tsi57xNumPorts setOnPort) rt
        ((tsi57xRtSet (traced device) devInfo impRc setOnPort progAll).run ⟨rt, (state, [])⟩) ↔
      ¬MaskLost device devInfo setOnPort progAll rt state ∧
        ¬(Completes device devInfo setOnPort progAll rt state ∧ Stranded devInfo progAll rt) := by
  by_cases starts : Starts devInfo setOnPort progAll rt
  · by_cases accepts :
        device.Accepts ((programmedMasks devInfo progAll rt).flatMap (maskWrites rt)) state
    · -- all masks are written
      have notLost : ¬MaskLost device devInfo setOnPort progAll rt state := by
        rintro ⟨-, done, idx, left, split, -, early, refused⟩
        exact RegDevice.not_accepts_flatMap_iff.mpr ⟨done, idx, left, split, early, refused⟩ accepts
      rw [FlagsFollow, and_iff_right (tsi57xRtSet_entriesTrack starts accepts),
        and_iff_right notLost]
      exact tsi57xRtSet_ok_iff starts accepts
    · -- the call stops at a mask
      have notComplete : ¬Completes device devInfo setOnPort progAll rt state :=
        fun complete => accepts (RegDevice.accepts_append.mp complete.2.2).1
      rw [and_iff_left fun both => notComplete both.1]
      have stop : ∀ {done idx left}, programmedMasks devInfo progAll rt = done ++ idx :: left →
          device.Accepts (done.flatMap (maskWrites rt)) state →
          ¬device.Accepts (maskWrites rt idx)
            (device.after (done.flatMap (maskWrites rt)) state) →
          (FlagsFollow devInfo (portRange devInfo.tsi57xNumPorts setOnPort) rt
            ((tsi57xRtSet (traced device) devInfo impRc setOnPort progAll).run
              ⟨rt, (state, [])⟩) ↔ (rt.mcMasks idx).changed = false) := by
        intro done idx left split early refused
        obtain ⟨rc, final, tail, stopped, memory, trace, unwritten⟩ :=
          @tsi57xRtSet_maskStop _ _ _ _ _ _ _ impRc _ _ _ starts split early refused
        have nodup : (programmedMasks devInfo progAll rt).Nodup := nodup_programmedMasks
        rw [split] at nodup
        have ahead : idx ∉ done := fun isMember =>
          (List.nodup_append.mp nodup).2.2 idx isMember idx List.mem_cons_self rfl
        rw [FlagsFollow, stopped]
        exact (and_iff_left nofun).trans (flagsTrack_maskStop_iff ahead memory trace unwritten)
      constructor
      · rintro follow ⟨-, done, idx, left, split, marked, early, refused⟩
        rw [(stop split early refused).mp follow] at marked
        cases marked
      · intro notLost
        obtain ⟨done, idx, left, split, early, refused⟩ :=
          RegDevice.not_accepts_flatMap_iff.mp accepts
        refine (stop split early refused).mpr (Bool.eq_false_of_not_eq_true fun marked => ?_)
        exact notLost ⟨starts, done, idx, left, split, marked, early, refused⟩
  · obtain ⟨rc, stopped⟩ := @tsi57xRtSet_stops _ (traced device) _ _ _ _ (state, []) impRc starts
    rw [stopped]
    refine iff_of_true ⟨?_, nofun⟩ ⟨fun lost => starts lost.1, fun both => starts both.1.1⟩
    exact ⟨fun _ => .inl rfl, fun _ => .inl rfl, fun _ => .inl rfl⟩

/-- After `tsi57x_rio_rt_set_all` or `tsi57x_rio_rt_set_changed`, however they return, what has
lost its mark was written, and after a success nothing is marked, unless the first write that fails
is one for a marked mask, or a call comes to its end without a marked mask. -/
theorem flags_follow_iff (device : RegDevice TsiReg δ) (devInfo : DarDevInfo) (setOnPort : Nat)
    (rt : RioRtState) (state : δ) :
    (FlagsFollow devInfo (portRange devInfo.tsi57xNumPorts setOnPort) rt
        ((tsi57xRioRtSetAll (traced device) devInfo setOnPort).run ⟨rt, (state, [])⟩) ↔
      ¬MaskLost device devInfo setOnPort true rt state ∧
        ¬(Completes device devInfo setOnPort true rt state ∧ Stranded devInfo true rt)) ∧
    (FlagsFollow devInfo (portRange devInfo.tsi57xNumPorts setOnPort) rt
        ((tsi57xRioRtSetChanged (traced device) devInfo setOnPort).run ⟨rt, (state, [])⟩) ↔
      ¬MaskLost device devInfo setOnPort false rt state ∧
        ¬(Completes device devInfo setOnPort false rt state ∧ Stranded devInfo false rt)) :=
  ⟨tsi57xRtSet_flagsFollow_iff device devInfo .rtSetAll setOnPort true rt state,
    tsi57xRtSet_flagsFollow_iff device devInfo .rtSetChanged setOnPort false rt state⟩

end Entries

/-! ## A mask that is lost, and one that is left -/

/-- A switch with 8 ports that answers all writes in one way. -/
def answering (answer : Option Nat) : RegDevice TsiReg Unit where
  read _ _ := (.ok 0, ())
  write _ _ _ := (answer, ())

/-- A table whose first masks are marked. -/
def firstMasksMarked (masks : List (BitVec 32)) : RioRtState where
  defaultRoute := 0
  devTable := fun _ => ⟨0, false⟩
  domTable := fun _ => ⟨0, false⟩
  mcMasks := fun idx =>
    { mcDestId := 0
      tt := .ttDev8
      mcMask := masks[idx.val]?.getD 0
      inUse := idx.val < masks.length
      allocd := idx.val < masks.length
      changed := idx.val < masks.length }

/-- A mask that cannot be written loses its mark; one with a port that does not exist keeps it
though the call succeeds. -/
theorem marks_lost_and_left :
    ¬FlagsFollow ⟨.other, 8⟩ (portRange 8 rioAllPorts) (firstMasksMarked [3])
        ((tsi57xRioRtSetChanged (traced (answering (some 1))) ⟨.other, 8⟩ rioAllPorts).run
          ⟨firstMasksMarked [3], ((), [])⟩) ∧
      ¬FlagsFollow ⟨.other, 8⟩ (portRange 8 rioAllPorts) (firstMasksMarked [3, 0x8000])
        ((tsi57xRioRtSetChanged (traced (answering none)) ⟨.other, 8⟩ rioAllPorts).run
          ⟨firstMasksMarked [3, 0x8000], ((), [])⟩) := by
  constructor
  · intro follow
    refine ((tsi57xRtSet_flagsFollow_iff _ _ _ _ _ _ _).mp follow).1 ?_
    refine ⟨⟨by decide, by decide, by decide +kernel, .inl (by decide +kernel)⟩, [], 0, [], ?_⟩
    exact ⟨by decide +kernel, rfl, trivial, fun accepts => absurd accepts.1 nofun⟩
  · intro follow
    refine ((tsi57xRtSet_flagsFollow_iff _ _ _ _ _ _ _).mp follow).2 ⟨⟨?_, ?_, ?_⟩, ?_⟩
    · exact ⟨by decide, by decide, by decide +kernel, .inl (by decide +kernel)⟩
    · have notLocal : (0 : PeRtVal) ≠ rioRteLvlG0 := by decide
      exact ⟨fun _ _ isLocal => absurd isLocal notLocal, fun _ => nofun, fun _ => nofun⟩
    · exact RegDevice.accepts_of_forall (fun _ _ _ => rfl) _ _
    · exact ⟨1, rfl, by decide +kernel⟩

end RioFabric.RouteTable

import RioFabric.RouteTable.Tsi57xMasks

/-!
# Programming the routing entries of a Tsi57x

`program_rte_entries` takes the mark of an entry after the writes for it, on all ports; where it
stops, an entry has its mark or is in the device.  It comes to its end if there is at most one
local domain, all entries that are to be written can be, and the device accepts the writes.
-/

namespace RioFabric.RouteTable

open Lib

/-- What the routing registers take for an entry, if there is such a route. -/
def hwRte (devInfo : DarDevInfo) (idxVal : BitVec 32) (rteVal : PeRtVal) :
    Option (BitVec 32 × BitVec 32) :=
  if rteVal = rioRteDfltPort then some (idxVal, hwDfltRt)
  else if rteVal = rioRteDrop then some (idxVal ||| 0x40000000, hwDfltRt)
  else if rteVal = rioRteLvlG0 ∨ devInfo.tsi57xNumPorts ≤ rteVal.toNat then none
  else some (idxVal, rteVal)

variable {δ : Type} {rt : RioRtState} {destId : RtIdx}

theorem tsi57xHwRte_eq (devInfo : DarDevInfo) (idxVal : BitVec 32) (rteVal : PeRtVal) (pt : Nat) :
    tsi57xHwRte (δ := δ) devInfo idxVal rteVal pt =
      orFail (hwRte devInfo idxVal rteVal) (.rioErrInvalidParameter, .programRteEntries pt) := by
  unfold tsi57xHwRte hwRte
  split_ifs
  · rfl
  · rfl
  · rfl
  · rfl

/-- The writes for an entry on some ports. -/
def rteWrites (ports : List Nat) (hwRte : BitVec 32 × BitVec 32) : List (TsiReg × BitVec 32) :=
  ports.flatMap fun port => [(.spxRouteCfgDestId port, hwRte.1), (.spxRouteCfgPort port, hwRte.2)]

/-- What the routing registers take for an entry of the domain table. -/
def domHwRte (devInfo : DarDevInfo) (rt : RioRtState) (destId : RtIdx) :
    Option (BitVec 32 × BitVec 32) :=
  hwRte devInfo (BitVec.ofNat 32 (destId.val * 256)) (rt.domTable destId).rteVal

/-- The domains that lead to the device table. -/
def localDomains (rt : RioRtState) : List RtIdx :=
  (List.finRange 256).filter fun destId => (rt.domTable destId).rteVal = rioRteLvlG0

/-- The first destination ID of the local domain. -/
def localBase (rt : RioRtState) : Nat :=
  ((localDomains rt).head?.elim 0 fun destId => destId.val) * 256

/-- What the routing registers take for an entry of the device table. -/
def devHwRte (devInfo : DarDevInfo) (rt : RioRtState) (destId : RtIdx) :
    Option (BitVec 32 × BitVec 32) :=
  hwRte devInfo (BitVec.ofNat 32 (localBase rt + destId.val)) (rt.devTable destId).rteVal

theorem nodup_localDomains (rt : RioRtState) : (localDomains rt).Nodup :=
  (List.nodup_finRange 256).filter _

theorem mem_localDomains :
    destId ∈ localDomains rt ↔ (rt.domTable destId).rteVal = rioRteLvlG0 := by
  simp [localDomains]

theorem oneLocalDomain_iff (rt : RioRtState) :
    OneLocalDomain rt ↔ (localDomains rt).length ≤ 1 := by
  have nodup := nodup_localDomains rt
  constructor
  · intro oneLocal
    match locals : localDomains rt with
    | [] => exact Nat.zero_le 1
    | [_] => exact Nat.le_refl 1
    | first :: second :: others =>
      rw [locals] at nodup
      have isFirst : first ∈ localDomains rt := by simp [locals]
      have isSecond : second ∈ localDomains rt := by simp [locals]
      have same := oneLocal first second (mem_localDomains.mp isFirst)
        (mem_localDomains.mp isSecond)
      simp [same] at nodup
  · intro few first second isFirst isSecond
    have firstLocal := mem_localDomains.mpr isFirst
    have secondLocal := mem_localDomains.mpr isSecond
    match locals : localDomains rt with
    | [] =>
      rw [locals] at firstLocal
      cases firstLocal
    | [destId] =>
      rw [locals, List.mem_singleton] at firstLocal secondLocal
      rw [firstLocal, secondLocal]
    | _ :: _ :: _ =>
      rw [locals] at few
      simp at few

theorem localBase_eq (oneLocal : OneLocalDomain rt)
    (isLocal : (rt.domTable destId).rteVal = rioRteLvlG0) : localBase rt = destId.val * 256 := by
  have few := (oneLocalDomain_iff rt).mp oneLocal
  have isMember := mem_localDomains.mpr isLocal
  unfold localBase
  match locals : localDomains rt with
  | [] =>
    rw [locals] at isMember
    cases isMember
  | [only] =>
    rw [locals, List.mem_singleton] at isMember
    rw [isMember]
    rfl
  | _ :: _ :: _ =>
    rw [locals] at few
    simp at few

theorem tsi57xFindBase_foldlM (rt : RioRtState) (destIds : List RtIdx) (base : Option RtIdx) :
    (destIds.foldlM (tsi57xFindBase rt) base : RtProgram δ (Option RtIdx)) =
      let locals := base.toList ++
        destIds.filter fun destId => (rt.domTable destId).rteVal = rioRteLvlG0
      if locals.length ≤ 1 then pure locals.head?
      else throw (.rioErrInvalidParameter, .programRteEntries 2) := by
  induction destIds generalizing base with
  | nil =>
    cases base with
    | none => rfl
    | some destId => rfl
  | cons destId destIds ih =>
    rw [List.foldlM_cons]
    unfold tsi57xFindBase
    by_cases isLocal : (rt.domTable destId).rteVal = rioRteLvlG0
    · rw [if_pos isLocal, List.filter_cons_of_pos (by simpa using isLocal)]
      cases base with
      | none => exact ih (some destId)
      | some known =>
        dsimp only
        rw [if_neg (by simp)]
        rfl
    · rw [if_neg isLocal, List.filter_cons_of_neg (by simpa using isLocal)]
      exact ih base

theorem tsi57xFindBase_all (rt : RioRtState) :
    ((List.finRange 256).foldlM (tsi57xFindBase rt) none : RtProgram δ (Option RtIdx)) =
      if (localDomains rt).length ≤ 1 then pure (localDomains rt).head?
      else throw (.rioErrInvalidParameter, .programRteEntries 2) :=
  tsi57xFindBase_foldlM rt (List.finRange 256) none

/-- An entry without its mark. -/
def RioRtUcInfo.unmarked (rte : RioRtUcInfo) : RioRtUcInfo := { rte with changed := false }

/-- The table once some entries have lost their marks. -/
def RioRtState.unmarkDomRtes (rt : RioRtState) (destIds : List RtIdx) : RioRtState :=
  { rt with domTable := clearCells RioRtUcInfo.unmarked destIds rt.domTable }

def RioRtState.unmarkDevRtes (rt : RioRtState) (destIds : List RtIdx) : RioRtState :=
  { rt with devTable := clearCells RioRtUcInfo.unmarked destIds rt.devTable }

theorem unmarkDomRtes_concat (rt : RioRtState) (destIds : List RtIdx) (destId : RtIdx) :
    (rt.unmarkDomRtes destIds).unmarkDomRte destId = rt.unmarkDomRtes (destIds ++ [destId]) :=
  congrArg (fun table => { rt with domTable := table })
    (update_clearCells fun (rte : RioRtUcInfo) => (rfl : rte.unmarked.unmarked = rte.unmarked))

theorem unmarkDevRtes_concat (rt : RioRtState) (destIds : List RtIdx) (destId : RtIdx) :
    (rt.unmarkDevRtes destIds).unmarkDevRte destId = rt.unmarkDevRtes (destIds ++ [destId]) :=
  congrArg (fun table => { rt with devTable := table })
    (update_clearCells fun (rte : RioRtUcInfo) => (rfl : rte.unmarked.unmarked = rte.unmarked))

theorem unmarked_eq {rte : RioRtUcInfo} (clear : rte.changed = false) : rte.unmarked = rte := by
  rw [RioRtUcInfo.unmarked, ← clear]

section Performs

variable {δ : Type} {device : RegDevice TsiReg δ} {devInfo : DarDevInfo} {ports : List Nat}
  {progAll : Bool} {rt : RioRtState} {destId : RtIdx} {destIds : List RtIdx}
  {I J : RioRtState → Prop}

theorem tsi57xWriteRte_performs (hwRte : BitVec 32 × BitVec 32) (destIdPt portPt : Nat) :
    Performs device I (tsi57xWriteRte device ports hwRte destIdPt portPt) True
      (rteWrites ports hwRte) fun _ => I := by
  have all : Performs device I (tsi57xWriteRte device ports hwRte destIdPt portPt)
      (∀ port ∈ ports, True ∧ True) (rteWrites ports hwRte) fun _ => I :=
    Performs.forM (I := fun _ => I) fun _ _ _ _ => Performs.regWrite.andThen Performs.regWrite
  exact all.weaken (fun _ before => before) (by simp) fun _ _ after => after

theorem programRte_performs {idxVal : BitVec 32} {rteVal : PeRtVal} {pt destIdPt portPt : Nat}
    {change : RioRtState → RioRtState} (changes : ∀ memory, I memory → J (change memory)) :
    Performs device I
      (do
        let hwRte ← tsi57xHwRte devInfo idxVal rteVal pt
        tsi57xWriteRte device ports hwRte destIdPt portPt
        modifyMemory change : RtProgram δ PUnit)
      ((hwRte devInfo idxVal rteVal).isSome = true)
      (((hwRte devInfo idxVal rteVal).map (rteWrites ports)).getD []) fun _ => J := by
  rw [tsi57xHwRte_eq]
  cases hwRte devInfo idxVal rteVal with
  | none => exact Performs.throw.weaken (fun _ before => before) (by simp) fun _ _ after => after
  | some hwRte =>
    have all : Performs device I
        (tsi57xWriteRte device ports hwRte destIdPt portPt >>= fun _ => modifyMemory change)
        (True ∧ True) (rteWrites ports hwRte ++ []) fun _ => J :=
      (tsi57xWriteRte_performs hwRte destIdPt portPt).andThen (Performs.modifyMemory changes)
    rw [List.append_nil] at all
    exact all.weaken (fun _ before => before) (by simp) fun _ _ after => after

/-- The entry of the domain table can be written if it is to be. -/
def DomAble (devInfo : DarDevInfo) (progAll : Bool) (rt : RioRtState) (destId : RtIdx) : Prop :=
  (progAll || (rt.domTable destId).changed) = true →
    (rt.domTable destId).rteVal ≠ rioRteLvlG0 → (domHwRte devInfo rt destId).isSome = true

/-- What is written for an entry of the domain table. -/
def domWrites (devInfo : DarDevInfo) (ports : List Nat) (progAll : Bool) (rt : RioRtState)
    (destId : RtIdx) : List (TsiReg × BitVec 32) :=
  if progAll || (rt.domTable destId).changed then
    ((domHwRte devInfo rt destId).map (rteWrites ports)).getD []
  else []

theorem tsi57xProgramDomRte_performs (ahead : destId ∉ destIds) :
    Performs device (fun memory => memory = rt.unmarkDomRtes destIds)
      (tsi57xProgramDomRte device devInfo ports progAll destId) (DomAble devInfo progAll rt destId)
      (domWrites devInfo ports progAll rt destId)
      fun _ memory => memory = rt.unmarkDomRtes (destIds ++ [destId]) := by
  apply Performs.getBind
  intro start same
  have entry : start.memory.domTable destId = rt.domTable destId := by
    rw [same]
    exact clearCells_of_not_mem ahead
  have unmark : ∀ memory, memory = start.memory →
      memory.unmarkDomRte destId = rt.unmarkDomRtes (destIds ++ [destId]) := by
    intro memory isStart
    rw [isStart, same, unmarkDomRtes_concat]
  dsimp only
  rw [entry]
  unfold DomAble domWrites
  by_cases selected : (progAll || (rt.domTable destId).changed) = true
  · rw [if_pos selected, if_pos selected]
    by_cases isLocal : (rt.domTable destId).rteVal = rioRteLvlG0
    · rw [if_neg (not_not.mpr isLocal), domHwRte, isLocal]
      exact (Performs.modifyMemory unmark).weaken (fun _ before => before) (by simp)
        fun _ _ after => after
    · rw [if_pos isLocal]
      exact (programRte_performs unmark).weaken (fun _ before => before)
        ⟨fun able => able selected isLocal, fun able _ _ => able⟩ fun _ _ after => after
  · rw [if_neg selected, if_neg selected]
    have clear : (rt.domTable destId).changed = false := by
      cases progAll <;> simp_all
    refine (Performs.pure fun memory isStart => ?_).weaken (fun _ before => before)
      (iff_true_intro fun isSelected => absurd isSelected selected) fun _ _ after => after
    rw [isStart, same]
    exact congrArg (fun table => { rt with domTable := table })
      (clearCells_concat_of_clear (unmarked_eq clear)).symm

/-- The entry of the device table can be written if it is to be. -/
def DevAble (devInfo : DarDevInfo) (progAll : Bool) (rt : RioRtState) (destId : RtIdx) : Prop :=
  (progAll || (rt.devTable destId).changed) = true → (devHwRte devInfo rt destId).isSome = true

/-- What is written for an entry of the device table. -/
def devWrites (devInfo : DarDevInfo) (ports : List Nat) (progAll : Bool) (rt : RioRtState)
    (destId : RtIdx) : List (TsiReg × BitVec 32) :=
  if progAll || (rt.devTable destId).changed then
    ((devHwRte devInfo rt destId).map (rteWrites ports)).getD []
  else []

theorem tsi57xProgramDevRte_performs (ahead : destId ∉ destIds) (domIds : List RtIdx) :
    Performs device (fun memory => memory = (rt.unmarkDomRtes domIds).unmarkDevRtes destIds)
      (tsi57xProgramDevRte device devInfo ports progAll (localBase rt) destId)
      (DevAble devInfo progAll rt destId) (devWrites devInfo ports progAll rt destId)
      fun _ memory =>
        memory = (rt.unmarkDomRtes domIds).unmarkDevRtes (destIds ++ [destId]) := by
  apply Performs.getBind
  intro start same
  have entry : start.memory.devTable destId = rt.devTable destId := by
    rw [same]
    exact clearCells_of_not_mem ahead
  have unmark : ∀ memory, memory = start.memory →
      memory.unmarkDevRte destId =
        (rt.unmarkDomRtes domIds).unmarkDevRtes (destIds ++ [destId]) := by
    intro memory isStart
    rw [isStart, same, unmarkDevRtes_concat]
  dsimp only
  rw [entry]
  unfold DevAble devWrites
  by_cases selected : (progAll || (rt.devTable destId).changed) = true
  · rw [if_pos selected, if_pos selected]
    exact (programRte_performs unmark).weaken (fun _ before => before)
      ⟨fun able => able selected, fun able _ => able⟩ fun _ _ after => after
  · rw [if_neg selected, if_neg selected]
    have clear : (rt.devTable destId).changed = false := by
      cases progAll <;> simp_all
    refine (Performs.pure fun memory isStart => ?_).weaken (fun _ before => before)
      (iff_true_intro fun isSelected => absurd isSelected selected) fun _ _ after => after
    rw [isStart, same]
    exact congrArg (fun table => { rt.unmarkDomRtes domIds with devTable := table })
      (clearCells_concat_of_clear (unmarked_eq clear)).symm

/-- The value for `TSI578_RIO_LUT_ATTR`. -/
def lutAttrValue (rt : RioRtState) : BitVec 32 :=
  if rt.defaultRoute = rioRteDrop then hwDfltRt &&& 0xFF else rt.defaultRoute &&& 0xFF

/-- The value for `TSI578_SPX_ROUTE_BASE`. -/
def routeBaseValue (rt : RioRtState) : BitVec 32 := BitVec.ofNat 32 (localBase rt) <<< 16

/-- What `program_rte_entries` writes. -/
def entriesWrites (devInfo : DarDevInfo) (ports : List Nat) (progAll : Bool) (rt : RioRtState) :
    List (TsiReg × BitVec 32) :=
  (.lutAttr, lutAttrValue rt) ::
    ((ports.flatMap fun port => [(.spxRouteBase port, routeBaseValue rt)]) ++
      ((List.finRange 256).flatMap (domWrites devInfo ports progAll rt) ++
        (List.finRange 256).flatMap (devWrites devInfo ports progAll rt)))

/-- There is no second local domain, and all entries that are to be written can be. -/
structure EntriesAble (devInfo : DarDevInfo) (progAll : Bool) (rt : RioRtState) : Prop where
  oneLocal : OneLocalDomain rt
  domRtes : ∀ destId, DomAble devInfo progAll rt destId
  devRtes : ∀ destId, DevAble devInfo progAll rt destId

/-- The table once all entries have lost their marks. -/
def RioRtState.unmarkEntries (rt : RioRtState) : RioRtState :=
  (rt.unmarkDomRtes (List.finRange 256)).unmarkDevRtes (List.finRange 256)

/-- What follows the search for the base ID. -/
def programTables (device : RegDevice TsiReg δ) (devInfo : DarDevInfo) (ports : List Nat)
    (progAll : Bool) (rt : RioRtState) : RtProgram δ Unit := do
  ports.forM fun port =>
    darWrite device (.spxRouteBase port) (routeBaseValue rt) (.programRteEntries 6)
  (List.finRange 256).forM (tsi57xProgramDomRte device devInfo ports progAll)
  (List.finRange 256).forM (tsi57xProgramDevRte device devInfo ports progAll (localBase rt))

theorem tsi57xProgramRteEntries_run (pnum : Nat) (state : Attached RioRtState δ) :
    (tsi57xProgramRteEntries device devInfo pnum progAll).run state =
      (do
        darWrite device .lutAttr (lutAttrValue state.memory) (.programRteEntries 1)
        failIf (¬(localDomains state.memory).length ≤ 1)
          (.rioErrInvalidParameter, .programRteEntries 2)
        programTables device devInfo (portRange devInfo.tsi57xNumPorts pnum) progAll
          state.memory : RtProgram δ Unit).run state := by
  unfold tsi57xProgramRteEntries
  simp only [get_bind_run, tsi57xFindBase_all]
  congr 2
  funext _
  by_cases few : (localDomains state.memory).length ≤ 1
  · rw [failIf, if_neg (not_not.mpr few), if_pos few]
    rfl
  · rw [failIf, if_pos few, if_neg few]
    rfl

theorem programTables_performs (rt : RioRtState) :
    Performs device (fun memory => memory = rt) (programTables device devInfo ports progAll rt)
      ((∀ destId, DomAble devInfo progAll rt destId) ∧ ∀ destId, DevAble devInfo progAll rt destId)
      ((ports.flatMap fun port => [(.spxRouteBase port, routeBaseValue rt)]) ++
        ((List.finRange 256).flatMap (domWrites devInfo ports progAll rt) ++
          (List.finRange 256).flatMap (devWrites devInfo ports progAll rt)))
      fun _ memory => memory = rt.unmarkEntries := by
  have nodup := List.nodup_finRange 256
  have ahead : ∀ {done : List RtIdx} {destId left},
      List.finRange 256 = done ++ destId :: left → destId ∉ done := by
    intro done destId left all isMember
    rw [all] at nodup
    exact (List.nodup_append.mp nodup).2.2 destId isMember destId List.mem_cons_self rfl
  have bases : Performs device (fun memory => memory = rt)
      (ports.forM fun port =>
        darWrite device (.spxRouteBase port) (routeBaseValue rt) (.programRteEntries 6))
      (∀ port ∈ ports, True) (ports.flatMap fun port => [(.spxRouteBase port, routeBaseValue rt)])
      fun _ memory => memory = rt.unmarkDomRtes [] :=
    Performs.forM (I := fun _ memory => memory = rt) fun _ _ _ _ => Performs.regWrite
  have domRtes : Performs device (fun memory => memory = rt.unmarkDomRtes [])
      ((List.finRange 256).forM (tsi57xProgramDomRte device devInfo ports progAll))
      (∀ destId ∈ List.finRange 256, DomAble devInfo progAll rt destId)
      ((List.finRange 256).flatMap (domWrites devInfo ports progAll rt))
      fun _ memory =>
        memory = (rt.unmarkDomRtes (List.finRange 256)).unmarkDevRtes [] :=
    Performs.forM (I := fun destIds memory => memory = rt.unmarkDomRtes destIds)
      fun _ _ _ all => tsi57xProgramDomRte_performs (ahead all)
  have devRtes : Performs device
      (fun memory => memory = (rt.unmarkDomRtes (List.finRange 256)).unmarkDevRtes [])
      ((List.finRange 256).forM
        (tsi57xProgramDevRte device devInfo ports progAll (localBase rt)))
      (∀ destId ∈ List.finRange 256, DevAble devInfo progAll rt destId)
      ((List.finRange 256).flatMap (devWrites devInfo ports progAll rt))
      fun _ memory => memory = rt.unmarkEntries :=
    Performs.forM (I := fun destIds memory =>
      memory = (rt.unmarkDomRtes (List.finRange 256)).unmarkDevRtes destIds)
      fun _ _ _ all => tsi57xProgramDevRte_performs (ahead all) (List.finRange 256)
  exact (bases.andThen (domRtes.andThen devRtes)).weaken (fun _ before => before) (by simp)
    fun _ _ after => after

theorem tsi57xProgramRteEntries_performs (pnum : Nat) (rt : RioRtState) :
    Performs device (fun memory => memory = rt)
      (tsi57xProgramRteEntries device devInfo pnum progAll) (EntriesAble devInfo progAll rt)
      (entriesWrites devInfo (portRange devInfo.tsi57xNumPorts pnum) progAll rt)
      fun _ memory => memory = rt.unmarkEntries := by
  have all : Performs device (fun memory => memory = rt)
      (do
        darWrite device .lutAttr (lutAttrValue rt) (.programRteEntries 1)
        failIf (¬(localDomains rt).length ≤ 1) (.rioErrInvalidParameter, .programRteEntries 2)
        programTables device devInfo (portRange devInfo.tsi57xNumPorts pnum) progAll rt)
      (True ∧ ¬¬(localDomains rt).length ≤ 1 ∧ (∀ destId, DomAble devInfo progAll rt destId) ∧
        ∀ destId, DevAble devInfo progAll rt destId) _ fun _ memory => memory = rt.unmarkEntries :=
    Performs.regWrite.andThen (Performs.failIf.andThen (programTables_performs rt))
  have able : EntriesAble devInfo progAll rt ↔ True ∧ ¬¬(localDomains rt).length ≤ 1 ∧
      (∀ destId, DomAble devInfo progAll rt destId) ∧
        ∀ destId, DevAble devInfo progAll rt destId := by
    rw [true_and, not_not, ← oneLocalDomain_iff]
    exact ⟨fun able => ⟨able.oneLocal, able.domRtes, able.devRtes⟩,
      fun able => ⟨able.1, able.2.1, able.2.2⟩⟩
  rw [List.nil_append, List.singleton_append] at all
  refine Performs.congr (fun memory state same => ?_) (all.weaken (fun _ before => before) able
    fun _ _ after => after)
  rw [tsi57xProgramRteEntries_run, same]

end Performs

end RioFabric.RouteTable

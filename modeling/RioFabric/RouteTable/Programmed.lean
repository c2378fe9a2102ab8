import Mathlib.Data.Set.Piecewise
import RioFabric.Lib.WriteBack
import RioFabric.RouteTable.Program

/-!
# What programming leaves

The calls of `RouteTable.Program` as whole updates: when they succeed, and the table and
registers they leave then.
-/

namespace RioFabric.RouteTable

open Lib

/-- Marks of routing table entries. -/
def rteMarking : Marking RioRtUcInfo (BitVec 32) where
  value rte := rte.rteVal
  marked rte := rte.changed

/-- Marks of multicast masks. -/
def mcMarking : Marking RioRtMcInfo (BitVec 32) where
  value mask := mask.mcMask
  marked mask := mask.changed

/-- A register after a mask has been stored in it: the ports of `maskMask` are replaced. -/
def storeMask (maskMask mask held : BitVec 32) : BitVec 32 :=
  held &&& ~~~maskMask ||| mask &&& maskMask

theorem storeMask_self (maskMask mask : BitVec 32) : storeMask maskMask mask mask = mask := by
  ext bit inRange
  simp only [storeMask, BitVec.getElem_or, BitVec.getElem_and, BitVec.getElem_not]
  cases mask[bit] <;> cases maskMask[bit] <;> rfl

theorem storeMask_eq (maskMask mask held : BitVec 32) :
    (held ||| ~~~held &&& mask &&& maskMask) &&& ~~~(held &&& ~~~mask &&& maskMask) =
      storeMask maskMask mask held := by
  ext bit inRange
  simp only [storeMask, BitVec.getElem_or, BitVec.getElem_and, BitVec.getElem_not]
  cases held[bit] <;> cases mask[bit] <;> cases maskMask[bit] <;> rfl

theorem storeMask_eq_broadcast (maskMask mask held : BitVec 32) :
    (held ||| ~~~0 &&& mask &&& maskMask) &&& ~~~(maskMask &&& ~~~mask &&& maskMask) =
      storeMask maskMask mask held := by
  ext bit inRange
  simp only [storeMask, BitVec.getElem_or, BitVec.getElem_and, BitVec.getElem_not,
    BitVec.ofNat_eq_ofNat, BitVec.getElem_zero]
  cases held[bit] <;> cases mask[bit] <;> cases maskMask[bit] <;> rfl

section Registers

variable {setOnPort : Nat} {idx : RtIdx} {write : BitVec 32 → BitVec 32}
variable {regs : Nat → RtIdx → BitVec 32}

theorem writeReg_writeReg (again : BitVec 32 → BitVec 32) :
    writeReg setOnPort idx again (writeReg setOnPort idx write regs) =
      writeReg setOnPort idx (fun held => again (write held)) regs := by
  funext port other
  by_cases here : Reaches setOnPort port ∧ other = idx
  · simp [writeReg, here]
  · simp [writeReg, here]

theorem writeReg_same (same : ∀ held, write held = held) :
    writeReg setOnPort idx write regs = regs := by
  funext port other
  simp [writeReg, same]

theorem writeReg_congr {other : BitVec 32 → BitVec 32}
    (same : ∀ port, Reaches setOnPort port → write (regs port idx) = other (regs port idx)) :
    writeReg setOnPort idx write regs = writeReg setOnPort idx other regs := by
  funext port at_
  by_cases here : Reaches setOnPort port ∧ at_ = idx
  · obtain ⟨reached, rfl⟩ := here
    simp [writeReg, reached, same port reached]
  · simp [writeReg, here]

theorem writeReg_eq_update :
    writeReg setOnPort idx write regs = fun port =>
      Function.update (regs port) idx
        (if Reaches setOnPort port then write (regs port idx) else regs port idx) := by
  funext port other
  by_cases here : other = idx
  · subst here
    simp [writeReg]
  · simp [writeReg, here]

end Registers

variable {idx : RtIdx} {bus : RegBus} {access : RegAccess} {impRc : ImpRc} {state final : RxsState}
  {result : Unit} {value : BitVec 32} {setOnPort : Nat} {setAll : Bool} {maskMask : BitVec 32}
  {devInfo : DarDevInfo}

theorem piecewise_insert_of_eq {β : Type} {new old : RtIdx → β} {done : Set RtIdx}
    [∀ other, Decidable (other ∈ done)] [∀ other, Decidable (other ∈ insert idx done)]
    (same : new idx = old idx) :
    (insert idx done).piecewise new old = done.piecewise new old := by
  rw [Set.piecewise_insert, Function.update_eq_self_iff]
  by_cases mem : idx ∈ done
  · rw [Set.piecewise_eq_of_mem _ _ _ mem]
  · rw [Set.piecewise_eq_of_notMem _ _ _ mem, same]

theorem regAccess_ok_iff :
    (regAccess bus access impRc).run state = .ok result final ↔
      bus access = none ∧ state = final := by
  unfold regAccess
  cases bus access with
  | some code => exact iff_of_false nofun nofun
  | none => simp

theorem darRegRead_ok_iff {read : RxsHw → BitVec 32} :
    (darRegRead bus access impRc read).run state = .ok value final ↔
      bus access = none ∧ read state.hw = value ∧ state = final := by
  simp only [darRegRead, bind_ok_iff, regAccess_ok_iff, get_ok_iff, pure_ok_iff]
  constructor
  · rintro ⟨_, middle, ⟨ends, rfl⟩, _, _, ⟨rfl, rfl⟩, same, rfl⟩
    exact ⟨ends, same, rfl⟩
  · rintro ⟨ends, same, rfl⟩
    exact ⟨(), state, ⟨ends, rfl⟩, state, state, ⟨rfl, rfl⟩, same, rfl⟩

theorem darRegWrite_ok_iff {write : RxsHw → RxsHw} :
    (darRegWrite bus access impRc write).run state = .ok result final ↔
      bus access = none ∧ final = { state with hw := write state.hw } := by
  simp only [darRegWrite, bind_ok_iff, regAccess_ok_iff, modify_ok_iff]
  constructor
  · rintro ⟨_, middle, ⟨ends, rfl⟩, same⟩
    exact ⟨ends, same⟩
  · rintro ⟨ends, same⟩
    exact ⟨(), state, ⟨ends, rfl⟩, same⟩

/-- The domain table after programming. -/
def RxsState.programDomRtes (setOnPort : Nat) (setAll : Bool) (state : RxsState) : RxsState where
  rt := { state.rt with domTable := fun idx => { state.rt.domTable idx with changed := false } }
  hw :=
    { state.hw with
      domRte := fun port idx =>
        if Reaches setOnPort port then
          rteMarking.writeBack (fun value _ => value) setAll (state.rt.domTable idx)
            (state.hw.domRte port idx)
        else state.hw.domRte port idx }

open Classical in
/-- The domain table while it is programmed. -/
noncomputable def RxsState.mixDomRtes (state new : RxsState) (done : Set RtIdx) : RxsState where
  rt := { state.rt with domTable := done.piecewise new.rt.domTable state.rt.domTable }
  hw :=
    { state.hw with
      domRte := fun port => done.piecewise (new.hw.domRte port) (state.hw.domRte port) }

theorem mixDomRtes_empty (state new : RxsState) : state.mixDomRtes new ∅ = state := by
  simp [RxsState.mixDomRtes]

theorem mixDomRtes_univ (setOnPort : Nat) (setAll : Bool) (state : RxsState) :
    state.mixDomRtes (state.programDomRtes setOnPort setAll) Set.univ =
      state.programDomRtes setOnPort setAll := by
  simp [RxsState.mixDomRtes, RxsState.programDomRtes]

theorem rxsProgramDomRte_ok_iff (bus : RegBus) (setOnPort : Nat) (setAll : Bool) (state : RxsState)
    (done : Set RtIdx) (idx : RtIdx) (final : RxsState) (fresh : idx ∉ done) :
    (rxsProgramDomRte bus setOnPort setAll idx).run
        (state.mixDomRtes (state.programDomRtes setOnPort setAll) done) = .ok () final ↔
      ((state.rt.domTable idx).changed || setAll → bus (.writeDomRte setOnPort idx) = none) ∧
        state.mixDomRtes (state.programDomRtes setOnPort setAll) (insert idx done) = final := by
  classical
  have current : (state.mixDomRtes (state.programDomRtes setOnPort setAll) done).rt.domTable idx =
      state.rt.domTable idx := Set.piecewise_eq_of_notMem _ _ _ fresh
  simp only [rxsProgramDomRte, get_bind_run, current]
  cases due : (state.rt.domTable idx).changed || setAll with
  | false =>
    have notMarked := (Bool.or_eq_false_iff.mp due).1
    have table : (state.programDomRtes setOnPort setAll).rt.domTable idx =
        state.rt.domTable idx := by
      simp only [RxsState.programDomRtes, ← notMarked]
    have regs port : (state.programDomRtes setOnPort setAll).hw.domRte port idx =
        state.hw.domRte port idx := by
      simp only [RxsState.programDomRtes, Marking.writeBack, rteMarking, due,
        Bool.false_eq_true, if_false, ite_self]
    simp [RxsState.mixDomRtes, piecewise_insert_of_eq table, piecewise_insert_of_eq (regs _)]
  | true =>
    have written : state.mixDomRtes (state.programDomRtes setOnPort setAll) (insert idx done) =
        ⟨(state.mixDomRtes (state.programDomRtes setOnPort setAll) done).rt.unmarkDomRte idx,
          { (state.mixDomRtes (state.programDomRtes setOnPort setAll) done).hw with
            domRte := writeReg setOnPort idx (fun _ => (state.rt.domTable idx).rteVal)
              (state.mixDomRtes (state.programDomRtes setOnPort setAll) done).hw.domRte }⟩ := by
      simp only [RxsState.mixDomRtes, RioRtState.unmarkDomRte, writeReg_eq_update,
        Set.piecewise_insert, Set.piecewise_eq_of_notMem _ _ _ fresh, RxsState.programDomRtes,
        Marking.writeBack, rteMarking, due, if_true]
    rw [written]
    simp only [if_true, bind_ok_iff, darRegWrite_ok_iff, modify_ok_iff]
    constructor
    · rintro ⟨_, middle, ⟨ends, rfl⟩, rfl⟩
      exact ⟨fun _ => ends, rfl⟩
    · rintro ⟨ends, rfl⟩
      exact ⟨(), _, ⟨ends trivial, rfl⟩, rfl⟩

/-- The device table after programming. -/
def RxsState.programDevRtes (setOnPort : Nat) (setAll : Bool) (state : RxsState) : RxsState where
  rt := { state.rt with devTable := fun idx => { state.rt.devTable idx with changed := false } }
  hw :=
    { state.hw with
      devRte := fun port idx =>
        if Reaches setOnPort port then
          rteMarking.writeBack (fun value _ => value) setAll (state.rt.devTable idx)
            (state.hw.devRte port idx)
        else state.hw.devRte port idx }

open Classical in
/-- The device table while it is programmed. -/
noncomputable def RxsState.mixDevRtes (state new : RxsState) (done : Set RtIdx) : RxsState where
  rt := { state.rt with devTable := done.piecewise new.rt.devTable state.rt.devTable }
  hw :=
    { state.hw with
      devRte := fun port => done.piecewise (new.hw.devRte port) (state.hw.devRte port) }

theorem mixDevRtes_empty (state new : RxsState) : state.mixDevRtes new ∅ = state := by
  simp [RxsState.mixDevRtes]

theorem mixDevRtes_univ (setOnPort : Nat) (setAll : Bool) (state : RxsState) :
    state.mixDevRtes (state.programDevRtes setOnPort setAll) Set.univ =
      state.programDevRtes setOnPort setAll := by
  simp [RxsState.mixDevRtes, RxsState.programDevRtes]

theorem rxsProgramDevRte_ok_iff (bus : RegBus) (setOnPort : Nat) (setAll : Bool) (state : RxsState)
    (done : Set RtIdx) (idx : RtIdx) (final : RxsState) (fresh : idx ∉ done) :
    (rxsProgramDevRte bus setOnPort setAll idx).run
        (state.mixDevRtes (state.programDevRtes setOnPort setAll) done) = .ok () final ↔
      ((state.rt.devTable idx).changed || setAll →
          ¬rioRtvIsLvlGrp (state.rt.devTable idx).rteVal = true ∧
            bus (.writeDevRte setOnPort idx) = none) ∧
        state.mixDevRtes (state.programDevRtes setOnPort setAll) (insert idx done) = final := by
  classical
  have current : (state.mixDevRtes (state.programDevRtes setOnPort setAll) done).rt.devTable idx =
      state.rt.devTable idx := Set.piecewise_eq_of_notMem _ _ _ fresh
  simp only [rxsProgramDevRte, get_bind_run, current]
  cases due : (state.rt.devTable idx).changed || setAll with
  | false =>
    have notMarked := (Bool.or_eq_false_iff.mp due).1
    have table : (state.programDevRtes setOnPort setAll).rt.devTable idx =
        state.rt.devTable idx := by
      simp only [RxsState.programDevRtes, ← notMarked]
    have regs port : (state.programDevRtes setOnPort setAll).hw.devRte port idx =
        state.hw.devRte port idx := by
      simp only [RxsState.programDevRtes, Marking.writeBack, rteMarking, due,
        Bool.false_eq_true, if_false, ite_self]
    simp [RxsState.mixDevRtes, piecewise_insert_of_eq table, piecewise_insert_of_eq (regs _)]
  | true =>
    have written : state.mixDevRtes (state.programDevRtes setOnPort setAll) (insert idx done) =
        ⟨(state.mixDevRtes (state.programDevRtes setOnPort setAll) done).rt.unmarkDevRte idx,
          { (state.mixDevRtes (state.programDevRtes setOnPort setAll) done).hw with
            devRte := writeReg setOnPort idx (fun _ => (state.rt.devTable idx).rteVal)
              (state.mixDevRtes (state.programDevRtes setOnPort setAll) done).hw.devRte }⟩ := by
      simp only [RxsState.mixDevRtes, RioRtState.unmarkDevRte, writeReg_eq_update,
        Set.piecewise_insert, Set.piecewise_eq_of_notMem _ _ _ fresh, RxsState.programDevRtes,
        Marking.writeBack, rteMarking, due, if_true]
    rw [written]
    simp only [if_true, bind_ok_iff, failIf_ok_iff, current, darRegWrite_ok_iff,
      modify_ok_iff]
    constructor
    · rintro ⟨_, _, ⟨notGroup, rfl⟩, _, middle, ⟨ends, rfl⟩, rfl⟩
      exact ⟨fun _ => ⟨notGroup, ends⟩, rfl⟩
    · rintro ⟨ends, rfl⟩
      exact ⟨(), _, ⟨(ends trivial).1, rfl⟩, (), _, ⟨(ends trivial).2, rfl⟩, rfl⟩

theorem readCurrMsk_ok_iff :
    (readCurrMsk bus setOnPort idx).run state = .ok value final ↔
      (setOnPort ≠ rioAllPorts → bus (.readMcMask setOnPort idx) = none) ∧
        (if setOnPort = rioAllPorts then 0 else state.hw.mcMask setOnPort idx) = value ∧
          state = final := by
  by_cases all : setOnPort = rioAllPorts
  · simp [readCurrMsk, all]
  · simp [readCurrMsk, all, darRegRead_ok_iff]

theorem writeChgBits_ok_iff {chgBits : BitVec 32} (write : BitVec 32 → BitVec 32 → BitVec 32)
    (nothing : ∀ held, write 0 held = held) :
    (writeChgBits bus access impRc setOnPort idx chgBits write).run state = .ok result final ↔
      (chgBits ≠ 0 → bus access = none) ∧
        final =
          { state with
            hw :=
              { state.hw with
                mcMask := writeReg setOnPort idx (write chgBits) state.hw.mcMask } } := by
  unfold writeChgBits
  by_cases bits : chgBits = 0
  · subst bits
    simp only [ne_eq, not_true, if_false, pure_ok_iff, true_and, false_implies,
      writeReg_same nothing]
    exact eq_comm
  · simp only [ne_eq, bits, not_false_eq_true, if_true, darRegWrite_ok_iff, true_implies]

/-- The masks after programming. -/
def RxsState.programMcMasks (setOnPort : Nat) (setAll : Bool) (maskMask : BitVec 32)
    (state : RxsState) : RxsState where
  rt := { state.rt with mcMasks := fun idx => { state.rt.mcMasks idx with changed := false } }
  hw :=
    { state.hw with
      mcMask := fun port idx =>
        if Reaches setOnPort port then
          mcMarking.writeBack (storeMask maskMask) setAll (state.rt.mcMasks idx)
            (state.hw.mcMask port idx)
        else state.hw.mcMask port idx }

open Classical in
/-- The masks while they are programmed. -/
noncomputable def RxsState.mixMcMasks (state new : RxsState) (done : Set RtIdx) : RxsState where
  rt := { state.rt with mcMasks := done.piecewise new.rt.mcMasks state.rt.mcMasks }
  hw :=
    { state.hw with
      mcMask := fun port => done.piecewise (new.hw.mcMask port) (state.hw.mcMask port) }

theorem mixMcMasks_empty (state new : RxsState) : state.mixMcMasks new ∅ = state := by
  simp [RxsState.mixMcMasks]

theorem mixMcMasks_univ (setOnPort : Nat) (setAll : Bool) (maskMask : BitVec 32)
    (state : RxsState) :
    state.mixMcMasks (state.programMcMasks setOnPort setAll maskMask) Set.univ =
      state.programMcMasks setOnPort setAll maskMask := by
  simp [RxsState.mixMcMasks, RxsState.programMcMasks]

/-- What it takes to program a mask: it has no port beyond the device, and the accesses
succeed that are needed where the register holds `held`. -/
structure McMaskPasses (bus : RegBus) (setOnPort : Nat) (maskMask mask held : BitVec 32)
    (idx : RtIdx) : Prop where
  legal : mask &&& ~~~maskMask = 0
  read : setOnPort ≠ rioAllPorts → bus (.readMcMask setOnPort idx) = none
  set : ~~~(if setOnPort = rioAllPorts then 0 else held) &&& mask &&& maskMask ≠ 0 →
    bus (.setMcMask setOnPort idx) = none
  clear : (if setOnPort = rioAllPorts then maskMask else held) &&& ~~~mask &&& maskMask ≠ 0 →
    bus (.clrMcMask setOnPort idx) = none

theorem writeReg_storeMask (setOnPort : Nat) (maskMask mask : BitVec 32) (idx : RtIdx)
    (regs : Nat → RtIdx → BitVec 32) :
    writeReg setOnPort idx
        (fun held => (held |||
            ~~~(if setOnPort = rioAllPorts then 0 else regs setOnPort idx) &&&
              mask &&& maskMask) &&&
          ~~~((if setOnPort = rioAllPorts then maskMask else regs setOnPort idx) &&&
            ~~~mask &&& maskMask)) regs =
      writeReg setOnPort idx (storeMask maskMask mask) regs := by
  refine writeReg_congr fun port reached => ?_
  by_cases all : setOnPort = rioAllPorts
  · simp only [all, if_true, storeMask_eq_broadcast]
  · obtain rfl : port = setOnPort := reached.resolve_left all
    simp [all, storeMask_eq]

theorem rxsProgramMcMask_ok_iff_of_due (due : ((state.rt.mcMasks idx).changed || setAll) = true) :
    (rxsProgramMcMask bus setOnPort setAll maskMask idx).run state = .ok () final ↔
      McMaskPasses bus setOnPort maskMask (state.rt.mcMasks idx).mcMask
          (state.hw.mcMask setOnPort idx) idx ∧
        final =
          ⟨state.rt.unmarkMcMask idx,
            { state.hw with
              mcMask :=
                writeReg setOnPort idx (storeMask maskMask (state.rt.mcMasks idx).mcMask)
                  state.hw.mcMask }⟩ := by
  have setNothing (held : BitVec 32) : held ||| 0 = held := BitVec.or_zero
  have clearNothing (held : BitVec 32) : held &&& ~~~0 = held := BitVec.and_allOnes
  simp only [rxsProgramMcMask, get_bind_run, due, if_true, bind_ok_iff, failIf_ok_iff,
    readCurrMsk_ok_iff, writeChgBits_ok_iff (fun chgBits held => held ||| chgBits) setNothing,
    writeChgBits_ok_iff (fun chgBits held => held &&& ~~~chgBits) clearNothing, modify_ok_iff]
  have collapse : (if setOnPort = rioAllPorts then maskMask
        else if setOnPort = rioAllPorts then 0 else state.hw.mcMask setOnPort idx) =
      if setOnPort = rioAllPorts then maskMask else state.hw.mcMask setOnPort idx := by
    split <;> rfl
  constructor
  · rintro ⟨_, _, ⟨legal, rfl⟩, currMsk, _, ⟨read, rfl, rfl⟩, _, _, ⟨set, rfl⟩, _, _,
      ⟨clear, rfl⟩, rfl⟩
    rw [collapse] at clear
    refine ⟨⟨not_not.mp legal, read, set, clear⟩, ?_⟩
    simp only [writeReg_writeReg, collapse, writeReg_storeMask]
  · rintro ⟨passes, rfl⟩
    refine ⟨(), _, ⟨not_not.mpr passes.legal, rfl⟩, _, _, ⟨passes.read, rfl, rfl⟩, (), _,
      ⟨passes.set, rfl⟩, (), _, ⟨collapse ▸ passes.clear, rfl⟩, ?_⟩
    simp only [writeReg_writeReg, collapse, writeReg_storeMask]

theorem rxsProgramMcMask_ok_iff (bus : RegBus) (setOnPort : Nat) (setAll : Bool)
    (maskMask : BitVec 32) (state : RxsState) (done : Set RtIdx) (idx : RtIdx) (final : RxsState)
    (fresh : idx ∉ done) :
    (rxsProgramMcMask bus setOnPort setAll maskMask idx).run
        (state.mixMcMasks (state.programMcMasks setOnPort setAll maskMask) done) = .ok () final ↔
      ((state.rt.mcMasks idx).changed || setAll →
          McMaskPasses bus setOnPort maskMask (state.rt.mcMasks idx).mcMask
            (state.hw.mcMask setOnPort idx) idx) ∧
        state.mixMcMasks (state.programMcMasks setOnPort setAll maskMask) (insert idx done) =
          final := by
  classical
  have current : (state.mixMcMasks (state.programMcMasks setOnPort setAll maskMask) done).rt.mcMasks
      idx = state.rt.mcMasks idx := Set.piecewise_eq_of_notMem _ _ _ fresh
  cases due : (state.rt.mcMasks idx).changed || setAll with
  | false =>
    simp only [rxsProgramMcMask, get_bind_run, current, due]
    have notMarked := (Bool.or_eq_false_iff.mp due).1
    have table : (state.programMcMasks setOnPort setAll maskMask).rt.mcMasks idx =
        state.rt.mcMasks idx := by
      simp only [RxsState.programMcMasks, ← notMarked]
    have regs port : (state.programMcMasks setOnPort setAll maskMask).hw.mcMask port idx =
        state.hw.mcMask port idx := by
      simp only [RxsState.programMcMasks, Marking.writeBack, mcMarking, due,
        Bool.false_eq_true, if_false, ite_self]
    simp [RxsState.mixMcMasks, piecewise_insert_of_eq table, piecewise_insert_of_eq (regs _)]
  | true =>
    have held : (state.mixMcMasks (state.programMcMasks setOnPort setAll maskMask) done).hw.mcMask
        setOnPort idx = state.hw.mcMask setOnPort idx := Set.piecewise_eq_of_notMem _ _ _ fresh
    have written : state.mixMcMasks (state.programMcMasks setOnPort setAll maskMask)
          (insert idx done) =
        ⟨(state.mixMcMasks (state.programMcMasks setOnPort setAll maskMask) done).rt.unmarkMcMask
            idx,
          { (state.mixMcMasks (state.programMcMasks setOnPort setAll maskMask) done).hw with
            mcMask :=
              writeReg setOnPort idx (storeMask maskMask (state.rt.mcMasks idx).mcMask)
                (state.mixMcMasks (state.programMcMasks setOnPort setAll maskMask)
                  done).hw.mcMask }⟩ := by
      simp only [RxsState.mixMcMasks, RioRtState.unmarkMcMask, writeReg_eq_update,
        Set.piecewise_insert, Set.piecewise_eq_of_notMem _ _ _ fresh, RxsState.programMcMasks,
        Marking.writeBack, mcMarking, due, if_true]
    rw [rxsProgramMcMask_ok_iff_of_due (by rw [current]; exact due), written, current, held]
    constructor
    · intro both
      exact ⟨fun _ => both.1, both.2.symm⟩
    · intro both
      exact ⟨both.1 rfl, both.2.symm⟩

/-- Programming the whole table. -/
def RxsState.program (setOnPort : Nat) (setAll : Bool) (maskMask : BitVec 32)
    (state : RxsState) : RxsState :=
  let state := state.programMcMasks setOnPort setAll maskMask
  let state : RxsState := { state with hw := { state.hw with dfltRoute := state.rt.defaultRoute } }
  (state.programDomRtes setOnPort setAll).programDevRtes setOnPort setAll

/-- What it takes to program the whole table. -/
structure Programmable (devInfo : DarDevInfo) (bus : RegBus) (setOnPort : Nat) (setAll : Bool)
    (maskMask : BitVec 32) (state : RxsState) : Prop where
  port : setOnPort = rioAllPorts ∨ setOnPort < devInfo.numRxsPorts
  dfltRoute : rxsChkDfltRteReg devInfo state.rt.defaultRoute = false
  device : rxsMaskMask devInfo.devCode = some maskMask
  masks : ∀ idx, (state.rt.mcMasks idx).changed || setAll →
    McMaskPasses bus setOnPort maskMask (state.rt.mcMasks idx).mcMask
      (state.hw.mcMask setOnPort idx) idx
  dfltReg : bus .writeDfltRoute = none
  domRtes : ∀ idx, (state.rt.domTable idx).changed || setAll →
    bus (.writeDomRte setOnPort idx) = none
  devRtes : ∀ idx, (state.rt.devTable idx).changed || setAll →
    ¬rioRtvIsLvlGrp (state.rt.devTable idx).rteVal = true ∧
      bus (.writeDevRte setOnPort idx) = none

theorem rxsProgramMcMasks_ok_iff :
    (rxsProgramMcMasks devInfo bus setOnPort setAll).run state = .ok result final ↔
      ∃ maskMask, rxsMaskMask devInfo.devCode = some maskMask ∧
        (∀ idx, (state.rt.mcMasks idx).changed || setAll →
          McMaskPasses bus setOnPort maskMask (state.rt.mcMasks idx).mcMask
            (state.hw.mcMask setOnPort idx) idx) ∧
        state.programMcMasks setOnPort setAll maskMask = final := by
  have loop (maskMask : BitVec 32) :=
    @forM_finRange_ok_iff _ _ _ _ _ _
      (rxsProgramMcMask_ok_iff bus setOnPort setAll maskMask state) final
  simp only [mixMcMasks_empty, mixMcMasks_univ] at loop
  simp only [rxsProgramMcMasks, bind_ok_iff, orFail_ok_iff]
  constructor
  · rintro ⟨maskMask, _, ⟨device, rfl⟩, ran⟩
    exact ⟨maskMask, device, (loop maskMask).mp ran⟩
  · rintro ⟨maskMask, device, ran⟩
    exact ⟨maskMask, state, ⟨device, rfl⟩, (loop maskMask).mpr ran⟩

theorem rxsProgramRteEntries_ok_iff :
    (rxsProgramRteEntries bus setOnPort setAll).run state = .ok () final ↔
      bus .writeDfltRoute = none ∧
        (∀ idx, (state.rt.domTable idx).changed || setAll →
          bus (.writeDomRte setOnPort idx) = none) ∧
        (∀ idx, (state.rt.devTable idx).changed || setAll →
          ¬rioRtvIsLvlGrp (state.rt.devTable idx).rteVal = true ∧
            bus (.writeDevRte setOnPort idx) = none) ∧
        final =
          ((⟨state.rt, { state.hw with dfltRoute := state.rt.defaultRoute }⟩ :
            RxsState).programDomRtes setOnPort setAll).programDevRtes setOnPort setAll := by
  have domLoop (state final : RxsState) :=
    @forM_finRange_ok_iff _ _ _ _ _ _ (rxsProgramDomRte_ok_iff bus setOnPort setAll state) final
  have devLoop (state final : RxsState) :=
    @forM_finRange_ok_iff _ _ _ _ _ _ (rxsProgramDevRte_ok_iff bus setOnPort setAll state) final
  simp only [mixDomRtes_empty, mixDomRtes_univ] at domLoop
  simp only [mixDevRtes_empty, mixDevRtes_univ] at devLoop
  simp only [rxsProgramRteEntries, get_bind_run, bind_ok_iff, darRegWrite_ok_iff, domLoop, devLoop]
  constructor
  · rintro ⟨_, _, ⟨dfltReg, rfl⟩, _, _, ⟨domRtes, rfl⟩, devRtes, rfl⟩
    exact ⟨dfltReg, domRtes, devRtes, rfl⟩
  · rintro ⟨dfltReg, domRtes, devRtes, rfl⟩
    exact ⟨(), _, ⟨dfltReg, rfl⟩, (), _, ⟨domRtes, rfl⟩, devRtes, rfl⟩

theorem rxsRtSetCommon_ok_iff :
    (rxsRtSetCommon devInfo bus setOnPort setAll).run state = .ok () final ↔
      ∃ maskMask, Programmable devInfo bus setOnPort setAll maskMask state ∧
        final = state.program setOnPort setAll maskMask := by
  simp only [rxsRtSetCommon, get_bind_run, bind_ok_iff, failIf_ok_iff, rxsProgramMcMasks_ok_iff,
    rxsProgramRteEntries_ok_iff]
  constructor
  · rintro ⟨_, _, ⟨port, rfl⟩, _, _, ⟨dfltRoute, rfl⟩, _, _, ⟨maskMask, device, masks, rfl⟩,
      dfltReg, domRtes, devRtes, rfl⟩
    refine ⟨maskMask, ⟨by omega, ?_, device, masks, dfltReg, domRtes, devRtes⟩, rfl⟩
    exact Bool.eq_false_iff.mpr dfltRoute
  · rintro ⟨maskMask, able, rfl⟩
    have port := able.port
    exact ⟨(), state, ⟨by omega, rfl⟩, (), state, ⟨Bool.eq_false_iff.mp able.dfltRoute, rfl⟩, (), _,
      ⟨maskMask, able.device, able.masks, rfl⟩, able.dfltReg, able.domRtes, able.devRtes, rfl⟩

theorem programmable_of_noErrors (noErrors : ∀ access, bus access = none)
    (port : setOnPort = rioAllPorts ∨ setOnPort < devInfo.numRxsPorts)
    (dfltRoute : rxsChkDfltRteReg devInfo state.rt.defaultRoute = false)
    (device : rxsMaskMask devInfo.devCode = some maskMask)
    (legal : ∀ idx, (state.rt.mcMasks idx).changed || setAll →
      (state.rt.mcMasks idx).mcMask &&& ~~~maskMask = 0)
    (notGroup : ∀ idx, (state.rt.devTable idx).changed || setAll →
      ¬rioRtvIsLvlGrp (state.rt.devTable idx).rteVal = true) :
    Programmable devInfo bus setOnPort setAll maskMask state where
  port := port
  dfltRoute := dfltRoute
  device := device
  masks idx due := ⟨legal idx due, fun _ => noErrors _, fun _ => noErrors _, fun _ => noErrors _⟩
  dfltReg := noErrors _
  domRtes _ _ := noErrors _
  devRtes idx due := ⟨notGroup idx due, noErrors _⟩

theorem rxsRioRtInitialize_ok {inParms : RioRtInitializeIn}
    (ran : (rxsRioRtInitialize devInfo bus inParms).run state = .ok () final) :
    (∀ idx, (final.rt.devTable idx).rteVal = inParms.defaultRouteTablePort) ∧
      (∀ idx, (final.rt.domTable idx).rteVal =
        if idx = 0 then rioRteLvlG0 else inParms.defaultRouteTablePort) ∧
      ∀ idx, (final.rt.mcMasks idx).inUse = false := by
  simp only [rxsRioRtInitialize, bind_ok_iff, failIf_ok_iff, modify_ok_iff] at ran
  obtain ⟨_, _, ⟨_, rfl⟩, _, _, ⟨_, rfl⟩, _, _, ⟨_, rfl⟩, _, _, rfl, ran⟩ := ran
  cases update : inParms.updateHw with
  | false =>
    simp only [update, Bool.false_eq_true, if_false, pure_ok_iff, true_and] at ran
    subst ran
    exact ⟨fun _ => rfl, fun _ => rfl, fun _ => rfl⟩
  | true =>
    simp only [update, if_true, rxsRioRtSetChanged, rxsRtSetCommon_ok_iff] at ran
    obtain ⟨maskMask, _, rfl⟩ := ran
    exact ⟨fun _ => rfl, fun _ => rfl, fun _ => rfl⟩

end RioFabric.RouteTable

import RioFabric.Dar.RegAccess
import RioFabric.Lib.Runs

/-!
# The cache of registers

A register that is in the cache is not read from the device.  The cache is searched from its
beginning, by reads and by writes alike, so that only the first element for a register counts.
-/

namespace RioFabric.Dar

open Lib

section Search

variable {poregs : List RioPerfOptReg} {offset other data : BitVec 32}

/-- The element that is found for a register. -/
def firstPoreg (poregs : List RioPerfOptReg) (offset : BitVec 32) : Option RioPerfOptReg :=
  poregs.find? fun poreg => poreg.offset = offset

/-- The elements after a write. -/
def writtenPoregs (poregs : List RioPerfOptReg) (offset data : BitVec 32) : List RioPerfOptReg :=
  match poregs.findIdx? fun poreg => poreg.offset = offset with
  | some idx => poregs.modify idx fun poreg => { poreg with data }
  | none => poregs

theorem writtenPoregs_cons {poreg : RioPerfOptReg} :
    writtenPoregs (poreg :: poregs) offset data =
      if poreg.offset = offset then { poreg with data } :: poregs
      else poreg :: writtenPoregs poregs offset data := by
  rw [writtenPoregs, List.findIdx?_cons]
  by_cases same : poreg.offset = offset
  · simp [same]
  · rw [if_neg same, writtenPoregs]
    simp only [same, decide_false, Bool.false_eq_true, if_false]
    cases poregs.findIdx? fun poreg => decide (poreg.offset = offset) with
    | none => rfl
    | some idx => rfl

@[simp] theorem length_writtenPoregs :
    (writtenPoregs poregs offset data).length = poregs.length := by
  rw [writtenPoregs]
  split
  · exact List.length_modify _ _ _
  · rfl

theorem firstPoreg_written_self : firstPoreg (writtenPoregs poregs offset data) offset =
    (firstPoreg poregs offset).map fun poreg => { poreg with data } := by
  induction poregs with
  | nil => rfl
  | cons poreg poregs ih =>
    rw [writtenPoregs_cons]
    by_cases same : poreg.offset = offset
    · simp [firstPoreg, same]
    · rw [if_neg same]
      simpa [firstPoreg, same] using ih

theorem firstPoreg_written_of_ne (different : other ≠ offset) :
    firstPoreg (writtenPoregs poregs offset data) other = firstPoreg poregs other := by
  induction poregs with
  | nil => rfl
  | cons poreg poregs ih =>
    rw [writtenPoregs_cons]
    by_cases same : poreg.offset = offset
    · rw [if_pos same]
      simp [firstPoreg, same, different.symm]
    · rw [if_neg same]
      by_cases isOther : poreg.offset = other
      · simp [firstPoreg, isOther]
      · simpa [firstPoreg, isOther] using ih

end Search

/-- The family is one whose registers are accessed directly. -/
def PlainFamily (family : RioDriverFamily) : Prop :=
  family = .rxs ∨ family = .cps ∨ family = .unknown

/-- What the cache gives for a register is what the register holds, and no more elements are used
than there are. -/
structure Coherent (state : Attached DarDevInfo (RegisterFile (BitVec 32))) : Prop where
  family : PlainFamily state.memory.driverFamily
  cached : ∀ offset poreg, firstPoreg (state.memory.poregs.getD []) offset = some poreg →
    poreg.data = state.device.value offset
  count : state.memory.poregCnt ≤ state.memory.poregsMax

section Accesses

variable {δ : Type} {Pre : Attached DarDevInfo δ → Prop} {Fail : Nat → Attached DarDevInfo δ → Prop}

theorem getDev_bind {α : Type} {next : DarDevInfo → DarProgram δ α}
    {Post : α → Attached DarDevInfo δ → Prop}
    (tail : ∀ start, Pre start → Meets (fun state => state = start) (next start.memory) Post Fail) :
    Meets Pre (getDev >>= next) Post Fail := by
  rw [getDev, bind_assoc]
  apply Meets.getBindAt
  intro start before
  rw [pure_bind]
  exact tail start before

theorem modifyDev_meets {change : DarDevInfo → DarDevInfo}
    {Post : Unit → Attached DarDevInfo δ → Prop}
    (holds : ∀ state, Pre state → Post () { state with memory := change state.memory }) :
    Meets Pre (modifyDev change) Post Fail :=
  Meets.modify holds

end Accesses

section Plain

variable {offset data : BitVec 32} {state : Attached DarDevInfo (RegisterFile (BitVec 32))}

theorem familyRead_plain (plain : PlainFamily state.memory.driverFamily) :
    familyRead (registerFile store) state.memory.driverFamily offset =
      regRead (registerFile store) offset id := by
  rcases plain with same | same | same
  · rw [same]
    rfl
  · rw [same]
    rfl
  · rw [same]
    rfl

theorem familyWrite_plain (plain : PlainFamily state.memory.driverFamily) :
    familyWrite (registerFile store) state.memory.driverFamily offset data =
      regWrite (registerFile store) offset data id := by
  rcases plain with same | same | same
  · rw [same]
    rfl
  · rw [same]
    rfl
  · rw [same]
    rfl

theorem darRegRead_coherent {values : BitVec 32 → BitVec 32} :
    Meets (fun state => Coherent state ∧ state.device.value = values)
      (darRegRead (registerFile store) offset)
      (fun value state => value = values offset ∧ Coherent state)
      fun _ state => Coherent state := by
  apply getDev_bind
  intro start before
  obtain ⟨coherent, rfl⟩ := before
  apply Meets.failIfBind
  · rintro state rfl _
    exact coherent
  · intro _
    split
    next poreg found =>
      apply Meets.pure
      rintro state rfl
      exact ⟨coherent.cached offset poreg found, coherent⟩
    next =>
      rw [familyRead_plain coherent.family]
      apply regRead_file_meets
      · rintro state rfl _
        exact ⟨rfl, coherent.family, coherent.cached, coherent.count⟩
      · rintro state failure rfl _ _
        exact ⟨coherent.family, coherent.cached, coherent.count⟩

theorem updatePoreg_eq (dev : DarDevInfo) : updatePoreg dev offset data =
    { dev with poregs := dev.poregs.map fun poregs => writtenPoregs poregs offset data } := by
  cases isPoregs : dev.poregs with
  | none =>
    rw [updatePoreg, darGetPoregIdx, isPoregs]
    cases dev
    cases isPoregs
    rfl
  | some poregs =>
    rw [updatePoreg, darGetPoregIdx, isPoregs, Option.getD_some]
    simp only [Option.map_some, writtenPoregs]
    cases poregs.findIdx? fun poreg => decide (poreg.offset = offset) with
    | some idx => rfl
    | none =>
      cases dev
      cases isPoregs
      rfl

theorem Coherent.written (coherent : Coherent state) {file : RegisterFile (BitVec 32)}
    (stored : file.value = Function.update state.device.value offset data) :
    Coherent ⟨updatePoreg state.memory offset data, file⟩ := by
  rw [updatePoreg_eq]
  refine ⟨coherent.family, ?_, ?_⟩
  · intro other poreg found
    dsimp only at found ⊢
    rw [stored]
    cases isPoregs : state.memory.poregs with
    | none =>
      rw [isPoregs] at found
      cases found
    | some poregs =>
      rw [isPoregs, Option.map_some, Option.getD_some] at found
      have cached := coherent.cached
      rw [isPoregs, Option.getD_some] at cached
      by_cases same : other = offset
      · subst same
        rw [firstPoreg_written_self] at found
        obtain ⟨before, -, rfl⟩ := Option.map_eq_some_iff.mp found
        rw [Function.update_self]
      · rw [firstPoreg_written_of_ne same] at found
        rw [Function.update_of_ne same]
        exact cached other poreg found
  · have count := coherent.count
    rw [DarDevInfo.poregCnt] at count ⊢
    dsimp only
    cases isPoregs : state.memory.poregs with
    | none => exact Nat.zero_le _
    | some poregs =>
      rw [isPoregs, Option.getD_some] at count
      rwa [Option.map_some, Option.getD_some, length_writtenPoregs]

theorem darRegWrite_coherent : Meets Coherent (darRegWrite (registerFile store) offset data)
    (fun _ => Coherent) fun _ => Coherent := by
  apply getDev_bind
  intro start coherent
  apply Meets.failIfBind
  · rintro state rfl _
    exact coherent
  · intro _
    rw [familyWrite_plain coherent.family]
    have writes : Meets (fun state => state = start)
        (regWrite (registerFile store) offset data id)
        (fun _ state => Coherent ⟨updatePoreg state.memory offset data, state.device⟩)
        fun _ => Coherent := by
      apply regWrite_file_meets
      · rintro state rfl _
        exact coherent.written rfl
      · rintro state failure rfl _ _
        exact ⟨coherent.family, coherent.cached, coherent.count⟩
    apply Meets.bind writes
    intro _
    exact modifyDev_meets fun _ written => written

theorem darAddPoreg_coherent :
    Meets (fun state => Coherent state ∧ data = state.device.value offset)
      (darAddPoreg offset data) (fun _ => Coherent) fun _ => Coherent := by
  apply getDev_bind
  intro start before
  obtain ⟨coherent, isValue⟩ := before
  split
  next =>
    apply Meets.throw
    rintro state rfl
    exact coherent
  next poregs isPoregs =>
    apply Meets.failIfBind
    · rintro state rfl _
      exact coherent
    · intro room
      apply modifyDev_meets
      rintro state rfl
      have cached := coherent.cached
      rw [isPoregs, Option.getD_some] at cached
      refine ⟨coherent.family, fun other poreg found => ?_, ?_⟩
      · rw [Option.getD_some, firstPoreg, List.find?_append, Option.or_eq_some_iff] at found
        rcases found with earlier | ⟨-, added⟩
        · exact cached other poreg earlier
        · rw [List.find?_singleton] at added
          split at added
          next same =>
            cases added
            exact isValue.trans (congrArg state.device.value (of_decide_eq_true same))
          next => cases added
      · rw [DarDevInfo.poregCnt, Option.getD_some, List.length_append]
        exact Nat.lt_of_not_le room

end Plain

/-- A call of a run. -/
inductive DarCall where
  /-- `DARRegRead`. -/
  | regRead (offset : BitVec 32)
  /-- `DARRegWrite`. -/
  | regWrite (offset writedata : BitVec 32)
  /-- `DAR_add_poreg`. -/
  | addPoreg (offset data : BitVec 32)

/-- The state after a call, whether it succeeds or not. -/
def DarCall.step (state : Attached DarDevInfo (RegisterFile (BitVec 32))) :
    DarCall → Attached DarDevInfo (RegisterFile (BitVec 32))
  | regRead offset => finalState ((darRegRead (registerFile store) offset).run state)
  | regWrite offset writedata =>
    finalState ((darRegWrite (registerFile store) offset writedata).run state)
  | addPoreg offset data => finalState ((darAddPoreg offset data).run state)

/-- A register that is added is added with the value that it holds. -/
def AddsValue (state : Attached DarDevInfo (RegisterFile (BitVec 32))) : DarCall → Prop
  | .addPoreg offset data => data = state.device.value offset
  | _ => True

theorem DarCall.step_coherent (state : Attached DarDevInfo (RegisterFile (BitVec 32)))
    (call : DarCall) (coherent : Coherent state) (adds : AddsValue state call) :
    Coherent (call.step state) := by
  cases call with
  | regRead offset =>
    have read := @darRegRead_coherent offset state.device.value
    exact (read.weakenPost fun _ _ after => after.2).finalState ⟨coherent, rfl⟩
  | regWrite offset writedata => exact darRegWrite_coherent.finalState coherent
  | addPoreg offset data => exact darAddPoreg_coherent.finalState ⟨coherent, adds⟩

/-- After any calls, a read that succeeds gives what the register holds, and no more elements of
the cache are used than there are. -/
theorem darRegRead_transparent {start : Attached DarDevInfo (RegisterFile (BitVec 32))}
    (plain : PlainFamily start.memory.driverFamily) (none : start.memory.poregCnt = 0)
    {calls : List DarCall} (adds : Guarded DarCall.step AddsValue start calls) :
    (∀ offset value final,
      (darRegRead (registerFile store) offset).run
          (run DarCall.step start calls) = .ok value final →
        value = (run DarCall.step start calls).device.value offset) ∧
    (run DarCall.step start calls).memory.poregCnt ≤
      (run DarCall.step start calls).memory.poregsMax := by
  have initially : Coherent start := by
    refine ⟨plain, fun offset poreg found => ?_, none ▸ Nat.zero_le _⟩
    rw [List.eq_nil_of_length_eq_zero none] at found
    cases found
  have coherent := run_invariant Coherent DarCall.step_coherent initially adds
  refine ⟨fun offset value final ran => ?_, coherent.count⟩
  exact ((darRegRead_coherent ⟨coherent, rfl⟩).1 ran).1

/-- A device of an unknown family, with a cache for two registers. -/
def plainDevice : Attached DarDevInfo (RegisterFile (BitVec 32)) where
  memory :=
    { driverFamily := .unknown, dsfH := 0, extFPtrForPort := 0, extFPtrPortType := 0,
      extFPtrForLane := 0, extFPtrForErr := 0, extFPtrForVC := 0, extFPtrForVOQ := 0,
      extFPtrForRT := 0, extFPtrForTS := 0, extFPtrForMISC := 0, extFPtrForHS := 0, devID := 0,
      devInfo := 0, assyInfo := 0, features := 0, swPortInfo := 0, swRtInfo := 0, srcOps := 0,
      dstOps := 0, swMcastInfo := 0, ctl1Reg := fun _ => 0, scratchpad := fun _ => 0,
      poregsMax := 2, poregs := some [] }
  device := ⟨fun _ => 7, fun _ _ => 0⟩

/-- A register is added twice and then written. -/
theorem darRegRead_transparent_twice : ∃ value final,
    (darRegRead (registerFile store) 0x100).run (run DarCall.step plainDevice
      [.addPoreg 0x100 7, .addPoreg 0x100 7, .regWrite 0x100 8]) = .ok value final ∧
    value = 8 := by
  have ends : endsWith (fun _ _ => true) ((darRegRead (registerFile store) 0x100).run
      (run DarCall.step plainDevice
        [.addPoreg 0x100 7, .addPoreg 0x100 7, .regWrite 0x100 8])) = true := by
    decide +kernel
  obtain ⟨value, final, ran, -⟩ := exists_of_endsWith ends
  have adds : Guarded DarCall.step AddsValue plainDevice
      [.addPoreg 0x100 7, .addPoreg 0x100 7, .regWrite 0x100 8] := ⟨rfl, rfl, trivial, trivial⟩
  have held : (run DarCall.step plainDevice
      [.addPoreg 0x100 7, .addPoreg 0x100 7, .regWrite 0x100 8]).device.value 0x100 = 8 := by
    decide +kernel
  have transparent := darRegRead_transparent (.inr (.inr rfl)) rfl adds
  exact ⟨value, final, ran, (transparent.1 0x100 value final ran).trans held⟩

end RioFabric.Dar

import RioFabric.Dar.DevInfo
import RioFabric.Lib.Reads
import RioFabric.Lib.StoreRuns
import RioFabric.RxsPort.Config

/-!
# Calls that report

The calls of a driver that configure, secure, reset and recover ports have results of different
types, each with an `imp_rc`.  A call fails with the code of an access and says in `imp_rc` which
one it was.
-/

namespace RioFabric.PortConfig

open Lib Dar
open RxsPort (PcStop RioPcPw)

/-- A result that has an `imp_rc`. -/
class HasImpRc (μ : Type) where
  setImpRc : Nat → μ → μ

/-- A result that is only an `imp_rc`. -/
instance impRcOnly : HasImpRc Nat := ⟨fun impRc _ => impRc⟩

/-- A call that keeps its result in memory. -/
abbrev Call (μ δ : Type) := EStateM PcStop (Attached μ δ)

section Calls

variable {μ δ ρ α : Type} [HasImpRc μ]

def setImpRc (impRc : Nat) : Call μ δ Unit := modifyMemory (HasImpRc.setImpRc impRc)

/-- Set `imp_rc` and leave with a code. -/
def leave (impRc rc : Nat) : Call μ δ α := do
  setImpRc impRc
  throw (.code rc)

/-- Call a function that does not report; if it fails, set `imp_rc` and leave with its code. -/
def orLeave (impRc : Nat) (program : EStateM Nat (Attached μ δ) α) : Call μ δ α := fun state =>
  match program state with
  | .ok value after => .ok value after
  | .error rc after =>
    .error (.code rc) { after with memory := HasImpRc.setImpRc impRc after.memory }

/-- Call a function that does not report; if it fails, leave with its code. -/
def orThrow (program : EStateM Nat (Attached μ δ) α) : Call μ δ α := fun state =>
  match program state with
  | .ok value after => .ok value after
  | .error rc after => .error (.code rc) after

/-- Call a function that does not report; its code is returned, 0 if it succeeds. -/
def rcOf (program : EStateM Nat (Attached μ δ) Unit) : Call μ δ Nat := fun state =>
  match program state with
  | .ok _ after => .ok 0 after
  | .error rc after => .ok rc after

/-- Read a register; if that fails, set `imp_rc` and leave. -/
def readReg (device : RegDevice ρ δ) (reg : ρ) (impRc : Nat) : Call μ δ (BitVec 32) :=
  orLeave impRc (regRead device reg id)

/-- Write a register; if that fails, set `imp_rc` and leave. -/
def writeReg (device : RegDevice ρ δ) (reg : ρ) (value : BitVec 32) (impRc : Nat) : Call μ δ Unit :=
  orLeave impRc (regWrite device reg value id)

/-- Make another call, with an `imp_rc` of its own that is taken over if the call fails. -/
def taking (program : Call Nat δ α) : Call μ δ α := fun state =>
  match program ⟨0, state.device⟩ with
  | .ok value after => .ok value ⟨state.memory, after.device⟩
  | .error stop after =>
    .error stop ⟨HasImpRc.setImpRc after.memory state.memory, after.device⟩

/-- Write a register; whether it succeeds is returned. -/
def tryWrite (device : RegDevice ρ δ) (reg : ρ) (value : BitVec 32) : Call μ δ Bool := fun state =>
  let (failure, after) := device.write reg value state.device
  .ok failure.isNone { state with device := after }

/-- Make another call, with an `imp_rc` of its own that is not looked at; if it fails, set `imp_rc`
and leave with its code. -/
def takingAs (impRc : Nat) (program : Call Nat δ α) : Call μ δ α := fun state =>
  match program ⟨0, state.device⟩ with
  | .ok value after => .ok value ⟨state.memory, after.device⟩
  | .error stop after => .error stop ⟨HasImpRc.setImpRc impRc state.memory, after.device⟩

end Calls

section Calls

variable {μ δ α : Type} {impRc : Nat} {P F : δ → Prop} {Q : α → δ → Prop}
  {Pre : Attached μ δ → Prop}

section ImpRc

variable [HasImpRc μ] {Post : α → Attached μ δ → Prop} {program : Call Nat δ α}

theorem setImpRc_bind {next : Unit → Call μ δ α} {Fail : PcStop → Attached μ δ → Prop}
    (rest : Meets (fun state => P state.device) (next ()) Post Fail) :
    Meets (fun state => P state.device) (setImpRc impRc >>= next) Post Fail :=
  Meets.modifyBind (fun state => P state.device) (fun _ before => before) rest

theorem leave_meets {rc : Nat} (fails : ∀ device, P device → F device) :
    Meets (fun state => P state.device) (leave impRc rc : Call μ δ α) Post
      fun _ state => F state.device :=
  setImpRc_bind (Meets.throw fun state before => fails state.device before)

theorem orLeave_meets {Pre : Attached μ δ → Prop} {program : EStateM Nat (Attached μ δ) α}
    (meets : Meets Pre program Post fun _ state => F state.device) :
    Meets Pre (orLeave impRc program) Post fun _ state => F state.device := by
  apply meets.called (fun state => state) fun _ before => before
  intro state
  unfold orLeave
  cases program state with
  | ok value after => exact fun ends => ends
  | error code after => exact fun ends => ends

theorem taking_meets
    (meets : Meets (fun state => P state.device) program (fun value state => Q value state.device)
      fun _ state => F state.device) :
    Meets (fun state : Attached μ δ => P state.device) (taking program)
      (fun value state => Q value state.device) fun _ state => F state.device := by
  refine meets.called (fun state => ⟨0, state.device⟩) (fun _ before => before) ?_
  intro state
  unfold taking
  cases program ⟨0, state.device⟩ with
  | ok value after => exact fun ends => ends
  | error code after => exact fun ends => ends

theorem takingAs_meets
    (meets : Meets (fun state => P state.device) program (fun value state => Q value state.device)
      fun _ state => F state.device) :
    Meets (fun state : Attached μ δ => P state.device) (takingAs impRc program)
      (fun value state => Q value state.device) fun _ state => F state.device := by
  refine meets.called (fun state => ⟨0, state.device⟩) (fun _ before => before) ?_
  intro state
  unfold takingAs
  cases program ⟨0, state.device⟩ with
  | ok value after => exact fun ends => ends
  | error code after => exact fun ends => ends

end ImpRc

theorem orThrow_meets {Post : α → Attached μ δ → Prop} {program : EStateM Nat (Attached μ δ) α}
    (meets : Meets Pre program Post fun _ state => F state.device) :
    Meets Pre (orThrow program) Post fun _ state => F state.device := by
  apply meets.called (fun state => state) fun _ before => before
  intro state
  unfold orThrow
  cases program state with
  | ok value after => exact fun ends => ends
  | error code after => exact fun ends => ends

theorem rcOf_meets {Post : Attached μ δ → Prop} {Fail : PcStop → Attached μ δ → Prop}
    {program : EStateM Nat (Attached μ δ) Unit}
    (meets : Meets Pre program (fun _ => Post) fun _ => Post) :
    Meets Pre (rcOf program) (fun _ => Post) Fail := by
  apply meets.called (fun state => state) fun _ before => before
  intro state
  unfold rcOf
  cases program state with
  | ok value after => exact fun ends => ends
  | error code after => exact fun ends => ends

end Calls

section Preserves

variable {μ δ ρ α : Type} [HasImpRc μ] {Inv : δ → Prop} {impRc : Nat} {program : Call Nat δ α}

theorem setImpRc_preserves : Preserves Inv (setImpRc impRc : Call μ δ Unit) :=
  Preserves.modifyMemory _

theorem leave_preserves {rc : Nat} : Preserves Inv (leave impRc rc : Call μ δ α) :=
  leave_meets fun _ before => before

theorem orLeave_preserves {program : EStateM Nat (Attached μ δ) α}
    (preserves : Preserves Inv program) : Preserves Inv (orLeave impRc program : Call μ δ α) :=
  orLeave_meets preserves

theorem taking_preserves (preserves : Preserves Inv program) :
    Preserves Inv (taking program : Call μ δ α) :=
  taking_meets (P := Inv) (F := Inv) (Q := fun _ => Inv) preserves

theorem takingAs_preserves (preserves : Preserves Inv program) :
    Preserves Inv (takingAs impRc program : Call μ δ α) :=
  takingAs_meets (P := Inv) (F := Inv) (Q := fun _ => Inv) preserves

section Accesses

variable {device : RegDevice ρ δ} {allowed : ρ → BitVec 32 → Prop} {reg : ρ} {value : BitVec 32}

theorem readReg_preserves (keeps : device.Keeps Inv allowed) :
    Preserves Inv (readReg device reg impRc : Call μ δ (BitVec 32)) :=
  orLeave_preserves keeps.regRead

theorem writeReg_preserves (keeps : device.Keeps Inv allowed) (isAllowed : allowed reg value) :
    Preserves Inv (writeReg device reg value impRc : Call μ δ Unit) :=
  orLeave_preserves (keeps.regWrite isAllowed)

omit [HasImpRc μ] in
theorem tryWrite_preserves (keeps : device.Keeps Inv allowed) (isAllowed : allowed reg value) :
    Preserves Inv (tryWrite device reg value : Call μ δ Bool) := by
  intro state before
  constructor
  · intro result final ran
    cases ran
    exact keeps.write reg value state.device isAllowed before
  · intro stop final ran
    cases ran

end Accesses

end Preserves

section Reads

variable {μ δ ρ α : Type} [HasImpRc μ] {Inv : δ → Prop} {fails : Prop} {impRc : Nat} {value : α}

theorem setImpRc_reads : Reads Inv fails (setImpRc impRc : Call μ δ Unit) () :=
  Reads.modifyMemory

theorem orLeave_reads {program : EStateM Nat (Attached μ δ) α}
    (reads : Reads Inv fails program value) :
    Reads Inv fails (orLeave impRc program : Call μ δ α) value :=
  orLeave_meets (F := fun device => fails ∧ Inv device) reads

theorem taking_reads {program : Call Nat δ α} (reads : Reads Inv fails program value) :
    Reads Inv fails (taking program : Call μ δ α) value :=
  taking_meets (P := Inv) (F := fun device => fails ∧ Inv device)
    (Q := fun result device => result = value ∧ Inv device) reads

theorem readReg_reads {device : RegDevice ρ δ} {values : ρ → BitVec 32}
    (tells : device.Tells Inv values fails) {reg : ρ} :
    Reads Inv fails (readReg device reg impRc : Call μ δ (BitVec 32)) (values reg) :=
  orLeave_reads tells.regRead

end Reads

section Holds

variable {μ δ ρ α : Type} [HasImpRc μ] {Inv F : δ → Prop} {impRc : Nat}
  {program : EStateM Nat (Attached μ δ) α}

theorem setImpRc_holds : Holds Inv F (setImpRc impRc : Call μ δ Unit) :=
  Holds.modifyMemory

theorem leave_holds (early : ∀ device, Inv device → F device) {rc : Nat} :
    Holds Inv F (leave impRc rc : Call μ δ α) :=
  leave_meets early

theorem orLeave_holds (holds : Holds Inv F program) :
    Holds Inv F (orLeave impRc program : Call μ δ α) :=
  orLeave_meets holds

omit [HasImpRc μ] in
theorem orThrow_holds (holds : Holds Inv F program) :
    Holds Inv F (orThrow program : Call μ δ α) :=
  orThrow_meets holds

section Accesses

variable {device : RegDevice ρ δ} {allowed : ρ → BitVec 32 → Prop} {reg : ρ} {value : BitVec 32}

theorem writeReg_holds (holds : device.Holds Inv allowed F) (isAllowed : allowed reg value) :
    Holds Inv F (writeReg device reg value impRc : Call μ δ Unit) :=
  orLeave_holds (holds.regWrite isAllowed)

end Accesses

end Holds

section Success

variable {μ ρ α β : Type} [HasImpRc μ] {memory : μ} {values : ρ → BitVec 32} {impRc : Nat}
  {Post : α → μ → (ρ → BitVec 32) → Prop}

theorem setImpRc_yields {Post : Unit → μ → (ρ → BitVec 32) → Prop}
    (holds : Post () (HasImpRc.setImpRc impRc memory) values) :
    Yields memory values (setImpRc impRc : Call μ (RegisterFile ρ) Unit) Post :=
  Yields.modifyMemory holds

theorem leave_yields {rc : Nat} :
    Yields memory values (leave impRc rc : Call μ (RegisterFile ρ) α) Post := by
  apply Yields.bindTo (fun _ _ _ => True) (setImpRc_yields trivial)
  exact fun _ _ _ _ => Yields.throw

theorem orLeave_yields {program : EStateM Nat (Attached μ (RegisterFile ρ)) α}
    (yields : Yields memory values program Post) :
    Yields memory values (orLeave impRc program) Post := by
  constructor
  intro state value final sameMemory sameValues ran
  simp only [EStateM.run, orLeave] at ran
  split at ran
  next programRan =>
    cases ran
    exact yields.ended sameMemory sameValues programRan
  next => cases ran

theorem taking_yields {program : Call Nat (RegisterFile ρ) α} {Post : α → (ρ → BitVec 32) → Prop}
    (yields : Yields 0 values program fun value _ after => Post value after) :
    Yields memory values (taking program) fun value after registers =>
      after = memory ∧ Post value registers := by
  constructor
  intro state value final sameMemory sameValues ran
  simp only [EStateM.run, taking] at ran
  split at ran
  next programRan =>
    cases ran
    exact ⟨sameMemory, yields.ended rfl sameValues programRan⟩
  next => cases ran

section Accesses

variable [DecidableEq ρ] {effect : WriteEffect ρ} {reg : ρ} {Post : β → μ → (ρ → BitVec 32) → Prop}
  {value : BitVec 32}

theorem readReg_bind {next : BitVec 32 → Call μ (RegisterFile ρ) β}
    (rest : Yields memory values (next (values reg)) Post) :
    Yields memory values (readReg (registerFile effect) reg impRc >>= next) Post :=
  Yields.known (orLeave_yields (Yields.regRead ⟨rfl, rfl, rfl⟩)) rest

theorem writeReg_bind {next : Unit → Call μ (RegisterFile ρ) β}
    (rest : Yields memory (effect reg value values) (next ()) Post) :
    Yields memory values (writeReg (registerFile effect) reg value impRc >>= next) Post :=
  Yields.known (orLeave_yields (Yields.regWrite ⟨rfl, rfl, rfl⟩)) rest

theorem writeReg_yields {Post : Unit → μ → (ρ → BitVec 32) → Prop}
    (holds : Post () memory (effect reg value values)) :
    Yields memory values (writeReg (registerFile effect) reg value impRc) Post :=
  orLeave_yields (Yields.regWrite holds)

end Accesses

end Success

section Requests

open Dar
open StatCounters (darFirstImpSpecError)

/-- `rio_pc_reset_port_in_t`. -/
structure PcResetPortIn where
  portNum : Nat
  oobRegAcc : Bool
  regAccPort : Nat
  resetLp : Bool
  preserveConfig : Bool

/-- The request that may reset the whole device. -/
def PcResetPortIn.wholeDevice (inParms : PcResetPortIn) : Bool :=
  inParms.portNum = rioAllPorts && inParms.resetLp && !inParms.preserveConfig

/-- `rio_pc_clr_errs_in_t`; `lp_dev_info` may be `NULL`. -/
structure PcClrErrsIn where
  portNum : Nat
  clrLpPortErr : Bool
  lpDevInfo : Option DarDevInfo
  numLpPorts : Nat
  lpPortList : Nat → Nat

def pcResetPort (code : Nat) : Nat := darFirstImpSpecError + 0x400 + code

def pcClrErrs (code : Nat) : Nat := darFirstImpSpecError + 0x600 + code

/-- `RIO_SPX_LM_REQ_CMD_RST_DEV`, which is `STYPE1_LREQ_CMD_RST_DEV`: a request to the link partner
to reset itself. -/
def lreqCmdRstDev : BitVec 32 := 0x00000003

end Requests

end RioFabric.PortConfig

import RioFabric.Dar.PortControl
import RioFabric.Dar.RegAccess

/-!
# Lockout in an emergency

A port is locked out with one write, and no read: the other bits of its control register are taken
from a copy.  The copies are made when the device is discovered.  The routine that is to keep them
up to date is not called by the register accesses.
-/

namespace RioFabric.Dar

open Lib

/-- What `DARrioEmergencyLockout` writes, and where.  There are as many copies as a device may have
ports. -/
def emergencyLockoutWrite (dev : DarDevInfo) (portNum : Nat) :
    Except PtlStop (BitVec 32 × BitVec 32) :=
  if !dev.valid then .error (.code darDbInvalidHandle)
  else if dev.extFPtrForPort ≠ 0 ∧ rioSpVld dev.extFPtrPortType ∧ portNum < dev.numPorts then
    if rioMaxPorts ≤ portNum then .error .outOfBounds
    else .ok (dev.ctl portNum, dev.ctl1Reg portNum ||| rioSpxCtlLockout)
  else .error (.code rioErrInvalidParameter)

section Calls

variable {δ : Type} (device : RegDevice (BitVec 32) δ)

def darRioEmergencyLockout (portNum : Nat) :
    EStateM PtlStop (Attached DarDevInfo δ) Unit := fun state =>
  match emergencyLockoutWrite state.memory portNum with
  | .error stop => .error stop state
  | .ok (offset, writedata) =>
    match (darRegWrite device offset writedata).run state with
    | .ok _ final => .ok () final
    | .error rc final => .error (.code rc) final

/-- A register access. -/
inductive DarAccess where
  | regRead (offset : BitVec 32)
  | regWrite (offset writedata : BitVec 32)

/-- The register that is accessed. -/
def DarAccess.offset : DarAccess → BitVec 32
  | regRead offset => offset
  | regWrite offset _ => offset

/-- Make an access; it gives the value that is read or written. -/
def DarAccess.perform : DarAccess → DarProgram δ (BitVec 32)
  | regRead offset => darRegRead device offset
  | regWrite offset writedata => do
      darRegWrite device offset writedata
      pure writedata

/-- Make accesses, as long as they succeed, and keep the last value of one register. -/
def lastValue (reg : BitVec 32) (accesses : List DarAccess) :
    DarProgram δ (Option (BitVec 32)) :=
  accesses.foldlM (fun last access => do
    let value ← access.perform device
    pure (if access.offset = reg then some value else last)) none

end Calls

/-- Two records differ only in what register accesses change. -/
def SameRecord (dev other : DarDevInfo) : Prop :=
  other = { dev with scratchpad := other.scratchpad, poregs := other.poregs }

section Record

variable {dev other : DarDevInfo}

theorem SameRecord.refl : SameRecord dev dev := rfl

section

variable (same : SameRecord dev other)
include same

theorem SameRecord.scratchpad (scratchpad : Nat → BitVec 32) :
    SameRecord dev { other with scratchpad } := by
  rw [SameRecord] at same ⊢
  rw [same]

theorem SameRecord.poregs (poregs : Option (List RioPerfOptReg)) :
    SameRecord dev { other with poregs } := by
  rw [SameRecord] at same ⊢
  rw [same]

theorem SameRecord.updatePoreg {offset data : BitVec 32} :
    SameRecord dev (updatePoreg other offset data) := by
  rw [Dar.updatePoreg]
  split
  · exact same.poregs _
  · exact same

theorem SameRecord.emergencyLockoutWrite_eq (portNum : Nat) :
    emergencyLockoutWrite other portNum = emergencyLockoutWrite dev portNum := by
  rw [same]
  rfl

theorem SameRecord.valid_eq : other.valid = dev.valid := by
  rw [same]
  rfl

end

end Record

section Frames

variable {δ : Type} {device : RegDevice (BitVec 32) δ} {dev : DarDevInfo}
  {offset writedata : BitVec 32}

/-- However a routine ends, the record is the same. -/
def KeepsRecord {α : Type} (dev : DarDevInfo) (program : DarProgram δ α) : Prop :=
  Meets (fun state => SameRecord dev state.memory) program
    (fun _ state => SameRecord dev state.memory) fun _ state => SameRecord dev state.memory

theorem KeepsRecord.regRead : KeepsRecord dev (regRead device offset id) :=
  meets_regRead fun _ _ same => same

theorem KeepsRecord.regWrite : KeepsRecord dev (regWrite device offset writedata id) :=
  meets_regWrite fun _ _ same => same

theorem KeepsRecord.pure {α : Type} (value : α) :
    KeepsRecord dev (Pure.pure value : DarProgram δ α) :=
  Meets.pure fun _ same => same

theorem KeepsRecord.throw {α : Type} (code : Nat) :
    KeepsRecord dev (throw code : DarProgram δ α) :=
  Meets.throw fun _ same => same

theorem KeepsRecord.failIf (condition : Prop) [Decidable condition] (code : Nat) :
    KeepsRecord dev (failIf condition code : DarProgram δ Unit) :=
  Meets.failIf (fun _ same _ => same) fun _ same _ => same

theorem KeepsRecord.getDev : KeepsRecord dev (getDev : DarProgram δ DarDevInfo) :=
  Meets.getBind fun _ _ => Meets.pure fun _ same => same

theorem KeepsRecord.bind {α β : Type} {first : DarProgram δ α} {next : α → DarProgram δ β}
    (head : KeepsRecord dev first) (tail : ∀ value, KeepsRecord dev (next value)) :
    KeepsRecord dev (first >>= next) :=
  Meets.bind head tail

theorem KeepsRecord.modifyDev {change : DarDevInfo → DarDevInfo}
    (keeps : ∀ other, SameRecord dev other → SameRecord dev (change other)) :
    KeepsRecord dev (modifyDev change : DarProgram δ Unit) :=
  meets_modifyMemory keeps

theorem tsi57xReadReg_keeps : KeepsRecord dev (tsi57xReadReg device offset) := by
  rw [tsi57xReadReg]
  split
  · exact .regRead
  · split
    · exact .bind .getDev fun _ => .pure _
    · exact .regRead

theorem tsi57xWriteReg_keeps : KeepsRecord dev (tsi57xWriteReg device offset writedata) := by
  rw [tsi57xWriteReg]
  apply KeepsRecord.bind .regWrite
  intro _
  split
  · apply KeepsRecord.bind (.modifyDev fun other same => same.scratchpad _)
    intro _
    exact .failIf _ _
  · exact .pure ()

theorem tsi721ReadReg_keeps : KeepsRecord dev (tsi721ReadReg device offset) := by
  rw [tsi721ReadReg]
  split
  · exact .pure _
  split
  · exact .bind .regRead fun _ => .pure _
  split
  · exact .bind .regRead fun _ => .pure _
  · exact .regRead

theorem tsi721WriteReg_keeps : KeepsRecord dev (tsi721WriteReg device offset writedata) := by
  rw [tsi721WriteReg]
  split
  · exact .regWrite
  split
  · exact .bind .regWrite fun _ => .regWrite
  split
  · exact .regWrite
  · exact .regWrite

theorem familyRead_keeps {family : RioDriverFamily} :
    KeepsRecord dev (familyRead device family offset) := by
  cases family with
  | rxs => exact .regRead
  | cps => exact .regRead
  | unknown => exact .regRead
  | tsi57x => exact tsi57xReadReg_keeps
  | tsi721 => exact tsi721ReadReg_keeps
  | uninitialized => exact .throw _

theorem familyWrite_keeps {family : RioDriverFamily} :
    KeepsRecord dev (familyWrite device family offset writedata) := by
  cases family with
  | rxs => exact .regWrite
  | cps => exact .regWrite
  | unknown => exact .regWrite
  | tsi57x => exact tsi57xWriteReg_keeps
  | tsi721 => exact tsi721WriteReg_keeps
  | uninitialized => exact .throw _

/-- An access changes nothing of the record but what accesses may change. -/
theorem perform_meets (access : DarAccess) :
    Meets (fun state => SameRecord dev state.memory) (access.perform device)
      (fun _ state => SameRecord dev state.memory ∧ dev.valid = true)
      fun _ state => SameRecord dev state.memory := by
  have guarded : ∀ {α : Type} {next : DarDevInfo → DarProgram δ α},
      (∀ start, KeepsRecord dev (next start)) →
      Meets (fun state => SameRecord dev state.memory)
        (getDev >>= fun start => failIf (!start.valid) darDbInvalidHandle >>= fun _ => next start)
        (fun _ state => SameRecord dev state.memory ∧ dev.valid = true)
        fun _ state => SameRecord dev state.memory := by
    intro α next keeps
    rw [getDev, bind_assoc]
    apply Meets.getBind
    intro start same
    rw [pure_bind]
    apply Meets.failIfBind
    · exact fun _ same _ => same
    intro isValid
    apply (keeps start.memory).weakenPost
    intro _ state after
    refine ⟨after, ?_⟩
    rw [← same.valid_eq]
    simpa using isValid
  cases access with
  | regRead offset =>
    apply guarded
    intro start
    split
    · exact .pure _
    · exact familyRead_keeps
  | regWrite offset writedata =>
    have writes := @guarded _ (fun start => do
      familyWrite device start.driverFamily offset writedata
      modifyDev fun dev => updatePoreg dev offset writedata) fun start =>
        .bind familyWrite_keeps fun _ => .modifyDev fun _ same => same.updatePoreg
    apply Meets.bind writes
    intro _
    exact Meets.pure fun _ after => after

/-- So does a whole sequence of accesses. -/
theorem lastValue_meets {reg : BitVec 32} {accesses : List DarAccess} :
    Meets (fun state => SameRecord dev state.memory) (lastValue device reg accesses)
      (fun last state => SameRecord dev state.memory ∧ (last ≠ none → dev.valid = true))
      fun _ state => SameRecord dev state.memory := by
  have loop := @Meets.foldlM Nat (Attached DarDevInfo δ) (Option (BitVec 32))
    (fun _ state => SameRecord dev state.memory) DarAccess accesses
    (fun last access => do
      let value ← access.perform device
      pure (if access.offset = reg then some value else last))
    (fun last state => SameRecord dev state.memory ∧ (last ≠ none → dev.valid = true))
    (fun last access _ => by
      apply Meets.bind ((perform_meets access).weakenPre fun _ before => before.1)
      intro value
      apply Meets.pure
      rintro state ⟨same, isValid⟩
      exact ⟨same, fun _ => isValid⟩) none
  exact loop.weakenPre fun _ same => ⟨same, fun isNone => absurd rfl isNone⟩

end Frames

/-- After accesses, a port is locked out with what its register held if and only if it has a copy,
and the copy that was made at discovery has the same bits. -/
theorem emergencyLockoutWrite_eq_iff {δ : Type} {device : RegDevice (BitVec 32) δ}
    {start final : Attached DarDevInfo δ} (block : start.memory.HasPortBlock) {portNum : Nat}
    {accesses : List DarAccess} {value : BitVec 32}
    (ran : (lastValue device (start.memory.ctl portNum) accesses).run start =
      .ok (some value) final) :
    emergencyLockoutWrite final.memory portNum =
        .ok (start.memory.ctl portNum, value ||| rioSpxCtlLockout) ↔
      portNum < start.memory.numPorts ∧ portNum < rioMaxPorts ∧
        start.memory.ctl1Reg portNum ||| rioSpxCtlLockout = value ||| rioSpxCtlLockout := by
  obtain ⟨normal, -⟩ := @lastValue_meets _ device start.memory (start.memory.ctl portNum) accesses
    start .refl
  obtain ⟨same, isValid⟩ := normal ran
  rw [same.emergencyLockoutWrite_eq, emergencyLockoutWrite, isValid (Option.some_ne_none value),
    if_neg (by decide)]
  by_cases inDevice : portNum < start.memory.numPorts
  · rw [if_pos ⟨block.1, block.2, inDevice⟩, and_iff_right inDevice]
    by_cases hasCopy : portNum < rioMaxPorts
    · rw [if_neg (Nat.not_le.mpr hasCopy), and_iff_right hasCopy, Except.ok.injEq,
        Prod.mk.injEq, and_iff_right rfl]
    · rw [if_pos (Nat.le_of_not_lt hasCopy)]
      exact iff_of_false (fun impossible => by cases impossible) fun both => hasCopy both.1
  · rw [if_neg fun all => inDevice all.2.2]
    exact iff_of_false (fun impossible => by cases impossible) fun both => inDevice both.1

/-- The registers of `twoPortDevice`, with the copies that were made at discovery. -/
def discovered : Attached DarDevInfo (RegisterFile (BitVec 32)) :=
  ⟨twoPortDevice, fun _ => 0, fun _ _ => 0⟩

/-- Ports that were enabled for packets in both directions at discovery, and still are. -/
def enabledPorts : Attached DarDevInfo (RegisterFile (BitVec 32)) :=
  ⟨{ twoPortDevice with ctl1Reg := fun _ => rioSpxCtlInpEn ||| rioSpxCtlOtpEn },
    fun _ => rioSpxCtlInpEn ||| rioSpxCtlOtpEn, fun _ _ => 0⟩

/-- A port that is locked out by a write, read back, and locked out again. -/
theorem emergencyLockoutWrite_eq_iff_lockedTwice : ∃ final,
    (lastValue (registerFile store) (twoPortDevice.ctl 1)
      [.regWrite (twoPortDevice.ctl 1) 0x00600002, .regRead (twoPortDevice.ctl 1)]).run
      enabledPorts = .ok (some 0x00600002) final ∧
    emergencyLockoutWrite final.memory 1 = .ok (twoPortDevice.ctl 1, 0x00600002) := by
  have ends : endsWith (fun last _ => last = some 0x00600002) ((lastValue (registerFile store)
      (twoPortDevice.ctl 1) [.regWrite (twoPortDevice.ctl 1) 0x00600002,
        .regRead (twoPortDevice.ctl 1)]).run enabledPorts) = true := by
    decide +kernel
  obtain ⟨last, final, ran, isLast⟩ := exists_of_endsWith ends
  cases of_decide_eq_true isLast
  have block : enabledPorts.memory.HasPortBlock := ⟨by decide, by decide⟩
  exact ⟨final, ran, (@emergencyLockoutWrite_eq_iff _ _ enabledPorts final block 1 _ _ ran).mpr
    ⟨by decide, by decide, by decide⟩⟩

/-- The port is enabled for packets after discovery, and the lockout takes this back. -/
theorem lockout_not_tracked : ¬∀ (device : RegDevice (BitVec 32) (RegisterFile (BitVec 32)))
    (start final : Attached DarDevInfo (RegisterFile (BitVec 32))) (portNum : Nat)
    (accesses : List DarAccess) (value : BitVec 32),
    start.memory.HasPortBlock → portNum < start.memory.numPorts →
      (lastValue device (start.memory.ctl portNum) accesses).run start = .ok (some value) final →
        emergencyLockoutWrite final.memory portNum =
          .ok (start.memory.ctl portNum, value ||| rioSpxCtlLockout) := by
  intro always
  have ends : endsWith (fun last final => last = some rioSpxCtlInpEn ∧
      emergencyLockoutWrite final.memory 1 =
        .ok (twoPortDevice.ctl 1, rioSpxCtlLockout))
      ((lastValue (registerFile store) (twoPortDevice.ctl 1)
        [.regWrite (twoPortDevice.ctl 1) rioSpxCtlInpEn]).run discovered) = true := by
    decide +kernel
  obtain ⟨last, final, ran, test⟩ := exists_of_endsWith ends
  obtain ⟨rfl, written⟩ := of_decide_eq_true test
  have kept := always (registerFile store) discovered final 1 _ _ ⟨by decide, by decide⟩
    (by decide) ran
  exact absurd (written.symm.trans kept) (by decide)

end RioFabric.Dar

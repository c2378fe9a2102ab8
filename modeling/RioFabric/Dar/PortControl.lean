import Mathlib.Data.List.TakeWhile
import RioFabric.Dar.GetPortList
import RioFabric.Lib.Bits
import RioFabric.Lib.Masks
import RioFabric.Lib.RegisterFile

/-!
# Control registers of ports

Two routines set bits in the control registers of the ports of a list.  Both keep one result for
all ports, so that what they return is about the last one.
-/

namespace RioFabric.Dar

open Lib

/-! ## Registers -/

/-- `RIO_EFB_T_SP_EP`, `RIO_EFB_T_SP_EP_SAER`, `RIO_EFB_T_SP_NOEP` and `RIO_EFB_T_SP_NOEP_SAER`. -/
def rioSp12Types : List (BitVec 32) := [0x0001, 0x0002, 0x0003, 0x0009]

/-- `RIO_EFB_T_SP_EP3`, `RIO_EFB_T_SP_EP3_SAER`, `RIO_EFB_T_SP_NOEP3` and
`RIO_EFB_T_SP_NOEP3_SAER`. -/
def rioSp3Types : List (BitVec 32) := [0x0011, 0x0012, 0x0013, 0x0019]

def rioSpVld (t : BitVec 32) : Bool := t ∈ rioSp12Types ++ rioSp3Types

def rioSpStep (t : BitVec 32) : BitVec 32 := if t ∈ rioSp3Types then 0x40 else 0x20

def rioSpxCtl (b t : BitVec 32) (p : Nat) : BitVec 32 :=
  if rioSpVld t then b + 0x5c + rioSpStep t * BitVec.ofNat 32 p else 0

def rioSpxCtlLockout : BitVec 32 := 0x00000002

def rioSpxCtlEnumB : BitVec 32 := 0x00020000

def rioSpxCtlInpEn : BitVec 32 := 0x00200000

def rioSpxCtlOtpEn : BitVec 32 := 0x00400000

def rioSpxCtlPortDis : BitVec 32 := 0x00800000

/-- The control register of a port. -/
def DarDevInfo.ctl (dev : DarDevInfo) (pnum : Nat) : BitVec 32 :=
  rioSpxCtl dev.extFPtrForPort dev.extFPtrPortType pnum

/-- The block with the registers of the ports was found. -/
def DarDevInfo.HasPortBlock (dev : DarDevInfo) : Prop :=
  dev.extFPtrForPort ≠ 0 ∧ rioSpVld dev.extFPtrPortType = true

theorem ctl_injOn {dev : DarDevInfo} (block : dev.HasPortBlock) {pnum other : Nat}
    (small : pnum < 256) (smallOther : other < 256) (same : dev.ctl pnum = dev.ctl other) :
    pnum = other := by
  rw [DarDevInfo.ctl, DarDevInfo.ctl, rioSpxCtl, rioSpxCtl, if_pos block.2, if_pos block.2,
    rioSpStep] at same
  split at same
  · bv_omega
  · bv_omega

/-! ## The routines -/

/-- A routine that makes a port list in memory; the registers are accessed past the cache. -/
abbrev PortProgram (δ : Type) := EStateM PtlStop (Attached PtlFrame δ)

section Routines

variable {δ : Type} (device : RegDevice (BitVec 32) δ) (dev : DarDevInfo)

def makeList (ptl : Option DarPtl) : PortProgram δ (List Nat) := fun state =>
  match (darRioGetPortList dev ptl).run state.memory with
  | .ok _ goodPtl => .ok goodPtl.out.ports { state with memory := goodPtl }
  | .error stop goodPtl => .error stop { state with memory := goodPtl }

/-- A read whose failure does not stop the routine. -/
def tryRead (offset : BitVec 32) : PortProgram δ (Except Nat (BitVec 32)) := fun state =>
  .ok (device.read offset state.device).1
    { state with device := (device.read offset state.device).2 }

/-- A write whose failure does not stop the routine. -/
def tryWrite (offset writedata : BitVec 32) : PortProgram δ Nat := fun state =>
  .ok ((device.write offset writedata state.device).1.getD 0)
    { state with device := (device.write offset writedata state.device).2 }

/-- The new value of a control register in `DARrioPortEnable`. -/
def portEnableBits (portEna portLkout inOutEna : Bool) (reg : BitVec 32) : BitVec 32 :=
  let reg := if portEna then reg &&& ~~~rioSpxCtlPortDis else reg ||| rioSpxCtlPortDis
  let reg := if portLkout then reg ||| rioSpxCtlLockout else reg &&& ~~~rioSpxCtlLockout
  if inOutEna then reg ||| (rioSpxCtlInpEn ||| rioSpxCtlOtpEn)
  else reg &&& ~~~(rioSpxCtlInpEn ||| rioSpxCtlOtpEn)

/-- A turn of the loop of `DARrioPortEnable`, which gives its `rc`. -/
def enablePort (portEna portLkout inOutEna : Bool) (pnum : Nat) : PortProgram δ Nat := do
  let portNCtrl1Reg ← regRead device (dev.ctl pnum) .code
  tryWrite device (dev.ctl pnum) (portEnableBits portEna portLkout inOutEna portNCtrl1Reg)

def darRioPortEnable (ptl : Option DarPtl) (portEna portLkout inOutEna : Bool) :
    PortProgram δ Unit := do
  failIf (!dev.valid) (.code darDbInvalidHandle)
  failIf ptl.isNone (.code rioErrNullParmPtr)
  let ports ← makeList dev ptl
  let rc ← ports.foldlM (fun _ => enablePort device dev portEna portLkout inOutEna) 0
  failIf (rc ≠ 0) (.code rc)

/-- The new value of a control register in `DARDB_rioSetEnumBound`. -/
def enumBoundBits (enumBndVal : Bool) (reg : BitVec 32) : BitVec 32 :=
  if enumBndVal then reg ||| rioSpxCtlEnumB else reg &&& ~~~rioSpxCtlEnumB

/-- A turn of the loop of `DARDB_rioSetEnumBound`, which gives its `rc`. -/
def boundPort (enumBndVal : Bool) (pnum : Nat) : PortProgram δ Nat := do
  match ← tryRead device (dev.ctl pnum) with
  | .error rc => pure rc
  | .ok currCSR =>
    let tempCSR := enumBoundBits enumBndVal currCSR
    if tempCSR = currCSR then pure 0
    else do
      let rc ← tryWrite device (dev.ctl pnum) tempCSR
      if rc ≠ 0 then pure rc
      else
        match ← tryRead device (dev.ctl pnum) with
        | .ok tempCSR => pure (if tempCSR ≠ currCSR then rioErrFeatureNotSupported else 0)
        -- A read that fails leaves what was written.
        | .error rc => pure (if tempCSR ≠ currCSR then rioErrFeatureNotSupported else rc)

def darDbRioSetEnumBound (ptl : Option DarPtl) (enumBndVal : Bool) : PortProgram δ Unit := do
  failIf (dev.extFPtrForPort = 0) (.code rioErrFeatureNotSupported)
  let ports ← makeList dev ptl
  let rc ← ports.foldlM (fun _ => boundPort device dev enumBndVal) 0
  failIf (rc ≠ 0) (.code rc)

end Routines

/-! ## Bits that are requested -/

/-- The bits that `DARrioPortEnable` is to set or clear. -/
def portEnableMask : BitVec 32 :=
  rioSpxCtlPortDis ||| rioSpxCtlLockout ||| (rioSpxCtlInpEn ||| rioSpxCtlOtpEn)

/-- Those of them that it is to set. -/
def portEnableSet (portEna portLkout inOutEna : Bool) : BitVec 32 :=
  (if portEna then 0 else rioSpxCtlPortDis) ||| (if portLkout then rioSpxCtlLockout else 0) |||
    (if inOutEna then rioSpxCtlInpEn ||| rioSpxCtlOtpEn else 0)

theorem portEnableBits_eq {portEna portLkout inOutEna : Bool} (reg : BitVec 32) :
    portEnableBits portEna portLkout inOutEna reg =
      putBits portEnableMask (portEnableSet portEna portLkout inOutEna) reg := by
  have first : (if portEna then reg &&& ~~~rioSpxCtlPortDis else reg ||| rioSpxCtlPortDis) =
      putBits rioSpxCtlPortDis (if portEna then 0 else rioSpxCtlPortDis) reg := by
    cases portEna
    · exact or_eq_putBits
    · exact and_not_eq_putBits
  have second : ∀ reg : BitVec 32,
      (if portLkout then reg ||| rioSpxCtlLockout else reg &&& ~~~rioSpxCtlLockout) =
        putBits rioSpxCtlLockout (if portLkout then rioSpxCtlLockout else 0) reg := by
    intro reg
    cases portLkout
    · exact and_not_eq_putBits
    · exact or_eq_putBits
  have third : ∀ reg : BitVec 32,
      (if inOutEna then reg ||| (rioSpxCtlInpEn ||| rioSpxCtlOtpEn)
        else reg &&& ~~~(rioSpxCtlInpEn ||| rioSpxCtlOtpEn)) =
        putBits (rioSpxCtlInpEn ||| rioSpxCtlOtpEn)
          (if inOutEna then rioSpxCtlInpEn ||| rioSpxCtlOtpEn else 0) reg := by
    intro reg
    cases inOutEna
    · exact and_not_eq_putBits
    · exact or_eq_putBits
  dsimp only [portEnableBits]
  rw [third, second, first, putBits_putBits, putBits_putBits]
  congr 1
  cases portEna <;> cases portLkout <;> cases inOutEna <;> rfl

theorem enumBoundBits_eq {enumBndVal : Bool} (reg : BitVec 32) : enumBoundBits enumBndVal reg =
    putBits rioSpxCtlEnumB (if enumBndVal then rioSpxCtlEnumB else 0) reg := by
  cases enumBndVal
  · exact and_not_eq_putBits
  · exact or_eq_putBits

/-! ## Honest reports -/

/-- A routine returns `RIO_SUCCESS` if and only if the list is valid and the control registers of
its ports end with some bits changed as requested, and the others as they were. -/
def Honest (dev : DarDevInfo) (ptl : DarPtl) (mask bits : BitVec 32)
    (program : PortProgram (RegisterFile (BitVec 32)) Unit)
    (start : Attached PtlFrame (RegisterFile (BitVec 32))) : Prop :=
  succeeded (program.run start) = true ↔
    ∃ goodPtl, (darRioGetPortList dev (some ptl)).run start.memory = .ok () goodPtl ∧
      ∀ pnum ∈ goodPtl.out.ports, (finalState (program.run start)).device.value (dev.ctl pnum) =
        putBits mask bits (start.device.value (dev.ctl pnum))

section Conditions

variable (dev : DarDevInfo) (before : RegisterFile (BitVec 32))

/-- The first read of the control register of a port succeeds. -/
def ReadOk (pnum : Nat) : Prop := before.fault (.read (dev.ctl pnum)) = 0

instance (pnum : Nat) : Decidable (ReadOk dev before pnum) := inferInstanceAs (Decidable (_ = _))

/-- The first write of the control register of a port succeeds. -/
def WriteOk (pnum : Nat) : Prop := before.fault (.write (dev.ctl pnum)) = 0

/-- The control register of a port has the bits already. -/
def HasBits (mask bits : BitVec 32) (pnum : Nat) : Prop :=
  putBits mask bits (before.value (dev.ctl pnum)) = before.value (dev.ctl pnum)

instance (mask bits : BitVec 32) (pnum : Nat) : Decidable (HasBits dev before mask bits pnum) :=
  inferInstanceAs (Decidable (_ = _))

/-- The ports before the first one whose read fails. -/
def reached (ports : List Nat) : List Nat := ports.takeWhile fun pnum => ReadOk dev before pnum

/-- When `DARrioPortEnable` reports honestly: all reads and the last write succeed if and only if
no port is left that lacks the bits. -/
def EnableHonest (mask bits : BitVec 32) (ports : List Nat) : Prop :=
  ((∀ pnum ∈ ports, ReadOk dev before pnum) ∧ ∀ pnum ∈ ports.getLast?, WriteOk dev before pnum) ↔
    ∀ pnum ∈ ports, pnum ∈ reached dev before ports ∧ WriteOk dev before pnum ∨
      HasBits dev before mask bits pnum

/-- When `DARDB_rioSetEnumBound` reports honestly: the last port can be read and has the bit if
and only if no port is left that lacks it. -/
def BoundHonest (mask bits : BitVec 32) (ports : List Nat) : Prop :=
  (∀ pnum ∈ ports.getLast?, ReadOk dev before pnum ∧ HasBits dev before mask bits pnum) ↔
    ∀ pnum ∈ ports, ReadOk dev before pnum ∧ WriteOk dev before pnum ∨
      HasBits dev before mask bits pnum

/-- A condition on the ports of the list, if it is made. -/
def OfList (ptl : DarPtl) (frame : PtlFrame) (holds : List Nat → Prop) : Prop :=
  ∀ goodPtl, (darRioGetPortList dev (some ptl)).run frame = .ok () goodPtl →
    holds goodPtl.out.ports

end Conditions

/-! ## Loops over ports -/

section Loops

variable {dev : DarDevInfo} {before file : RegisterFile (BitVec 32)} {mask bits : BitVec 32}
  {written : Nat → Prop} {done ports : List Nat} {pnum : Nat} {left : List Nat}

/-- The ports of a list are handled: the registers of some are written, the others are as they
were, and there were no accesses to other registers. -/
structure Handled (dev : DarDevInfo) (before : RegisterFile (BitVec 32)) (mask bits : BitVec 32)
    (written : Nat → Prop) (done : List Nat) (file : RegisterFile (BitVec 32)) : Prop where
  changed : ∀ pnum ∈ done, written pnum →
    file.value (dev.ctl pnum) = putBits mask bits (before.value (dev.ctl pnum))
  kept : ∀ offset, (∀ pnum ∈ done, written pnum → dev.ctl pnum ≠ offset) →
    file.value offset = before.value offset
  faults : ∀ offset, (∀ pnum ∈ done, dev.ctl pnum ≠ offset) →
    file.fault (.read offset) = before.fault (.read offset) ∧
      file.fault (.write offset) = before.fault (.write offset)

theorem Handled.start : Handled dev before mask bits written [] before where
  changed _ isMember := absurd isMember List.not_mem_nil
  kept _ _ := rfl
  faults _ _ := ⟨rfl, rfl⟩

section

variable (handled : Handled dev before mask bits written done file)
include handled

theorem Handled.fresh (isFresh : ∀ other ∈ done, dev.ctl other ≠ dev.ctl pnum) :
    file.value (dev.ctl pnum) = before.value (dev.ctl pnum) ∧
      file.fault (.read (dev.ctl pnum)) = before.fault (.read (dev.ctl pnum)) ∧
      file.fault (.write (dev.ctl pnum)) = before.fault (.write (dev.ctl pnum)) :=
  ⟨handled.kept _ fun other isDone _ => isFresh other isDone, handled.faults _ isFresh⟩

theorem Handled.writeAfterRead (isFresh : ∀ other ∈ done, dev.ctl other ≠ dev.ctl pnum) :
    (file.pass (.read (dev.ctl pnum))).fault (.write (dev.ctl pnum)) =
      before.fault (.write (dev.ctl pnum)) :=
  (RegisterFile.fault_pass_of_ne (by simp)).trans (handled.fresh isFresh).2.2

/-- A turn that writes at most its own register handles one more port. -/
theorem Handled.step {after : RegisterFile (BitVec 32)}
    (isFresh : ∀ other ∈ done, dev.ctl other ≠ dev.ctl pnum)
    (changed : written pnum →
      after.value = Function.update file.value (dev.ctl pnum)
        (putBits mask bits (before.value (dev.ctl pnum))))
    (kept : ¬written pnum → after.value = file.value)
    (faults : ∀ offset, dev.ctl pnum ≠ offset →
      after.fault (.read offset) = file.fault (.read offset) ∧
        after.fault (.write offset) = file.fault (.write offset)) :
    Handled dev before mask bits written (done ++ [pnum]) after := by
  have others : ∀ offset, dev.ctl pnum ≠ offset → after.value offset = file.value offset := by
    intro offset different
    by_cases isWritten : written pnum
    · rw [changed isWritten, Function.update_of_ne different.symm]
    · rw [kept isWritten]
  refine ⟨fun other isMember isWritten => ?_, fun offset free => ?_, fun offset free => ?_⟩
  · rcases List.mem_append.mp isMember with isDone | isLast
    · rw [others _ (isFresh other isDone).symm, handled.changed other isDone isWritten]
    · cases List.mem_singleton.mp isLast
      rw [changed isWritten, Function.update_self]
  · have freeBefore : ∀ other ∈ done, written other → dev.ctl other ≠ offset :=
      fun other isDone => free other (List.mem_append_left _ isDone)
    by_cases isWritten : written pnum
    · have different := free pnum (List.mem_append_right _ (List.mem_singleton_self pnum)) isWritten
      rw [others offset different, handled.kept offset freeBefore]
    · rw [kept isWritten, handled.kept offset freeBefore]
  · have different := free pnum (List.mem_append_right _ (List.mem_singleton_self pnum))
    have freeBefore := fun other isDone => free other (List.mem_append_left _ isDone)
    obtain ⟨sameRead, sameWrite⟩ := faults offset different
    obtain ⟨readBefore, writeBefore⟩ := handled.faults offset freeBefore
    exact ⟨sameRead.trans readBefore, sameWrite.trans writeBefore⟩

theorem Handled.value_iff (apart : ∀ other ∈ done, dev.ctl other = dev.ctl pnum → other = pnum) :
    file.value (dev.ctl pnum) = putBits mask bits (before.value (dev.ctl pnum)) ↔
      pnum ∈ done ∧ written pnum ∨ HasBits dev before mask bits pnum := by
  by_cases isWritten : pnum ∈ done ∧ written pnum
  · exact iff_of_true (handled.changed pnum isWritten.1 isWritten.2) (.inl isWritten)
  · have unchanged := handled.kept (dev.ctl pnum) fun other isDone otherWritten same => by
      cases apart other isDone same
      exact isWritten ⟨isDone, otherWritten⟩
    rw [unchanged, or_iff_right isWritten]
    exact eq_comm

end

/-! ### Accesses whose failure does not stop -/

variable {μ : Type} {effect : WriteEffect (BitVec 32)} {offset data : BitVec 32}
  {Pre : Attached PtlFrame (RegisterFile (BitVec 32)) → Prop}
  {Fail : PtlStop → Attached PtlFrame (RegisterFile (BitVec 32)) → Prop}

theorem tryWrite_file_meets {Post : Nat → Attached PtlFrame (RegisterFile (BitVec 32)) → Prop}
    (ok : ∀ state, Pre state → state.device.fault (.write offset) = 0 →
      Post 0 ⟨state.memory, { state.device.pass (.write offset) with
        value := effect offset data state.device.value }⟩)
    (fails : ∀ state, Pre state → state.device.fault (.write offset) ≠ 0 →
      Post (state.device.fault (.write offset)) ⟨state.memory, state.device.pass (.write offset)⟩) :
    Meets Pre (tryWrite (registerFile effect) offset data) Post Fail := by
  intro state before
  refine ⟨fun rc final ran => ?_, fun _ _ ran => by cases ran⟩
  simp only [EStateM.run, tryWrite, registerFile] at ran
  cases isFault : state.device.fault (.write offset) with
  | zero =>
    rw [isFault] at ran
    cases ran
    exact ok state before isFault
  | succ failure =>
    rw [isFault] at ran
    cases ran
    have holds := fails state before (by rw [isFault]; exact Nat.succ_ne_zero failure)
    rw [isFault] at holds
    exact holds

theorem tryRead_file_meets
    {Post : Except Nat (BitVec 32) → Attached PtlFrame (RegisterFile (BitVec 32)) → Prop}
    (ok : ∀ state, Pre state → state.device.fault (.read offset) = 0 →
      Post (.ok (state.device.value offset)) ⟨state.memory, state.device.pass (.read offset)⟩)
    (fails : ∀ state, Pre state → state.device.fault (.read offset) ≠ 0 →
      Post (.error (state.device.fault (.read offset)))
        ⟨state.memory, state.device.pass (.read offset)⟩) :
    Meets Pre (tryRead (registerFile effect) offset) Post Fail := by
  intro state before
  refine ⟨fun rc final ran => ?_, fun _ _ ran => by cases ran⟩
  simp only [EStateM.run, tryRead, registerFile] at ran
  cases isFault : state.device.fault (.read offset) with
  | zero =>
    rw [isFault] at ran
    cases ran
    exact ok state before isFault
  | succ failure =>
    rw [isFault] at ran
    cases ran
    have holds := fails state before (by rw [isFault]; exact Nat.succ_ne_zero failure)
    rw [isFault] at holds
    exact holds

theorem faults_pass {access : RegAccess (BitVec 32)} {reg : BitVec 32}
    (isAccess : access = .read reg ∨ access = .write reg) (different : reg ≠ offset) :
    (file.pass access).fault (.read offset) = file.fault (.read offset) ∧
      (file.pass access).fault (.write offset) = file.fault (.write offset) := by
  rcases isAccess with rfl | rfl
  · exact ⟨RegisterFile.fault_pass_of_ne (by simpa using different.symm),
      RegisterFile.fault_pass_of_ne (by simp)⟩
  · exact ⟨RegisterFile.fault_pass_of_ne (by simp),
      RegisterFile.fault_pass_of_ne (by simpa using different.symm)⟩

theorem faults_pass_pass {reg : BitVec 32} (different : reg ≠ offset) :
    ((file.pass (.read reg)).pass (.write reg)).fault (.read offset) = file.fault (.read offset) ∧
      ((file.pass (.read reg)).pass (.write reg)).fault (.write offset) =
        file.fault (.write offset) := by
  obtain ⟨read, write⟩ := @faults_pass (file.pass (.read reg)) offset _ reg (.inr rfl) different
  obtain ⟨readBefore, writeBefore⟩ := @faults_pass file offset _ reg (.inl rfl) different
  exact ⟨read.trans readBefore, write.trans writeBefore⟩

theorem Handled.pass (handled : Handled dev before mask bits written done file)
    (isDone : pnum ∈ done) :
    Handled dev before mask bits written done (file.pass (.read (dev.ctl pnum))) where
  changed := handled.changed
  kept := handled.kept
  faults offset free := by
    obtain ⟨read, write⟩ := @faults_pass file offset _ (dev.ctl pnum) (.inl rfl) (free pnum isDone)
    obtain ⟨readBefore, writeBefore⟩ := handled.faults offset free
    exact ⟨read.trans readBefore, write.trans writeBefore⟩

/-! ### `DARrioPortEnable` -/

theorem fresh_of_split (block : dev.HasPortBlock) (numbers : PortNumbers ports)
    (split : ports = done ++ pnum :: left) : ∀ other ∈ done, dev.ctl other ≠ dev.ctl pnum := by
  obtain ⟨nodup, small⟩ := numbers
  rw [split] at nodup small
  intro other isDone same
  have equal := ctl_injOn block (small other (List.mem_append_left _ isDone))
    (small pnum (List.mem_append_right _ List.mem_cons_self)) same
  exact (List.nodup_append.mp nodup).2.2 other isDone pnum List.mem_cons_self equal

theorem reached_eq (split : ports = done ++ pnum :: left)
    (readsOk : ∀ other ∈ done, ReadOk dev before other) (fails : ¬ReadOk dev before pnum) :
    reached dev before ports = done := by
  rw [split, reached,
    List.takeWhile_append_of_pos fun other isDone => decide_eq_true (readsOk other isDone),
    List.takeWhile_cons_of_neg (by simpa using fails), List.append_nil]

theorem reached_eq_self (readsOk : ∀ pnum ∈ ports, ReadOk dev before pnum) :
    reached dev before ports = ports :=
  List.takeWhile_eq_self_iff.mpr fun pnum isMember => decide_eq_true (readsOk pnum isMember)

variable {portEna portLkout inOutEna enumBndVal : Bool}

/-- How the loop of `DARrioPortEnable` stops: at the first read that fails. -/
def EnableStops (dev : DarDevInfo) (before : RegisterFile (BitVec 32)) (mask bits : BitVec 32)
    (ports : List Nat) (_ : PtlStop) (state : Attached PtlFrame (RegisterFile (BitVec 32))) :
    Prop :=
  (∃ pnum ∈ ports, ¬ReadOk dev before pnum) ∧ ∃ file, Handled dev before mask bits
    (WriteOk dev before) (reached dev before ports) file ∧ state.device.value = file.value

/-- One port of `DARrioPortEnable`: a read that fails stops the loop, a write that fails is
returned if it is the last. -/
theorem enablePort_meets {carried : Nat}
    (changes : ∀ reg, portEnableBits portEna portLkout inOutEna reg = putBits mask bits reg)
    (block : dev.HasPortBlock) (numbers : PortNumbers ports)
    (split : ports = done ++ pnum :: left) :
    Meets
      (fun state => Handled dev before mask bits (WriteOk dev before) done state.device ∧
        (∀ other ∈ done, ReadOk dev before other) ∧
          (carried = 0 ↔ ∀ last ∈ done.getLast?, WriteOk dev before last))
      (enablePort (registerFile store) dev portEna portLkout inOutEna pnum)
      (fun rc state =>
        Handled dev before mask bits (WriteOk dev before) (done ++ [pnum]) state.device ∧
        (∀ other ∈ done ++ [pnum], ReadOk dev before other) ∧
          (rc = 0 ↔ ∀ last ∈ (done ++ [pnum]).getLast?, WriteOk dev before last))
      (EnableStops dev before mask bits ports) := by
  have isFresh := fresh_of_split block numbers split
  apply Meets.startingAt
  rintro start ⟨handled, readsOk, -⟩
  obtain ⟨sameValue, sameRead, -⟩ := handled.fresh isFresh
  have reads : Meets (fun state => state = start)
      (regRead (registerFile store) (dev.ctl pnum) PtlStop.code)
      (fun value state => (value = before.value (dev.ctl pnum) ∧ ReadOk dev before pnum) ∧
        state = ⟨start.memory, start.device.pass (.read (dev.ctl pnum))⟩)
      (EnableStops dev before mask bits ports) := by
    apply regRead_file_meets
    · rintro state rfl isOk
      exact ⟨⟨sameValue, sameRead.symm.trans isOk⟩, rfl⟩
    · rintro state failure rfl isFault fails
      have readFails : ¬ReadOk dev before pnum :=
        fun isOk => fails (isFault.symm.trans (sameRead.trans isOk))
      refine ⟨⟨pnum, split ▸ List.mem_append_right _ List.mem_cons_self, readFails⟩, ?_⟩
      rw [reached_eq split readsOk readFails]
      exact ⟨state.device, handled, rfl⟩
  apply Meets.bind reads
  intro value
  apply Meets.assume
  rintro ⟨rfl, readOk⟩
  have readsAll : ∀ other ∈ done ++ [pnum], ReadOk dev before other := by
    intro other isMember
    rcases List.mem_append.mp isMember with isDone | isLast
    · exact readsOk other isDone
    · exact List.mem_singleton.mp isLast ▸ readOk
  have sameWriteAfter := handled.writeAfterRead isFresh
  apply tryWrite_file_meets
  · rintro state rfl isOk
    have writeOk : WriteOk dev before pnum := sameWriteAfter.symm.trans isOk
    refine ⟨handled.step isFresh ?_ (fun not => absurd writeOk not)
      (fun _ different => faults_pass_pass different), readsAll, ?_⟩
    · intro _
      rw [← changes]
      rfl
    · simp [writeOk]
  · rintro state rfl fails
    have writeFails : ¬WriteOk dev before pnum := fun isOk => fails (sameWriteAfter.trans isOk)
    refine ⟨handled.step isFresh (fun isOk => absurd isOk writeFails) (fun _ => rfl)
      (fun _ different => faults_pass_pass different), readsAll, ?_⟩
    simp [writeFails, fails]

/-- Whether a loop over ports succeeds, and which of them end with the bits. -/
def Reports (dev : DarDevInfo) (before : RegisterFile (BitVec 32)) (mask bits : BitVec 32)
    (ports : List Nat) (success : Prop) (ends : Nat → Prop)
    (program : PortProgram (RegisterFile (BitVec 32)) Unit) : Prop :=
  Meets (fun state => state.device = before) program
    (fun _ state => success ∧ ∀ pnum ∈ ports, state.device.value (dev.ctl pnum) =
      putBits mask bits (before.value (dev.ctl pnum)) ↔ ends pnum)
    fun _ state => ¬success ∧ ∀ pnum ∈ ports, state.device.value (dev.ctl pnum) =
      putBits mask bits (before.value (dev.ctl pnum)) ↔ ends pnum

theorem apart_of_sub (block : dev.HasPortBlock) (numbers : PortNumbers ports)
    (sub : ∀ other ∈ done, other ∈ ports) (isMember : pnum ∈ ports) :
    ∀ other ∈ done, dev.ctl other = dev.ctl pnum → other = pnum :=
  fun other isDone same =>
    ctl_injOn block (numbers.2 other (sub other isDone)) (numbers.2 pnum isMember) same

/-- The loop of `DARrioPortEnable`. -/
theorem enablePorts_reports
    (changes : ∀ reg, portEnableBits portEna portLkout inOutEna reg = putBits mask bits reg)
    (block : dev.HasPortBlock) (numbers : PortNumbers ports) :
    Reports dev before mask bits ports
      ((∀ pnum ∈ ports, ReadOk dev before pnum) ∧
        ∀ pnum ∈ ports.getLast?, WriteOk dev before pnum)
      (fun pnum => pnum ∈ reached dev before ports ∧ WriteOk dev before pnum ∨
        HasBits dev before mask bits pnum)
      (do
        let rc ← ports.foldlM
          (fun _ => enablePort (registerFile store) dev portEna portLkout inOutEna) 0
        failIf (rc ≠ 0) (.code rc)) := by
  have loop := @Meets.foldlM_split PtlStop _ _ (EnableStops dev before mask bits ports) _ ports
    (fun _ => enablePort (registerFile store) dev portEna portLkout inOutEna)
    (fun done rc state => Handled dev before mask bits (WriteOk dev before) done state.device ∧
      (∀ other ∈ done, ReadOk dev before other) ∧
        (rc = 0 ↔ ∀ last ∈ done.getLast?, WriteOk dev before last))
    (fun _ _ _ _ split => enablePort_meets changes block numbers split) 0
  have ends : ∀ state : Attached PtlFrame (RegisterFile (BitVec 32)),
      Handled dev before mask bits (WriteOk dev before) ports state.device →
      (∀ other ∈ ports, ReadOk dev before other) →
      ∀ pnum ∈ ports, state.device.value (dev.ctl pnum) =
        putBits mask bits (before.value (dev.ctl pnum)) ↔
        pnum ∈ reached dev before ports ∧ WriteOk dev before pnum ∨
          HasBits dev before mask bits pnum := by
    intro state handled readsOk pnum isMember
    rw [reached_eq_self readsOk]
    exact handled.value_iff (apart_of_sub block numbers (fun _ isMember => isMember) isMember)
  apply Meets.bind ((loop.weakenPre ?_).weakenFail ?_)
  · intro rc
    apply Meets.failIf
    · rintro state ⟨handled, readsOk, isLast⟩ noFailure
      exact ⟨⟨readsOk, isLast.mp (not_not.mp noFailure)⟩, ends state handled readsOk⟩
    · rintro state ⟨handled, readsOk, isLast⟩ failure
      exact ⟨fun success => failure (isLast.mpr success.2), ends state handled readsOk⟩
  · rintro state rfl
    refine ⟨Handled.start, fun other isMember => absurd isMember List.not_mem_nil, ?_⟩
    exact iff_of_true rfl fun last isMember => by cases isMember
  · rintro _ state ⟨⟨pnum, isMember, fails⟩, file, handled, same⟩
    refine ⟨fun success => fails (success.1 pnum isMember), fun pnum isMember => ?_⟩
    rw [same]
    exact handled.value_iff
      (apart_of_sub block numbers (fun _ inReached => (List.takeWhile_sublist _).subset inReached)
        isMember)

/-! ### `DARDB_rioSetEnumBound` -/

/-- The register of a port is written: it can be read, lacks the bit, and the write succeeds. -/
def BoundWritten (dev : DarDevInfo) (before : RegisterFile (BitVec 32)) (mask bits : BitVec 32)
    (pnum : Nat) : Prop :=
  ReadOk dev before pnum ∧ WriteOk dev before pnum ∧ ¬HasBits dev before mask bits pnum

theorem readBack_meets {currCSR tempCSR : BitVec 32} (isDone : pnum ∈ done)
    (differs : tempCSR ≠ currCSR) :
    Meets
      (fun state => Handled dev before mask bits written done state.device ∧
        state.device.value (dev.ctl pnum) = tempCSR)
      (do
        match ← tryRead (registerFile store) (dev.ctl pnum) with
        | .ok tempCSR => pure (if tempCSR ≠ currCSR then rioErrFeatureNotSupported else 0)
        | .error rc => pure (if tempCSR ≠ currCSR then rioErrFeatureNotSupported else rc))
      (fun rc state => Handled dev before mask bits written done state.device ∧ rc ≠ 0)
      fun _ _ => False := by
  have reads : Meets
      (fun state => Handled dev before mask bits written done state.device ∧
        state.device.value (dev.ctl pnum) = tempCSR)
      (tryRead (registerFile store) (dev.ctl pnum))
      (fun result state => Handled dev before mask bits written done state.device ∧
        ∀ value, result = .ok value → value = tempCSR)
      fun _ _ => False := by
    apply tryRead_file_meets
    · rintro state ⟨handled, isValue⟩ _
      exact ⟨handled.pass isDone, fun value same => (Except.ok.inj same).symm.trans isValue⟩
    · rintro state ⟨handled, -⟩ _
      exact ⟨handled.pass isDone, fun value same => by cases same⟩
  apply Meets.bind reads
  intro result
  cases result with
  | ok value =>
    apply Meets.pure
    rintro state ⟨handled, isValue⟩
    rw [isValue value rfl, if_pos differs]
    exact ⟨handled, by decide⟩
  | error rc =>
    apply Meets.pure
    rintro state ⟨handled, -⟩
    rw [if_pos differs]
    exact ⟨handled, by decide⟩

/-- The read of a turn gives the value from before the loop, or fails. -/
theorem boundRead_meets {start : Attached PtlFrame (RegisterFile (BitVec 32))}
    (handled : Handled dev before mask bits written done start.device)
    (isFresh : ∀ other ∈ done, dev.ctl other ≠ dev.ctl pnum) :
    Meets (fun state => state = start) (tryRead (registerFile store) (dev.ctl pnum))
      (fun result state => state = ⟨start.memory, start.device.pass (.read (dev.ctl pnum))⟩ ∧
        (∀ value, result = .ok value →
          value = before.value (dev.ctl pnum) ∧ ReadOk dev before pnum) ∧
        ∀ rc, result = .error rc → rc ≠ 0 ∧ ¬ReadOk dev before pnum)
      fun _ _ => False := by
  obtain ⟨sameValue, sameRead, -⟩ := handled.fresh isFresh
  apply tryRead_file_meets
  · rintro state rfl isOk
    refine ⟨rfl, ?_, fun _ same => by cases same⟩
    rintro _ ⟨rfl⟩
    exact ⟨sameValue, sameRead.symm.trans isOk⟩
  · rintro state rfl fails
    refine ⟨rfl, fun _ same => (by cases same), ?_⟩
    rintro _ ⟨rfl⟩
    exact ⟨fails, fun isOk => fails (sameRead.trans isOk)⟩

/-- The write of a turn leaves the port handled. -/
theorem boundWrite_meets {start : Attached PtlFrame (RegisterFile (BitVec 32))}
    (handled : Handled dev before mask bits (BoundWritten dev before mask bits) done start.device)
    (isFresh : ∀ other ∈ done, dev.ctl other ≠ dev.ctl pnum) (readOk : ReadOk dev before pnum)
    (lacks : ¬HasBits dev before mask bits pnum) :
    Meets (fun state => state = ⟨start.memory, start.device.pass (.read (dev.ctl pnum))⟩)
      (tryWrite (registerFile store) (dev.ctl pnum)
        (putBits mask bits (before.value (dev.ctl pnum))))
      (fun rc state => Handled dev before mask bits (BoundWritten dev before mask bits)
          (done ++ [pnum]) state.device ∧
        (rc = 0 →
          state.device.value (dev.ctl pnum) = putBits mask bits (before.value (dev.ctl pnum))))
      fun _ _ => False := by
  have sameWrite := handled.writeAfterRead isFresh
  apply tryWrite_file_meets
  · rintro state rfl isOk
    have isWritten : BoundWritten dev before mask bits pnum :=
      ⟨readOk, sameWrite.symm.trans isOk, lacks⟩
    refine ⟨handled.step isFresh (fun _ => rfl) (fun not => absurd isWritten not)
      fun _ different => faults_pass_pass different, fun _ => ?_⟩
    exact Function.update_self _ _ _
  · rintro state rfl fails
    refine ⟨handled.step isFresh (fun isWritten => ?_) (fun _ => rfl)
      fun _ different => faults_pass_pass different, fun isZero => absurd isZero fails⟩
    exact absurd (sameWrite.trans isWritten.2.1) fails

/-- One port of `DARDB_rioSetEnumBound`: its code is zero exactly when the port can be read and
has the bit already. -/
theorem boundPort_meets {carried : Nat}
    (changes : ∀ reg, enumBoundBits enumBndVal reg = putBits mask bits reg)
    (block : dev.HasPortBlock) (numbers : PortNumbers ports)
    (split : ports = done ++ pnum :: left) :
    Meets
      (fun state => Handled dev before mask bits (BoundWritten dev before mask bits) done
          state.device ∧
        (carried = 0 ↔ ∀ last ∈ done.getLast?,
          ReadOk dev before last ∧ HasBits dev before mask bits last))
      (boundPort (registerFile store) dev enumBndVal pnum)
      (fun rc state => Handled dev before mask bits (BoundWritten dev before mask bits)
          (done ++ [pnum]) state.device ∧
        (rc = 0 ↔ ∀ last ∈ (done ++ [pnum]).getLast?,
          ReadOk dev before last ∧ HasBits dev before mask bits last))
      fun _ _ => False := by
  have isFresh := fresh_of_split block numbers split
  apply Meets.startingAt
  rintro start ⟨handled, -⟩
  simp only [List.getLast?_concat, Option.mem_some_iff, forall_eq']
  apply Meets.bind (boundRead_meets handled isFresh)
  intro result
  cases result with
  | error rc =>
    apply Meets.pure
    rintro state ⟨rfl, -, isError⟩
    obtain ⟨fails, readFails⟩ := isError rc rfl
    refine ⟨handled.step isFresh (fun isWritten => absurd isWritten.1 readFails) (fun _ => rfl)
      fun _ different => faults_pass (.inl rfl) different, ?_⟩
    simp [fails, readFails]
  | ok value =>
    apply Meets.assumeRight
    rintro ⟨isOk, -⟩
    obtain ⟨rfl, readOk⟩ := isOk value rfl
    dsimp only
    by_cases has : HasBits dev before mask bits pnum
    · rw [changes, if_pos (show putBits mask bits _ = _ from has)]
      apply Meets.pure
      rintro state rfl
      refine ⟨handled.step isFresh (fun isWritten => absurd has isWritten.2.2) (fun _ => rfl)
        fun _ different => faults_pass (.inl rfl) different, ?_⟩
      exact iff_of_true rfl ⟨readOk, has⟩
    · have differs : putBits mask bits (before.value (dev.ctl pnum)) ≠
        before.value (dev.ctl pnum) := has
      rw [changes, if_neg differs]
      apply Meets.bind (boundWrite_meets handled isFresh readOk has)
      intro rc
      by_cases isZero : rc = 0
      · rw [if_neg (not_not.mpr isZero)]
        have isDone : pnum ∈ done ++ [pnum] :=
          List.mem_append_right _ (List.mem_singleton_self pnum)
        apply (readBack_meets isDone differs).weaken
        · exact fun state after => ⟨after.1, after.2 isZero⟩
        · exact fun rc state after => ⟨after.1, iff_of_false after.2 fun holds => has holds.2⟩
        · exact fun _ _ never => never
      · rw [if_pos isZero]
        apply Meets.pure
        rintro state ⟨handled, -⟩
        exact ⟨handled, iff_of_false isZero fun holds => has holds.2⟩

/-- The loop of `DARDB_rioSetEnumBound`. -/
theorem boundPorts_reports (changes : ∀ reg, enumBoundBits enumBndVal reg = putBits mask bits reg)
    (block : dev.HasPortBlock) (numbers : PortNumbers ports) :
    Reports dev before mask bits ports
      (∀ pnum ∈ ports.getLast?, ReadOk dev before pnum ∧ HasBits dev before mask bits pnum)
      (fun pnum => ReadOk dev before pnum ∧ WriteOk dev before pnum ∨
        HasBits dev before mask bits pnum)
      (do
        let rc ← ports.foldlM (fun _ => boundPort (registerFile store) dev enumBndVal) 0
        failIf (rc ≠ 0) (.code rc)) := by
  have loop := @Meets.foldlM_split PtlStop _ _ (fun _ _ => False) _ ports
    (fun _ => boundPort (registerFile store) dev enumBndVal)
    (fun done rc state => Handled dev before mask bits (BoundWritten dev before mask bits) done
        state.device ∧
      (rc = 0 ↔ ∀ last ∈ done.getLast?,
        ReadOk dev before last ∧ HasBits dev before mask bits last))
    (fun _ _ _ _ split => boundPort_meets changes block numbers split) 0
  have ends : ∀ state : Attached PtlFrame (RegisterFile (BitVec 32)),
      Handled dev before mask bits (BoundWritten dev before mask bits) ports state.device →
      ∀ pnum ∈ ports, state.device.value (dev.ctl pnum) =
        putBits mask bits (before.value (dev.ctl pnum)) ↔
        ReadOk dev before pnum ∧ WriteOk dev before pnum ∨
          HasBits dev before mask bits pnum := by
    intro state handled pnum isMember
    rw [handled.value_iff (apart_of_sub block numbers (fun _ isMember => isMember) isMember),
      and_iff_right isMember, BoundWritten, ← and_assoc, and_or_right, or_comm (a := ¬_),
      and_iff_left (Classical.em _)]
  apply Meets.bind ((loop.weakenPre ?_).weakenFail fun _ _ never => never.elim)
  · intro rc
    apply Meets.failIf
    · rintro state ⟨handled, isLast⟩ noFailure
      exact ⟨isLast.mp (not_not.mp noFailure), ends state handled⟩
    · rintro state ⟨handled, isLast⟩ failure
      exact ⟨fun success => failure (isLast.mpr success), ends state handled⟩
  · rintro state rfl
    exact ⟨Handled.start, iff_of_true rfl fun last isMember => by cases isMember⟩

end Loops

/-! ## When the reports are honest -/

section Reports

variable {dev : DarDevInfo} {ptl : DarPtl} {mask bits : BitVec 32}
  {start : Attached PtlFrame (RegisterFile (BitVec 32))}

theorem honest_makeList_iff {success : List Nat → Prop} {ends : List Nat → Nat → Prop}
    {body : List Nat → PortProgram (RegisterFile (BitVec 32)) Unit}
    (reports : ∀ ports, PortNumbers ports →
      Reports dev start.device mask bits ports (success ports) (ends ports) (body ports)) :
    Honest dev ptl mask bits (makeList dev (some ptl) >>= body) start ↔
      OfList dev ptl start.memory fun ports => success ports ↔ ∀ pnum ∈ ports, ends ports pnum := by
  rw [Honest, OfList, EStateM.run_bind, EStateM.run, makeList]
  cases made : (darRioGetPortList dev (some ptl)).run start.memory with
  | error stop goodPtl =>
    refine iff_of_true (iff_of_false Bool.false_ne_true ?_) ?_
    · rintro ⟨_, impossible, -⟩
      cases impossible
    · rintro _ impossible
      cases impossible
  | ok _ goodPtl =>
    obtain ⟨normal, early⟩ := @reports goodPtl.out.ports (darRioGetPortList_portNumbers made)
      ⟨goodPtl, start.device⟩ rfl
    have onlyList : ∀ holds : PtlFrame → Prop,
        (∃ other, EStateM.Result.ok () goodPtl = (.ok () other : EStateM.Result PtlStop _ _) ∧
          holds other) ↔ holds goodPtl := by
      intro holds
      constructor
      · rintro ⟨_, ⟨rfl⟩, isOther⟩
        exact isOther
      · exact fun isList => ⟨goodPtl, rfl, isList⟩
    rw [onlyList]
    have same : (∀ other, EStateM.Result.ok () goodPtl =
        (.ok () other : EStateM.Result PtlStop _ _) →
          (success other.out.ports ↔ ∀ pnum ∈ other.out.ports, ends other.out.ports pnum)) ↔
        (success goodPtl.out.ports ↔ ∀ pnum ∈ goodPtl.out.ports, ends goodPtl.out.ports pnum) := by
      constructor
      · exact fun all => all goodPtl rfl
      · rintro isList _ ⟨rfl⟩
        exact isList
    rw [same]
    have rest : ∀ (result : EStateM.Result PtlStop
        (Attached PtlFrame (RegisterFile (BitVec 32))) Unit) (reported : Prop),
        (succeeded result = true ↔ reported) →
        (∀ pnum ∈ goodPtl.out.ports, (finalState result).device.value (dev.ctl pnum) =
          putBits mask bits (start.device.value (dev.ctl pnum)) ↔
            ends goodPtl.out.ports pnum) →
        ((succeeded result = true ↔ ∀ pnum ∈ goodPtl.out.ports,
          (finalState result).device.value (dev.ctl pnum) =
            putBits mask bits (start.device.value (dev.ctl pnum))) ↔
          (reported ↔ ∀ pnum ∈ goodPtl.out.ports, ends goodPtl.out.ports pnum)) := by
      intro result reported isReported values
      rw [isReported, forall₂_congr values]
    apply rest ((body goodPtl.out.ports).run ⟨goodPtl, start.device⟩)
    · cases ran : (body goodPtl.out.ports).run ⟨goodPtl, start.device⟩ with
      | ok value final => exact iff_of_true rfl (normal ran).1
      | error stop final => exact iff_of_false Bool.false_ne_true (early ran).1
    · cases ran : (body goodPtl.out.ports).run ⟨goodPtl, start.device⟩ with
      | ok value final => exact (normal ran).2
      | error stop final => exact (early ran).2

theorem not_made_of_invalid (invalid : dev.valid = false) (frame : PtlFrame) :
    (darRioGetPortList dev (some ptl)).run frame = .error (.code darDbInvalidHandle) frame := by
  rw [darRioGetPortList, invalid]
  rfl

theorem darRioPortEnable_honest_iff (block : dev.HasPortBlock) (portEna portLkout inOutEna : Bool) :
    Honest dev ptl portEnableMask (portEnableSet portEna portLkout inOutEna)
      (darRioPortEnable (registerFile store) dev (some ptl) portEna portLkout inOutEna) start ↔
      OfList dev ptl start.memory (EnableHonest dev start.device portEnableMask
        (portEnableSet portEna portLkout inOutEna)) := by
  cases isValid : dev.valid with
  | true =>
    rw [darRioPortEnable, isValid]
    exact honest_makeList_iff fun ports numbers =>
      enablePorts_reports portEnableBits_eq block numbers
  | false =>
    rw [Honest, OfList, not_made_of_invalid isValid, darRioPortEnable, isValid]
    refine iff_of_true (iff_of_false Bool.false_ne_true ?_) ?_
    · rintro ⟨_, impossible, -⟩
      cases impossible
    · rintro _ impossible
      cases impossible

theorem darDbRioSetEnumBound_honest_iff (block : dev.HasPortBlock) (enumBndVal : Bool) :
    Honest dev ptl rioSpxCtlEnumB (if enumBndVal then rioSpxCtlEnumB else 0)
      (darDbRioSetEnumBound (registerFile store) dev (some ptl) enumBndVal) start ↔
      OfList dev ptl start.memory (BoundHonest dev start.device rioSpxCtlEnumB
        (if enumBndVal then rioSpxCtlEnumB else 0)) := by
  rw [darDbRioSetEnumBound, failIf, if_neg block.1]
  exact honest_makeList_iff fun ports numbers =>
    boundPorts_reports enumBoundBits_eq block numbers

/-- When both routines report honestly. -/
theorem portControl_honest_iff (block : dev.HasPortBlock) (ptl : DarPtl)
    (start : Attached PtlFrame (RegisterFile (BitVec 32))) :
    (∀ portEna portLkout inOutEna,
      Honest dev ptl portEnableMask (portEnableSet portEna portLkout inOutEna)
        (darRioPortEnable (registerFile store) dev (some ptl) portEna portLkout inOutEna) start ↔
        OfList dev ptl start.memory (EnableHonest dev start.device portEnableMask
          (portEnableSet portEna portLkout inOutEna))) ∧
    ∀ enumBndVal,
      Honest dev ptl rioSpxCtlEnumB (if enumBndVal then rioSpxCtlEnumB else 0)
        (darDbRioSetEnumBound (registerFile store) dev (some ptl) enumBndVal) start ↔
        OfList dev ptl start.memory (BoundHonest dev start.device rioSpxCtlEnumB
          (if enumBndVal then rioSpxCtlEnumB else 0)) :=
  ⟨darRioPortEnable_honest_iff block, darDbRioSetEnumBound_honest_iff block⟩

/-- A switch with two ports, whose block of registers is at 0x100. -/
def twoPortDevice : DarDevInfo where
  driverFamily := .unknown
  dsfH := 0
  extFPtrForPort := 0x100
  extFPtrPortType := 0x0009
  extFPtrForLane := 0
  extFPtrForErr := 0
  extFPtrForVC := 0
  extFPtrForVOQ := 0
  extFPtrForRT := 0
  extFPtrForTS := 0
  extFPtrForMISC := 0
  extFPtrForHS := 0
  devID := 0
  devInfo := 0
  assyInfo := 0
  features := 0
  swPortInfo := 0x0200
  swRtInfo := 0
  srcOps := 0
  dstOps := 0
  swMcastInfo := 0
  ctl1Reg _ := 0
  scratchpad _ := 0
  poregsMax := 0
  poregs := none

/-- All registers are zero, and no access fails. -/
def zeroRegisters : Attached PtlFrame (RegisterFile (BitVec 32)) :=
  ⟨⟨⟨0, fun _ => 0⟩, fun _ => false⟩, ⟨fun _ => 0, fun _ _ => 0⟩⟩

theorem made_firstPort : ∃ goodPtl,
    (darRioGetPortList twoPortDevice (some ⟨1, fun _ => 0⟩)).run zeroRegisters.memory =
      .ok () goodPtl ∧ goodPtl.out.ports = [0] := by
  have ends : endsWith (fun _ goodPtl => goodPtl.out.ports = [0])
      ((darRioGetPortList twoPortDevice (some ⟨1, fun _ => 0⟩)).run zeroRegisters.memory) =
        true := by
    decide +kernel
  obtain ⟨_, goodPtl, ran, isList⟩ := exists_of_endsWith ends
  exact ⟨goodPtl, ran, of_decide_eq_true isList⟩

/-- The port is enabled, and the routine says so. -/
theorem portControl_honest_iff_firstPort :
    Honest twoPortDevice ⟨1, fun _ => 0⟩ portEnableMask (portEnableSet true false true)
      (darRioPortEnable (registerFile store) twoPortDevice (some ⟨1, fun _ => 0⟩) true false true)
      zeroRegisters := by
  have block : twoPortDevice.HasPortBlock := ⟨by decide, by decide⟩
  refine ((portControl_honest_iff block ⟨1, fun _ => 0⟩ zeroRegisters).1 true false true).mpr ?_
  obtain ⟨made, ran, isList⟩ := made_firstPort
  intro goodPtl other
  cases ran.symm.trans other
  rw [isList]
  exact iff_of_true ⟨fun _ _ => rfl, fun _ _ => rfl⟩ fun pnum isMember =>
    .inl ⟨isMember, rfl⟩

/-- The bit of the only port is set, and the routine says that this is not supported. -/
theorem not_honest_firstPort : ¬∀ (dev : DarDevInfo) (ptl : DarPtl)
    (start : Attached PtlFrame (RegisterFile (BitVec 32))) (enumBndVal : Bool),
    dev.HasPortBlock →
      Honest dev ptl rioSpxCtlEnumB (if enumBndVal then rioSpxCtlEnumB else 0)
        (darDbRioSetEnumBound (registerFile store) dev (some ptl) enumBndVal) start := by
  intro always
  have block : twoPortDevice.HasPortBlock := ⟨by decide, by decide⟩
  have honest := always twoPortDevice ⟨1, fun _ => 0⟩ zeroRegisters true block
  rw [darDbRioSetEnumBound_honest_iff block] at honest
  obtain ⟨made, ran, isList⟩ := made_firstPort
  have both := honest made ran
  rw [isList] at both
  have lacks := (both.mpr fun _ _ => .inl ⟨rfl, rfl⟩) 0 rfl
  exact absurd lacks.2 (by decide)

end Reports

end RioFabric.Dar

import RioFabric.Dar.DevInfo
import RioFabric.Lib.Hoare

/-!
# Making a port list

The structure that a port list is written to has as many elements as a device may have ports, and
so has the table of the ports that were named.  The number of ports that a device has is taken from
one of its registers, which may hold more.
-/

namespace RioFabric.Dar

open Lib

/-- What is written: `ptl_out`, and the table of ports that are not to be named again. -/
structure PtlFrame where
  out : DarPtl
  dup : Nat → Bool

/-- The entries that are valid. -/
def DarPtl.ports (ptl : DarPtl) : List Nat := (List.range ptl.numPorts).map ptl.pnums

abbrev PtlProgram := EStateM PtlStop PtlFrame

/-- Set `num_ports` of the result. -/
def setNumPorts (numPorts : Nat) : PtlProgram Unit :=
  modify fun frame => { frame with out := { frame.out with numPorts } }

/-- Set an element of `pnums` of the result. -/
def setPnum (idx pnum : Nat) : PtlProgram Unit := do
  failIf (rioMaxPorts ≤ idx) .outOfBounds
  modify fun frame => { frame with
    out := { frame.out with pnums := Function.update frame.out.pnums idx pnum } }

/-- Look at an element of the table. -/
def getDup (pnum : Nat) : PtlProgram Bool := do
  failIf (rioMaxPorts ≤ pnum) .outOfBounds
  let frame ← get
  pure (frame.dup pnum)

/-- Set an element of the table. -/
def setDup (pnum : Nat) : PtlProgram Unit := do
  failIf (rioMaxPorts ≤ pnum) .outOfBounds
  modify fun frame => { frame with dup := Function.update frame.dup pnum true }

/-- A turn of the loops over the entries of `ptl_in`; `cleanUp` is done for an entry that is not
accepted. -/
def copyPnum (numPorts : Nat) (cleanUp : PtlProgram Unit) (ptlIn : DarPtl) (idx : Nat) :
    PtlProgram Unit := do
  failIf (rioMaxPorts ≤ idx) .outOfBounds
  setPnum idx (ptlIn.pnums idx)
  let illegal ←
    if numPorts ≤ ptlIn.pnums idx then pure true else getDup (ptlIn.pnums idx)
  if illegal then do
    cleanUp
    throw (.code (rioErrPortIllegal idx))
  else setDup (ptlIn.pnums idx)

/-- `DARDB_rioGetPortList`, with the memory that it writes. -/
def darDbRioGetPortListOut (dev : DarDevInfo) (ptlIn : DarPtl) : PtlProgram Unit := do
  modify fun frame => { frame with dup := fun _ => false }
  setNumPorts 0
  failIf (ptlIn.numPorts > dev.numPorts ∧ ptlIn.numPorts ≠ rioAllPorts)
    (.code rioErrInvalidParameter)
  failIf (ptlIn.numPorts > rioMaxPorts ∧ ptlIn.numPorts ≠ rioAllPorts)
    (.code rioErrInvalidParameter)
  failIf (ptlIn.numPorts = 0) (.code rioErrInvalidParameter)
  if ptlIn.numPorts = rioAllPorts then do
    setNumPorts dev.numPorts
    (List.range dev.numPorts).forM fun idx => setPnum idx idx
  else do
    setNumPorts ptlIn.numPorts
    (List.range ptlIn.numPorts).forM (copyPnum dev.numPorts (setNumPorts 0) ptlIn)

def cpsMaxPorts : Nat := 18

def DarDevInfo.numCpsPorts (dev : DarDevInfo) : Nat :=
  if dev.numPorts > cpsMaxPorts then cpsMaxPorts else dev.numPorts

/-- The ports that a CPS1432 lacks. -/
def cps1432Gap : List Nat := [8, 9]

def cpsRioGetPortList (dev : DarDevInfo) (ptlIn : DarPtl) : PtlProgram Unit := do
  if dev.deviceId = rioDeviIdtCps1432 then do
    failIf (ptlIn.numPorts > dev.numCpsPorts ∧ ptlIn.numPorts ≠ rioAllPorts)
      (.code rioErrInvalidParameter)
    failIf (ptlIn.numPorts = 0) (.code rioErrInvalidParameter)
    if ptlIn.numPorts = rioAllPorts then do
      setNumPorts 14
      (List.range 8).forM fun idx => setPnum idx idx
      (List.range' 10 6).forM fun idx => setPnum (idx - 2) idx
    else do
      modify fun frame => { frame with dup := fun pnum => pnum ∈ cps1432Gap }
      setNumPorts ptlIn.numPorts
      (List.range ptlIn.numPorts).forM (copyPnum dev.numPorts (pure ()) ptlIn)
  else darDbRioGetPortListOut dev ptlIn

/-- `DARrioGetPortList`; `ptl_in` may be `NULL`. -/
def darRioGetPortList (dev : DarDevInfo) (ptlIn : Option DarPtl) : PtlProgram Unit := do
  failIf (!dev.valid) (.code darDbInvalidHandle)
  match ptlIn with
  | none => throw (.code rioErrNullParmPtr)
  | some ptlIn =>
    if dev.driverFamily = .cps then cpsRioGetPortList dev ptlIn
    else darDbRioGetPortListOut dev ptlIn

/-- The device is a CPS1432 that the driver of its family handles. -/
def DarDevInfo.isCps1432 (dev : DarDevInfo) : Prop :=
  dev.driverFamily = .cps ∧ dev.deviceId = rioDeviIdtCps1432

instance (dev : DarDevInfo) : Decidable dev.isCps1432 := by
  unfold DarDevInfo.isCps1432
  infer_instance

/-- The port numbers that no port has. -/
def DarDevInfo.gap (dev : DarDevInfo) : List Nat := if dev.isCps1432 then cps1432Gap else []

/-- The ports that exist. -/
def DarDevInfo.allPorts (dev : DarDevInfo) : List Nat :=
  (List.range dev.numPorts).filter fun pnum => pnum ∉ dev.gap

/-- A port list is not made and the result is empty, or it has distinct ports of the device, those
that were asked for; nothing outside of the tables is accessed. -/
def Normalised (dev : DarDevInfo) (ptlIn : DarPtl) : EStateM.Result PtlStop PtlFrame Unit → Prop
  | .ok _ frame => frame.out.ports ≠ [] ∧ frame.out.ports.Nodup ∧
      (∀ pnum ∈ frame.out.ports, pnum ∈ dev.allPorts) ∧
      frame.out.ports = if ptlIn.numPorts = rioAllPorts then dev.allPorts else ptlIn.ports
  | .error (.code _) frame => frame.out.numPorts = 0
  | .error .outOfBounds _ => False

/-- An entry is a port of the device that is not named before. -/
structure Acceptable (numPorts : Nat) (gap : List Nat) (ptlIn : DarPtl) (idx : Nat) : Prop where
  exists_ : ptlIn.pnums idx < numPorts
  notInGap : ptlIn.pnums idx ∉ gap
  fresh : ∀ earlier < idx, ptlIn.pnums earlier ≠ ptlIn.pnums idx

/-- When the promise is kept. -/
def PtlFits (dev : DarDevInfo) (ptlIn : DarPtl) (out : DarPtl) : Prop :=
  if dev.valid = false then out.numPorts = 0
  else if dev.isCps1432 then
    if ptlIn.numPorts = rioAllPorts then dev.numPorts = 16
    else if ptlIn.numPorts = 0 ∨ ptlIn.numPorts > dev.numCpsPorts then out.numPorts = 0
    else ∀ idx < ptlIn.numPorts, Acceptable dev.numPorts cps1432Gap ptlIn idx ∧
      ptlIn.pnums idx < rioMaxPorts
  else if ptlIn.numPorts = rioAllPorts then 0 < dev.numPorts ∧ dev.numPorts ≤ rioMaxPorts
  else ptlIn.numPorts ≤ dev.numPorts → ptlIn.numPorts ≤ rioMaxPorts →
    ∀ idx < ptlIn.numPorts, (∀ earlier < idx, Acceptable dev.numPorts [] ptlIn earlier) →
      ptlIn.pnums idx < dev.numPorts → ptlIn.pnums idx < rioMaxPorts

section Copy

variable {numPorts count left : Nat} {gap : List Nat} {ptlIn : DarPtl} {cleanUp : PtlProgram Unit}
  {idx : Nat} {frame : PtlFrame}

/-- The entries before an index are accepted, and are ports that the tables have room for. -/
def AcceptedBefore (numPorts : Nat) (gap : List Nat) (ptlIn : DarPtl) (idx : Nat) : Prop :=
  ∀ earlier < idx, Acceptable numPorts gap ptlIn earlier ∧ ptlIn.pnums earlier < rioMaxPorts

/-- The entries before an index are copied. -/
structure Copied (numPorts : Nat) (gap : List Nat) (ptlIn : DarPtl) (idx : Nat)
    (frame : PtlFrame) : Prop where
  numPorts_eq : frame.out.numPorts = ptlIn.numPorts
  pnums_eq : ∀ earlier < idx, frame.out.pnums earlier = ptlIn.pnums earlier
  accepted : AcceptedBefore numPorts gap ptlIn idx
  named : ∀ pnum, frame.dup pnum = true ↔ pnum ∈ gap ∨ ∃ earlier < idx, ptlIn.pnums earlier = pnum

/-- How the copy of a list stops. -/
def CopyStops (numPorts : Nat) (gap : List Nat) (ptlIn : DarPtl) (count left : Nat) :
    PtlStop → PtlFrame → Prop
  | .code _, frame => frame.out.numPorts = left ∧ ∃ idx < count,
      AcceptedBefore numPorts gap ptlIn idx ∧ ¬Acceptable numPorts gap ptlIn idx ∧
        (ptlIn.pnums idx < numPorts → ptlIn.pnums idx < rioMaxPorts)
  | .outOfBounds, _ => ∃ idx < count, AcceptedBefore numPorts gap ptlIn idx ∧
      ptlIn.pnums idx < numPorts ∧ rioMaxPorts ≤ ptlIn.pnums idx

theorem setPnum_meets {pnum : Nat} {Pre : PtlFrame → Prop} {Post : Unit → PtlFrame → Prop}
    {Fail : PtlStop → PtlFrame → Prop} (inBounds : idx < rioMaxPorts)
    (set : ∀ frame, Pre frame → Post () { frame with
      out := { frame.out with pnums := Function.update frame.out.pnums idx pnum } }) :
    Meets Pre (setPnum idx pnum) Post Fail := by
  apply Meets.failIfBind
  · intro frame _ outside
    exact absurd inBounds (Nat.not_lt.mpr outside)
  · intro _
    exact Meets.modify set

theorem Copied.acceptable_iff (copied : Copied numPorts gap ptlIn idx frame)
    (exists_ : ptlIn.pnums idx < numPorts) :
    Acceptable numPorts gap ptlIn idx ↔ frame.dup (ptlIn.pnums idx) = false := by
  rw [← Bool.not_eq_true, copied.named, not_or]
  constructor
  · intro acceptable
    refine ⟨acceptable.notInGap, ?_⟩
    rintro ⟨earlier, smaller, same⟩
    exact acceptable.fresh earlier smaller same
  · rintro ⟨notInGap, fresh⟩
    exact ⟨exists_, notInGap, fun earlier smaller same => fresh ⟨earlier, smaller, same⟩⟩

theorem AcceptedBefore.succ (before : AcceptedBefore numPorts gap ptlIn idx)
    (acceptable : Acceptable numPorts gap ptlIn idx) (inBounds : ptlIn.pnums idx < rioMaxPorts) :
    AcceptedBefore numPorts gap ptlIn (idx + 1) := by
  intro earlier smaller
  rcases Nat.lt_succ_iff_lt_or_eq.mp smaller with less | rfl
  · exact before earlier less
  · exact ⟨acceptable, inBounds⟩

theorem Copied.start (numPorts_eq : frame.out.numPorts = ptlIn.numPorts)
    (named : ∀ pnum, frame.dup pnum = true ↔ pnum ∈ gap) : Copied numPorts gap ptlIn 0 frame where
  numPorts_eq := numPorts_eq
  pnums_eq earlier less := absurd less (Nat.not_lt_zero earlier)
  accepted earlier less := absurd less (Nat.not_lt_zero earlier)
  named pnum := by
    rw [named]
    exact (or_iff_left fun ⟨earlier, less, _⟩ => Nat.not_lt_zero earlier less).symm

theorem Copied.succ (copied : Copied numPorts gap ptlIn idx frame)
    (accepted : AcceptedBefore numPorts gap ptlIn (idx + 1)) :
    Copied numPorts gap ptlIn (idx + 1)
      ⟨{ frame.out with pnums := Function.update frame.out.pnums idx (ptlIn.pnums idx) },
        Function.update frame.dup (ptlIn.pnums idx) true⟩ where
  numPorts_eq := copied.numPorts_eq
  pnums_eq earlier smaller := by
    dsimp only
    by_cases same : earlier = idx
    · rw [same, Function.update_self]
    · rw [Function.update_of_ne same]
      exact copied.pnums_eq earlier (by omega)
  accepted := accepted
  named pnum := by
    dsimp only
    by_cases same : pnum = ptlIn.pnums idx
    · rw [same, Function.update_self]
      exact iff_of_true rfl (.inr ⟨idx, Nat.lt_succ_self idx, rfl⟩)
    · rw [Function.update_of_ne same, copied.named]
      apply or_congr_right
      constructor
      · rintro ⟨earlier, smaller, isPnum⟩
        exact ⟨earlier, Nat.lt_succ_of_lt smaller, isPnum⟩
      · rintro ⟨earlier, smaller, isPnum⟩
        rcases Nat.lt_succ_iff_lt_or_eq.mp smaller with less | rfl
        · exact ⟨earlier, less, isPnum⟩
        · exact absurd isPnum.symm same

theorem illegal_meets (inList : idx < count)
    (cleans : Meets (fun frame => frame.out.numPorts = ptlIn.numPorts) cleanUp
      (fun _ frame => frame.out.numPorts = left) fun _ _ => False)
    (before : AcceptedBefore numPorts gap ptlIn idx) (not : ¬Acceptable numPorts gap ptlIn idx)
    (inBounds : ptlIn.pnums idx < numPorts → ptlIn.pnums idx < rioMaxPorts) :
    Meets (fun frame => frame.out.numPorts = ptlIn.numPorts)
      (cleanUp >>= fun _ => throw (.code (rioErrPortIllegal idx)))
      (fun _ : Unit => Copied numPorts gap ptlIn (idx + 1))
      (CopyStops numPorts gap ptlIn count left) := by
  apply Meets.bind (cleans.weakenFail fun _ _ never => never.elim)
  intro _
  exact Meets.throw fun _ isLeft => ⟨isLeft, idx, inList, before, not, inBounds⟩

theorem copyPnum_meets (inList : idx < count) (fits : count ≤ rioMaxPorts)
    (cleans : Meets (fun frame => frame.out.numPorts = ptlIn.numPorts) cleanUp
      (fun _ frame => frame.out.numPorts = left) fun _ _ => False) :
    Meets (Copied numPorts gap ptlIn idx) (copyPnum numPorts cleanUp ptlIn idx)
      (fun _ => Copied numPorts gap ptlIn (idx + 1))
      (CopyStops numPorts gap ptlIn count left) := by
  have inTable : idx < rioMaxPorts := Nat.lt_of_lt_of_le inList fits
  apply Meets.startingAt
  intro start copied
  apply Meets.failIfBind
  · rintro frame rfl outside
    exact absurd inTable (Nat.not_lt.mpr outside)
  intro _
  have sets : Meets (fun frame => frame = start) (setPnum idx (ptlIn.pnums idx))
      (fun _ frame => frame = { start with
        out := { start.out with pnums := Function.update start.out.pnums idx (ptlIn.pnums idx) } })
      (CopyStops numPorts gap ptlIn count left) := by
    apply setPnum_meets inTable
    rintro frame rfl
    rfl
  apply Meets.bind sets
  intro _
  by_cases exists_ : ptlIn.pnums idx < numPorts
  · rw [if_neg (Nat.not_le.mpr exists_), getDup, bind_assoc]
    apply Meets.failIfBind
    · rintro frame rfl outside
      exact ⟨idx, inList, copied.accepted, exists_, outside⟩
    intro inside
    have inBounds := Nat.lt_of_not_le inside
    rw [bind_assoc]
    apply Meets.getBindAt
    rintro frame rfl
    rw [pure_bind]
    dsimp only
    cases isDup : start.dup (ptlIn.pnums idx) with
    | true =>
      rw [if_pos rfl]
      have not : ¬Acceptable numPorts gap ptlIn idx := by
        rw [copied.acceptable_iff exists_, isDup]
        exact Bool.false_ne_true.symm
      apply (illegal_meets inList cleans copied.accepted not fun _ => inBounds).weakenPre
      rintro frame rfl
      exact copied.numPorts_eq
    | false =>
      rw [if_neg Bool.false_ne_true]
      have acceptable := (copied.acceptable_iff exists_).mpr isDup
      apply Meets.failIfBind
      · intro frame _ outside
        exact absurd inBounds (Nat.not_lt.mpr outside)
      intro _
      apply Meets.modify
      rintro frame rfl
      exact copied.succ (copied.accepted.succ acceptable inBounds)
  · rw [if_pos (Nat.le_of_not_lt exists_), pure_bind]
    beta_reduce
    rw [if_pos rfl]
    have not : ¬Acceptable numPorts gap ptlIn idx := fun acceptable => exists_ acceptable.exists_
    apply (illegal_meets inList cleans copied.accepted not
      fun inDevice => absurd inDevice exists_).weakenPre
    rintro frame rfl
    exact copied.numPorts_eq

/-- The loop copies every port number, or stops at one that is not legal. -/
theorem copyPnums_meets (fits : ptlIn.numPorts ≤ rioMaxPorts)
    (cleans : Meets (fun frame => frame.out.numPorts = ptlIn.numPorts) cleanUp
      (fun _ frame => frame.out.numPorts = left) fun _ _ => False) :
    Meets (Copied numPorts gap ptlIn 0)
      ((List.range ptlIn.numPorts).forM (copyPnum numPorts cleanUp ptlIn))
      (fun _ => Copied numPorts gap ptlIn ptlIn.numPorts)
      (CopyStops numPorts gap ptlIn ptlIn.numPorts left) :=
  Meets.forM_range fun _ inList => copyPnum_meets inList fits cleans

/-- The loop lists all ports, unless there are more than the list has room for. -/
theorem fillPnums_meets {valid : Nat} :
    Meets (fun frame => frame.out.numPorts = valid)
      ((List.range count).forM fun idx => setPnum idx idx)
      (fun _ frame => count ≤ rioMaxPorts ∧ frame.out.numPorts = valid ∧
        ∀ idx < count, frame.out.pnums idx = idx)
      fun stop _ => stop = .outOfBounds ∧ rioMaxPorts < count := by
  have filled := @Meets.forM_range _ _ (fun stop _ => stop = .outOfBounds ∧ rioMaxPorts < count)
    (fun idx => setPnum idx idx)
    (fun count frame => count ≤ rioMaxPorts ∧ frame.out.numPorts = valid ∧
      ∀ idx < count, frame.out.pnums idx = idx) count
    (by
      intro idx inList
      apply Meets.failIfBind
      · intro frame _ outside
        exact ⟨rfl, Nat.lt_of_le_of_lt outside inList⟩
      · intro inside
        apply Meets.modify
        rintro frame ⟨-, isValid, filled⟩
        refine ⟨Nat.lt_of_not_le inside, isValid, fun earlier smaller => ?_⟩
        dsimp only
        by_cases same : earlier = idx
        · rw [same, Function.update_self]
        · rw [Function.update_of_ne same]
          exact filled earlier (by omega))
  apply filled.weakenPre
  intro frame isValid
  exact ⟨Nat.zero_le _, isValid, fun idx smaller => absurd smaller (Nat.not_lt_zero idx)⟩

end Copy

section Promise

variable {dev : DarDevInfo} {ptlIn : DarPtl} {frame : PtlFrame} {start : PtlFrame}

theorem Copied.normalised (copied : Copied dev.numPorts dev.gap ptlIn ptlIn.numPorts frame)
    (nonempty : ptlIn.numPorts ≠ 0) (listed : ptlIn.numPorts ≠ rioAllPorts) :
    Normalised dev ptlIn (.ok () frame) := by
  have same : frame.out.ports = ptlIn.ports := by
    rw [DarPtl.ports, copied.numPorts_eq]
    apply List.map_congr_left
    intro idx inRange
    exact copied.pnums_eq idx (List.mem_range.mp inRange)
  rw [Normalised, same, if_neg listed]
  refine ⟨?_, ?_, ?_, rfl⟩
  · intro none
    rw [DarPtl.ports, List.map_eq_nil_iff, List.range_eq_nil] at none
    exact nonempty none
  · apply List.Nodup.map_on _ List.nodup_range
    intro left inLeft right inRight isSame
    rcases Nat.lt_trichotomy left right with less | equal | greater
    · exact absurd isSame
        ((copied.accepted right (List.mem_range.mp inRight)).1.fresh left less)
    · exact equal
    · exact absurd isSame.symm
        ((copied.accepted left (List.mem_range.mp inLeft)).1.fresh right greater)
  · intro pnum isMember
    obtain ⟨idx, inRange, rfl⟩ := List.mem_map.mp isMember
    have acceptable := (copied.accepted idx (List.mem_range.mp inRange)).1
    exact List.mem_filter.mpr
      ⟨List.mem_range.mpr acceptable.exists_, decide_eq_true acceptable.notInGap⟩

/-- Distinct numbers that a port can have. -/
def PortNumbers (ports : List Nat) : Prop := ports.Nodup ∧ ∀ pnum ∈ ports, pnum < 256

theorem numPorts_lt (dev : DarDevInfo) : dev.numPorts < 256 := by
  have masked : (dev.swPortInfo &&& rioSwPortInfTot).toNat ≤ rioSwPortInfTot.toNat := by
    rw [BitVec.toNat_and]
    exact Nat.and_le_right
  have bound : rioSwPortInfTot.toNat = 65280 := rfl
  rw [DarDevInfo.numPorts, BitVec.toNat_ushiftRight, Nat.shiftRight_eq_div_pow]
  omega

theorem Normalised.portNumbers (normalised : Normalised dev ptlIn (.ok () frame)) :
    PortNumbers frame.out.ports := by
  obtain ⟨-, nodup, inDevice, -⟩ := normalised
  refine ⟨nodup, fun pnum isMember => ?_⟩
  have exists_ := List.mem_range.mp (List.mem_filter.mp (inDevice pnum isMember)).1
  exact Nat.lt_trans exists_ (numPorts_lt dev)

/-- However a program ends, the promise is kept if and only if a condition holds; the ports of a
list that is made are distinct in any case. -/
def KeepsIff (dev : DarDevInfo) (ptlIn : DarPtl) (fits : Prop) (Pre : PtlFrame → Prop)
    (program : PtlProgram Unit) : Prop :=
  Meets Pre program
    (fun _ frame => PortNumbers frame.out.ports ∧ (Normalised dev ptlIn (.ok () frame) ↔ fits))
    fun stop frame => Normalised dev ptlIn (.error stop frame) ↔ fits

theorem KeepsIff.run {fits : Prop} {program : PtlProgram Unit}
    (keeps : KeepsIff dev ptlIn fits (fun other => other = frame) program) :
    Normalised dev ptlIn (program.run frame) ↔ fits := by
  obtain ⟨normal, early⟩ := keeps rfl
  cases ran : program.run frame with
  | ok value final => exact (normal ran).2
  | error stop final => exact early ran

theorem darDb_listed (noGap : dev.gap = []) (nonempty : ptlIn.numPorts ≠ 0)
    (listed : ptlIn.numPorts ≠ rioAllPorts) (fits : ptlIn.numPorts ≤ rioMaxPorts) :
    KeepsIff dev ptlIn
      (∀ idx < ptlIn.numPorts, (∀ earlier < idx, Acceptable dev.numPorts [] ptlIn earlier) →
        ptlIn.pnums idx < dev.numPorts → ptlIn.pnums idx < rioMaxPorts)
      (Copied dev.numPorts [] ptlIn 0)
      ((List.range ptlIn.numPorts).forM (copyPnum dev.numPorts (setNumPorts 0) ptlIn)) := by
  have cleans : Meets (fun frame => frame.out.numPorts = ptlIn.numPorts) (setNumPorts 0)
      (fun _ frame => frame.out.numPorts = 0) fun _ _ => False := Meets.modify fun _ _ => rfl
  apply (copyPnums_meets fits cleans).weaken (fun _ before => before)
  · intro _ frame copied
    have normalised := (noGap.symm ▸ copied : Copied dev.numPorts dev.gap _ _ _).normalised
      nonempty listed
    refine ⟨normalised.portNumbers, iff_of_true normalised fun idx inList _ _ => ?_⟩
    exact (copied.accepted idx inList).2
  · intro stop frame stops
    cases stop with
    | code rc =>
      obtain ⟨isZero, stopped, -, before, not, inBounds⟩ := stops
      refine iff_of_true isZero fun idx _ acceptable inDevice => ?_
      rcases Nat.lt_trichotomy idx stopped with less | rfl | greater
      · exact (before idx less).2
      · exact inBounds inDevice
      · exact absurd (acceptable stopped greater) not
    | outOfBounds =>
      obtain ⟨idx, inList, before, inDevice, outside⟩ := stops
      refine iff_of_false (fun never => never) fun fits => ?_
      have inside := fits idx inList (fun earlier less => (before earlier less).1) inDevice
      exact absurd inside (Nat.not_lt.mpr outside)

theorem darDb_all (noGap : dev.gap = []) (all : ptlIn.numPorts = rioAllPorts) :
    KeepsIff dev ptlIn (0 < dev.numPorts ∧ dev.numPorts ≤ rioMaxPorts)
      (fun frame => frame.out.numPorts = dev.numPorts)
      ((List.range dev.numPorts).forM fun idx => setPnum idx idx) := by
  have allPorts : dev.allPorts = List.range dev.numPorts := by
    rw [DarDevInfo.allPorts, noGap]
    exact List.filter_eq_self.mpr fun _ _ => rfl
  apply fillPnums_meets.weaken (fun _ before => before)
  · rintro _ frame ⟨fits, isCount, filled⟩
    have isAll : frame.out.ports = List.range dev.numPorts := by
      rw [DarPtl.ports, isCount]
      calc (List.range dev.numPorts).map frame.out.pnums
          = (List.range dev.numPorts).map id :=
            List.map_congr_left fun idx inRange => filled idx (List.mem_range.mp inRange)
        _ = List.range dev.numPorts := List.map_id _
    rw [Normalised, isAll, if_pos all, allPorts]
    refine ⟨⟨List.nodup_range, fun pnum isMember => ?_⟩, ?_⟩
    · exact Nat.lt_trans (List.mem_range.mp isMember) (numPorts_lt dev)
    constructor
    · rintro ⟨nonempty, -, -, -⟩
      rw [ne_eq, List.range_eq_nil] at nonempty
      exact ⟨Nat.pos_of_ne_zero nonempty, fits⟩
    · rintro ⟨positive, -⟩
      refine ⟨?_, List.nodup_range, fun pnum isMember => isMember, rfl⟩
      rw [ne_eq, List.range_eq_nil]
      exact Nat.pos_iff_ne_zero.mp positive
  · rintro stop frame ⟨rfl, tooMany⟩
    refine iff_of_false (fun never => never) fun fits => ?_
    exact absurd fits.2 (Nat.not_le.mpr tooMany)

theorem darDbRioGetPortListOut_keepsIff (noGap : dev.gap = []) :
    KeepsIff dev ptlIn
      (if ptlIn.numPorts = rioAllPorts then 0 < dev.numPorts ∧ dev.numPorts ≤ rioMaxPorts
        else ptlIn.numPorts ≤ dev.numPorts → ptlIn.numPorts ≤ rioMaxPorts →
          ∀ idx < ptlIn.numPorts,
            (∀ earlier < idx, Acceptable dev.numPorts [] ptlIn earlier) →
              ptlIn.pnums idx < dev.numPorts → ptlIn.pnums idx < rioMaxPorts)
      (fun _ => True) (darDbRioGetPortListOut dev ptlIn) := by
  apply Meets.modifyBind fun frame => frame.dup = fun _ => false
  · exact fun _ _ => rfl
  apply Meets.modifyBind fun frame => frame.out.numPorts = 0 ∧ frame.dup = fun _ => false
  · exact fun _ isClear => ⟨rfl, isClear⟩
  apply Meets.failIfBind
  · rintro frame ⟨isZero, -⟩ ⟨tooMany, listed⟩
    rw [if_neg listed]
    exact iff_of_true isZero fun fits => absurd tooMany (Nat.not_lt.mpr fits)
  intro inDevice
  apply Meets.failIfBind
  · rintro frame ⟨isZero, -⟩ ⟨tooMany, listed⟩
    rw [if_neg listed]
    exact iff_of_true isZero fun _ fits => absurd tooMany (Nat.not_lt.mpr fits)
  intro inTable
  apply Meets.failIfBind
  · rintro frame ⟨isZero, -⟩ empty
    rw [if_neg (by rw [empty]; decide)]
    exact iff_of_true isZero fun _ _ idx less => absurd (empty ▸ less) (Nat.not_lt_zero idx)
  intro nonempty
  by_cases all : ptlIn.numPorts = rioAllPorts
  · rw [if_pos all, if_pos all]
    apply Meets.modifyBind fun frame => frame.out.numPorts = dev.numPorts
    · exact fun _ _ => rfl
    exact darDb_all noGap all
  · rw [if_neg all, if_neg all]
    have fits : ptlIn.numPorts ≤ rioMaxPorts := by
      by_contra tooMany
      exact inTable ⟨Nat.lt_of_not_le tooMany, all⟩
    have inRange : ptlIn.numPorts ≤ dev.numPorts := by
      by_contra tooMany
      exact inDevice ⟨Nat.lt_of_not_le tooMany, all⟩
    apply Meets.modifyBind (Copied dev.numPorts [] ptlIn 0)
    · rintro frame ⟨-, isClear⟩
      exact Copied.start rfl fun pnum => by rw [isClear]; simp
    apply (darDb_listed noGap nonempty all fits).weaken (fun _ before => before)
    · rintro _ frame ⟨portNumbers, kept⟩
      exact ⟨portNumbers, kept.trans ⟨fun holds _ _ => holds, fun holds => holds inRange fits⟩⟩
    · intro stop frame kept
      exact kept.trans ⟨fun holds _ _ => holds, fun holds => holds inRange fits⟩

/-- All ports of a CPS1432 with 16 port numbers. -/
def cps1432Ports : List Nat := [0, 1, 2, 3, 4, 5, 6, 7, 10, 11, 12, 13, 14, 15]

theorem cps1432Ports_eq_iff (gap : dev.gap = cps1432Gap) :
    cps1432Ports = dev.allPorts ↔ dev.numPorts = 16 := by
  rw [DarDevInfo.allPorts, gap]
  constructor
  · intro same
    have last : 15 ∈ cps1432Ports := by decide
    rw [same] at last
    have more : 15 < dev.numPorts := List.mem_range.mp (List.mem_filter.mp last).1
    by_contra isOther
    have next : 16 ∈ cps1432Ports := by
      rw [same]
      exact List.mem_filter.mpr ⟨List.mem_range.mpr (by omega), by decide⟩
    exact absurd next (by decide)
  · intro isSixteen
    rw [isSixteen]
    decide

theorem cps1432_all (gap : dev.gap = cps1432Gap) (all : ptlIn.numPorts = rioAllPorts) :
    KeepsIff dev ptlIn (dev.numPorts = 16) (fun _ => True) (do
      setNumPorts 14
      (List.range 8).forM fun idx => setPnum idx idx
      (List.range' 10 6).forM fun idx => setPnum (idx - 2) idx) := by
  have ends : ∀ frame, endsWith (fun _ final => final.out.ports = cps1432Ports) ((do
      setNumPorts 14
      (List.range 8).forM fun idx => setPnum idx idx
      (List.range' 10 6).forM fun idx => setPnum (idx - 2) idx : PtlProgram Unit).run frame) =
        true := fun _ => rfl
  intro frame _
  obtain ⟨_, last, isLast, test⟩ := exists_of_endsWith (ends frame)
  rw [isLast]
  constructor
  · rintro _ final ⟨rfl⟩
    rw [Normalised, of_decide_eq_true test, if_pos all]
    refine ⟨⟨by decide, by decide⟩, ?_⟩
    constructor
    · rintro ⟨-, -, -, same⟩
      exact (cps1432Ports_eq_iff gap).mp same
    · intro isSixteen
      have same := (cps1432Ports_eq_iff gap).mpr isSixteen
      refine ⟨by decide, by decide, fun pnum isMember => same ▸ isMember, same⟩
  · rintro _ _ ⟨⟩

theorem cps1432_listed (gap : dev.gap = cps1432Gap) (nonempty : ptlIn.numPorts ≠ 0)
    (listed : ptlIn.numPorts ≠ rioAllPorts) (fits : ptlIn.numPorts ≤ rioMaxPorts) :
    KeepsIff dev ptlIn (AcceptedBefore dev.numPorts cps1432Gap ptlIn ptlIn.numPorts)
      (Copied dev.numPorts cps1432Gap ptlIn 0)
      ((List.range ptlIn.numPorts).forM (copyPnum dev.numPorts (pure ()) ptlIn)) := by
  have cleans : Meets (fun frame => frame.out.numPorts = ptlIn.numPorts) (pure ())
      (fun _ : Unit => fun frame : PtlFrame => frame.out.numPorts = ptlIn.numPorts)
      fun _ : PtlStop => fun _ => False := Meets.pure fun _ same => same
  apply (copyPnums_meets fits cleans).weaken (fun _ before => before)
  · intro _ frame copied
    have normalised := (gap.symm ▸ copied : Copied dev.numPorts dev.gap _ _ _).normalised
      nonempty listed
    exact ⟨normalised.portNumbers, iff_of_true normalised copied.accepted⟩
  · intro stop frame stops
    cases stop with
    | code rc =>
      obtain ⟨isCount, stopped, inList, -, not, -⟩ := stops
      refine iff_of_false (fun isZero => nonempty (isCount.symm.trans isZero)) fun accepted => ?_
      exact not (accepted stopped inList).1
    | outOfBounds =>
      obtain ⟨idx, inList, -, -, outside⟩ := stops
      refine iff_of_false (fun never => never) fun accepted => ?_
      exact absurd (accepted idx inList).2 (Nat.not_lt.mpr outside)

theorem numCpsPorts_le (dev : DarDevInfo) : dev.numCpsPorts ≤ rioMaxPorts := by
  rw [DarDevInfo.numCpsPorts, cpsMaxPorts, rioMaxPorts]
  split
  · decide
  · omega

theorem cps1432_keepsIff (isCps : dev.isCps1432) :
    KeepsIff dev ptlIn
      (if ptlIn.numPorts = rioAllPorts then dev.numPorts = 16
        else if ptlIn.numPorts = 0 ∨ ptlIn.numPorts > dev.numCpsPorts then
          start.out.numPorts = 0
        else AcceptedBefore dev.numPorts cps1432Gap ptlIn ptlIn.numPorts)
      (fun frame => frame = start) (cpsRioGetPortList dev ptlIn) := by
  have gap : dev.gap = cps1432Gap := if_pos isCps
  rw [cpsRioGetPortList, if_pos isCps.2]
  apply Meets.failIfBind
  · rintro frame rfl ⟨tooMany, listed⟩
    rw [if_neg listed, if_pos (.inr tooMany)]
    exact Iff.rfl
  intro inDevice
  apply Meets.failIfBind
  · rintro frame rfl empty
    rw [if_neg (by rw [empty]; decide), if_pos (.inl empty)]
    exact Iff.rfl
  intro nonempty
  by_cases all : ptlIn.numPorts = rioAllPorts
  · rw [if_pos all, if_pos all]
    exact (cps1432_all gap all).weakenPre fun _ _ => trivial
  · have inRange : ptlIn.numPorts ≤ dev.numCpsPorts := by
      by_contra tooMany
      exact inDevice ⟨Nat.lt_of_not_le tooMany, all⟩
    rw [if_neg all, if_neg all, if_neg (not_or.mpr ⟨nonempty, Nat.not_lt.mpr inRange⟩)]
    apply Meets.modifyBind fun frame => frame.dup = fun pnum => decide (pnum ∈ cps1432Gap)
    · exact fun _ _ => rfl
    apply Meets.modifyBind (Copied dev.numPorts cps1432Gap ptlIn 0)
    · intro frame isGap
      exact Copied.start rfl fun pnum => by rw [isGap, decide_eq_true_iff]
    exact cps1432_listed gap nonempty all (Nat.le_trans inRange (numCpsPorts_le dev))

theorem darRioGetPortList_keepsIff :
    KeepsIff dev ptlIn (PtlFits dev ptlIn start.out) (fun frame => frame = start)
      (darRioGetPortList dev (some ptlIn)) := by
  rw [PtlFits]
  apply Meets.failIfBind
  · rintro frame rfl invalid
    rw [Bool.not_eq_true'] at invalid
    rw [if_pos invalid]
    exact Iff.rfl
  intro valid
  rw [if_neg (by simpa using valid)]
  dsimp only
  by_cases isCps : dev.isCps1432
  · rw [if_pos isCps.1, if_pos isCps]
    exact cps1432_keepsIff isCps
  · rw [if_neg isCps]
    have plain := (darDbRioGetPortListOut_keepsIff (if_neg isCps : dev.gap = []) :
      KeepsIff dev ptlIn _ _ _).weakenPre fun frame (_ : frame = start) => trivial
    by_cases family : dev.driverFamily = .cps
    · rw [if_pos family, cpsRioGetPortList, if_neg fun device => isCps ⟨family, device⟩]
      exact plain
    · rw [if_neg family]
      exact plain

theorem darRioGetPortList_portNumbers {final : PtlFrame}
    (ran : (darRioGetPortList dev (some ptlIn)).run start = .ok () final) :
    PortNumbers final.out.ports :=
  ((darRioGetPortList_keepsIff rfl).1 ran).1

/-- The promise is kept if and only if what was asked for fits. -/
theorem darRioGetPortList_normalised_iff (dev : DarDevInfo) (ptlIn : DarPtl) (start : PtlFrame) :
    Normalised dev ptlIn ((darRioGetPortList dev (some ptlIn)).run start) ↔
      PtlFits dev ptlIn start.out :=
  darRioGetPortList_keepsIff.run

/-- A switch with 25 ports has more than the structure. -/
theorem not_normalised_tooManyPorts :
    ¬∀ (dev : DarDevInfo) (ptlIn : DarPtl) (start : PtlFrame),
      Normalised dev ptlIn ((darRioGetPortList dev (some ptlIn)).run start) := by
  intro always
  have kept := always ⟨.unknown, 0, 0, 0, 0, 0, 0, 0, 0, 0, 0, 0, 0, 0, 0, 0, 0x1900, 0, 0, 0, 0,
    fun _ => 0, fun _ => 0, 0, none⟩ ⟨rioAllPorts, fun _ => 0⟩ ⟨⟨0, fun _ => 0⟩, fun _ => false⟩
  rw [darRioGetPortList_keepsIff.run, PtlFits, if_neg (by decide), if_neg (by decide),
    if_pos rfl] at kept
  exact absurd kept.2 (by decide)

end Promise

end RioFabric.Dar

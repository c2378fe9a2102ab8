import RioFabric.Lib.Bits
import RioFabric.Lib.WhileRules
import RioFabric.Riocp.HostLock

/-!
# Extended features

The register blocks of the extended features form a chain: `RIO_ASSY_INF` holds the offset of
the first block, and the header of a block its type and the offset of the next one.
`riocp_pe_read_features` follows the chain up to the first block of the serial physical layer or
of the error management, whichever comes first.  It finds both only if the chain has one of them,
and it does not come back from a cycle in which there is neither.
-/

namespace RioFabric.Riocp.Features

open Lib

def rioAssyInf : BitVec 32 := 0x0c#32

def rioAssyInfEfbPtr : BitVec 32 := 0x0000ffff#32

def rioPefExtFeatures : BitVec 32 := 0x00000008#32

def rioEfbT : BitVec 32 := 0x0000ffff#32

def rioEfbPtrMask : BitVec 32 := 0xffff0000#32

/-- `RIO_EFB_T_SP_EP`, `RIO_EFB_T_SP_EP_SAER` and `RIO_EFB_T_SP_NOEP`. -/
def rioEfbTSpEp : BitVec 32 := 0x0001#32
def rioEfbTSpEpSaer : BitVec 32 := 0x0002#32
def rioEfbTSpNoep : BitVec 32 := 0x0003#32

/-- The types of the serial physical layer: `RIO_EFB_T_SP_EP` to `RIO_EFB_T_SP_NOEP3_SAER`. -/
def rioEfbTSp : List (BitVec 32) :=
  [rioEfbTSpEp, rioEfbTSpEpSaer, rioEfbTSpNoep, 0x0009#32, 0x0011#32, 0x0012#32, 0x0013#32,
    0x0019#32]

/-- `RIO_EFB_SER_EP_ID`, `RIO_EFB_SER_EP_REC_ID` and `RIO_EFB_SER_EP_FREE_ID`, obsolete. -/
def rioEfbSerEpId : BitVec 32 := 0x0004#32
def rioEfbSerEpRecId : BitVec 32 := 0x0005#32
def rioEfbSerEpFreeId : BitVec 32 := 0x0006#32

def rioEfbTEmhs : BitVec 32 := 0x0007#32

/-- What a block is to the search. -/
inductive Block where
  /-- Serial physical layer, with the type that is entered into the handle. -/
  | sp (type : BitVec 32)
  /-- Error management. -/
  | emhs
  | other
  deriving DecidableEq

/-- The cases of the `switch` over the type of a header. -/
def Block.ofType (type : BitVec 32) : Block :=
  if type ∈ rioEfbTSp then .sp type
  else if type = rioEfbSerEpId then .sp rioEfbTSpEp
  else if type = rioEfbSerEpRecId then .sp rioEfbTSpEpSaer
  else if type = rioEfbSerEpFreeId then .sp rioEfbTSpNoep
  else if type = rioEfbTEmhs then .emhs
  else .other

def rioEfbId (hdr : BitVec 32) : BitVec 32 := hdr &&& rioEfbT

def rioGetBlockPtr (hdr : BitVec 32) : BitVec 32 := (hdr &&& rioEfbPtrMask) >>> 16

/-- A device: the contents of its registers, and which of the maintenance reads fail. -/
structure Device where
  regs : BitVec 32 → BitVec 32
  fails : Nat → Bool

/-- The fields of `struct riocp_pe` for the extended features. -/
structure Fields where
  efptr : BitVec 16
  efptrPhys : BitVec 32
  efptrPhysType : BitVec 32
  efptrEm : BitVec 32
  deriving DecidableEq

/-- The registers among the capabilities that the search looks at. -/
structure Capabilities where
  peFeat : BitVec 32
  asblyInfo : BitVec 32

/-- The handle and the number of maintenance reads so far. -/
structure State where
  pe : Fields
  reads : Nat

abbrev FeatureProg : Type → Type 1 := Prog Rc State Empty

variable (dev : Device)

def riocpPeMaintRead (offset : BitVec 32) : FeatureProg (BitVec 32) :=
  .act fun state =>
    if dev.fails state.reads then .error .eio { state with reads := state.reads + 1 }
    else .ok (dev.regs offset) { state with reads := state.reads + 1 }

/-- Set fields of the handle. -/
def setPe (change : Fields → Fields) : FeatureProg Unit :=
  Prog.change fun state => { state with pe := change state.pe }

def riocpPeGetEfb (start : BitVec 32) : FeatureProg (BitVec 32) :=
  if start = 0#32 then do
    let val ← riocpPeMaintRead dev rioAssyInf
    pure (val &&& rioAssyInfEfbPtr)
  else do
    let val ← riocpPeMaintRead dev start
    pure (rioGetBlockPtr val)

/-- The loop of `riocp_pe_get_efptr_phys`. -/
def searchTurn (efptr : BitVec 32) : FeatureProg (BitVec 32 ⊕ Unit) :=
  if efptr = 0#32 then do
    setPe fun pe => { pe with efptrPhys := 0#32 }
    pure (.inr ())
  else do
    let hdr ← riocpPeMaintRead dev efptr
    match Block.ofType (rioEfbId hdr) with
    | .sp type =>
      setPe fun pe => { pe with efptrPhys := efptr, efptrPhysType := type }
      pure (.inr ())
    | .emhs =>
      setPe fun pe => { pe with efptrEm := efptr }
      pure (.inr ())
    | .other =>
      let next ← riocpPeGetEfb dev efptr
      pure (.inl next)

/-- `riocp_pe_get_efptr_phys`, called with the fields of the handle. -/
def riocpPeGetEfptrPhys (cap : Capabilities) : FeatureProg Unit := do
  setPe fun pe => { pe with efptr := (cap.asblyInfo &&& rioAssyInfEfbPtr).setWidth 16 }
  let efptr ← riocpPeGetEfb dev 0#32
  Prog.loop (searchTurn dev) efptr

def riocpPeReadFeatures (cap : Capabilities) : FeatureProg Unit :=
  if cap.peFeat &&& rioPefExtFeatures ≠ 0#32 then riocpPeGetEfptrPhys dev cap else pure ()

section Steps

variable {dev} {α : Type} {pe : Fields} {reads fuel : Nat}

@[simp] theorem pure_run (value : α) (state : State) :
    (pure value : FeatureProg α).run fuel state = ⟨.done value, state, []⟩ := rfl

@[simp] theorem setPe_bind_run (change : Fields → Fields) (next : Unit → FeatureProg α) :
    (setPe change >>= next).run fuel ⟨pe, reads⟩ = (next ()).run fuel ⟨change pe, reads⟩ := rfl

theorem riocpPeMaintRead_bind_run (offset : BitVec 32) (next : BitVec 32 → FeatureProg α) :
    (riocpPeMaintRead dev offset >>= next).run fuel ⟨pe, reads⟩ =
      if dev.fails reads then ⟨.stopped .eio, ⟨pe, reads + 1⟩, []⟩
      else (next (dev.regs offset)).run fuel ⟨pe, reads + 1⟩ := by
  show ((riocpPeMaintRead dev offset).run fuel ⟨pe, reads⟩).andThen _ = _
  simp only [riocpPeMaintRead, Prog.run, EStateM.run]
  cases dev.fails reads with
  | true => rfl
  | false => rfl

theorem riocpPeGetEfb_bind_run {start : BitVec 32} (block : start ≠ 0#32)
    (next : BitVec 32 → FeatureProg α) :
    (riocpPeGetEfb dev start >>= next).run fuel ⟨pe, reads⟩ =
      if dev.fails reads then ⟨.stopped .eio, ⟨pe, reads + 1⟩, []⟩
      else (next (rioGetBlockPtr (dev.regs start))).run fuel ⟨pe, reads + 1⟩ := by
  show ((riocpPeGetEfb dev start).run fuel ⟨pe, reads⟩).andThen _ = _
  rw [riocpPeGetEfb, if_neg block, riocpPeMaintRead_bind_run]
  split
  · rfl
  · rfl

theorem riocpPeGetEfb_zero_bind_run (next : BitVec 32 → FeatureProg α) :
    (riocpPeGetEfb dev 0#32 >>= next).run fuel ⟨pe, reads⟩ =
      if dev.fails reads then ⟨.stopped .eio, ⟨pe, reads + 1⟩, []⟩
      else (next (dev.regs rioAssyInf &&& rioAssyInfEfbPtr)).run fuel ⟨pe, reads + 1⟩ := by
  show ((riocpPeGetEfb dev 0#32).run fuel ⟨pe, reads⟩).andThen _ = _
  rw [riocpPeGetEfb, if_pos rfl, riocpPeMaintRead_bind_run]
  split
  · rfl
  · rfl

end Steps

section Chain

variable (cap : Capabilities) {pe : Fields} {fuel : Nat}

/-- The offsets of the blocks, and 0 from the end of the chain on.  A device without extended
features has no blocks. -/
def Device.chain : Nat → BitVec 32
  | 0 => if cap.peFeat &&& rioPefExtFeatures ≠ 0#32 then dev.regs rioAssyInf &&& rioAssyInfEfbPtr
      else 0#32
  | n + 1 => if Device.chain n = 0#32 then 0#32 else rioGetBlockPtr (dev.regs (Device.chain n))

/-- What the block at a place of the chain is. -/
def Device.block (n : Nat) : Block := Block.ofType (rioEfbId (dev.regs (dev.chain cap n)))

/-- A block of the serial physical layer. -/
def Device.IsSp (n : Nat) : Prop :=
  dev.chain cap n ≠ 0#32 ∧ ∃ type, dev.block cap n = .sp type

/-- A block of the error management. -/
def Device.IsEmhs (n : Nat) : Prop := dev.chain cap n ≠ 0#32 ∧ dev.block cap n = .emhs

/-- No offset occurs twice before the end. -/
def Device.Acyclic : Prop :=
  ∀ i j, i < j → dev.chain cap i = dev.chain cap j → dev.chain cap i = 0#32

/-- Every register can be read. -/
def Device.Readable : Prop := ∀ n, dev.fails n = false

/-- The first place with a property. -/
def First (Is : Nat → Prop) (n : Nat) : Prop := Is n ∧ ∀ m < n, ¬Is m

/-- The fields name the first block of either kind, where there is one. -/
structure Complete (pe : Fields) : Prop where
  phys : ∀ n, First (dev.IsSp cap) n → pe.efptrPhys = dev.chain cap n
  em : ∀ n, First (dev.IsEmhs cap) n → pe.efptrEm = dev.chain cap n

/-- What the search is for: it comes to an end, and finds what there is if the chain has no cycle
and all registers can be read. -/
def FindsFeatures (pe : Fields) : Prop :=
  ∃ fuel, let outcome := (riocpPeReadFeatures dev cap).run fuel ⟨pe, 0⟩
    outcome.Ended ∧ (dev.Acyclic cap → dev.Readable →
      outcome.ending = .done () ∧ Complete dev cap outcome.state.pe)

/-- When it does so: a read fails, or the chain ends or leads to a block of one of the kinds; and
if there are blocks of both kinds, the handle has the one behind the other already. -/
structure Findable (pe : Fields) : Prop where
  ends : (∃ n, dev.fails n = true) ∨
    ∃ n, dev.chain cap n = 0#32 ∨ dev.IsSp cap n ∨ dev.IsEmhs cap n
  apart : dev.Acyclic cap → dev.Readable → ∀ sp em, First (dev.IsSp cap) sp →
    First (dev.IsEmhs cap) em →
      (sp < em → pe.efptrEm = dev.chain cap em) ∧ (em < sp → pe.efptrPhys = dev.chain cap sp)

variable {dev cap} {n : Nat}

theorem chain_zero_of_le {m : Nat} (ended : dev.chain cap n = 0#32) (later : n ≤ m) :
    dev.chain cap m = 0#32 := by
  induction later with
  | refl => exact ended
  | step _ ih => rw [Device.chain, if_pos ih]

theorem chain_ne_zero_of_le {m : Nat} (block : dev.chain cap m ≠ 0#32) (earlier : n ≤ m) :
    dev.chain cap n ≠ 0#32 :=
  fun ended => block (chain_zero_of_le ended earlier)

/-- The search goes past this place. -/
structure Passes (dev : Device) (cap : Capabilities) (n : Nat) : Prop where
  block : dev.chain cap n ≠ 0#32
  other : dev.block cap n = .other
  header : dev.fails (2 * n + 1) = false
  next : dev.fails (2 * n + 2) = false

/-- The fields when the search ends at a place, all reads having succeeded. -/
def leaveAt (dev : Device) (cap : Capabilities) (n : Nat) (pe : Fields) : Fields :=
  if dev.chain cap n = 0#32 then { pe with efptrPhys := 0#32 }
  else
    match dev.block cap n with
    | .sp type => { pe with efptrPhys := dev.chain cap n, efptrPhysType := type }
    | .emhs => { pe with efptrEm := dev.chain cap n }
    | .other => pe

/-- The state in front of a place. -/
def stateAt (pe : Fields) (n : Nat) : State := ⟨pe, 2 * n + 1⟩

theorem searchTurn_goesOn (passes : Passes dev cap n) :
    Prog.GoesOn (searchTurn dev) (dev.chain cap) (stateAt pe) n := by
  intro fuel
  have next : dev.chain cap (n + 1) = rioGetBlockPtr (dev.regs (dev.chain cap n)) := by
    rw [Device.chain, if_neg passes.block]
  have other := passes.other
  rw [Device.block] at other
  simp [searchTurn, stateAt, next, other, passes.block, passes.header, passes.next,
    riocpPeMaintRead_bind_run, riocpPeGetEfb_bind_run, Nat.mul_add]

theorem searchTurn_leaves (pe : Fields) (stays : ¬Passes dev cap n) :
    ∃ (ending : Ending Rc Unit) (final : State), (ending = .done () ∨ ending = .stopped .eio) ∧
      (dev.Readable → ending = .done () ∧ final.pe = leaveAt dev cap n pe) ∧
      ∀ fuel, (searchTurn dev (dev.chain cap n)).run fuel (stateAt pe n) =
        ⟨ending.leaving, final, []⟩ := by
  by_cases ended : dev.chain cap n = 0#32
  · refine ⟨.done (), ⟨leaveAt dev cap n pe, 2 * n + 1⟩, .inl rfl, fun _ => ⟨rfl, rfl⟩, ?_⟩
    intro fuel
    simp [searchTurn, stateAt, leaveAt, ended, Ending.leaving]
  · cases header : dev.fails (2 * n + 1) with
    | true =>
      refine ⟨.stopped .eio, ⟨pe, 2 * n + 2⟩, .inr rfl, fun readable => ?_, fun fuel => ?_⟩
      · rw [readable] at header
        cases header
      · simp [searchTurn, stateAt, ended, riocpPeMaintRead_bind_run, header, Ending.leaving]
    | false =>
      cases block : dev.block cap n with
      | sp type =>
        refine ⟨.done (), ⟨leaveAt dev cap n pe, 2 * n + 2⟩, .inl rfl, fun _ => ⟨rfl, rfl⟩, ?_⟩
        intro fuel
        rw [leaveAt, if_neg ended, block]
        rw [Device.block] at block
        simp [searchTurn, stateAt, ended, riocpPeMaintRead_bind_run, header, block,
          Ending.leaving]
      | emhs =>
        refine ⟨.done (), ⟨leaveAt dev cap n pe, 2 * n + 2⟩, .inl rfl, fun _ => ⟨rfl, rfl⟩, ?_⟩
        intro fuel
        rw [leaveAt, if_neg ended, block]
        rw [Device.block] at block
        simp [searchTurn, stateAt, ended, riocpPeMaintRead_bind_run, header, block,
          Ending.leaving]
      | other =>
        have next : dev.fails (2 * n + 2) = true := by
          by_contra goesOn
          exact stays ⟨ended, block, header, Bool.eq_false_of_not_eq_true goesOn⟩
        refine ⟨.stopped .eio, ⟨pe, 2 * n + 3⟩, .inr rfl, fun readable => ?_, fun fuel => ?_⟩
        · rw [readable] at next
          cases next
        · rw [Device.block] at block
          simp [searchTurn, stateAt, ended, riocpPeMaintRead_bind_run, riocpPeGetEfb_bind_run,
            header, block, next, Ending.leaving]

/-- The fields once the search starts. -/
def started (cap : Capabilities) (pe : Fields) : Fields :=
  { pe with efptr := (cap.asblyInfo &&& rioAssyInfEfbPtr).setWidth 16 }

theorem riocpPeReadFeatures_run (pe : Fields) (features : cap.peFeat &&& rioPefExtFeatures ≠ 0#32)
    (readable : dev.fails 0 = false) (fuel : Nat) :
    (riocpPeReadFeatures dev cap).run fuel ⟨pe, 0⟩ =
      (Prog.loop (searchTurn dev) (dev.chain cap 0)).run fuel (stateAt (started cap pe) 0) := by
  rw [riocpPeReadFeatures, if_pos features, Device.chain, if_pos features, riocpPeGetEfptrPhys,
    setPe_bind_run, riocpPeGetEfb_zero_bind_run, readable]
  rfl

/-- The search goes down the chain to the first block that it stays at. -/
theorem run_of_passes (pe : Fields) (features : cap.peFeat &&& rioPefExtFeatures ≠ 0#32)
    (readable : dev.fails 0 = false) (before : ∀ m < n, Passes dev cap m)
    (stays : ¬Passes dev cap n) :
    ∃ fuel, let outcome := (riocpPeReadFeatures dev cap).run fuel ⟨pe, 0⟩
      outcome.Ended ∧ (dev.Readable →
        outcome.ending = .done () ∧ outcome.state.pe = leaveAt dev cap n (started cap pe)) := by
  obtain ⟨ending, final, ends, left, leaves⟩ := searchTurn_leaves (started cap pe) stays
  refine ⟨n + 1, ?_⟩
  rw [riocpPeReadFeatures_run pe features readable,
    Prog.loop_run_of_goesOn (fun m earlier => searchTurn_goesOn (before m earlier)) leaves]
  refine ⟨?_, left⟩
  cases ends with
  | inl done =>
    subst done
    trivial
  | inr stopped =>
    subst stopped
    trivial

theorem exists_first_stays (stays : ¬Passes dev cap n) :
    ∃ first ≤ n, ¬Passes dev cap first ∧ ∀ m < first, Passes dev cap m := by
  induction n using Nat.strong_induction_on with
  | _ n ih =>
    by_cases before : ∀ m < n, Passes dev cap m
    · exact ⟨n, le_rfl, stays, before⟩
    · push Not at before
      obtain ⟨m, earlier, staysThere⟩ := before
      obtain ⟨first, bound, found⟩ := ih m earlier staysThere
      exact ⟨first, bound.trans earlier.le, found⟩

/-- More fuel does not change a search that has ended. -/
theorem run_eq_of_ended {other : Nat}
    (ended : ((riocpPeReadFeatures dev cap).run fuel ⟨pe, 0⟩).Ended)
    (otherEnded : ((riocpPeReadFeatures dev cap).run other ⟨pe, 0⟩).Ended) :
    (riocpPeReadFeatures dev cap).run fuel ⟨pe, 0⟩ =
      (riocpPeReadFeatures dev cap).run other ⟨pe, 0⟩ := by
  obtain fewer | more := Nat.le_total fuel other
  · exact ((riocpPeReadFeatures dev cap).run_approx fewer _).eq_of_ended ended
  · exact (((riocpPeReadFeatures dev cap).run_approx more _).eq_of_ended otherEnded).symm

theorem kind_of_not_passes (readable : dev.Readable) (stays : ¬Passes dev cap n) :
    dev.chain cap n = 0#32 ∨ dev.IsSp cap n ∨ dev.IsEmhs cap n := by
  by_contra none
  push Not at none
  obtain ⟨block, notSp, notEmhs⟩ := none
  apply stays
  refine ⟨block, ?_, readable _, readable _⟩
  cases kind : dev.block cap n with
  | sp type => exact absurd ⟨block, type, kind⟩ notSp
  | emhs => exact absurd ⟨block, kind⟩ notEmhs
  | other => rfl

theorem passes_before (readable : dev.Readable) (block : dev.chain cap n ≠ 0#32)
    (noSp : ∀ m < n, ¬dev.IsSp cap m) (noEmhs : ∀ m < n, ¬dev.IsEmhs cap m) :
    ∀ m < n, Passes dev cap m := by
  intro m earlier
  by_contra stays
  obtain ended | isSp | isEmhs := kind_of_not_passes readable stays
  · exact chain_ne_zero_of_le block earlier.le ended
  · exact noSp m earlier isSp
  · exact noEmhs m earlier isEmhs

/-- A search of a readable device that ends is complete. -/
theorem complete_of_run (readable : dev.Readable)
    (features : cap.peFeat &&& rioPefExtFeatures ≠ 0#32) (before : ∀ m < n, Passes dev cap m)
    (stays : ¬Passes dev cap n) (ended : ((riocpPeReadFeatures dev cap).run fuel ⟨pe, 0⟩).Ended) :
    ((riocpPeReadFeatures dev cap).run fuel ⟨pe, 0⟩).ending = .done () ∧
      ((riocpPeReadFeatures dev cap).run fuel ⟨pe, 0⟩).state.pe =
        leaveAt dev cap n (started cap pe) := by
  obtain ⟨other, otherEnded, left⟩ := run_of_passes pe features (readable 0) before stays
  rw [run_eq_of_ended ended otherEnded]
  exact left readable

theorem leaveAt_of_sp (isSp : dev.IsSp cap n) :
    (leaveAt dev cap n pe).efptrPhys = dev.chain cap n ∧
      (leaveAt dev cap n pe).efptrEm = pe.efptrEm := by
  obtain ⟨block, type, kind⟩ := isSp
  rw [leaveAt, if_neg block, kind]
  exact ⟨rfl, rfl⟩

theorem leaveAt_of_emhs (isEmhs : dev.IsEmhs cap n) :
    (leaveAt dev cap n pe).efptrEm = dev.chain cap n ∧
      (leaveAt dev cap n pe).efptrPhys = pe.efptrPhys := by
  obtain ⟨block, kind⟩ := isEmhs
  rw [leaveAt, if_neg block, kind]
  exact ⟨rfl, rfl⟩

theorem not_passes_of_sp (isSp : dev.IsSp cap n) : ¬Passes dev cap n := by
  intro passes
  obtain ⟨_, type, kind⟩ := isSp
  rw [passes.other] at kind
  cases kind

theorem not_passes_of_emhs (isEmhs : dev.IsEmhs cap n) : ¬Passes dev cap n := by
  intro passes
  have kind := isEmhs.2
  rw [passes.other] at kind
  cases kind

theorem exists_not_passes (ends : (∃ n, dev.fails n = true) ∨
      ∃ n, dev.chain cap n = 0#32 ∨ dev.IsSp cap n ∨ dev.IsEmhs cap n)
    (readable : dev.fails 0 = false) : ∃ n, ¬Passes dev cap n := by
  cases ends with
  | inl fails =>
    obtain ⟨access, fails⟩ := fails
    -- access 2 n + 1 reads the header, access 2 n + 2 the offset behind it
    refine ⟨(access - 1) / 2, fun passes => ?_⟩
    have header := passes.header
    have next := passes.next
    cases access with
    | zero =>
      rw [readable] at fails
      cases fails
    | succ access =>
      rw [Nat.add_sub_cancel] at header next
      obtain even | odd := Nat.mod_two_eq_zero_or_one access
      · rw [show 2 * (access / 2) + 1 = access + 1 by omega, fails] at header
        cases header
      · rw [show 2 * (access / 2) + 2 = access + 1 by omega, fails] at next
        cases next
  | inr found =>
    obtain ⟨n, ended | isSp | isEmhs⟩ := found
    · exact ⟨n, fun passes => passes.block ended⟩
    · exact ⟨n, not_passes_of_sp isSp⟩
    · exact ⟨n, not_passes_of_emhs isEmhs⟩

theorem features_of_block (block : dev.chain cap n ≠ 0#32) :
    cap.peFeat &&& rioPefExtFeatures ≠ 0#32 := by
  intro noFeatures
  apply chain_ne_zero_of_le block (Nat.zero_le n)
  rw [Device.chain, noFeatures, if_neg (fun absent => absent rfl)]

theorem complete_leaveAt (findable : Findable dev cap pe) (acyclic : dev.Acyclic cap)
    (readable : dev.Readable) (before : ∀ m < n, Passes dev cap m) (stays : ¬Passes dev cap n) :
    Complete dev cap (leaveAt dev cap n (started cap pe)) := by
  have notBehind : ∀ place, ¬Passes dev cap place → n ≤ place := fun place isStop =>
    Nat.not_lt.mp fun earlier => isStop (before place earlier)
  constructor
  · intro sp isSp
    obtain same | earlier := (notBehind sp (not_passes_of_sp isSp.1)).eq_or_lt
    · subst same
      exact (leaveAt_of_sp isSp.1).1
    · obtain ended | isSpHere | isEmhs := kind_of_not_passes readable stays
      · exact absurd ended (chain_ne_zero_of_le isSp.1.1 earlier.le)
      · exact absurd isSpHere (isSp.2 n earlier)
      · have first : First (dev.IsEmhs cap) n :=
          ⟨isEmhs, fun m sooner other => not_passes_of_emhs other (before m sooner)⟩
        rw [(leaveAt_of_emhs isEmhs).2]
        exact (findable.apart acyclic readable sp n isSp first).2 earlier
  · intro em isEmhs
    obtain same | earlier := (notBehind em (not_passes_of_emhs isEmhs.1)).eq_or_lt
    · subst same
      exact (leaveAt_of_emhs isEmhs.1).1
    · obtain ended | isSp | isEmhsHere := kind_of_not_passes readable stays
      · exact absurd ended (chain_ne_zero_of_le isEmhs.1.1 earlier.le)
      · have first : First (dev.IsSp cap) n :=
          ⟨isSp, fun m sooner other => not_passes_of_sp other (before m sooner)⟩
        rw [(leaveAt_of_sp isSp).2]
        exact (findable.apart acyclic readable n em first isEmhs).1 earlier
      · exact absurd isEmhsHere (isEmhs.2 n earlier)

theorem not_ended_of_endless (readable : dev.Readable)
    (endless : ∀ n, dev.chain cap n ≠ 0#32 ∧ ¬dev.IsSp cap n ∧ ¬dev.IsEmhs cap n) :
    ¬((riocpPeReadFeatures dev cap).run fuel ⟨pe, 0⟩).Ended := by
  intro ended
  rw [riocpPeReadFeatures_run pe (features_of_block (endless 0).1) (readable 0)] at ended
  refine Prog.not_stops_of_goesOn (fun n => searchTurn_goesOn ?_) ⟨fuel, ended⟩
  exact passes_before readable (endless (n + 1)).1 (fun m _ => (endless m).2.1)
    (fun m _ => (endless m).2.2) n (Nat.lt_succ_self n)

theorem FindsFeatures.apart (finds : FindsFeatures dev cap pe) (acyclic : dev.Acyclic cap)
    (readable : dev.Readable) {sp em : Nat} (isSp : First (dev.IsSp cap) sp)
    (isEmhs : First (dev.IsEmhs cap) em) :
    (sp < em → pe.efptrEm = dev.chain cap em) ∧ (em < sp → pe.efptrPhys = dev.chain cap sp) := by
  obtain ⟨fuel, ended, found⟩ := finds
  obtain ⟨-, complete⟩ := found acyclic readable
  have features := features_of_block isSp.1.1
  constructor
  · intro earlier
    have before := passes_before readable isSp.1.1 isSp.2
      fun m sooner => isEmhs.2 m (sooner.trans earlier)
    have left := complete_of_run readable features before (not_passes_of_sp isSp.1) ended
    have inField := complete.em em isEmhs
    rw [left.2, (leaveAt_of_sp isSp.1).2] at inField
    exact inField
  · intro earlier
    have before := passes_before readable isEmhs.1.1
      (fun m sooner => isSp.2 m (sooner.trans earlier)) isEmhs.2
    have left := complete_of_run readable features before (not_passes_of_emhs isEmhs.1) ended
    have inField := complete.phys sp isSp
    rw [left.2, (leaveAt_of_emhs isEmhs.1).2] at inField
    exact inField

/-- The search finds what there is exactly when it ends and blocks of one kind do not hide those
of the other. -/
theorem finds_features_iff (dev : Device) (cap : Capabilities) (pe : Fields) :
    FindsFeatures dev cap pe ↔ Findable dev cap pe := by
  constructor
  · intro finds
    constructor
    · obtain ⟨fuel, ended, -⟩ := finds
      by_contra endless
      push Not at endless
      have readable : dev.Readable := fun n => Bool.eq_false_of_not_eq_true (endless.1 n)
      exact not_ended_of_endless readable endless.2 ended
    · exact fun acyclic readable sp em isSp isEmhs => finds.apart acyclic readable isSp isEmhs
  · intro findable
    by_cases features : cap.peFeat &&& rioPefExtFeatures ≠ 0#32
    · cases first : dev.fails 0 with
      | true =>
        refine ⟨0, ?_, fun _ readable => ?_⟩
        · rw [riocpPeReadFeatures, if_pos features, riocpPeGetEfptrPhys, setPe_bind_run,
            riocpPeGetEfb_zero_bind_run, if_pos first]
          trivial
        · rw [readable] at first
          cases first
      | false =>
        obtain ⟨_, somewhere⟩ := exists_not_passes findable.ends first
        obtain ⟨n, -, stays, before⟩ := exists_first_stays somewhere
        obtain ⟨fuel, ended, left⟩ := run_of_passes pe features first before stays
        refine ⟨fuel, ended, fun acyclic readable => ?_⟩
        obtain ⟨done, found⟩ := left readable
        refine ⟨done, ?_⟩
        rw [found]
        exact complete_leaveAt findable acyclic readable before stays
    · refine ⟨0, ?_, fun _ _ => ⟨?_, ?_, ?_⟩⟩
      · rw [riocpPeReadFeatures, if_neg features]
        trivial
      · rw [riocpPeReadFeatures, if_neg features]
        rfl
      · exact fun n isSp => absurd (features_of_block isSp.1.1) features
      · exact fun n isEmhs => absurd (features_of_block isEmhs.1.1) features

end Chain

/-- A switch whose error management block, at 0x100, comes before the one of the serial physical
layer, at 0x200. -/
def emhsFirst : Device where
  regs offset :=
    if offset = rioAssyInf then 0x100#32
    else if offset = 0x100#32 then 0x02000007#32
    else if offset = 0x200#32 then 0x00000009#32
    else 0#32
  fails _ := false

/-- The handle as it is allocated. -/
def fresh : Fields := ⟨0#16, 0#32, 0#32, 0#32⟩

/-- The search ends at the first of the two blocks. -/
theorem not_finds_features_emhsFirst :
    ¬∀ (dev : Device) (cap : Capabilities), FindsFeatures dev cap fresh := by
  intro finds
  have acyclic : emhsFirst.Acyclic ⟨rioPefExtFeatures, 0x100#32⟩ := by
    intro i j earlier same
    have ends : ∀ n, 2 ≤ n → emhsFirst.chain ⟨rioPefExtFeatures, 0x100#32⟩ n = 0#32 :=
      fun n later => chain_zero_of_le (n := 2) (by decide) later
    cases i with
    | zero =>
      obtain rfl | later : j = 1 ∨ 2 ≤ j := by omega
      · exact absurd same (by decide)
      · rw [same, ends j later]
    | succ i =>
      rw [same, ends j (by omega)]
  have isEmhs : First (emhsFirst.IsEmhs ⟨rioPefExtFeatures, 0x100#32⟩) 0 :=
    ⟨⟨by decide, by decide⟩, fun m earlier => absurd earlier (Nat.not_lt_zero m)⟩
  have isSp : First (emhsFirst.IsSp ⟨rioPefExtFeatures, 0x100#32⟩) 1 := by
    refine ⟨⟨by decide, 0x0009#32, by decide⟩, ?_⟩
    intro m earlier isSp
    obtain rfl := Nat.lt_one_iff.mp earlier
    obtain ⟨-, type, kind⟩ := isSp
    rw [isEmhs.1.2] at kind
    cases kind
  have inField := ((finds _ _).apart acyclic (fun _ => rfl) isSp isEmhs).2 Nat.one_pos
  exact absurd inField (by decide)

end RioFabric.Riocp.Features

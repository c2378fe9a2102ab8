import Mathlib.Data.Fintype.EquivFin
import RioFabric.Dar.PortControl
import RioFabric.Dar.RegAccess
import RioFabric.Riocp.Features

/-!
# Discovery of a device

`DARDB_rioDeviceSupported` reads the capabilities of a device, and follows the chain of its
extended features to the end.  It enters the last block of each kind, where `riocp_pe_read_features`
enters the first block of all.
-/

namespace RioFabric.Dar

open Lib Riocp.Features

/-! ## The routine -/

/-- What is known of the device, and the number of reads so far. -/
structure DiscoveryState where
  dev : DarDevInfo
  reads : Nat

def rioDevIdent : BitVec 32 := 0x00

def rioDevInf : BitVec 32 := 0x04

def rioPeFeat : BitVec 32 := 0x10

def rioSrcOps : BitVec 32 := 0x18

def rioDstOps : BitVec 32 := 0x1C

def rioSwRtTblLim : BitVec 32 := 0x34

def rioSwMcInf : BitVec 32 := 0x38

def rioPeFeatMc : BitVec 32 := 0x00000400

def rioPeFeatSw : BitVec 32 := 0x10000000

/-- `RIO_EFB_T_HS`, `RIO_EFB_T_LANE`, `RIO_EFB_T_VC`, `RIO_EFB_T_VOQ`, `RIO_EFB_T_RT`,
`RIO_EFB_T_TS` and `RIO_EFB_T_MISC`. -/
def rioEfbTHs : BitVec 32 := 0x0017
def rioEfbTLane : BitVec 32 := 0x000D
def rioEfbTVc : BitVec 32 := 0x000A
def rioEfbTVoq : BitVec 32 := 0x000B
def rioEfbTRt : BitVec 32 := 0x000E
def rioEfbTTs : BitVec 32 := 0x000F
def rioEfbTMisc : BitVec 32 := 0x0010

/-- What is read of a device that does not answer. -/
def noAnswer : BitVec 32 := 0xFFFFFFFF

section Routine

variable (device : Device)

def readReg (offset : BitVec 32) : EStateM Nat DiscoveryState (BitVec 32) := fun state =>
  if device.fails state.reads then .error rioErrAccess { state with reads := state.reads + 1 }
  else .ok (device.regs offset) { state with reads := state.reads + 1 }

/-- Read a register into a field. -/
def readField (offset : BitVec 32) (set : BitVec 32 → DarDevInfo → DarDevInfo) :
    EStateM Nat DiscoveryState Unit := do
  let value ← readReg device offset
  modify fun state => { state with dev := set value state.dev }

/-- Read a register into a field, where a feature of the device asks for it. -/
def readFieldIf (feature : Prop) [Decidable feature] (offset : BitVec 32)
    (set : BitVec 32 → DarDevInfo → DarDevInfo) : EStateM Nat DiscoveryState Unit :=
  if feature then readField device offset set else pure ()

/-- `DARDB_rioDeviceSupported`, before it follows the chain. -/
def readCapabilities : EStateM Nat DiscoveryState Unit := do
  readField device rioDevIdent fun value dev =>
    { dev with devID := value, driverFamily := rioGetDriverFamily value }
  readField device rioDevInf fun value dev => { dev with devInfo := value }
  readField device rioAssyInf fun value dev => { dev with assyInfo := value }
  readField device rioPeFeat fun value dev => { dev with features := value }
  readField device rioSwPortInf fun value dev =>
    { dev with swPortInfo := if value = 0 then 0x00000100 else value }
  let state ← get
  readFieldIf device (state.dev.features &&& rioPeFeatSw ≠ 0) rioSwRtTblLim fun value dev =>
    { dev with swRtInfo := value }
  readField device rioSrcOps fun value dev => { dev with srcOps := value }
  readField device rioDstOps fun value dev => { dev with dstOps := value }
  readFieldIf device (state.dev.features &&& rioPeFeatMc ≠ 0) rioSwMcInf fun value dev =>
    { dev with swMcastInfo := value }

/-- Enter a block of the chain; the `switch` over the type of its header. -/
def enterBlock (prevAddr currExtFeat : BitVec 32) (dev : DarDevInfo) : Option DarDevInfo :=
  let type := rioEfbId currExtFeat
  if rioSpVld type then some { dev with extFPtrPortType := type, extFPtrForPort := prevAddr }
  else if type = rioEfbTEmhs then some { dev with extFPtrForErr := prevAddr }
  else if type = rioEfbTHs then some { dev with extFPtrForHS := prevAddr }
  else if type = rioEfbTLane then some { dev with extFPtrForLane := prevAddr }
  else if type = rioEfbTVc then some { dev with extFPtrForVC := prevAddr }
  else if type = rioEfbTVoq then some { dev with extFPtrForVOQ := prevAddr }
  else if type = rioEfbTRt then some { dev with extFPtrForRT := prevAddr }
  else if type = rioEfbTTs then some { dev with extFPtrForTS := prevAddr }
  else if type = rioEfbTMisc then some { dev with extFPtrForMISC := prevAddr }
  else if currExtFeat = noAnswer then none
  else some dev

/-- A turn of the loop of `DARDB_rioDeviceSupported`. -/
def followTurn (prevAddr : BitVec 32) : EStateM Nat DiscoveryState (BitVec 32 ⊕ Unit) := do
  if prevAddr = 0 then pure (.inr ())
  else do
    let currExtFeat ← readReg device prevAddr
    let state ← get
    match enterBlock prevAddr currExtFeat state.dev with
    | none => throw rioErrAccess
    | some dev =>
      set { state with dev }
      pure (.inl (currExtFeat >>> 16))

/-- Follow the chain of the extended features; `DARrioGetExtFeaturesPtr` looks at the handle. -/
def followChain (dev : DarDevInfo) : Prog Nat DiscoveryState Empty Unit :=
  if dev.features &&& rioPefExtFeatures ≠ 0 then
    if !dev.valid then .act (throw darDbInvalidHandle)
    else
      Prog.loop (fun prevAddr => .act (followTurn device prevAddr))
        (dev.assyInfo &&& rioAssyInfEfbPtr)
  else pure ()

def darDbRioDeviceSupported : Prog Nat DiscoveryState Empty Unit := do
  .act (readCapabilities device)
  let state ← .act get
  followChain device state.dev

end Routine

/-! ## The capabilities -/

section Capabilities

variable {device : Device} {start : DarDevInfo} {offset : BitVec 32}
  {set : BitVec 32 → DarDevInfo → DarDevInfo}

/-- The capabilities as `riocp_pe_read_features` finds them in the handle. -/
def capabilities (device : Device) : Capabilities := ⟨device.regs rioPeFeat, device.regs rioAssyInf⟩

/-- What is read before the chain is followed: the first reads succeed, and no block is entered. -/
structure Identified (device : Device) (start : DarDevInfo) (state : DiscoveryState) : Prop where
  readable : ∀ n < state.reads, device.fails n = false
  port : state.dev.extFPtrForPort = start.extFPtrForPort
  err : state.dev.extFPtrForErr = start.extFPtrForErr
  dsfH : state.dev.dsfH = start.dsfH

/-- A read that fails leaves the fields for the blocks. -/
def NotIdentified (device : Device) (start : DarDevInfo) (_ : Nat) (state : DiscoveryState) :
    Prop :=
  (∃ n, device.fails n = true) ∧ state.dev.extFPtrForPort = start.extFPtrForPort ∧
    state.dev.extFPtrForErr = start.extFPtrForErr

/-- A field is set that is neither the handle nor for a block. -/
def SetsOther (set : BitVec 32 → DarDevInfo → DarDevInfo) : Prop :=
  ∀ value dev, (set value dev).extFPtrForPort = dev.extFPtrForPort ∧
    (set value dev).extFPtrForErr = dev.extFPtrForErr ∧ (set value dev).dsfH = dev.dsfH

theorem readField_meets {Before After : DarDevInfo → Prop} (sets : SetsOther set)
    (holds : ∀ dev, Before dev → After (set (device.regs offset) dev)) :
    Meets (fun state => Identified device start state ∧ Before state.dev)
      (readField device offset set)
      (fun _ state => Identified device start state ∧ After state.dev)
      (NotIdentified device start) := by
  rintro state ⟨identified, before⟩
  cases fails : device.fails state.reads with
  | true =>
    have ran : (readField device offset set).run state =
        .error rioErrAccess { state with reads := state.reads + 1 } := by
      simp [readField, readReg, EStateM.run, bind, EStateM.bind, fails]
    rw [ran]
    refine ⟨fun _ _ impossible => (by cases impossible), fun _ _ same => ?_⟩
    cases same
    exact ⟨⟨state.reads, fails⟩, identified.port, identified.err⟩
  | false =>
    have ran : (readField device offset set).run state =
        .ok () ⟨set (device.regs offset) state.dev, state.reads + 1⟩ := by
      simp only [readField, readReg, EStateM.run, bind, EStateM.bind, fails]
      rfl
    rw [ran]
    refine ⟨fun _ _ same => ?_, fun _ _ impossible => (by cases impossible)⟩
    cases same
    refine ⟨⟨fun n smaller => ?_, ?_, ?_, ?_⟩, holds state.dev before⟩
    · rcases Nat.lt_succ_iff_lt_or_eq.mp smaller with less | rfl
      · exact identified.readable n less
      · exact fails
    · exact (sets _ _).1.trans identified.port
    · exact (sets _ _).2.1.trans identified.err
    · exact (sets _ _).2.2.trans identified.dsfH

/-- What was read of the device. -/
structure Known (device : Device) (dev : DarDevInfo) : Prop where
  devID : dev.devID = device.regs rioDevIdent
  family : dev.driverFamily = rioGetDriverFamily (device.regs rioDevIdent)
  assyInfo : dev.assyInfo = device.regs rioAssyInf
  features : dev.features = device.regs rioPeFeat

theorem Known.of_eq {dev other : DarDevInfo} (known : Known device dev)
    (devID : other.devID = dev.devID) (family : other.driverFamily = dev.driverFamily)
    (assyInfo : other.assyInfo = dev.assyInfo) (features : other.features = dev.features) :
    Known device other :=
  ⟨devID.trans known.devID, family.trans known.family, assyInfo.trans known.assyInfo,
    features.trans known.features⟩

theorem readFieldIf_meets {feature : Prop} [Decidable feature] (sets : SetsOther set)
    (holds : ∀ dev, Known device dev → Known device (set (device.regs offset) dev)) :
    Meets (fun state => Identified device start state ∧ Known device state.dev)
      (readFieldIf device feature offset set)
      (fun _ state => Identified device start state ∧ Known device state.dev)
      (NotIdentified device start) :=
  Meets.ite (fun _ => readField_meets sets holds) fun _ => Meets.pure fun _ same => same

/-- The device is identified, or the call ends with the error of the access. -/
theorem readCapabilities_meets : Meets (fun state => state = ⟨start, 0⟩)
    (readCapabilities device)
    (fun _ state => Identified device start state ∧ Known device state.dev)
    (NotIdentified device start) := by
  let IsDevice (dev : DarDevInfo) : Prop := dev.devID = device.regs rioDevIdent ∧
    dev.driverFamily = rioGetDriverFamily (device.regs rioDevIdent)
  let HasChain (dev : DarDevInfo) : Prop := IsDevice dev ∧ dev.assyInfo = device.regs rioAssyInf
  have identifies : Meets (fun state => Identified device start state ∧ True)
      (readCapabilities device)
      (fun _ state => Identified device start state ∧ Known device state.dev)
      (NotIdentified device start) := by
    refine Meets.bind (@readField_meets _ _ _ _ (fun _ => True) IsDevice ?_ ?_) fun _ => ?_
    · exact fun _ _ => ⟨rfl, rfl, rfl⟩
    · exact fun _ _ => ⟨rfl, rfl⟩
    refine Meets.bind (@readField_meets _ _ _ _ _ IsDevice ?_ ?_) fun _ => ?_
    · exact fun _ _ => ⟨rfl, rfl, rfl⟩
    · exact fun _ isDevice => isDevice
    refine Meets.bind (@readField_meets _ _ _ _ _ HasChain ?_ ?_) fun _ => ?_
    · exact fun _ _ => ⟨rfl, rfl, rfl⟩
    · exact fun _ isDevice => ⟨isDevice, rfl⟩
    refine Meets.bind (@readField_meets _ _ _ _ _ (Known device) ?_ ?_) fun _ => ?_
    · exact fun _ _ => ⟨rfl, rfl, rfl⟩
    · exact fun _ has => ⟨has.1.1, has.1.2, has.2, rfl⟩
    refine Meets.bind (@readField_meets _ _ _ _ _ (Known device) ?_ ?_) fun _ => ?_
    · exact fun _ _ => ⟨rfl, rfl, rfl⟩
    · exact fun _ known => known.of_eq rfl rfl rfl rfl
    apply Meets.getBind
    intro state _
    refine Meets.bind (readFieldIf_meets ?_ ?_) fun _ => ?_
    · exact fun _ _ => ⟨rfl, rfl, rfl⟩
    · exact fun _ known => known.of_eq rfl rfl rfl rfl
    refine Meets.bind (@readField_meets _ _ _ _ _ (Known device) ?_ ?_) fun _ => ?_
    · exact fun _ _ => ⟨rfl, rfl, rfl⟩
    · exact fun _ known => known.of_eq rfl rfl rfl rfl
    refine Meets.bind (@readField_meets _ _ _ _ _ (Known device) ?_ ?_) fun _ => ?_
    · exact fun _ _ => ⟨rfl, rfl, rfl⟩
    · exact fun _ known => known.of_eq rfl rfl rfl rfl
    refine readFieldIf_meets ?_ ?_
    · exact fun _ _ => ⟨rfl, rfl, rfl⟩
    · exact fun _ known => known.of_eq rfl rfl rfl rfl
  apply identifies.weakenPre
  rintro state rfl
  exact ⟨⟨fun n smaller => absurd smaller (Nat.not_lt_zero n), rfl, rfl, rfl⟩, trivial⟩

end Capabilities

/-! ## The walk -/

section Walk

variable {device : Device} {dev : DarDevInfo} {reads n : Nat} {prevAddr : BitVec 32}
  {start : DarDevInfo} {hdr : BitVec 32} {after : DarDevInfo} {Is : BitVec 32 → Prop}
  {value : BitVec 32}

theorem rioGetBlockPtr_eq (hdr : BitVec 32) : rioGetBlockPtr hdr = hdr >>> 16 := by
  apply BitVec.eq_of_getLsbD_eq
  intro idx inRange
  rw [rioGetBlockPtr, BitVec.getLsbD_ushiftRight, BitVec.getLsbD_ushiftRight, BitVec.getLsbD_and]
  by_cases upper : idx < 16
  · have isSet : rioEfbPtrMask.getLsbD (16 + idx) = true := by
      interval_cases idx <;> rfl
    rw [isSet, Bool.and_true]
  · rw [BitVec.getLsbD_of_ge hdr _ (by omega), Bool.false_and]

theorem enterBlock_eq_none_iff {currExtFeat : BitVec 32} :
    enterBlock prevAddr currExtFeat dev = none ↔ currExtFeat = noAnswer := by
  constructor
  · intro isNone
    by_contra answers
    simp only [enterBlock, if_neg answers] at isNone
    repeat' split at isNone
    all_goals cases isNone
  · rintro rfl
    rfl

/-- The offsets that both walks start from. -/
abbrev offsets (device : Device) : Nat → BitVec 32 := device.chain (capabilities device)

/-- What is known of the device when the walk is at a place. -/
def entered (device : Device) (dev : DarDevInfo) : Nat → DarDevInfo
  | 0 => dev
  | n + 1 => (enterBlock (offsets device n) (device.regs (offsets device n))
      (entered device dev n)).getD (entered device dev n)

/-- The walk goes on from a place. -/
structure Follows (device : Device) (reads n : Nat) : Prop where
  block : offsets device n ≠ 0
  readable : device.fails (reads + n) = false
  answers : device.regs (offsets device n) ≠ noAnswer

/-- The states in front of the places. -/
def walkState (device : Device) (dev : DarDevInfo) (reads n : Nat) : DiscoveryState :=
  ⟨entered device dev n, reads + n⟩

/-- A turn of the loop as a program. -/
abbrev followBody (device : Device) (prevAddr : BitVec 32) :
    Prog Nat DiscoveryState Empty (BitVec 32 ⊕ Unit) :=
  .act (followTurn device prevAddr)

/-- One turn of the walk, whatever the pointer is. -/
theorem followTurn_run (prevAddr : BitVec 32) : (followTurn device prevAddr).run ⟨dev, reads⟩ =
    if prevAddr = 0 then .ok (.inr ()) ⟨dev, reads⟩
    else if device.fails reads then .error rioErrAccess ⟨dev, reads + 1⟩
    else
      match enterBlock prevAddr (device.regs prevAddr) dev with
      | none => .error rioErrAccess ⟨dev, reads + 1⟩
      | some after => .ok (.inl (device.regs prevAddr >>> 16)) ⟨after, reads + 1⟩ := by
  rw [followTurn]
  split
  · rfl
  · rw [EStateM.run_bind, EStateM.run, readReg]
    dsimp only
    cases device.fails reads with
    | true => rfl
    | false =>
      simp only [Bool.false_eq_true, if_false, get_bind_run]
      cases enterBlock prevAddr (device.regs prevAddr) dev with
      | none => rfl
      | some after => rfl

theorem followTurn_goesOn (follows : Follows device reads n) :
    Prog.GoesOn (followBody device) (offsets device) (walkState device dev reads) n := by
  intro fuel
  have next : offsets device (n + 1) = device.regs (offsets device n) >>> 16 := by
    rw [← rioGetBlockPtr_eq]
    exact if_neg follows.block
  have some : (enterBlock (offsets device n) (device.regs (offsets device n))
      (entered device dev n)).isSome := by
    rw [Option.isSome_iff_ne_none, ne_eq, enterBlock_eq_none_iff]
    exact follows.answers
  obtain ⟨after, isAfter⟩ := Option.isSome_iff_exists.mp some
  have isEntered : entered device dev (n + 1) = after := by
    rw [entered, isAfter, Option.getD_some]
  rw [followBody, Prog.run, walkState, followTurn_run, if_neg follows.block, follows.readable,
    isAfter, walkState, isEntered, next]
  rfl

theorem followTurn_leaves (stays : ¬Follows device reads n) :
    ∃ (ending : Ending Nat Unit) (final : DiscoveryState), ending ≠ .unfinished ∧
      final.dev = entered device dev n ∧
      ∀ fuel, (followBody device (offsets device n)).run fuel (walkState device dev reads n) =
        ⟨ending.leaving, final, []⟩ := by
  by_cases ended : offsets device n = 0
  · refine ⟨.done (), walkState device dev reads n, fun same => (by cases same), rfl,
      fun fuel => ?_⟩
    rw [followBody, Prog.run, walkState, followTurn_run, if_pos ended]
    rfl
  · refine ⟨.stopped rioErrAccess, ⟨entered device dev n, reads + n + 1⟩,
      fun same => (by cases same), rfl, fun fuel => ?_⟩
    rw [followBody, Prog.run, walkState, followTurn_run, if_neg ended]
    cases readable : device.fails (reads + n) with
    | true => rfl
    | false =>
      have silent : device.regs (offsets device n) = noAnswer := by
        by_contra answers
        exact stays ⟨ended, readable, answers⟩
      rw [enterBlock_eq_none_iff.mpr silent]
      rfl

/-- The walk ends at the first block that it does not go on from. -/
theorem walk_run (before : ∀ m < n, Follows device reads m) (stays : ¬Follows device reads n) :
    ∃ ending final, ending ≠ Ending.unfinished ∧ final.dev = entered device dev n ∧
      (Prog.loop (followBody device) (offsets device 0)).run (n + 1)
        (walkState device dev reads 0) = ⟨ending, final, []⟩ := by
  obtain ⟨ending, final, ends, isEntered, leaves⟩ := followTurn_leaves stays
  refine ⟨ending, final, ends, isEntered, ?_⟩
  exact Prog.loop_run_of_goesOn (fun m earlier => followTurn_goesOn (before m earlier)) leaves

theorem exists_first {p : Nat → Prop} (some : ∃ n, ¬p n) : ∃ n, (∀ m < n, p m) ∧ ¬p n := by
  classical
  refine ⟨Nat.find some, fun m earlier => ?_, Nat.find_spec some⟩
  exact not_not.mp (Nat.find_min some earlier)

theorem ended_of_ne {outcome : Outcome Nat DiscoveryState Empty Unit}
    (ends : outcome.ending ≠ .unfinished) : outcome.Ended := by
  by_contra notEnded
  exact ends (Outcome.not_ended_iff.mp notEnded)

theorem walk_stops_iff :
    (Prog.loop (followBody device) (offsets device 0)).Stops (walkState device dev reads 0) ↔
      ∃ n, ¬Follows device reads n := by
  constructor
  · intro stops
    by_contra always
    push Not at always
    exact Prog.not_stops_of_goesOn (fun n => followTurn_goesOn (always n)) stops
  · intro stays
    obtain ⟨first, before, isFirst⟩ := exists_first stays
    obtain ⟨ending, final, ends, -, ran⟩ := walk_run before isFirst
    refine ⟨first + 1, ?_⟩
    rw [ran]
    exact ended_of_ne ends

/-! ## The whole routine -/

theorem darDbRioDeviceSupported_run (fuel : Nat) (state : DiscoveryState) :
    (darDbRioDeviceSupported device).run fuel state =
      match (readCapabilities device).run state with
      | .ok _ middle => (followChain device middle.dev).run fuel middle
      | .error code final => ⟨.stopped code, final, []⟩ := by
  show (((Prog.act (readCapabilities device)).run fuel state).andThen _) = _
  rw [Prog.run]
  cases (readCapabilities device).run state with
  | ok value middle => rfl
  | error code final => rfl

/-- The handle is accepted: it has the vendor of the device. -/
def HandleValid (device : Device) (start : DarDevInfo) : Prop :=
  (start.dsfH >>> 16) &&& rioDevIdentVend = device.regs rioDevIdent &&& rioDevIdentVend

theorem rioGetDriverFamily_ne (devID : BitVec 32) : rioGetDriverFamily devID ≠ .uninitialized := by
  dsimp only [rioGetDriverFamily]
  repeat' split
  all_goals exact fun same => by cases same

theorem valid_iff (dsfH : dev.dsfH = start.dsfH) (known : Known device dev) :
    dev.valid = true ↔ HandleValid device start := by
  rw [DarDevInfo.valid, decide_eq_true_iff, HandleValid, dsfH, known.devID, known.family]
  exact and_iff_left (rioGetDriverFamily_ne _)

/-- Why the routine comes to an end: a read fails, the handle is not accepted, or the chain leads
to its end or to a register that does not answer. -/
def DiscoveryEnds (device : Device) (start : DarDevInfo) : Prop :=
  (∃ n, device.fails n = true) ∨ ¬HandleValid device start ∨
    ∃ n, offsets device n = 0 ∨ device.regs (offsets device n) = noAnswer

theorem offsets_zero (known : Known device dev)
    (features : dev.features &&& rioPefExtFeatures ≠ 0) :
    offsets device 0 = dev.assyInfo &&& rioAssyInfEfbPtr := by
  rw [known.assyInfo]
  rw [known.features] at features
  exact if_pos features

theorem followChain_eq (known : Known device dev)
    (features : dev.features &&& rioPefExtFeatures ≠ 0) (valid : dev.valid = true) :
    followChain device dev = Prog.loop (followBody device) (offsets device 0) := by
  rw [followChain, if_pos features, valid, if_neg (by decide), offsets_zero known features]

theorem darDbRioDeviceSupported_stops_iff (start : DarDevInfo) :
    (darDbRioDeviceSupported device).Stops ⟨start, 0⟩ ↔ DiscoveryEnds device start := by
  obtain ⟨normal, early⟩ := @readCapabilities_meets device start ⟨start, 0⟩ rfl
  cases ran : (readCapabilities device).run ⟨start, 0⟩ with
  | error code final =>
    refine iff_of_true ⟨0, ?_⟩ (.inl (early ran).1)
    rw [darDbRioDeviceSupported_run, ran]
    trivial
  | ok _ middle =>
    obtain ⟨identified, known⟩ := normal ran
    have stops : (darDbRioDeviceSupported device).Stops ⟨start, 0⟩ ↔
        (followChain device middle.dev).Stops middle := by
      refine exists_congr fun fuel => ?_
      rw [darDbRioDeviceSupported_run, ran]
    rw [stops]
    by_cases features : middle.dev.features &&& rioPefExtFeatures ≠ 0
    · cases valid : middle.dev.valid with
      | true =>
        rw [followChain_eq known features valid]
        refine (@walk_stops_iff device middle.dev middle.reads).trans ?_
        have accepted := (valid_iff identified.dsfH known).mp valid
        constructor
        · rintro ⟨n, stays⟩
          by_contra noReason
          simp only [DiscoveryEnds, not_or, not_exists, not_not] at noReason
          obtain ⟨readable, -, chain⟩ := noReason
          exact stays ⟨(chain n).1, Bool.eq_false_of_not_eq_true (readable _), (chain n).2⟩
        · rintro (⟨read, fails⟩ | refused | ⟨n, ended | silent⟩)
          · refine ⟨read - middle.reads, fun follows => ?_⟩
            by_cases earlier : read < middle.reads
            · rw [identified.readable read earlier] at fails
              cases fails
            · have readable := follows.readable
              rw [Nat.add_sub_cancel' (Nat.le_of_not_lt earlier), fails] at readable
              cases readable
          · exact absurd accepted refused
          · exact ⟨n, fun follows => follows.block ended⟩
          · exact ⟨n, fun follows => follows.answers silent⟩
      | false =>
        have refused : ¬HandleValid device start := by
          rw [← valid_iff identified.dsfH known, valid]
          exact Bool.false_ne_true
        refine iff_of_true ⟨0, ?_⟩ (.inr (.inl refused))
        rw [followChain, if_pos features, valid]
        trivial
    · have ended : offsets device 0 = 0 := by
        rw [known.features] at features
        exact if_neg features
      refine iff_of_true ⟨0, ?_⟩ (.inr (.inr ⟨0, .inl ended⟩))
      rw [followChain, if_neg features]
      trivial

/-! ## What is entered -/

/-- The header of the block at a place. -/
abbrev header (device : Device) (n : Nat) : BitVec 32 := device.regs (offsets device n)

/-- The header of a block with the registers of the ports. -/
def PortHeader (hdr : BitVec 32) : Prop := rioSpVld (rioEfbId hdr) = true

/-- The header of a block for the error management. -/
def ErrHeader (hdr : BitVec 32) : Prop := rioEfbId hdr = rioEfbTEmhs

instance (hdr : BitVec 32) : Decidable (PortHeader hdr) := inferInstanceAs (Decidable (_ = _))

instance (hdr : BitVec 32) : Decidable (ErrHeader hdr) := inferInstanceAs (Decidable (_ = _))

/-- The walk gets to a block. -/
structure Seen (device : Device) (start : DarDevInfo) (n : Nat) : Prop where
  accepted : HandleValid device start
  block : offsets device n ≠ 0
  answers : ∀ m < n, header device m ≠ noAnswer

/-- The offset of the last block of a kind that the walk gets to, or 0. -/
def LastSeen (device : Device) (start : DarDevInfo) (Is : BitVec 32 → Prop) (value : BitVec 32) :
    Prop :=
  (∃ last, Seen device start last ∧ Is (header device last) ∧
    (∀ m, last < m → Seen device start m → ¬Is (header device m)) ∧ value = offsets device last) ∨
  (∀ m, Seen device start m → ¬Is (header device m)) ∧ value = 0

theorem enterBlock_port (enters : enterBlock prevAddr hdr dev = some after) :
    (PortHeader hdr → after.extFPtrForPort = prevAddr) ∧
      (¬PortHeader hdr → after.extFPtrForPort = dev.extFPtrForPort) := by
  simp only [enterBlock] at enters
  split at enters
  next isPort =>
    cases enters
    exact ⟨fun _ => rfl, fun not => absurd isPort not⟩
  next notPort =>
    refine ⟨fun isPort => absurd isPort notPort, fun _ => ?_⟩
    repeat' split at enters
    all_goals cases enters
    all_goals rfl

theorem enterBlock_err (enters : enterBlock prevAddr hdr dev = some after) :
    (ErrHeader hdr → after.extFPtrForErr = prevAddr) ∧
      (¬ErrHeader hdr → after.extFPtrForErr = dev.extFPtrForErr) := by
  simp only [enterBlock] at enters
  split at enters
  next isPort =>
    cases enters
    refine ⟨fun isErr => ?_, fun _ => rfl⟩
    rw [isErr] at isPort
    exact absurd isPort (by decide)
  split at enters
  next isErr =>
    cases enters
    exact ⟨fun _ => rfl, fun not => absurd isErr not⟩
  next notErr =>
    refine ⟨fun isErr => absurd isErr notErr, fun _ => ?_⟩
    repeat' split at enters
    all_goals cases enters
    all_goals rfl

theorem entered_last {field : DarDevInfo → BitVec 32}
    (sets : ∀ {prevAddr hdr dev after}, enterBlock prevAddr hdr dev = some after →
      (Is hdr → field after = prevAddr) ∧ (¬Is hdr → field after = field dev))
    (before : ∀ m < n, Follows device reads m) :
    (∃ last < n, Is (header device last) ∧
      (∀ m, last < m → m < n → ¬Is (header device m)) ∧
        field (entered device dev n) = offsets device last) ∨
    (∀ m < n, ¬Is (header device m)) ∧ field (entered device dev n) = field dev := by
  induction n with
  | zero => exact .inr ⟨fun m smaller => absurd smaller (Nat.not_lt_zero m), rfl⟩
  | succ n ih =>
    have earlier := ih fun m smaller => before m (Nat.lt_succ_of_lt smaller)
    have some : enterBlock (offsets device n) (header device n) (entered device dev n) ≠ none :=
      fun isNone => (before n (Nat.lt_succ_self n)).answers (enterBlock_eq_none_iff.mp isNone)
    obtain ⟨after, isAfter⟩ := Option.ne_none_iff_exists'.mp some
    have isEntered : entered device dev (n + 1) = after := by
      rw [entered, isAfter, Option.getD_some]
    rw [isEntered]
    by_cases isKind : Is (header device n)
    · left
      exact ⟨n, Nat.lt_succ_self n, isKind, fun m above below => absurd below (by omega),
        (sets isAfter).1 isKind⟩
    · rw [(sets isAfter).2 isKind]
      rcases earlier with ⟨last, smaller, isLast, none, same⟩ | ⟨none, same⟩
      · left
        refine ⟨last, Nat.lt_succ_of_lt smaller, isLast, fun m above below => ?_, same⟩
        rcases Nat.lt_succ_iff_lt_or_eq.mp below with less | rfl
        · exact none m above less
        · exact isKind
      · right
        refine ⟨fun m below => ?_, same⟩
        rcases Nat.lt_succ_iff_lt_or_eq.mp below with less | rfl
        · exact none m less
        · exact isKind

theorem lastSeen_of_entered (accepted : HandleValid device start) (silent : ¬Is noAnswer)
    (readable : device.Readable) (before : ∀ m < n, Follows device reads m)
    (stays : ¬Follows device reads n) (last : (∃ last < n, Is (header device last) ∧
      (∀ m, last < m → m < n → ¬Is (header device m)) ∧ value = offsets device last) ∨
        (∀ m < n, ¬Is (header device m)) ∧ value = 0) :
    LastSeen device start Is value := by
  have seen : ∀ m < n, Seen device start m := fun m smaller =>
    ⟨accepted, (before m smaller).block, fun other less =>
      (before other (less.trans smaller)).answers⟩
  have within : ∀ m, Seen device start m → Is (header device m) → m < n := by
    intro m isSeen isKind
    by_contra behind
    have block : offsets device n ≠ 0 := chain_ne_zero_of_le isSeen.block (Nat.le_of_not_lt behind)
    have isSilent : header device n = noAnswer := by
      by_contra answers
      exact stays ⟨block, readable _, answers⟩
    rcases (Nat.le_of_not_lt behind).eq_or_lt with same | less
    · rw [← same, isSilent] at isKind
      exact silent isKind
    · exact isSeen.answers n less isSilent
  rcases last with ⟨last, smaller, isLast, none, same⟩ | ⟨none, same⟩
  · left
    refine ⟨last, seen last smaller, isLast, fun m above isSeen isKind => ?_, same⟩
    exact none m above (within m isSeen isKind) isKind
  · right
    exact ⟨fun m isSeen isKind => none m (within m isSeen isKind) isKind, same⟩

theorem entered_result (noPort : start.extFPtrForPort = 0) (noErr : start.extFPtrForErr = 0)
    (readable : device.Readable) (ends : ∃ n, offsets device n = 0) :
    ∃ fuel, ((darDbRioDeviceSupported device).run fuel ⟨start, 0⟩).Ended ∧
      LastSeen device start PortHeader
        ((darDbRioDeviceSupported device).run fuel ⟨start, 0⟩).state.dev.extFPtrForPort ∧
      LastSeen device start ErrHeader
        ((darDbRioDeviceSupported device).run fuel ⟨start, 0⟩).state.dev.extFPtrForErr := by
  obtain ⟨normal, early⟩ := @readCapabilities_meets device start ⟨start, 0⟩ rfl
  cases ran : (readCapabilities device).run ⟨start, 0⟩ with
  | error code final =>
    obtain ⟨read, fails⟩ := (early ran).1
    rw [readable] at fails
    cases fails
  | ok _ middle =>
    obtain ⟨identified, known⟩ := normal ran
    have port : middle.dev.extFPtrForPort = 0 := identified.port.trans noPort
    have err : middle.dev.extFPtrForErr = 0 := identified.err.trans noErr
    have isRun : ∀ fuel, (darDbRioDeviceSupported device).run fuel ⟨start, 0⟩ =
        (followChain device middle.dev).run fuel middle := by
      intro fuel
      rw [darDbRioDeviceSupported_run, ran]
    simp only [isRun]
    by_cases features : middle.dev.features &&& rioPefExtFeatures ≠ 0
    · cases valid : middle.dev.valid with
      | true =>
        have accepted := (valid_iff identified.dsfH known).mp valid
        have stays : ∃ n, ¬Follows device middle.reads n := by
          obtain ⟨n, ended⟩ := ends
          exact ⟨n, fun follows => follows.block ended⟩
        obtain ⟨first, before, isFirst⟩ := exists_first stays
        obtain ⟨ending, final, isEnd, isEntered, walked⟩ := @walk_run device middle.dev
          middle.reads first before isFirst
        refine ⟨first + 1, ?_⟩
        rw [followChain_eq known features valid, show middle =
          walkState device middle.dev middle.reads 0 from rfl, walked]
        refine ⟨ended_of_ne isEnd, ?_, ?_⟩
        · apply lastSeen_of_entered accepted (by decide) readable before isFirst
          rw [isEntered, ← port]
          exact entered_last enterBlock_port before
        · apply lastSeen_of_entered accepted (by decide) readable before isFirst
          rw [isEntered, ← err]
          exact entered_last enterBlock_err before
      | false =>
        have refused : ∀ m, ¬Seen device start m := fun m isSeen => by
          have isValid := (valid_iff identified.dsfH known).mpr isSeen.accepted
          rw [valid] at isValid
          cases isValid
        refine ⟨0, ?_⟩
        rw [followChain, if_pos features, valid]
        exact ⟨trivial, .inr ⟨fun m isSeen => absurd isSeen (refused m), port⟩,
          .inr ⟨fun m isSeen => absurd isSeen (refused m), err⟩⟩
    · have none : ∀ m, ¬Seen device start m := by
        intro m isSeen
        rw [known.features] at features
        have zero : offsets device 0 = 0 := if_neg features
        exact isSeen.block (chain_zero_of_le zero (Nat.zero_le m))
      refine ⟨0, ?_⟩
      rw [followChain, if_neg features]
      exact ⟨trivial, .inr ⟨fun m isSeen => absurd isSeen (none m), port⟩,
        .inr ⟨fun m isSeen => absurd isSeen (none m), err⟩⟩

/-! ## The other walk -/

/-- A block that stops the search of the handle. -/
def Notable (device : Device) (n : Nat) : Prop :=
  device.IsSp (capabilities device) n ∨ device.IsEmhs (capabilities device) n

/-- A new handle. -/
def newFields : Fields := ⟨0, 0, 0, 0⟩

/-- What the search enters into a new handle. -/
def Found (device : Device) (pe : Fields) : Prop :=
  (∀ n, ¬Notable device n) ∧ pe.efptrPhys = 0 ∧ pe.efptrEm = 0 ∨
  ∃ first, (∀ m < first, ¬Notable device m) ∧
    (device.IsSp (capabilities device) first ∧ pe.efptrPhys = offsets device first ∧
        pe.efptrEm = 0 ∨
      device.IsEmhs (capabilities device) first ∧ pe.efptrPhys = 0 ∧
        pe.efptrEm = offsets device first)

theorem found_result (readable : device.Readable) (ends : ∃ n, offsets device n = 0) :
    ∃ fuel, ((riocpPeReadFeatures device (capabilities device)).run fuel ⟨newFields, 0⟩).Ended ∧
      Found device
        ((riocpPeReadFeatures device (capabilities device)).run fuel ⟨newFields, 0⟩).state.pe := by
  by_cases features : (capabilities device).peFeat &&& rioPefExtFeatures ≠ 0#32
  · have someStop : ∃ n, ¬Passes device (capabilities device) n :=
      exists_not_passes (.inr (ends.imp fun n ended => .inl ended)) (readable 0)
    obtain ⟨stop, stays⟩ := someStop
    obtain ⟨first, -, isFirst, before⟩ := exists_first_stays stays
    obtain ⟨fuel, ended, left⟩ := run_of_passes newFields features (readable 0) before isFirst
    refine ⟨fuel, ended, ?_⟩
    rw [(left readable).2]
    have noneBefore : ∀ m < first, ¬Notable device m := by
      rintro m earlier (isSp | isEmhs)
      · exact not_passes_of_sp isSp (before m earlier)
      · exact not_passes_of_emhs isEmhs (before m earlier)
    rcases kind_of_not_passes readable isFirst with zero | isSp | isEmhs
    · left
      refine ⟨fun m notable => ?_, ?_⟩
      · by_cases earlier : m < first
        · exact noneBefore m earlier notable
        · have behind := chain_zero_of_le zero (Nat.le_of_not_lt earlier)
          rcases notable with isSp | isEmhs
          · exact isSp.1 behind
          · exact isEmhs.1 behind
      · rw [leaveAt, if_pos zero]
        exact ⟨rfl, rfl⟩
    · right
      exact ⟨first, noneBefore, .inl ⟨isSp, (leaveAt_of_sp isSp).1, (leaveAt_of_sp isSp).2⟩⟩
    · right
      exact ⟨first, noneBefore, .inr ⟨isEmhs, (leaveAt_of_emhs isEmhs).2,
        (leaveAt_of_emhs isEmhs).1⟩⟩
  · refine ⟨0, ?_⟩
    rw [riocpPeReadFeatures, if_neg features]
    refine ⟨trivial, .inl ⟨fun m notable => ?_, rfl, rfl⟩⟩
    have zero : offsets device 0 = 0 := if_neg features
    have behind := chain_zero_of_le zero (Nat.zero_le m)
    rcases notable with isSp | isEmhs
    · exact isSp.1 behind
    · exact isEmhs.1 behind

/-! ## Agreement -/

/-- The walks agree: there is no block of the two kinds, or only one, and the blocks that the other
search stops at, also those with an obsolete type, are behind it. -/
def Agreeable (device : Device) (start : DarDevInfo) : Prop :=
  (∀ n, ¬Notable device n) ∨ ∃ first, Seen device start first ∧
    (PortHeader (header device first) ∨ ErrHeader (header device first)) ∧
    (∀ m < first, ¬Notable device m) ∧
    ∀ m, Seen device start m → PortHeader (header device m) ∨ ErrHeader (header device m) →
      m = first

theorem isSp_of_port (block : offsets device n ≠ 0) (isPort : PortHeader (header device n)) :
    device.IsSp (capabilities device) n := by
  have isSp : rioEfbId (header device n) ∈ rioEfbTSp := of_decide_eq_true isPort
  exact ⟨block, rioEfbId (header device n), if_pos isSp⟩

theorem isEmhs_iff : device.IsEmhs (capabilities device) n ↔
    offsets device n ≠ 0 ∧ ErrHeader (header device n) := by
  apply and_congr_right
  intro _
  rw [Device.block, Block.ofType, ErrHeader]
  constructor
  · intro isEmhs
    repeat' split at isEmhs
    all_goals first | assumption | cases isEmhs
  · intro isErr
    rw [isErr]
    rfl

theorem notable_of_header (block : offsets device n ≠ 0)
    (isKind : PortHeader (header device n) ∨ ErrHeader (header device n)) : Notable device n :=
  isKind.imp (isSp_of_port block) fun isErr => isEmhs_iff.mpr ⟨block, isErr⟩

theorem offsets_inj (acyclic : device.Acyclic (capabilities device)) {m : Nat}
    (block : offsets device n ≠ 0) (same : offsets device n = offsets device m) : n = m := by
  rcases Nat.lt_trichotomy n m with less | equal | greater
  · exact absurd (acyclic n m less same) block
  · exact equal
  · exact absurd (same.trans (acyclic m n greater same.symm)) block

theorem exists_offsets_zero (acyclic : device.Acyclic (capabilities device)) :
    ∃ n, offsets device n = 0 := by
  by_contra never
  push Not at never
  apply not_injective_infinite_finite fun n => (offsets device n).toFin
  exact fun n m same => offsets_inj acyclic (never n) (BitVec.toFin_inj.mp same)

theorem LastSeen.eq_offsets_iff (last : LastSeen device start Is value)
    (acyclic : device.Acyclic (capabilities device)) (block : offsets device n ≠ 0)
    (none : ∀ m < n, Seen device start m → ¬Is (header device m)) :
    value = offsets device n ↔ Seen device start n ∧ Is (header device n) ∧
      ∀ m, Seen device start m → Is (header device m) → m = n := by
  rcases last with ⟨last, isSeen, isLast, noLater, same⟩ | ⟨noneSeen, isZero⟩
  · rw [same]
    constructor
    · intro equal
      have isPlace : last = n := offsets_inj acyclic isSeen.block equal
      subst isPlace
      refine ⟨isSeen, isLast, fun m seen isKind => ?_⟩
      rcases Nat.lt_trichotomy m last with less | equal | greater
      · exact absurd isKind (none m less seen)
      · exact equal
      · exact absurd isKind (noLater m greater seen)
    · rintro ⟨-, -, only⟩
      rw [only last isSeen isLast]
  · rw [isZero]
    constructor
    · exact fun isEnd => absurd isEnd.symm block
    · rintro ⟨isSeen, isKind, -⟩
      exact absurd isKind (noneSeen n isSeen)

theorem LastSeen.eq_zero_iff (last : LastSeen device start Is value) :
    value = 0 ↔ ∀ m, Seen device start m → ¬Is (header device m) := by
  rcases last with ⟨last, isSeen, isLast, -, same⟩ | ⟨noneSeen, isZero⟩
  · rw [same]
    exact iff_of_false isSeen.block fun none => none last isSeen isLast
  · exact iff_of_true isZero noneSeen

theorem agree_iff {pe : Fields} {port err : BitVec 32}
    (acyclic : device.Acyclic (capabilities device))
    (lastPort : LastSeen device start PortHeader port)
    (lastErr : LastSeen device start ErrHeader err) (found : Found device pe) :
    port = pe.efptrPhys ∧ err = pe.efptrEm ↔ Agreeable device start := by
  have noKind : ∀ {bound : Nat}, (∀ m < bound, ¬Notable device m) → ∀ m < bound,
      Seen device start m → ¬PortHeader (header device m) ∧ ¬ErrHeader (header device m) :=
    fun none m earlier isSeen =>
      ⟨fun isPort => none m earlier (notable_of_header isSeen.block (.inl isPort)),
        fun isErr => none m earlier (notable_of_header isSeen.block (.inr isErr))⟩
  rcases found with ⟨none, isPhys, isEm⟩ | ⟨first, noneBefore, isFirst⟩
  · rw [isPhys, isEm, lastPort.eq_zero_iff, lastErr.eq_zero_iff]
    refine iff_of_true ⟨fun m isSeen isPort => ?_, fun m isSeen isErr => ?_⟩ (.inl none)
    · exact none m (notable_of_header isSeen.block (.inl isPort))
    · exact none m (notable_of_header isSeen.block (.inr isErr))
  · have before := noKind noneBefore
    have notable : Notable device first := isFirst.imp And.left And.left
    have isPlace : ∀ {place : Nat}, Seen device start place →
        (PortHeader (header device place) ∨ ErrHeader (header device place)) →
        (∀ m < place, ¬Notable device m) → place = first := by
      intro place isSeen isKind none
      rcases Nat.lt_trichotomy place first with less | equal | greater
      · exact absurd (notable_of_header isSeen.block isKind) (noneBefore place less)
      · exact equal
      · exact absurd notable (none first greater)
    rcases isFirst with ⟨isSp, isPhys, isEm⟩ | ⟨isEmhs, isPhys, isEm⟩
    · rw [isPhys, isEm, lastErr.eq_zero_iff, lastPort.eq_offsets_iff acyclic isSp.1
        fun m earlier isSeen => (before m earlier isSeen).1]
      have notErr : ¬ErrHeader (header device first) := by
        intro isErr
        obtain ⟨block, type, kind⟩ := isSp
        rw [(isEmhs_iff.mpr ⟨block, isErr⟩).2] at kind
        cases kind
      constructor
      · rintro ⟨⟨isSeen, isPort, only⟩, noErr⟩
        refine .inr ⟨first, isSeen, .inl isPort, noneBefore, fun m seen isKind => ?_⟩
        exact only m seen (isKind.resolve_right (noErr m seen))
      · rintro (none | ⟨place, isSeen, isKind, none, only⟩)
        · exact absurd notable (none first)
        · cases isPlace isSeen isKind none
          refine ⟨⟨isSeen, isKind.resolve_right notErr, fun m seen isPort => ?_⟩, ?_⟩
          · exact only m seen (.inl isPort)
          · intro m seen isErr
            cases only m seen (.inr isErr)
            exact notErr isErr
    · rw [isPhys, isEm, lastPort.eq_zero_iff, lastErr.eq_offsets_iff acyclic isEmhs.1
        fun m earlier isSeen => (before m earlier isSeen).2]
      have notPort : ¬PortHeader (header device first) := by
        intro isPort
        obtain ⟨-, type, kind⟩ := isSp_of_port isEmhs.1 isPort
        rw [isEmhs.2] at kind
        cases kind
      constructor
      · rintro ⟨noPort, isSeen, isErr, only⟩
        refine .inr ⟨first, isSeen, .inr isErr, noneBefore, fun m seen isKind => ?_⟩
        exact only m seen (isKind.resolve_left (noPort m seen))
      · rintro (none | ⟨place, isSeen, isKind, none, only⟩)
        · exact absurd notable (none first)
        · cases isPlace isSeen isKind none
          refine ⟨?_, isSeen, isKind.resolve_left notPort, fun m seen isErr => ?_⟩
          · intro m seen isPort
            cases only m seen (.inl isPort)
            exact notPort isPort
          · exact only m seen (.inr isErr)

/-- The routine and the search of the handle end with the same blocks. -/
def SameBlocks (device : Device) (start : DarDevInfo) : Prop :=
  ∃ fuel other,
    let ours := (darDbRioDeviceSupported device).run fuel ⟨start, 0⟩
    let theirs := (riocpPeReadFeatures device (capabilities device)).run other ⟨newFields, 0⟩
    ours.Ended ∧ theirs.Ended ∧ ours.state.dev.extFPtrForPort = theirs.state.pe.efptrPhys ∧
      ours.state.dev.extFPtrForErr = theirs.state.pe.efptrEm

theorem run_eq_of_both_ended {ε σ α : Type} {program : Prog ε σ Empty α} {state : σ}
    {fuel other : Nat} (ended : (program.run fuel state).Ended)
    (otherEnded : (program.run other state).Ended) :
    program.run fuel state = program.run other state := by
  obtain fewer | more := Nat.le_total fuel other
  · exact (program.run_approx fewer state).eq_of_ended ended
  · exact ((program.run_approx more state).eq_of_ended otherEnded).symm

theorem sameBlocks_iff (noPort : start.extFPtrForPort = 0) (noErr : start.extFPtrForErr = 0)
    (acyclic : device.Acyclic (capabilities device)) (readable : device.Readable) :
    SameBlocks device start ↔ Agreeable device start := by
  have ends := exists_offsets_zero acyclic
  obtain ⟨fuel, ended, lastPort, lastErr⟩ := entered_result noPort noErr readable ends
  obtain ⟨other, otherEnded, found⟩ := found_result readable ends
  rw [← agree_iff acyclic lastPort lastErr found]
  constructor
  · rintro ⟨fuel', other', ended', otherEnded', same⟩
    rw [run_eq_of_both_ended ended ended', run_eq_of_both_ended otherEnded otherEnded']
    exact same
  · exact fun same => ⟨fuel, other, ended, otherEnded, same⟩

/-- The routine comes to an end, and on a chain without a cycle that can be read it finds what the
other search finds. -/
def DiscoveryAgrees (device : Device) (start : DarDevInfo) : Prop :=
  (darDbRioDeviceSupported device).Stops ⟨start, 0⟩ ∧
    (device.Acyclic (capabilities device) → device.Readable → SameBlocks device start)

/-- When it does so. -/
theorem discoveryAgrees_iff (device : Device) {start : DarDevInfo}
    (noPort : start.extFPtrForPort = 0) (noErr : start.extFPtrForErr = 0) :
    DiscoveryAgrees device start ↔ DiscoveryEnds device start ∧
      (device.Acyclic (capabilities device) → device.Readable → Agreeable device start) := by
  rw [DiscoveryAgrees, darDbRioDeviceSupported_stops_iff]
  exact and_congr_right fun _ => forall₂_congr fun acyclic readable =>
    sameBlocks_iff noPort noErr acyclic readable

end Walk

/-! ## Two devices -/

/-- A new record. -/
def newDevice : DarDevInfo where
  driverFamily := .uninitialized
  dsfH := 0
  extFPtrForPort := 0
  extFPtrPortType := 0
  extFPtrForLane := 0
  extFPtrForErr := 0
  extFPtrForVC := 0
  extFPtrForVOQ := 0
  extFPtrForRT := 0
  extFPtrForTS := 0
  extFPtrForMISC := 0
  extFPtrForHS := 0
  devID := 0
  devInfo := 0
  assyInfo := 0
  features := 0
  swPortInfo := 0
  swRtInfo := 0
  srcOps := 0
  dstOps := 0
  swMcastInfo := 0
  ctl1Reg _ := 0
  scratchpad _ := 0
  poregsMax := 0
  poregs := none

/-- A device with a block for ports at 0x100, and whatever comes behind it. -/
def portDevice (next : BitVec 32) : Device where
  regs offset :=
    if offset = rioPeFeat then rioPefExtFeatures
    else if offset = rioAssyInf then 0x100
    else if offset = 0x100 then next ||| rioEfbTSpEp
    else if offset = 0x200 then rioEfbTEmhs
    else 0
  fails _ := false

theorem seen_first (next : BitVec 32) : Seen (portDevice next) newDevice 0 := by
  have features : (capabilities (portDevice next)).peFeat = rioPefExtFeatures := by
    simp [capabilities, portDevice]
  have first : (portDevice next).regs rioAssyInf = 0x100 := by
    simp [portDevice, rioAssyInf, rioPeFeat]
  refine ⟨rfl, ?_, fun m smaller => absurd smaller (Nat.not_lt_zero m)⟩
  rw [offsets, Device.chain, features, first]
  decide

/-- The device has only the block for ports. -/
theorem discoveryAgrees_iff_onlyPorts : DiscoveryAgrees (portDevice 0) newDevice := by
  have ended : offsets (portDevice 0) 1 = 0 := by decide
  have onlyFirst : ∀ m, Seen (portDevice 0) newDevice m → m = 0 := by
    intro m isSeen
    by_contra later
    exact isSeen.block (chain_zero_of_le ended (Nat.one_le_iff_ne_zero.mpr later))
  refine (discoveryAgrees_iff (portDevice 0) rfl rfl).mpr ⟨.inr (.inr ⟨1, .inl ended⟩), ?_⟩
  intro _ _
  refine .inr ⟨0, seen_first 0, .inl (by decide), fun m smaller => ?_, fun m isSeen _ => ?_⟩
  · exact absurd smaller (Nat.not_lt_zero m)
  · exact onlyFirst m isSeen

/-- A block for the error management comes behind the one for ports. -/
theorem not_discoveryAgrees_bothBlocks : ¬∀ (device : Device) (start : DarDevInfo),
    start.extFPtrForPort = 0 → start.extFPtrForErr = 0 → DiscoveryAgrees device start := by
  intro always
  have first : offsets (portDevice 0x02000000) 0 = 0x100 := by decide
  have second : offsets (portDevice 0x02000000) 1 = 0x200 := by decide
  have third : offsets (portDevice 0x02000000) 2 = 0 := by decide
  have acyclic : (portDevice 0x02000000).Acyclic (capabilities (portDevice 0x02000000)) := by
    intro i j less same
    by_contra block
    have early : i < 2 := by
      by_contra late
      exact block (chain_zero_of_le third (Nat.le_of_not_lt late))
    have block' : offsets (portDevice 0x02000000) j ≠ 0 := fun zero => block (same.trans zero)
    have earlyToo : j < 2 := by
      by_contra late
      exact block' (chain_zero_of_le third (Nat.le_of_not_lt late))
    have isFirst : i = 0 := by omega
    have isSecond : j = 1 := by omega
    subst isFirst isSecond
    exact absurd ((first.symm.trans same).trans second) (by decide)
  have same := (always (portDevice 0x02000000) newDevice rfl rfl).2 acyclic fun _ => rfl
  rw [sameBlocks_iff rfl rfl acyclic fun _ => rfl] at same
  have seenFirst := seen_first 0x02000000
  have seenSecond : Seen (portDevice 0x02000000) newDevice 1 := by
    refine ⟨rfl, by decide, fun m smaller => ?_⟩
    cases Nat.lt_one_iff.mp smaller
    decide
  have isPort : PortHeader (header (portDevice 0x02000000) 0) := by decide
  have isErr : ErrHeader (header (portDevice 0x02000000) 1) := by decide
  rcases same with none | ⟨place, -, -, -, only⟩
  · exact none 0 (notable_of_header seenFirst.block (.inl isPort))
  · have both := (only 0 seenFirst (.inl isPort)).trans (only 1 seenSecond (.inr isErr)).symm
    cases both

end RioFabric.Dar

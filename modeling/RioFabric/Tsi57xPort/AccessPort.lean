import RioFabric.Tsi57xPort.ResetScope

/-!
# The port that the registers of a Tsi57x are accessed through

`TSI578_RIO_SW_PORT` names the port.  Its power is taken away by a write that sets a bit in the
register of a MAC.
-/

namespace RioFabric.Tsi57xPort

open Lib Dar PortConfig
open RxsPort (RioPcOnePortConfig)

section Power

variable (dev : Tsi57xDevice) (values : Reg → BitVec 32)

/-- The port that registers are accessed through. -/
def connPort : Nat := (values (.dev rioSwPort) &&& 0x000000ff).toNat

/-- The bits that take the power of a port away.  Other than on the Tsi577, the 1x port of a MAC
goes down with the 4x port. -/
def powerDownBits (pnum : Nat) : BitVec 32 :=
  if dev = .tsi577 then (dev.pmr pnum).pwrDownMask
  else if (dev.pmr pnum).laneCount4x ≠ 0 then pwdnX4
  else pwdnX4 ||| pwdnX1

/-- The port has power. -/
def HasPower (pnum : Nat) : Prop := pwrAt dev values pnum &&& powerDownBits dev pnum = 0

/-- A write takes the power of a port away. -/
def TakesPower (pnum : Nat) (reg : Reg) (value : BitVec 32) : Prop :=
  reg = .dloop ((dev.pmr pnum).pwrMacNum * 2) ∧ value &&& powerDownBits dev pnum ≠ 0

/-- A write leaves the power of a port alone. -/
abbrev SparesPower (pnum : Nat) (reg : Reg) (value : BitVec 32) : Prop :=
  ¬TakesPower dev pnum reg value

/-- Resetting a port takes the power of another one away, or of itself. -/
def Hits (pnum other : Nat) : Prop :=
  (dev.pmr pnum).pwrMacNum = (dev.pmr other).pwrMacNum ∧
    (dev.pmr pnum).pwrDownMask &&& powerDownBits dev other ≠ 0

instance (pnum other : Nat) : Decidable (Hits dev pnum other) := by
  unfold Hits
  infer_instance

/-- The port that registers are accessed through keeps its power, if it has power. -/
def KeepsPower (log : List (RegEvent Reg)) : Prop :=
  connPort values < dev.numPorts → HasPower dev values (connPort values) →
    ∀ reg value, .write reg value ∈ log → SparesPower dev (connPort values) reg value

/-- The ports that are skipped. -/
def skipAt (oobRegAcc resetPort : Bool) : List Nat :=
  if oobRegAcc ∨ dev = .tsi577 then []
  else if (statusAt dev values (connPort values)).portOk = false then []
  else portsToSkip dev (connPort values) resetPort

variable {dev values} in
theorem mem_portsToSkip_of_hits {pnum : Nat} (not577 : dev ≠ .tsi577) (isPort : pnum < dev.numPorts)
    (isConn : connPort values < dev.numPorts) (hits : Hits dev pnum (connPort values)) :
    pnum ∈ portsToSkip dev (connPort values) true := by
  have all : ∀ dev : Tsi57xDevice, dev ≠ .tsi577 → ∀ pnum < dev.numPorts, ∀ conn < dev.numPorts,
      Hits dev pnum conn → pnum ∈ portsToSkip dev conn true := by
    intro dev
    cases dev <;> decide +kernel
  exact all dev not577 pnum isPort _ isConn hits

end Power

/-- Nothing was written. -/
structure Calm (values : Reg → BitVec 32) (state : RegisterFile Reg × List (RegEvent Reg)) :
    Prop where
  values : state.1.value = values
  noWrites : ∀ reg value, .write reg value ∉ state.2

/-- All ports have the power that they had, and only what is allowed was written. -/
structure Steady (values : Reg → BitVec 32) (allowed : Reg → BitVec 32 → Prop)
    (state : RegisterFile Reg × List (RegEvent Reg)) : Prop where
  dloops : ∀ num, state.1.value (.dloop num) = values (.dloop num)
  writes : WritesOnly allowed state

/-- A write was made, or tried. -/
def Wrote (reg : Reg) (value : BitVec 32) (state : RegisterFile Reg × List (RegEvent Reg)) : Prop :=
  .write reg value ∈ state.2

theorem logged_wrote {effect : WriteEffect Reg} {reg : Reg} {value : BitVec 32} :
    (logged (registerFile effect)).Keeps (Wrote reg value) fun _ _ => True :=
  logged_grows (P := fun log => .write reg value ∈ log)
    fun _ _ isMember => List.mem_append_left _ isMember

section States

variable {values : Reg → BitVec 32} {allowed : Reg → BitVec 32 → Prop}
  {state : RegisterFile Reg × List (RegEvent Reg)}
  {F : RegisterFile Reg × List (RegEvent Reg) → Prop}

theorem Calm.steady (calm : Calm values state) : Steady values allowed state where
  dloops _ := congrFun calm.values _
  writes _ _ isWrite := absurd isWrite (calm.noWrites _ _)

theorem logged_tells {effect : WriteEffect Reg} :
    (logged (registerFile effect)).Tells (Calm values) values True where
  ok reg state value after calm answered := by
    obtain ⟨rfl, rfl⟩ := read_logged_file_ok answered
    refine ⟨congrFun calm.values reg, calm.values, ?_⟩
    intro other written isWrite
    rcases List.mem_append.mp isWrite with earlier | last
    · exact calm.noWrites other written earlier
    · cases List.mem_singleton.mp last
  error reg state failure after calm answered := by
    obtain ⟨-, rfl⟩ := read_logged_file_error answered
    exact ⟨trivial, calm.values, calm.noWrites⟩

/-- Writes to other registers than those of the MACs. -/
def OffMacs (allowed : Reg → BitVec 32 → Prop) (reg : Reg) (value : BitVec 32) : Prop :=
  allowed reg value ∧ ∀ num, reg ≠ .dloop num

theorem IsRestored.offMacs {reg : Reg} {value : BitVec 32} (restored : IsRestored reg)
    (isAllowed : (∀ num, reg ≠ .dloop num) → allowed reg value) : OffMacs allowed reg value := by
  have notMac : ∀ num, reg ≠ .dloop num := by
    rintro num rfl
    exact restored
  exact ⟨isAllowed notMac, notMac⟩

theorem logged_holds (early : ∀ state, Steady values allowed state → F state) :
    (logged (registerFile store)).Holds (Steady values allowed) (OffMacs allowed) F where
  read reg state value after steady answered := by
    obtain ⟨rfl, rfl⟩ := read_logged_file_ok answered
    exact ⟨steady.dloops, steady.writes.append nofun⟩
  readError reg state failure after steady answered := by
    obtain ⟨-, rfl⟩ := read_logged_file_error answered
    exact early _ ⟨steady.dloops, steady.writes⟩
  write reg value state after isAllowed steady answered := by
    obtain rfl := write_logged_file_ok answered
    refine ⟨fun num => ?_, ?_⟩
    · exact (Function.update_of_ne (isAllowed.2 num).symm _ _).trans (steady.dloops num)
    · apply steady.writes.append
      rintro _ _ ⟨⟩
      exact isAllowed.1
  writeError reg value state failure after isAllowed steady answered := by
    obtain ⟨-, rfl⟩ := write_logged_file_error answered
    refine early _ ⟨steady.dloops, ?_⟩
    apply steady.writes.append
    rintro _ _ ⟨⟩
    exact isAllowed.1

theorem logged_stops :
    (logged (registerFile store)).Holds (Steady values allowed) (OffMacs allowed)
      (WritesOnly allowed) :=
  logged_holds fun _ steady => steady.writes

/-- While a port has no power: what the register of its MAC holds. -/
structure Cycling (values : Reg → BitVec 32) (allowed : Reg → BitVec 32 → Prop) (num : Nat)
    (state : RegisterFile Reg × List (RegEvent Reg)) : Prop where
  others : ∀ other ≠ num, state.1.value (.dloop other) = values (.dloop other)
  writes : WritesOnly allowed state

theorem Steady.cycling (steady : Steady values allowed state) (num : Nat) :
    Cycling values allowed num state where
  others other _ := steady.dloops other
  writes := steady.writes

section Writes

variable {μ : Type} [HasImpRc μ] {num impRc : Nat} {value : BitVec 32}
  {P Q : RegisterFile Reg × List (RegEvent Reg) → Prop}

theorem writeMac_meets (isAllowed : allowed (.dloop num) value)
    (before : ∀ state, P state → Cycling values allowed num state)
    (after : ∀ state, state.1.value (.dloop num) = value →
      Cycling values allowed num state → Q state) :
    Meets (fun state => P state.device)
      (writeReg (logged (registerFile store)) (.dloop num) value impRc : Call μ _ Unit)
      (fun _ state => Q state.device) fun _ state => WritesOnly allowed state.device := by
  apply orLeave_meets
  apply regWrite_meets
  · intro start final holds answered
    have cycling := before _ holds
    obtain rfl := write_logged_file_ok answered
    apply after _ (Function.update_self _ _ _)
    refine ⟨fun other different => ?_, ?_⟩
    · exact (Function.update_of_ne (fun same => different (Reg.dloop.inj same)) _ _).trans
        (cycling.others other different)
    · apply cycling.writes.append
      rintro _ _ ⟨⟩
      exact isAllowed
  · intro start failure final holds answered
    have cycling := before _ holds
    obtain ⟨-, rfl⟩ := write_logged_file_error answered
    apply cycling.writes.append
    rintro _ _ ⟨⟩
    exact isAllowed

variable {dev : Tsi57xDevice} {pnum : Nat}

omit [HasImpRc μ] in
theorem readMac_meets :
    Meets (fun state : Attached μ _ => Steady values allowed state.device)
      (regRead (logged (registerFile store)) (.dloop num) id)
      (fun dloop state => dloop = values (.dloop num) ∧
        Steady values allowed state.device)
      fun _ state => WritesOnly allowed state.device := by
  apply regRead_meets
  · intro start dloop final steady answered
    refine ⟨?_, logged_stops.read _ _ _ _ steady answered⟩
    exact (read_logged_file_ok answered).1.trans (steady.dloops num)
  · intro start failure final steady answered
    exact logged_stops.readError _ _ _ _ steady answered

theorem powerCycle_holds (taken : allowed (.dloop ((dev.pmr pnum).pwrMacNum * 2))
      (pwrAt dev values pnum ||| (dev.pmr pnum).pwrDownMask))
    (given : allowed (.dloop ((dev.pmr pnum).pwrMacNum * 2)) (pwrAt dev values pnum)) :
    Holds (Steady values allowed) (WritesOnly allowed)
      (powerCycle dev (logged (registerFile store)) pnum : Call μ _ Unit) := by
  apply Meets.bind (orLeave_meets readMac_meets)
  intro dloop
  apply Meets.assume
  rintro rfl
  apply Meets.bind (writeMac_meets taken (fun _ steady => steady.cycling _)
    (Q := Cycling values allowed _) fun _ _ cycling => cycling)
  intro _
  apply writeMac_meets given (fun _ cycling => cycling)
  intro state isGiven cycling
  refine ⟨fun other => ?_, cycling.writes⟩
  by_cases same : other = (dev.pmr pnum).pwrMacNum * 2
  · exact same ▸ isGiven
  · exact cycling.others other same

theorem writeReg_wrote {effect : WriteEffect Reg} {reg : Reg} {Pre : Attached μ _ → Prop} :
    Meets Pre (writeReg (logged (registerFile effect)) reg value impRc : Call μ _ Unit)
      (fun _ state => Wrote reg value state.device)
      fun _ state => Wrote reg value state.device := by
  apply orLeave_meets
  apply regWrite_logged_meets
  · exact fun _ _ _ => List.mem_append_right _ (List.mem_singleton_self _)
  · exact fun _ _ _ _ => List.mem_append_right _ (List.mem_singleton_self _)

end Writes

end States

/-- The ports that a request is about. -/
def requestedPorts (dev : Tsi57xDevice) (portNum : Nat) : List Nat :=
  if portNum = rioAllPorts then List.range dev.numPorts
  else if portNum ≥ dev.numPorts then []
  else if (dev.pmr portNum).laneCount4x ≠ 0 ∧ dev ≠ .tsi577 then
    [portNum, dev.otherMacPort portNum]
  else [portNum]

section BeforeCycle

variable {μ δ : Type} [HasImpRc μ] (dev : Tsi57xDevice) (device : RegDevice Reg δ)
  (scratchpad : δ → Nat → BitVec 32) (inParms : PcResetPortIn)

/-- What is found out before any port is reset: the skipped ports, and the configurations. -/
def readRequest : Call μ δ (List Nat × List RioPcOnePortConfig) := do
  setImpRc 0
  let skip ← determinePortsToSkip dev device inParms.oobRegAcc true
  setImpRc 0
  let cfgOut ← taking (tsi57xRioPcGetConfig dev device (resetPtl dev inParms.portNum))
  pure (skip, cfgOut.pc)

/-- What is known where the power of a port is about to be taken away. -/
structure AtCycle where
  request : List Nat × List RioPcOnePortConfig
  saved : Option SavedRegs
  dloop : BitVec 32

/-- All that a call does before it takes the power of a port away, if it gets as far. -/
def beforeCycle (pnum : Nat) : Call μ δ AtCycle := do
  let request ← readRequest dev device inParms
  let _ ← (request.2.takeWhile (·.pnum ≠ pnum)).foldlM
    (resetTurn dev device scratchpad inParms request.1 request.2) 0
  let saved ← savedRegs dev device inParms request.2 pnum
  resetPartners dev device inParms pnum saved
  let dloop ← readReg device (.dloop ((dev.pmr pnum).pwrMacNum * 2)) (pcResetPort 6)
  pure ⟨request, saved, dloop⟩

/-- What it does from there on. -/
def fromCycle (pnum : Nat) (state : AtCycle) : Call μ δ Unit := do
  let pmr := dev.pmr pnum
  writeReg device (.dloop (pmr.pwrMacNum * 2)) (state.dloop ||| pmr.pwrDownMask) (pcResetPort 7)
  writeReg device (.dloop (pmr.pwrMacNum * 2)) state.dloop (pcResetPort 8)
  orLeave (pcResetPort 9)
    (restoreRegsFromPowerup device scratchpad pnum (state.saved.map (·.1)))
  let rc ← restoreDep device scratchpad state.saved
  let rc ← (state.request.2.dropWhile (·.pnum ≠ pnum)).tail.foldlM
    (resetTurn dev device scratchpad inParms state.request.1 state.request.2) rc
  if rc ≠ 0 then throw (.code rc)

end BeforeCycle

/-- A call ends before it takes the power of a port away: an access that it makes before fails. -/
def EndsBefore (dev : Tsi57xDevice)
    (scratchpad : RegisterFile Reg × List (RegEvent Reg) → Nat → BitVec 32)
    (inParms : PcResetPortIn) (impRc : Nat) (start : RegisterFile Reg) (pnum : Nat) : Prop :=
  ∀ state final, (beforeCycle dev (logged (registerFile store)) scratchpad inParms pnum).run
    ⟨impRc, (start, [])⟩ ≠ .ok state final

/-- Why the port that registers are accessed through, if it is a port that has power, keeps it: it
is in use, or no port is reset that it shares its power with. -/
def SparesAccess (dev : Tsi57xDevice)
    (scratchpad : RegisterFile Reg × List (RegEvent Reg) → Nat → BitVec 32)
    (inParms : PcResetPortIn) (impRc : Nat) (start : RegisterFile Reg) : Prop :=
  inParms.oobRegAcc = false → connPort start.value < dev.numPorts →
    HasPower dev start.value (connPort start.value) →
      (dev ≠ .tsi577 ∧ (statusAt dev start.value (connPort start.value)).portOk = true) ∨
        ∀ pnum ∈ requestedPorts dev inParms.portNum,
          (configAt dev start.value pnum).portAvailable = true →
            (configAt dev start.value pnum).poweredUp = true →
              Hits dev pnum (connPort start.value) →
                EndsBefore dev scratchpad inParms impRc start pnum

/-- What a request allows to be reset. -/
structure ResetsWithin (dev : Tsi57xDevice) (values : Reg → BitVec 32) (inParms : PcResetPortIn)
    (log : List (RegEvent Reg)) : Prop where
  partners : inParms.resetLp = false → ¬SendsReset log
  access : inParms.oobRegAcc = false → KeepsPower dev values log

section WholeCall

variable {dev : Tsi57xDevice} {values : Reg → BitVec 32} {pnum portNum : Nat}

theorem determinePortsToSkip_reads {μ δ : Type} [HasImpRc μ] {device : RegDevice Reg δ}
    {Inv : δ → Prop} {fails : Prop} (tells : device.Tells Inv values fails)
    (status : Reads Inv fails
      (tsi57xRioPcGetStatus dev device (onePort (connPort values)) : Call Nat δ _)
      [statusAt dev values (connPort values)]) {oobRegAcc resetPort : Bool} :
    Reads Inv fails (determinePortsToSkip dev device oobRegAcc resetPort : Call μ δ _)
      (skipAt dev values oobRegAcc resetPort) := by
  apply Reads.ite (fun _ => Reads.pure _)
  intro _
  apply (readReg_reads tells).bind
  apply (taking_reads status).bind
  have sameTest : [statusAt dev values (connPort values)].map (·.portOk) ≠ [true] ↔
      (statusAt dev values (connPort values)).portOk = false := by
    rw [List.map_singleton, ne_eq, List.singleton_inj, Bool.not_eq_true]
  rw [← ite_congr (propext sameTest) (fun _ => rfl) fun _ => rfl]
  apply Reads.ite
  · exact fun _ => setImpRc_reads.bind (Reads.pure _)
  · exact fun _ => setImpRc_reads.bind (Reads.pure _)

theorem values_not_takes (hasPower : HasPower dev values pnum) (reg : Reg) :
    ¬TakesPower dev pnum reg (values reg) := by
  rintro ⟨rfl, takes⟩
  exact takes hasPower

theorem cycle_not_takes {conn : Nat} (hasPower : HasPower dev values conn)
    (misses : ¬Hits dev pnum conn) :
    ¬TakesPower dev conn (.dloop ((dev.pmr pnum).pwrMacNum * 2))
      (pwrAt dev values pnum ||| (dev.pmr pnum).pwrDownMask) := by
  rintro ⟨sameMac, takes⟩
  have same : (dev.pmr pnum).pwrMacNum = (dev.pmr conn).pwrMacNum :=
    Nat.eq_of_mul_eq_mul_right two_pos (Reg.dloop.inj sameMac)
  have noPower : (dev.pmr pnum).pwrDownMask &&& powerDownBits dev conn = 0 :=
    not_not.mp fun hit => misses ⟨same, hit⟩
  have power : pwrAt dev values pnum &&& powerDownBits dev conn = 0 := by
    rw [pwrAt, same]
    exact hasPower
  rw [BitVec.and_or_distrib_right, power, noPower] at takes
  exact takes rfl

theorem requestedPorts_made (valid : portNum = rioAllPorts ∨ portNum < dev.numPorts) :
    darDbRioGetPortList dev.numPorts (resetPtl dev portNum) = .ok (requestedPorts dev portNum) := by
  rcases valid with rfl | isPort
  · cases dev <;> rfl
  · have all : ∀ dev : Tsi57xDevice, ∀ portNum < dev.numPorts,
        darDbRioGetPortList dev.numPorts (resetPtl dev portNum) =
          .ok (requestedPorts dev portNum) := by
      intro dev
      cases dev <;> decide +kernel
    exact all dev portNum isPort

theorem valid_of_requested (isMember : pnum ∈ requestedPorts dev portNum) :
    portNum = rioAllPorts ∨ portNum < dev.numPorts := by
  by_contra invalid
  rw [not_or, Nat.not_lt] at invalid
  rw [requestedPorts, if_neg invalid.1, if_pos invalid.2] at isMember
  cases isMember

theorem configAt_pnum (pnum : Nat) : (configAt dev values pnum).pnum = pnum := by
  have width : (widthAt dev values pnum).pnum = pnum := by
    unfold widthAt
    split
    · rfl
    · exact apply_ite RioPcOnePortConfig.pnum _ _ _ |>.trans (ite_self _)
    · rfl
  unfold configAt
  split
  · exact width
  · exact width

theorem requestedPorts_resettable (isMember : pnum ∈ requestedPorts dev portNum) :
    Resettable dev ((requestedPorts dev portNum).map (configAt dev values)) pnum := by
  have all : ∀ dev : Tsi57xDevice, ∀ portNum ∈ rioAllPorts :: List.range dev.numPorts,
      ∀ pnum ∈ requestedPorts dev portNum, pnum < dev.numPorts ∧
        ((dev.pmr pnum).laneCount4x ≠ 0 ∧ dev ≠ .tsi577 →
          pnum + 1 ∈ requestedPorts dev portNum ∧ pnum + 1 < dev.numPorts) := by
    intro dev
    cases dev <;> decide +kernel
  have listed : portNum ∈ rioAllPorts :: List.range dev.numPorts :=
    List.mem_cons.mpr ((valid_of_requested isMember).imp_right List.mem_range.mpr)
  obtain ⟨isPort, partner⟩ := all dev portNum listed pnum isMember
  refine ⟨isPort, fun isEven => ⟨?_, (partner isEven).2⟩⟩
  rw [List.any_map, List.any_eq_true]
  exact ⟨pnum + 1, (partner isEven).1, decide_eq_true (configAt_pnum _)⟩

/-- A reset comes to its loop over the ports through its checks alone. -/
theorem resetPort_meets {δ : Type} {device : RegDevice Reg δ} {scratchpad : δ → Nat → BitVec 32}
    {inParms : PcResetPortIn} {Inv P F : δ → Prop} {fails : Prop}
    (tells : device.Tells Inv values fails)
    (status : Reads Inv fails
      (tsi57xRioPcGetStatus dev device (onePort (connPort values)) : Call Nat δ _)
      [statusAt dev values (connPort values)])
    (calm : ∀ state, Inv state → fails ∨ requestedPorts dev inParms.portNum = [] → F state)
    (stops : ∀ state, P state → F state)
    (loop : Meets (fun state => Inv state.device)
      ((requestedPorts dev inParms.portNum).map (configAt dev values) |>.foldlM
        (resetTurn dev device scratchpad inParms (skipAt dev values inParms.oobRegAcc true)
          ((requestedPorts dev inParms.portNum).map (configAt dev values))) 0 : Call Nat δ Nat)
      (fun _ state => P state.device) fun _ state => F state.device) :
    Meets (fun state => Inv state.device)
      (tsi57xRioPcResetPort dev device scratchpad inParms : Call Nat δ Unit)
      (fun _ state => P state.device) fun _ state => F state.device := by
  apply setImpRc_bind
  apply Meets.ite
  · intro invalid
    apply leave_meets
    intro state before
    apply calm state before
    exact .inr ((if_neg invalid.1).trans (if_pos invalid.2))
  · intro isValid
    have valid : inParms.portNum = rioAllPorts ∨ inParms.portNum < dev.numPorts := by
      rw [not_and_or, not_not, Nat.not_le] at isValid
      exact isValid
    apply (determinePortsToSkip_reads tells status).bindMeets
      fun _ state failed before => calm state.device before (.inl failed)
    apply setImpRc_bind
    apply (taking_reads (tsi57xRioPcGetConfig_reads tells (requestedPorts_made valid))).bindMeets
      fun _ state failed before => calm state.device before (.inl failed)
    apply Meets.bind loop
    intro rc
    apply Meets.ite
    · exact fun _ => Meets.throw fun state after => stops state.device after
    · exact fun _ => Meets.pure fun _ after => after

section Runs

variable {scratchpad : RegisterFile Reg × List (RegEvent Reg) → Nat → BitVec 32}
  {inParms : PcResetPortIn}

theorem Calm.start {start : RegisterFile Reg} : Calm start.value (start, []) :=
  ⟨rfl, fun _ _ => List.not_mem_nil⟩

/-- A port is reset unless accesses fail before. -/
structure IsReset (dev : Tsi57xDevice) (values : Reg → BitVec 32) (inParms : PcResetPortIn)
    (pnum : Nat) : Prop where
  requested : pnum ∈ requestedPorts dev inParms.portNum
  notSkipped : pnum ∉ skipAt dev values inParms.oobRegAcc true
  available : (configAt dev values pnum).portAvailable = true
  up : (configAt dev values pnum).poweredUp = true

variable {impRc pnum : Nat} {start : RegisterFile Reg}

theorem dropWhile_configAt {ports : List Nat} (isMember : pnum ∈ ports) :
    ∃ later, (ports.map (configAt dev values)).dropWhile (·.pnum ≠ pnum) =
      configAt dev values pnum :: later := by
  induction ports with
  | nil => cases isMember
  | cons first rest ih =>
    rw [List.map_cons, List.dropWhile_cons, configAt_pnum]
    by_cases same : first = pnum
    · exact ⟨_, by rw [if_neg (by simp [same]), same]⟩
    · rw [if_pos (by simpa using same)]
      exact ih ((List.mem_cons.mp isMember).resolve_left (Ne.symm same))

theorem foldlM_of_dropWhile {α β : Type} {m : Type → Type} [Monad m] [LawfulMonad m]
    {test : α → Bool} {cells later : List α} {cell : α}
    (isLater : cells.dropWhile test = cell :: later) (turn : β → α → m β) (carried : β) :
    cells.foldlM turn carried =
      (cells.takeWhile test).foldlM turn carried >>= fun carried =>
        turn carried cell >>= later.foldlM turn := by
  conv_lhs => rw [← List.takeWhile_append_dropWhile (p := test) (l := cells)]
  rw [List.foldlM_append, isLater]
  rfl

theorem readRequest_reads {δ : Type} {device : RegDevice Reg δ} {Inv : δ → Prop} {fails : Prop}
    (tells : device.Tells Inv values fails)
    (status : Reads Inv fails
      (tsi57xRioPcGetStatus dev device (onePort (connPort values)) : Call Nat δ _)
      [statusAt dev values (connPort values)])
    (valid : inParms.portNum = rioAllPorts ∨ inParms.portNum < dev.numPorts) :
    Reads Inv fails (readRequest dev device inParms : Call Nat δ _)
      (skipAt dev values inParms.oobRegAcc true,
        (requestedPorts dev inParms.portNum).map (configAt dev values)) := by
  apply setImpRc_reads.bind
  apply (determinePortsToSkip_reads tells status).bind
  apply setImpRc_reads.bind
  apply (taking_reads (tsi57xRioPcGetConfig_reads tells (requestedPorts_made valid))).bind
  exact Reads.pure _

/-- A call comes to where it takes the power of a port away, and goes on from there. -/
theorem tsi57xRioPcResetPort_split (isConn : connPort start.value < dev.numPorts)
    (isReset : IsReset dev start.value inParms pnum) :
    (tsi57xRioPcResetPort dev (logged (registerFile store)) scratchpad inParms).run
        ⟨impRc, (start, [])⟩ =
      (beforeCycle dev (logged (registerFile store)) scratchpad inParms pnum >>=
        fromCycle dev (logged (registerFile store)) scratchpad inParms pnum).run
          ⟨impRc, (start, [])⟩ := by
  have valid := valid_of_requested isReset.requested
  have whole : (tsi57xRioPcResetPort dev (logged (registerFile store)) scratchpad inParms :
      Call Nat _ Unit) = readRequest dev (logged (registerFile store)) inParms >>= fun request =>
        request.2.foldlM (resetTurn dev (logged (registerFile store)) scratchpad inParms request.1
          request.2) 0 >>= fun rc => if rc ≠ 0 then throw (.code rc) else pure () := by
    rw [tsi57xRioPcResetPort, if_neg (by omega), readRequest]
    simp
  rw [whole, beforeCycle, bind_assoc, EStateM.run_bind, EStateM.run_bind]
  have tells : (logged (registerFile store)).Tells (Calm start.value) start.value True :=
    logged_tells
  have reads := @readRequest_reads dev _ inParms _ _ _ _ tells
    (tsi57xRioPcGetStatus_reads tells isConn) valid
  cases ran : (readRequest dev (logged (registerFile store)) inParms).run
      (⟨impRc, (start, [])⟩ : Attached Nat _) with
  | error stop final => rfl
  | ok request final =>
    obtain ⟨rfl, -⟩ := (reads Calm.start).1 ran
    obtain ⟨later, isLater⟩ := @dropWhile_configAt dev start.value pnum _ isReset.requested
    have turn : ∀ pcs rc, (resetTurn dev (logged (registerFile store)) scratchpad inParms
        (skipAt dev start.value inParms.oobRegAcc true) pcs rc (configAt dev start.value pnum) :
          Call Nat _ Nat) =
        resetUpPort dev (logged (registerFile store)) scratchpad inParms pcs pnum := by
      intro pcs rc
      rw [resetTurn, configAt_pnum,
        if_neg (by simp [isReset.notSkipped, isReset.available, isReset.up])]
    dsimp only
    rw [foldlM_of_dropWhile isLater]
    simp only [turn, resetUpPort, powerCycle, fromCycle, isLater, List.tail_cons, bind_assoc,
      pure_bind]

/-- A call that comes to where it takes the power of a port away tries to. -/
theorem fromCycle_wrote {state : AtCycle} {P : Attached Nat _ → Prop} :
    Meets P
      (fromCycle dev (logged (registerFile store)) scratchpad inParms pnum state : Call Nat _ Unit)
      (fun _ state' => Wrote (.dloop ((dev.pmr pnum).pwrMacNum * 2))
        (state.dloop ||| (dev.pmr pnum).pwrDownMask) state'.device)
      fun _ state' => Wrote (.dloop ((dev.pmr pnum).pwrMacNum * 2))
        (state.dloop ||| (dev.pmr pnum).pwrDownMask) state'.device := by
  apply Meets.bind writeReg_wrote
  intro _
  apply (writeReg_preserves logged_wrote trivial).bind
  intro _
  apply (orLeave_holds (restoreRegsFromPowerup_holds logged_wrote.holds fun _ _ _ => trivial)).bind
  intro _
  apply (restoreDep_holds logged_wrote.holds fun _ _ _ => trivial).bind
  intro rc
  apply Holds.bind
  · apply foldlM_resetTurn_holds logged_wrote.holds logged_wrote.holds
    · exact fun _ _ _ => trivial
    · exact fun _ _ => trivial
    · exact fun _ _ => .inr fun _ wrote => wrote
    · exact fun _ _ _ _ _ => powerCycle_preserves logged_wrote fun _ _ => trivial
  · exact fun rc => Preserves.ite (fun _ => Preserves.throw _) fun _ => Preserves.pure _

/-- The turns for ports that do not share their power with a port leave its power alone. -/
theorem turns_spare {conn : Nat} (hasPower : HasPower dev values conn)
    {skip : List Nat} {ports : List Nat} {pcs : List RioPcOnePortConfig}
    (misses : ∀ pnum ∈ ports, pnum ∉ skip → (configAt dev values pnum).portAvailable = true →
      (configAt dev values pnum).poweredUp = true → ¬Hits dev pnum conn) (rc : Nat) :
    Holds (Steady values (SparesPower dev conn)) (WritesOnly (SparesPower dev conn))
      ((ports.map (configAt dev values)).foldlM
        (resetTurn dev (logged (registerFile store)) scratchpad inParms skip pcs) rc :
          Call Nat _ Nat) := by
  apply foldlM_resetTurn_holds logged_stops (logged_holds fun _ steady => steady)
  · exact fun reg value restored => restored.offMacs fun notMac takes => notMac _ takes.1
  · exact fun _ pnum => ⟨fun takes => Reg.noConfusion takes.1, nofun⟩
  · exact fun _ _ => .inr fun state steady => steady.writes
  · intro pc isMember notSkipped available up
    obtain ⟨pnum, isPort, rfl⟩ := List.mem_map.mp isMember
    rw [configAt_pnum] at notSkipped ⊢
    apply powerCycle_holds
    · exact cycle_not_takes hasPower (misses pnum isPort notSkipped available up)
    · exact values_not_takes hasPower _

/-- Up to where the power of a first port is taken away that the port shares its power with, its
power is left alone. -/
theorem beforeCycle_spares (isConn : connPort values < dev.numPorts)
    (hasPower : HasPower dev values (connPort values))
    (isReset : IsReset dev values inParms pnum)
    (first : ∀ other ∈ (requestedPorts dev inParms.portNum).takeWhile (· ≠ pnum),
      IsReset dev values inParms other → ¬Hits dev other (connPort values)) :
    Meets (fun state => Calm values state.device)
      (beforeCycle dev (logged (registerFile store)) scratchpad inParms pnum : Call Nat _ AtCycle)
      (fun _ _ => True)
      fun _ state => WritesOnly (SparesPower dev (connPort values)) state.device := by
  have tells : (logged (registerFile store)).Tells (Calm values) values True :=
    logged_tells
  apply (readRequest_reads tells (tsi57xRioPcGetStatus_reads tells isConn)
    (valid_of_requested isReset.requested)).bindMeets
      fun _ _ _ calm _ _ isWrite => absurd isWrite (calm.noWrites _ _)
  have before : ((requestedPorts dev inParms.portNum).map (configAt dev values)).takeWhile
      (·.pnum ≠ pnum) =
        ((requestedPorts dev inParms.portNum).takeWhile (· ≠ pnum)).map (configAt dev values) := by
    rw [List.takeWhile_map]
    congr 2
    funext other
    exact congrArg (fun port => decide (port ≠ pnum)) (configAt_pnum other)
  have holds : (logged (registerFile store)).Holds
      (Steady values (SparesPower dev (connPort values))) (OffMacs (SparesPower dev _))
      (WritesOnly (SparesPower dev (connPort values))) := logged_stops
  have early : ∀ state, Steady values (SparesPower dev (connPort values)) state →
      WritesOnly (SparesPower dev (connPort values)) state :=
    fun _ steady => steady.writes
  refine Meets.weaken (?_ : Holds (Steady values (SparesPower dev (connPort values)))
    (WritesOnly (SparesPower dev (connPort values))) _) (fun _ calm => calm.steady)
      (fun _ _ _ => trivial) fun _ _ stopped => stopped
  apply Holds.bind
  · rw [before]
    apply turns_spare hasPower
    intro other isBefore notSkipped available up
    have isRequested := (List.takeWhile_sublist _).subset isBefore
    exact first other isBefore ⟨isRequested, notSkipped, available, up⟩
  intro _
  apply Meets.bind (savedRegs_meets holds (.inr early))
  intro saved
  apply Meets.assume
  intro fits
  apply (resetPartners_holds holds (.inr early) fits fun _ pnum =>
    ⟨fun takes => Reg.noConfusion takes.1, nofun⟩).bind
  intro _
  exact (orLeave_holds holds.regRead).bind fun _ => Holds.pure _

theorem exists_first {found : Nat → Prop} {ports : List Nat}
    (isFound : ∃ port ∈ ports, found port) :
    ∃ first ∈ ports, found first ∧ ∀ other ∈ ports.takeWhile (· ≠ first), ¬found other := by
  induction ports with
  | nil =>
    obtain ⟨_, isMember, _⟩ := isFound
    cases isMember
  | cons port rest ih =>
    by_cases isFirst : found port
    · exact ⟨port, List.mem_cons_self, isFirst, by simp⟩
    · rw [List.exists_mem_cons_iff] at isFound
      obtain ⟨first, isMember, isHit, none⟩ := ih (isFound.resolve_left isFirst)
      refine ⟨first, List.mem_cons_of_mem _ isMember, isHit, fun other isBefore => ?_⟩
      rw [List.takeWhile_cons] at isBefore
      split at isBefore
      · rcases List.mem_cons.mp isBefore with rfl | isLater
        · exact isFirst
        · exact none other isLater
      · cases isBefore

/-- The port that registers are accessed through keeps its power, whatever fails, if it is left
alone, does not share its power with a port that is reset, or the call ends before it takes that
away. -/
theorem tsi57xRioPcResetPort_keepsPower (spares : SparesAccess dev scratchpad inParms impRc start)
    (inBand : inParms.oobRegAcc = false) :
    KeepsPower dev start.value (logOf
      (tsi57xRioPcResetPort dev (logged (registerFile store)) scratchpad inParms) impRc start) := by
  intro isConn hasPower
  have tells : (logged (registerFile store)).Tells (Calm start.value) start.value True :=
    logged_tells
  by_cases misses : ∀ pnum, IsReset dev start.value inParms pnum →
      ¬Hits dev pnum (connPort start.value)
  · apply logOf_of_meets (P := fun log => ∀ reg value, .write reg value ∈ log →
      SparesPower dev (connPort start.value) reg value)
    apply Meets.weakenPre
    · apply resetPort_meets (P := WritesOnly _) (F := WritesOnly _) tells
        (tsi57xRioPcGetStatus_reads tells isConn)
      · exact fun state calm _ reg value isWrite => absurd isWrite (calm.noWrites reg value)
      · exact fun _ writes => writes
      · apply (turns_spare hasPower (fun pnum isRequested notSkipped available up =>
          misses pnum ⟨isRequested, notSkipped, available, up⟩) 0).weaken
        · exact fun state calm => calm.steady
        · exact fun _ _ steady => steady.writes
        · exact fun _ _ stopped => stopped
    · exact fun state isStart => isStart ▸ Calm.start
  · push Not at misses
    obtain ⟨some, isSome, someHits⟩ := misses
    have isFound : ∃ pnum ∈ requestedPorts dev inParms.portNum,
        IsReset dev start.value inParms pnum ∧ Hits dev pnum (connPort start.value) :=
      ⟨some, isSome.requested, isSome, someHits⟩
    obtain ⟨pnum, -, ⟨isReset, hits⟩, first⟩ := exists_first isFound
    have ends : EndsBefore dev scratchpad inParms impRc start pnum := by
      rcases spares inBand isConn hasPower with ⟨not577, portOk⟩ | ends
      · have isPort := (@requestedPorts_resettable _ start.value _ _ isReset.requested).isPort
        have isSkipped := mem_portsToSkip_of_hits not577 isPort isConn hits
        have notSkipped := isReset.notSkipped
        rw [skipAt, inBand, if_neg (by simp [not577]), if_neg (by simp [portOk])] at notSkipped
        exact absurd isSkipped notSkipped
      · exact ends pnum isReset.requested isReset.available isReset.up hits
    have spared := @beforeCycle_spares dev _ scratchpad inParms _ isConn hasPower isReset
      fun other isBefore isReset hits => first other isBefore ⟨isReset, hits⟩
    rw [logOf, tsi57xRioPcResetPort_split isConn isReset, EStateM.run_bind]
    cases ran : (beforeCycle dev (logged (registerFile store)) scratchpad inParms pnum).run
        ⟨impRc, (start, [])⟩ with
    | ok state final => exact absurd ran (ends state final)
    | error stop final => exact (spared Calm.start).2 ran

theorem tsi57xRioPcResetPort_spared (inBand : inParms.oobRegAcc = false)
    (keeps : KeepsPower dev start.value (logOf
      (tsi57xRioPcResetPort dev (logged (registerFile store)) scratchpad inParms) impRc start)) :
    SparesAccess dev scratchpad inParms impRc start := by
  intro _ isConn hasPower
  by_contra notSpared
  rw [not_or, not_and, Bool.not_eq_true] at notSpared
  obtain ⟨notOk, goesOn⟩ := notSpared
  simp only [EndsBefore] at goesOn
  push Not at goesOn
  obtain ⟨pnum, isRequested, available, up, ⟨sameMac, hit⟩, state, final, ran⟩ := goesOn
  have noSkip : skipAt dev start.value inParms.oobRegAcc true = [] := by
    rw [skipAt, inBand]
    by_cases is577 : dev = .tsi577
    · exact if_pos (.inr is577)
    · rw [if_neg (by simp [is577]), if_pos (notOk is577)]
  have isReset : IsReset dev start.value inParms pnum :=
    ⟨isRequested, noSkip ▸ List.not_mem_nil, available, up⟩
  have wrote : Wrote (.dloop ((dev.pmr pnum).pwrMacNum * 2))
      (state.dloop ||| (dev.pmr pnum).pwrDownMask) (start, logOf
        (tsi57xRioPcResetPort dev (logged (registerFile store)) scratchpad inParms)
        impRc start) := by
    rw [logOf, tsi57xRioPcResetPort_split isConn isReset, EStateM.run_bind, ran]
    exact (fromCycle_wrote (P := fun _ => True)).finalState trivial
  apply keeps isConn hasPower _ _ wrote
  refine ⟨congrArg (fun mac => Reg.dloop (mac * 2)) sameMac, fun noPower => hit ?_⟩
  rw [BitVec.and_or_distrib_right] at noPower
  exact (BitVec.or_eq_zero_iff.mp noPower).2

/-- A request stays within what it allows exactly if it spares the port that registers are accessed
through, whatever accesses fail. -/
theorem tsi57xRioPcResetPort_within_iff :
    ResetsWithin dev start.value inParms (logOf
        (tsi57xRioPcResetPort dev (logged (registerFile store)) scratchpad inParms) impRc start) ↔
      SparesAccess dev scratchpad inParms impRc start := by
  constructor
  · intro within inBand
    exact tsi57xRioPcResetPort_spared inBand (within.access inBand) inBand
  · intro spares
    exact ⟨tsi57xRioPcResetPort_not_sends, tsi57xRioPcResetPort_keepsPower spares⟩

end Runs

end WholeCall

end RioFabric.Tsi57xPort

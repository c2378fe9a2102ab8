import RioFabric.Dar.PortList
import RioFabric.Lib.Bits
import RioFabric.RxsPort.Registers

/-!
# The link response timeout of RXS switches

A timeout is requested in hundreds of nanoseconds and programmed in units of three periods of a
clock, which depends on how the device is strapped.  The request is made nanoseconds in 32 bits
first, and what is read back is made hundreds of nanoseconds twice.
-/

namespace RioFabric.RxsPort

open Lib Dar

section Programs

variable {μ δ : Type} (device : RegDevice Reg δ)

/-- `RXS_MPM_CFGSIG0_CORECLK_SELECT`, with the values of the field. -/
def mpmCfgsig0CoreclkSelect : BitVec 32 := 0x00000600

def coreclkSelectLoLat : BitVec 32 := 0x00000600

def coreclkSelectRsvd : BitVec 32 := 0x00000400

def coreclkSelectLoPwr12G : BitVec 32 := 0x00000200

def coreclkSelectLoPwr10G : BitVec 32 := 0x00000000

/-- `RXS_MPM_CFGSIG0_REFCLK_SELECT`. -/
def mpmCfgsig0RefclkSelect : BitVec 32 := 0x00000800

def refclkSelect156p25Mhz : BitVec 32 := 0x00000800

/-- `RXS_PRESCALAR_SRV_CLK_PRESCALAR_SRV_CLK`. -/
def prescalarSrvClkMask : BitVec 32 := 0x000000ff

/-- The clock period from the two registers: the branches of `rxs_rio_pc_clk_pd` past its reads. -/
def clkPdOf (rck ps : BitVec 32) : Except Nat Nat :=
  if ps &&& ~~~prescalarSrvClkMask ≠ 0 ∨ ps = 0 then .error rioErrReadRegReturnInvalidVal
  else
    let cck := rck &&& mpmCfgsig0CoreclkSelect
    let fast := rck &&& mpmCfgsig0RefclkSelect = refclkSelect156p25Mhz
    let ps := ps &&& prescalarSrvClkMask
    if cck = coreclkSelectLoLat then
      if ps ≠ 42 then .error rioErrReadRegReturnInvalidVal
      else if fast then .ok 1000 else .ok 1001
    else if cck = coreclkSelectRsvd then .error rioErrReadRegReturnInvalidVal
    else if cck = coreclkSelectLoPwr12G then
      if fast then
        if ps ≠ 38 then .error rioErrReadRegReturnInvalidVal else .ok 998
      else
        if ps ≠ 37 then .error rioErrReadRegReturnInvalidVal else .ok 992
    else if cck = coreclkSelectLoPwr10G then
      if ps ≠ 31 then .error rioErrReadRegReturnInvalidVal else .ok 992
    else .error rioErrSwFailure

def rxsRioPcClkPd : RcProgram μ δ Nat := do
  let rck ← regRead device (.dev .mpmCfgsig0) id
  let ps ← regRead device (.dev .prescalarSrvClk) id
  match clkPdOf rck ps with
  | .ok srvPd => pure srvPd
  | .error rc => throw rc

def rioLrtoNsec : Nat := 100

def rioLrtoMax100ns : Nat := 6000000000 / rioLrtoNsec

def rxsSpLtCtlMax : Nat := 0xffffff

/-- What `rxs_get_lrto` makes of the register and the clock period, multiplied in 32 bits. -/
def lrtoOfReg (lrtoReg : BitVec 32) (srvPd : Nat) : Nat :=
  let time := (lrtoReg >>> 8).toNat * 3 * srvPd % 2 ^ 32
  let time := (time + (rioLrtoNsec - 1)) / rioLrtoNsec
  let time := if time > rioLrtoMax100ns then rioLrtoMax100ns else time
  let time := time / rioLrtoNsec
  if time = 0 ∧ lrtoReg ≠ 0 then 1 else time

def rxsGetLrto : RcProgram μ δ Nat := do
  let lrtoReg ← regRead device (.dev .spLtCtl) id
  let srvPd ← rxsRioPcClkPd device
  pure (lrtoOfReg lrtoReg srvPd)

/-- The units that `rxs_set_lrto` programs.  The first product is one of 32 bits. -/
def lrtoUnits (lrto srvPd : Nat) : Nat :=
  let time := lrto * rioLrtoNsec % 2 ^ 32
  let time := (time + (3 * srvPd - 1)) / (3 * srvPd)
  let time := if time = 0 ∧ lrto ≠ 0 then 1 else time
  if time > rxsSpLtCtlMax then rxsSpLtCtlMax else time

def rxsSetLrto (lrto : Nat) : RcProgram μ δ Unit := do
  failIf (lrto > rioLrtoMax100ns) rioErrInvalidParameter
  let srvPd ← rxsRioPcClkPd device
  regWrite device (.dev .spLtCtl) (BitVec.ofNat 32 (lrtoUnits lrto srvPd <<< 8)) id

variable {device} {Inv : δ → Prop} {values : Reg → BitVec 32}

theorem rxsRioPcClkPd_keeps (answers : device.Answers Inv values) :
    Meets (fun state : Attached μ δ => Inv state.device) (rxsRioPcClkPd device)
      (fun srvPd state =>
        clkPdOf (values (.dev .mpmCfgsig0)) (values (.dev .prescalarSrvClk)) = .ok srvPd ∧
          Inv state.device)
      fun _ state => Inv state.device := by
  apply answers.regRead_bind
  apply answers.regRead_bind
  split
  next srvPd period => exact Meets.pure fun _ before => ⟨period, before⟩
  next => exact Meets.throw fun _ before => before

theorem rxsGetLrto_keeps (answers : device.Answers Inv values) :
    Meets (fun state : Attached μ δ => Inv state.device) (rxsGetLrto device)
      (fun _ state => Inv state.device) fun _ state => Inv state.device := by
  apply answers.regRead_bind
  apply Meets.bind (rxsRioPcClkPd_keeps answers)
  exact fun _ => Meets.pure fun _ before => before.2

end Programs

variable {lrto srvPd : Nat}

theorem clkPdOf_ok {rck ps : BitVec 32} (ok : clkPdOf rck ps = .ok srvPd) :
    992 ≤ srvPd ∧ srvPd ≤ 1001 := by
  simp only [clkPdOf] at ok
  repeat' split at ok
  all_goals cases ok
  all_goals exact ⟨by decide, by decide⟩

/-- The programmed time in nanoseconds. -/
def programmedTime (file : RegisterFile Reg) (srvPd : Nat) : Nat :=
  (file.value (.dev .spLtCtl) >>> 8).toNat * 3 * srvPd

/-- The time is the requested one, rounded up to the units that can be programmed, or the longest
that can be programmed. -/
def InWindow (file : RegisterFile Reg) (lrto srvPd : Nat) : Prop :=
  (lrto * rioLrtoNsec ≤ programmedTime file srvPd ∧
      programmedTime file srvPd < lrto * rioLrtoNsec + 3 * srvPd) ∨
    (file.value (.dev .spLtCtl) >>> 8).toNat = rxsSpLtCtlMax

/-- The time in hundreds of nanoseconds, rounded up and capped. -/
def lrtoOfTime (time : Nat) : Nat :=
  min ((time + (rioLrtoNsec - 1)) / rioLrtoNsec) rioLrtoMax100ns

theorem lrtoUnits_bounds (pd : 992 ≤ srvPd ∧ srvPd ≤ 1001) (accepted : lrto ≤ rioLrtoMax100ns) :
    lrto * 100 % 2 ^ 32 ≤ lrtoUnits lrto srvPd * (3 * srvPd) ∧
      lrtoUnits lrto srvPd * (3 * srvPd) < lrto * 100 % 2 ^ 32 + 3 * srvPd ∧
      lrtoUnits lrto srvPd < rxsSpLtCtlMax := by
  have positive : 0 < 3 * srvPd := by omega
  have wrapped : lrto * 100 % 2 ^ 32 < 2 ^ 32 := Nat.mod_lt _ (by decide)
  have below := Nat.div_mul_le_self (lrto * 100 % 2 ^ 32 + (3 * srvPd - 1)) (3 * srvPd)
  have above := Nat.lt_div_mul_add positive (a := lrto * 100 % 2 ^ 32 + (3 * srvPd - 1))
  have notCapped :
      (lrto * 100 % 2 ^ 32 + (3 * srvPd - 1)) / (3 * srvPd) < rxsSpLtCtlMax := by
    apply Nat.div_lt_of_lt_mul
    rw [rxsSpLtCtlMax]
    omega
  have notZero : lrto ≠ 0 → lrto * 100 % 2 ^ 32 ≠ 0 := by
    rw [rioLrtoMax100ns, rioLrtoNsec] at accepted
    omega
  have units : lrtoUnits lrto srvPd =
      (lrto * 100 % 2 ^ 32 + (3 * srvPd - 1)) / (3 * srvPd) := by
    rw [lrtoUnits, rioLrtoNsec]
    have notNone : ¬((lrto * 100 % 2 ^ 32 + (3 * srvPd - 1)) / (3 * srvPd) = 0 ∧ lrto ≠ 0) := by
      intro rounded
      have small := (Nat.div_eq_zero_iff_lt positive).mp rounded.1
      have := notZero rounded.2
      omega
    rw [if_neg notNone, if_neg (Nat.not_lt_of_lt notCapped)]
  rw [units]
  exact ⟨by omega, by omega, notCapped⟩

theorem lrtoOfReg_lt {lrtoReg : BitVec 32} (long : 2901 ≤ (lrtoReg >>> 8).toNat * 3 * srvPd) :
    lrtoOfReg lrtoReg srvPd < lrtoOfTime ((lrtoReg >>> 8).toNat * 3 * srvPd) := by
  have wrapped := Nat.mod_le ((lrtoReg >>> 8).toNat * 3 * srvPd) (2 ^ 32)
  have capped : ∀ time, (if time > rioLrtoMax100ns then rioLrtoMax100ns else time) =
      min time rioLrtoMax100ns := by
    intro time
    split
    next large => exact (Nat.min_eq_right (Nat.le_of_lt large)).symm
    next within => exact (Nat.min_eq_left (Nat.le_of_not_lt within)).symm
  simp only [lrtoOfReg, lrtoOfTime, capped]
  rw [rioLrtoMax100ns, rioLrtoNsec]
  generalize (lrtoReg >>> 8).toNat * 3 * srvPd % 2 ^ 32 = reduced at wrapped
  generalize (lrtoReg >>> 8).toNat * 3 * srvPd = time at wrapped long
  split
  all_goals omega

section RoundTrip

variable {μ : Type} {values : Reg → BitVec 32} {state : Attached μ (RegisterFile Reg)}

/-- What is expected of a timeout: it is programmed rounded up, and the programmed time is what is
read back. -/
def LrtoRoundTrip (state : Attached μ (RegisterFile Reg)) (lrto srvPd : Nat) : Prop :=
  ∃ final, (rxsSetLrto (registerFile store) lrto).run state = .ok () final ∧
    InWindow final.device lrto srvPd ∧
    ∃ after, (rxsGetLrto (registerFile store)).run final =
      .ok (lrtoOfTime (programmedTime final.device srvPd)) after

/-- The clock period that registers give. -/
def clkPdOfValues (values : Reg → BitVec 32) : Except Nat Nat :=
  clkPdOf (values (.dev .mpmCfgsig0)) (values (.dev .prescalarSrvClk))

theorem rxsRioPcClkPd_meets (clock : clkPdOfValues values = .ok srvPd) :
    Meets (fun state : Attached μ (RegisterFile Reg) => Settled values state.device)
      (rxsRioPcClkPd (registerFile store))
      (fun period state => period = srvPd ∧ Settled values state.device) fun _ _ => False := by
  apply regRead_settled_bind
  apply regRead_settled_bind
  rw [show clkPdOf _ _ = _ from clock]
  exact Meets.pure fun _ before => ⟨rfl, before⟩

/-- What the register holds once the timeout is set. -/
theorem rxsSetLrto_meets (accepted : lrto ≤ rioLrtoMax100ns)
    (clock : clkPdOfValues values = .ok srvPd) :
    Meets (fun state : Attached μ (RegisterFile Reg) => Settled values state.device)
      (rxsSetLrto (registerFile store) lrto)
      (fun _ state => Settled (store (.dev .spLtCtl)
        (BitVec.ofNat 32 (lrtoUnits lrto srvPd <<< 8)) values) state.device)
      fun _ _ => False := by
  apply Meets.failIfBind fun _ _ tooLong => absurd accepted (Nat.not_le_of_lt tooLong)
  intro _
  apply Meets.bind (rxsRioPcClkPd_meets clock)
  intro period
  apply Meets.assume
  rintro rfl
  exact regWrite_settled

/-- What is read back as the timeout. -/
theorem rxsGetLrto_meets (clock : clkPdOfValues values = .ok srvPd) :
    Meets (fun state : Attached μ (RegisterFile Reg) => Settled values state.device)
      (rxsGetLrto (registerFile store))
      (fun lrto state => lrto = lrtoOfReg (values (.dev .spLtCtl)) srvPd ∧
        Settled values state.device) fun _ _ => False := by
  apply regRead_settled_bind
  apply Meets.bind (rxsRioPcClkPd_meets clock)
  intro period
  apply Meets.assume
  rintro rfl
  exact Meets.pure fun _ before => ⟨rfl, before⟩

theorem units_of_programmed (pd : 992 ≤ srvPd ∧ srvPd ≤ 1001) (accepted : lrto ≤ rioLrtoMax100ns) :
    (BitVec.ofNat 32 (lrtoUnits lrto srvPd <<< 8) >>> 8).toNat = lrtoUnits lrto srvPd := by
  have small := (lrtoUnits_bounds pd accepted).2.2
  rw [rxsSpLtCtlMax] at small
  rw [BitVec.toNat_ushiftRight, BitVec.toNat_ofNat, Nat.shiftLeft_eq, Nat.shiftRight_eq_div_pow]
  omega

theorem clkPdOfValues_of_run {after : Attached μ (RegisterFile Reg)}
    (clock : (rxsRioPcClkPd (registerFile store)).run state = .ok srvPd after) :
    clkPdOfValues state.device.value = .ok srvPd := by
  obtain ⟨rck, middle, first, clock⟩ := bind_ok_iff.mp clock
  obtain ⟨-, rfl, rfl⟩ := regRead_file_ok_iff.mp first
  obtain ⟨ps, middle, second, clock⟩ := bind_ok_iff.mp clock
  obtain ⟨-, rfl, rfl⟩ := regRead_file_ok_iff.mp second
  simp only [RegisterFile.value_pass] at clock
  split at clock
  next period isPeriod =>
    obtain ⟨rfl, -⟩ := pure_ok_iff.mp clock
    exact isPeriod
  next => cases clock

/-- The device once a timeout is programmed. -/
structure Programmed (file : RegisterFile Reg) (lrto srvPd : Nat) : Prop where
  register : file.value (.dev .spLtCtl) = BitVec.ofNat 32 (lrtoUnits lrto srvPd <<< 8)
  period : clkPdOfValues file.value = .ok srvPd
  reliable : file.Reliable

theorem Programmed.time_eq {file : RegisterFile Reg} (programmed : Programmed file lrto srvPd)
    (accepted : lrto ≤ rioLrtoMax100ns) :
    programmedTime file srvPd = lrtoUnits lrto srvPd * (3 * srvPd) := by
  rw [programmedTime, programmed.register,
    units_of_programmed (clkPdOf_ok programmed.period) accepted, Nat.mul_assoc]

theorem rxsSetLrto_programmed (reliable : state.device.Reliable)
    (period : clkPdOfValues state.device.value = .ok srvPd) (accepted : lrto ≤ rioLrtoMax100ns) :
    ∃ final, (rxsSetLrto (registerFile store) lrto).run state = .ok () final ∧
      Programmed final.device lrto srvPd := by
  obtain ⟨_, final, ran, settled⟩ := (rxsSetLrto_meets accepted period).ends ⟨rfl, reliable⟩
  refine ⟨final, ran, ?_, ?_, settled.reliable⟩
  · rw [settled.value_eq, store, Function.update_self]
  · rw [settled.value_eq, store, clkPdOfValues, Function.update_of_ne (by decide),
      Function.update_of_ne (by decide)]
    exact period

theorem Programmed.inWindow_iff {file : RegisterFile Reg} (programmed : Programmed file lrto srvPd)
    (accepted : lrto ≤ rioLrtoMax100ns) :
    InWindow file lrto srvPd ↔ lrto * rioLrtoNsec < 2 ^ 32 := by
  have pd := clkPdOf_ok programmed.period
  obtain ⟨below, above, small⟩ := lrtoUnits_bounds pd accepted
  have notCapped : (file.value (.dev .spLtCtl) >>> 8).toNat ≠ rxsSpLtCtlMax := by
    rw [programmed.register, units_of_programmed pd accepted]
    exact Nat.ne_of_lt small
  rw [InWindow, or_iff_left notCapped, programmed.time_eq accepted, rioLrtoNsec]
  have reduced := Nat.mod_add_div (lrto * 100) (2 ^ 32)
  have remainder := Nat.mod_lt (lrto * 100) (Nat.two_pow_pos 32)
  constructor
  · rintro ⟨atLeast, -⟩
    omega
  · intro fits
    rw [Nat.mod_eq_of_lt fits] at below above
    exact ⟨below, above⟩

/-- A timeout makes the round trip only if it is disabled. -/
theorem lrtoRoundTrip_iff (reliable : state.device.Reliable) {after : Attached μ (RegisterFile Reg)}
    (clock : (rxsRioPcClkPd (registerFile store)).run state = .ok srvPd after)
    (accepted : lrto ≤ rioLrtoMax100ns) : LrtoRoundTrip state lrto srvPd ↔ lrto = 0 := by
  have period := clkPdOfValues_of_run clock
  have pd := clkPdOf_ok period
  have bounds := lrtoUnits_bounds pd accepted
  obtain ⟨final, ran, programmed⟩ := rxsSetLrto_programmed reliable period accepted
  have time := programmed.time_eq accepted
  obtain ⟨reading, afterGet, reads, isReading, -⟩ :=
    (rxsGetLrto_meets programmed.period).ends ⟨rfl, programmed.reliable⟩
  constructor
  · rintro ⟨other, ranOther, -, afterOther, readsOther⟩
    rw [ran] at ranOther
    cases ranOther
    rw [reads, isReading] at readsOther
    by_contra requested
    have long : 2901 ≤ programmedTime final.device srvPd := by
      have notNone : lrtoUnits lrto srvPd ≠ 0 := by
        intro none
        rw [none] at bounds
        rw [rioLrtoMax100ns, rioLrtoNsec] at accepted
        omega
      rw [time]
      have one := Nat.mul_le_mul_right (3 * srvPd) (Nat.one_le_iff_ne_zero.mpr notNone)
      omega
    have shorter := lrtoOfReg_lt long
    injection readsOther with same
    exact Nat.ne_of_lt shorter same
  · rintro rfl
    have none : lrtoUnits 0 srvPd = 0 := by
      by_contra some
      have one := Nat.mul_le_mul_right (3 * srvPd) (Nat.one_le_iff_ne_zero.mpr some)
      omega
    have register := programmed.register
    rw [none] at time register
    refine ⟨final, ran, (programmed.inWindow_iff accepted).mpr (by decide), afterGet, ?_⟩
    have nothing : lrtoOfReg (BitVec.ofNat 32 (0 <<< 8)) srvPd = 0 := by
      simp [lrtoOfReg, rioLrtoMax100ns, rioLrtoNsec]
    rw [reads, isReading, time, register, nothing, Nat.zero_mul]
    rfl

/-- A device with the low latency clock and the fast reference. -/
def lowLatency : Attached Unit (RegisterFile Reg) where
  memory := ()
  device :=
    { value := fun reg =>
        match reg with
        | .dev .mpmCfgsig0 => 0x00000e00
        | .dev .prescalarSrvClk => 42
        | _ => 0
      faults := fun _ _ => 0 }

theorem lowLatency_reliable : lowLatency.device.Reliable := fun _ _ => rfl

theorem lowLatency_clock : ∃ after,
    (rxsRioPcClkPd (registerFile store)).run lowLatency = .ok 1000 after := ⟨_, rfl⟩

theorem lrtoRoundTrip_iff_disabled : LrtoRoundTrip lowLatency 0 1000 := by
  obtain ⟨after, clock⟩ := lowLatency_clock
  exact (lrtoRoundTrip_iff lowLatency_reliable clock (by decide)).mpr rfl

/-- The longest timeout of six seconds is programmed as one of less than two seconds. -/
theorem lrtoRoundTrip_longest :
    (∃ after, (rxsRioPcClkPd (registerFile store)).run lowLatency = .ok 1000 after) ∧
      60000000 ≤ rioLrtoMax100ns ∧ ¬LrtoRoundTrip lowLatency 60000000 1000 := by
  refine ⟨lowLatency_clock, by decide, ?_⟩
  rintro ⟨final, ran, inWindow, -⟩
  obtain ⟨other, ranOther, programmed⟩ :=
    rxsSetLrto_programmed lowLatency_reliable rfl (by decide : 60000000 ≤ rioLrtoMax100ns)
  rw [ran] at ranOther
  cases ranOther
  exact absurd ((programmed.inWindow_iff (by decide)).mp inWindow) (by decide)

end RoundTrip

end RioFabric.RxsPort

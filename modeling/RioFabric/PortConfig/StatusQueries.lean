import RioFabric.CpsPort.Status
import RioFabric.DsfPort.Status
import RioFabric.Tsi57xPort.Status

/-!
# What is asked of port status queries

Four drivers answer the same query from registers of their own.  An answer is faithful if it is that
of the error and status register of each port, and harmless if the registers are left as they are.
-/

namespace RioFabric.PortConfig

open Lib Dar
open RxsPort (RioPcOnePortStatus)
open CpsPort (CpsDevice)
open Tsi57xPort (Tsi57xDevice)
open DsfPort (errStatOk errStatIes errStatOes)

/-- What a driver makes of a status query: the call, the ports that it is about, the error and
status register of each port that has one, and the ports that have lanes and are powered up, as far
as the call determines that. -/
structure StatusDriver (ρ : Type) where
  query : DarPtl → Call Nat (RegisterFile ρ) (List RioPcOnePortStatus)
  ports : DarPtl → Except PtlStop (List Nat)
  errStat : Nat → Option ρ
  Usable : (ρ → BitVec 32) → Nat → Prop

/-- The generic driver. -/
def dsfDriver (dev : DarDevInfo) : StatusDriver (BitVec 32) where
  query := DsfPort.dsfRioPcGetStatus dev (registerFile store)
  ports := darDbRioGetPortList dev.numPorts
  errStat pnum :=
    if DsfPort.errStatAddr dev pnum = 0 then none else some (DsfPort.errStatAddr dev pnum)
  Usable _ _ := True

def rxsDriver (effect : WriteEffect RxsPort.Reg) (numPorts : Nat) : StatusDriver RxsPort.Reg where
  query := RxsPort.rxsRioPcGetStatus (registerFile effect) numPorts
  ports := darDbRioGetPortList numPorts
  errStat pnum := some (.port .errStat pnum)
  Usable _ _ := True

def cpsDriver (effect : WriteEffect CpsPort.Reg) (dev : CpsDevice) : StatusDriver CpsPort.Reg where
  query := CpsPort.cpsRioPcGetStatus dev (registerFile effect)
  ports := dev.getPortList
  errStat pnum := some (.port .errStat pnum)
  Usable values pnum := (CpsPort.cfgAt dev values pnum).laneCount ≠ 0

def tsi57xDriver (effect : WriteEffect Tsi57xPort.Reg) (dev : Tsi57xDevice) :
    StatusDriver Tsi57xPort.Reg where
  query := Tsi57xPort.tsi57xRioPcGetStatus dev (registerFile effect)
  ports := darDbRioGetPortList dev.numPorts
  errStat pnum := some (.port .errStatus pnum)
  Usable values pnum := Tsi57xPort.upLanesAt dev values pnum ≠ 0

/-- A status says what the error and status register of its port holds. -/
structure Reports (errStat : BitVec 32) (usable : Prop) (status : RioPcOnePortStatus) : Prop where
  down : errStat &&& errStatOk = 0 → status.portOk = false
  up : usable → errStat &&& errStatOk ≠ 0 → status.portOk = true ∧
    status.inputStopped = decide (errStat &&& errStatIes ≠ 0) ∧
      status.outputStopped = decide (errStat &&& errStatOes ≠ 0)

namespace StatusDriver

variable {ρ : Type} (driver : StatusDriver ρ) (values : ρ → BitVec 32)

/-- The status of a port is faithful. -/
def ReportsPort (status : RioPcOnePortStatus) : Prop :=
  ∀ reg ∈ driver.errStat status.pnum,
    Reports (values reg) (driver.Usable values status.pnum) status

/-- Whichever accesses fail, no register is changed, and statuses that are returned are faithful
ones of the ports of the list. -/
structure Faithful (ptl : DarPtl) : Prop where
  harmless : ∀ start, start.device.value = values →
    (finalState ((driver.query ptl).run start)).device.value = values
  faithful : ∀ start statuses final, start.device.value = values →
    (driver.query ptl).run start = .ok statuses final →
      driver.ports ptl = .ok (statuses.map (·.pnum)) ∧
        ∀ status ∈ statuses, driver.ReportsPort values status

variable {driver values}

theorem Faithful.of_meets {ptl : DarPtl} (statusAt : Nat → RioPcOnePortStatus)
    (meets : Meets (fun state => state.device.value = values) (driver.query ptl)
      (fun statuses state => state.device.value = values ∧ ∃ ports,
        driver.ports ptl = .ok ports ∧ statuses = ports.map statusAt)
      fun _ state => state.device.value = values)
    (pnums : ∀ pnum, (statusAt pnum).pnum = pnum)
    (reports : ∀ ports, driver.ports ptl = .ok ports →
      ∀ pnum ∈ ports, driver.ReportsPort values (statusAt pnum)) :
    driver.Faithful values ptl := by
  constructor
  · intro start before
    cases ran : (driver.query ptl).run start with
    | ok statuses final => exact ((meets before).1 ran).1
    | error stop final => exact (meets before).2 ran
  · intro start statuses final before ran
    obtain ⟨-, ports, made, rfl⟩ := (meets before).1 ran
    have samePorts : (ports.map statusAt).map (·.pnum) = ports := by
      rw [List.map_map, show (·.pnum) ∘ statusAt = id from funext pnums, List.map_id]
    refine ⟨made.trans (congrArg Except.ok samePorts.symm), fun status isStatus => ?_⟩
    obtain ⟨pnum, isPort, rfl⟩ := List.mem_map.mp isStatus
    exact reports ports made pnum isPort

end StatusDriver

section Readers

theorem reports_rxs (values : RxsPort.Reg → BitVec 32) (pnum : Nat) :
    Reports (values (.port .errStat pnum)) True (RxsPort.statusOf values pnum) := by
  constructor
  · intro (down : values (.port .errStat pnum) &&& RxsPort.errStatPortOk = 0)
    rw [RxsPort.statusOf, if_pos down]
    exact decide_eq_false (not_not.mpr down)
  · intro _ (up : values (.port .errStat pnum) &&& RxsPort.errStatPortOk ≠ 0)
    rw [RxsPort.statusOf, if_neg up]
    split
    next => exact ⟨decide_eq_true up, rfl, rfl⟩
    next =>
      rw [RxsPort.portOk_withLanes, RxsPort.inputStopped_withLanes,
        RxsPort.outputStopped_withLanes]
      exact ⟨decide_eq_true up, rfl, rfl⟩

theorem reports_cps (dev : CpsDevice) (values : CpsPort.Reg → BitVec 32) (pnum : Nat) :
    Reports (values (.port .errStat pnum)) ((CpsPort.cfgAt dev values pnum).laneCount ≠ 0)
      (CpsPort.statusAt dev values pnum) := by
  constructor
  · intro (down : values (.port .errStat pnum) &&& CpsPort.errStatPortOk = 0)
    rw [CpsPort.statusAt, if_pos down, ite_self]
    rfl
  · intro hasLanes (up : values (.port .errStat pnum) &&& CpsPort.errStatPortOk ≠ 0)
    rw [CpsPort.statusAt, if_neg hasLanes, if_neg up]
    exact ⟨rfl, rfl, rfl⟩

theorem reports_tsi57x (dev : Tsi57xDevice) (values : Tsi57xPort.Reg → BitVec 32) (pnum : Nat) :
    Reports (values (.port .errStatus pnum)) (Tsi57xPort.upLanesAt dev values pnum ≠ 0)
      (Tsi57xPort.statusAt dev values pnum) := by
  constructor
  · intro down
    rw [Tsi57xPort.statusAt]
    split
    next => rfl
    next => exact decide_eq_false (not_not.mpr down)
  · intro isUp up
    rw [Tsi57xPort.statusAt, if_neg isUp]
    exact ⟨decide_eq_true up, rfl, rfl⟩

theorem rxsDriver_faithful (effect : WriteEffect RxsPort.Reg) (numPorts : Nat)
    (values : RxsPort.Reg → BitVec 32) (ptl : DarPtl) :
    (rxsDriver effect numPorts).Faithful values ptl := by
  apply StatusDriver.Faithful.of_meets (RxsPort.statusOf values)
    (RxsPort.rxsRioPcGetStatus_answers value_answers numPorts ptl)
  · exact fun pnum => RxsPort.pnum_statusOf
  · rintro ports - pnum - _ ⟨⟩
    rw [RxsPort.pnum_statusOf]
    exact reports_rxs values pnum

theorem cpsDriver_faithful (effect : WriteEffect CpsPort.Reg) (dev : CpsDevice)
    (values : CpsPort.Reg → BitVec 32) (ptl : DarPtl) :
    (cpsDriver effect dev).Faithful values ptl := by
  apply StatusDriver.Faithful.of_meets (CpsPort.statusAt dev values)
    (CpsPort.cpsRioPcGetStatus_meets value_answers.tells ptl)
  · exact fun pnum => CpsPort.pnum_statusAt
  · rintro ports - pnum - _ ⟨⟩
    rw [CpsPort.pnum_statusAt]
    exact reports_cps dev values pnum

theorem tsi57xDriver_faithful (effect : WriteEffect Tsi57xPort.Reg) (dev : Tsi57xDevice)
    (values : Tsi57xPort.Reg → BitVec 32) (ptl : DarPtl) :
    (tsi57xDriver effect dev).Faithful values ptl := by
  apply StatusDriver.Faithful.of_meets (Tsi57xPort.statusAt dev values)
    (Tsi57xPort.tsi57xRioPcGetStatus_meets value_answers.tells ptl)
  · exact fun pnum => Tsi57xPort.pnum_statusAt
  · rintro ports - pnum - _ ⟨⟩
    rw [Tsi57xPort.pnum_statusAt]
    exact reports_tsi57x dev values pnum

end Readers

section Generic

variable {dev : DarDevInfo} {values : BitVec 32 → BitVec 32} {ptl : DarPtl}

theorem store_keeps {ρ : Type} [DecidableEq ρ] {values : ρ → BitVec 32} :
    (registerFile store).Keeps (fun file => file.value = values)
      fun reg value => values reg = value where
  read := value_answers.keep
  write reg value file same before := by
    simp only [registerFile]
    split
    · show store reg value file.value = values
      rw [before, ← same]
      exact Function.update_eq_self reg values
    · exact before

theorem reports_dsf {pnum : Nat} (held : DsfPort.HoldsAssumed dev values pnum) :
    (dsfDriver dev).ReportsPort values
      (DsfPort.statusOf pnum DsfPort.assumedCtl DsfPort.assumedErrStat) := by
  intro reg isReg
  change reg ∈ (if DsfPort.errStatAddr dev pnum = 0 then none
    else some (DsfPort.errStatAddr dev pnum)) at isReg
  split at isReg
  next => cases isReg
  next exist =>
    cases isReg
    rw [held.2 exist]
    constructor
    · exact fun down => absurd down (by decide)
    · exact fun _ _ => ⟨rfl, rfl, rfl⟩

theorem dsfDriver_faithful (held : ∀ ports, darDbRioGetPortList dev.numPorts ptl = .ok ports →
      DsfPort.AllHoldAssumed dev ports values) :
    (dsfDriver dev).Faithful values ptl := by
  apply StatusDriver.Faithful.of_meets
    (fun pnum => DsfPort.statusOf pnum DsfPort.assumedCtl DsfPort.assumedErrStat)
    (DsfPort.dsfRioPcGetStatus_meets store_keeps held)
  · exact fun pnum => rfl
  · exact fun ports made pnum isPort => reports_dsf (held ports made pnum isPort)

theorem holdsAssumed_of_faithful (faithful : (dsfDriver dev).Faithful values ptl) {ports : List Nat}
    (made : darDbRioGetPortList dev.numPorts ptl = .ok ports) :
    DsfPort.AllHoldAssumed dev ports values := by
  have reliable : RegisterFile.Reliable ⟨values, fun _ _ => 0⟩ := fun _ _ => rfl
  have unchanged := faithful.harmless ⟨0, ⟨values, fun _ _ => 0⟩⟩ rfl
  have runs := @DsfPort.dsfRioPcGetStatus_holdsAssumed dev ptl ports made
    ⟨0, ⟨values, fun _ _ => 0⟩⟩ reliable
  change (finalState ((DsfPort.dsfRioPcGetStatus dev (registerFile store) ptl).run _)).device.value
    = values at unchanged
  cases ran : (DsfPort.dsfRioPcGetStatus dev (registerFile store) ptl).run
      ⟨0, ⟨values, fun _ _ => 0⟩⟩ with
  | ok statuses final =>
    rw [ran] at unchanged
    rw [← unchanged]
    exact runs.1 ran
  | error stop final => exact (runs.2 ran).elim

end Generic

/-- All drivers but the generic one are faithful; that one is if it writes nothing new. -/
theorem statusDrivers_faithful_iff (ptl : DarPtl) (numPorts : Nat)
    (rxsEffect : WriteEffect RxsPort.Reg) (rxsValues : RxsPort.Reg → BitVec 32)
    (cpsDev : CpsDevice) (cpsEffect : WriteEffect CpsPort.Reg)
    (cpsValues : CpsPort.Reg → BitVec 32) (tsi57xDev : Tsi57xDevice)
    (tsi57xEffect : WriteEffect Tsi57xPort.Reg) (tsi57xValues : Tsi57xPort.Reg → BitVec 32)
    (dev : DarDevInfo) (values : BitVec 32 → BitVec 32) :
    (rxsDriver rxsEffect numPorts).Faithful rxsValues ptl ∧
      (cpsDriver cpsEffect cpsDev).Faithful cpsValues ptl ∧
        (tsi57xDriver tsi57xEffect tsi57xDev).Faithful tsi57xValues ptl ∧
          ((dsfDriver dev).Faithful values ptl ↔
            ∀ ports, darDbRioGetPortList dev.numPorts ptl = .ok ports →
              DsfPort.AllHoldAssumed dev ports values) := by
  refine ⟨rxsDriver_faithful _ _ _ _, cpsDriver_faithful _ _ _ _, tsi57xDriver_faithful _ _ _ _, ?_⟩
  constructor
  · exact fun faithful ports made => holdsAssumed_of_faithful faithful made
  · exact dsfDriver_faithful

/-- The first port is disabled and its link is down. -/
def disabledPort : RegisterFile (BitVec 32) where
  value addr := if addr = 0x0000015c then rioSpxCtlPortDis else 0
  faults _ _ := 0

/-- To ask for the status of the first port enables it, and the answer is that its link is up. -/
theorem dsfDriver_enables_port : ∃ status final,
    ((dsfDriver twoPortDevice).query ⟨1, fun _ => 0⟩).run ⟨0, disabledPort⟩ = .ok [status] final ∧
      status.portOk = true ∧
        disabledPort.value (DsfPort.errStatAddr twoPortDevice 0) &&& errStatOk = 0 ∧
          final.device.value (twoPortDevice.ctl 0) = DsfPort.assumedCtl ∧
            ¬(dsfDriver twoPortDevice).Faithful disabledPort.value ⟨1, fun _ => 0⟩ := by
  refine ⟨_, _, rfl, rfl, rfl, rfl, fun faithful => ?_⟩
  have made : darDbRioGetPortList twoPortDevice.numPorts ⟨1, fun _ => 0⟩ = .ok [0] := rfl
  have held := holdsAssumed_of_faithful faithful made 0 (List.mem_singleton_self 0)
  exact absurd (held.1 (by decide)) (by decide)

end RioFabric.PortConfig

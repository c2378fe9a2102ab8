import Mathlib.Data.List.Perm.Subperm
import RioFabric.Dar.PortList
import RioFabric.Lib.RegisterFile

/-!
# Registers of CPS ports

The registers of a CPS switch that the configuration, the security and the recovery of its ports
rest on.  A register is named by what it is for and by its port, its lane or its PLL; registers
that have no name here are known by their address.
-/

namespace RioFabric.CpsPort

open Lib Dar

/-- The devices that `init_sw_pi` knows. -/
inductive CpsDevice where
  | cps1848 | cps1432 | cps1616 | sps1616
  deriving DecidableEq

namespace CpsDevice

def numPorts : CpsDevice → Nat
  | .cps1848 => 18
  | .cps1432 | .cps1616 | .sps1616 => 16

/-- `RIO_DEVI_IDT_CPS1616` or `RIO_DEVI_IDT_SPS1616`. -/
def is1616 : CpsDevice → Bool
  | .cps1848 | .cps1432 => false
  | .cps1616 | .sps1616 => true

/-- `CPS_rioGetPortList`. -/
def getPortList (dev : CpsDevice) (ptl : DarPtl) : Except PtlStop (List Nat) :=
  match dev with
  | .cps1432 =>
    if ptl.numPorts > dev.numPorts ∧ ptl.numPorts ≠ rioAllPorts then
      .error (.code rioErrInvalidParameter)
    else if ptl.numPorts = 0 then .error (.code rioErrInvalidParameter)
    else if ptl.numPorts = rioAllPorts then .ok (List.range 8 ++ List.range' 10 6)
    else
      -- the entries of `dup` for the ports 8 and 9 are set from the start
      match (List.range ptl.numPorts).find? fun idx =>
          ptl.illegal dev.numPorts idx || ptl.pnums idx = 8 || ptl.pnums idx = 9 with
      | some idx => .error (.code (rioErrPortIllegal idx))
      | none => .ok ((List.range ptl.numPorts).map ptl.pnums)
  | .cps1848 | .cps1616 | .sps1616 => darDbRioGetPortList dev.numPorts ptl

end CpsDevice

variable {ptl : DarPtl} {dev : CpsDevice} {ports : List Nat}

theorem named_ok {numPorts : Nat} (legal : ∀ idx < ptl.numPorts, ptl.illegal numPorts idx = false) :
    ((List.range ptl.numPorts).map ptl.pnums).Nodup ∧
      ∀ pnum ∈ (List.range ptl.numPorts).map ptl.pnums, pnum < numPorts := by
  refine ⟨nodup_map_pnums legal, ?_⟩
  intro pnum isMember
  obtain ⟨idx, inRange, rfl⟩ := List.mem_map.mp isMember
  have notIllegal := legal idx (List.mem_range.mp inRange)
  rw [DarPtl.illegal, Bool.or_eq_false_iff, decide_eq_false_iff_not] at notIllegal
  exact Nat.lt_of_not_le notIllegal.1

theorem getPortList_ok (made : dev.getPortList ptl = .ok ports) :
    ports.Nodup ∧ ∀ pnum ∈ ports, pnum < dev.numPorts := by
  cases dev with
  | cps1848 => exact darDbRioGetPortList_ok made
  | cps1616 => exact darDbRioGetPortList_ok made
  | sps1616 => exact darDbRioGetPortList_ok made
  | cps1432 =>
    simp only [CpsDevice.getPortList] at made
    split at made
    · cases made
    split at made
    · cases made
    split at made
    · cases made
      exact ⟨by decide, by decide⟩
    split at made
    · cases made
    next noneIllegal =>
      cases made
      apply named_ok
      intro idx inList
      have passes := List.find?_eq_none.mp noneIllegal idx (List.mem_range.mpr inList)
      simp only [Bool.or_eq_true, not_or] at passes
      exact Bool.eq_false_iff.mpr passes.1.1

/-- A list of ports that a routine has made and hands on. -/
def goodPtl (ports : List Nat) : DarPtl := ⟨ports.length, fun idx => ports.getD idx 0⟩

theorem map_goodPtl (ports : List Nat) :
    (List.range (goodPtl ports).numPorts).map (goodPtl ports).pnums = ports := by
  apply List.ext_getElem
  · rw [List.length_map, List.length_range]
    rfl
  · intro idx inRange inPorts
    rw [List.getElem_map, List.getElem_range]
    exact List.getD_eq_getElem ports 0 inPorts

theorem getPortList_named (made : dev.getPortList ptl = .ok ports)
    (named : ptl.numPorts ≠ rioAllPorts) :
    ports = (List.range ptl.numPorts).map ptl.pnums := by
  have general {numPorts : Nat} (made : darDbRioGetPortList numPorts ptl = .ok ports) :
      ports = (List.range ptl.numPorts).map ptl.pnums := by
    unfold darDbRioGetPortList at made
    split at made
    · cases made
    split at made
    · cases made
    split at made
    · cases made
    split at made
    · cases made
    · exact (Except.ok.inj made).symm
  cases dev with
  | cps1848 => exact general made
  | cps1616 => exact general made
  | sps1616 => exact general made
  | cps1432 =>
    simp only [CpsDevice.getPortList] at made
    split at made
    · cases made
    split at made
    · cases made
    split at made
    · cases made
    · exact (Except.ok.inj made).symm

theorem getPortList_goodPtl {again : List Nat} (made : dev.getPortList ptl = .ok ports)
    (madeAgain : dev.getPortList (goodPtl ports) = .ok again) : again = ports := by
  obtain ⟨nodup, arePorts⟩ := getPortList_ok made
  have short : ports.length ≤ dev.numPorts := by
    have subset : ports ⊆ List.range dev.numPorts :=
      fun pnum isPort => List.mem_range.mpr (arePorts pnum isPort)
    exact (nodup.subperm subset).length_le.trans_eq List.length_range
  have named : (goodPtl ports).numPorts ≠ rioAllPorts := by
    intro all
    have few : dev.numPorts < rioAllPorts := by cases dev <;> decide
    exact absurd all (Nat.ne_of_lt (Nat.lt_of_le_of_lt short few))
  exact (getPortList_named madeAgain named).trans (map_goodPtl ports)

/-- The registers that a port has. -/
inductive PortReg where
  /-- `CPS1848_PORT_X_LINK_MAINT_REQ_CSR`. -/
  | linkMaintReq
  /-- `CPS1848_PORT_X_LINK_MAINT_RESP_CSR`. -/
  | linkMaintResp
  /-- `CPS1848_PORT_X_LOCAL_ACKID_CSR`. -/
  | localAckid
  /-- `CPS1848_PORT_X_ERR_STAT_CSR`. -/
  | errStat
  /-- `CPS1848_PORT_X_CTL_1_CSR`. -/
  | ctl1
  /-- `CPS1848_PORT_X_OPS`. -/
  | ops
  /-- `CPS1616_PORT_X_STATUS_AND_CTL`. -/
  | statusAndCtl
  deriving DecidableEq

/-- The registers that a lane has. -/
inductive LaneReg where
  /-- `CPS1848_LANE_X_CTL`. -/
  | ctl
  /-- `CPS_LANE_X_CTL_1_ROOT`. -/
  | ctl1Root
  /-- `CPS1848_LANE_X_STATUS_4_CSR`. -/
  | status4
  deriving DecidableEq

/-- The registers that the device has once. -/
inductive DevReg where
  /-- `CPS1848_PORT_LINK_TO_CTL_CSR`. -/
  | linkToCtl
  /-- `CPS1848_RTE_DEFAULT_PORT_CSR`. -/
  | rteDefaultPort
  /-- `CPS1848_DEVICE_CTL_1`. -/
  | deviceCtl1
  /-- `CPS_ROOT_ACCESS`. -/
  | rootAccess
  /-- `CPS1848_DEVICE_SOFT_RESET`. -/
  | softReset
  /-- `CPS1848_QUAD_CFG`. -/
  | quadCfg
  /-- `CPS1848_DEVICE_RESET_CTL`. -/
  | resetCtl
  deriving DecidableEq

/-- The registers; `traceVal` and `traceMask` are those of the macros
`CPS1848_PORT_P_TRACE_I_VAL_R` and `CPS1848_PORT_P_TRACE_I_MASK_R`. -/
inductive Reg where
  | dev (reg : DevReg)
  | port (reg : PortReg) (pnum : Nat)
  | lane (reg : LaneReg) (num : Nat)
  | pllCtl1 (num : Nat)
  | traceVal (pnum inst idx : Nat)
  | traceMask (pnum inst idx : Nat)
  | other (addr : Nat)
  deriving DecidableEq

/-- `CPS1848_PORT_MAX_TRACE_REGS`. -/
def portMaxTraceRegs : Nat := 5

end RioFabric.CpsPort

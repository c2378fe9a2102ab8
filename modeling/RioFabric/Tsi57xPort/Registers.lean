import RioFabric.PortConfig.Calls

/-!
# Registers of Tsi57x ports

Two ports of a Tsi57x, or four of a Tsi577, share a MAC.  The register of the MAC says how its lanes
are given to the ports, how fast they are and which ports are powered down.
-/

namespace RioFabric.Tsi57xPort

open Lib Dar PortConfig

/-- `TSI578_SMACX_DLOOP_CLK_SEL_PWDN_X4`. -/
def pwdnX4 : BitVec 32 := 0x00000004

/-- `TSI578_SMACX_DLOOP_CLK_SEL_PWDN_X1`. -/
def pwdnX1 : BitVec 32 := 0x00000008

/-- `port_mac_relations_t`, as far as it is used, without the number of the port, which is the
index; elements of `other_mac_ports` that are `RIO_ALL_PORTS` come last in the tables and are left
out. -/
structure PortMacRelations where
  macNum : Nat
  firstMacLane : Nat
  laneCount4x : Nat
  laneCount1x : Nat
  pwrMacNum : Nat
  pwrDownMask : BitVec 32
  otherMacPorts : List Nat

/-- `tsi578_pmr`, without its last element. -/
def tsi578Pmr : List PortMacRelations :=
  [⟨0, 0, 4, 1, 0, pwdnX4, [1]⟩, ⟨0, 1, 0, 1, 0, pwdnX1, [0]⟩,
    ⟨1, 0, 4, 1, 1, pwdnX4, [3]⟩, ⟨1, 1, 0, 1, 1, pwdnX1, [2]⟩,
    ⟨2, 0, 4, 1, 2, pwdnX4, [5]⟩, ⟨2, 1, 0, 1, 2, pwdnX1, [4]⟩,
    ⟨3, 0, 4, 1, 3, pwdnX4, [7]⟩, ⟨3, 1, 0, 1, 3, pwdnX1, [6]⟩,
    ⟨4, 0, 4, 1, 4, pwdnX4, [9]⟩, ⟨4, 1, 0, 1, 4, pwdnX1, [8]⟩,
    ⟨5, 0, 4, 1, 5, pwdnX4, [11]⟩, ⟨5, 1, 0, 1, 5, pwdnX1, [10]⟩,
    ⟨6, 0, 4, 1, 6, pwdnX4, [13]⟩, ⟨6, 1, 0, 1, 6, pwdnX1, [12]⟩,
    ⟨7, 0, 4, 1, 7, pwdnX4, [15]⟩, ⟨7, 1, 0, 1, 7, pwdnX1, [14]⟩]

/-- `tsi577_pmr`, without its last element. -/
def tsi577Pmr : List PortMacRelations :=
  [⟨0, 0, 4, 1, 0, pwdnX4, [1, 8, 9]⟩, ⟨0, 1, 0, 1, 0, pwdnX1, [0, 8, 9]⟩,
    ⟨1, 0, 4, 1, 1, pwdnX4, [3, 10, 11]⟩, ⟨1, 1, 0, 1, 1, pwdnX1, [2, 10, 11]⟩,
    ⟨2, 0, 4, 1, 2, pwdnX4, [5, 12, 13]⟩, ⟨2, 1, 0, 1, 2, pwdnX1, [4, 12, 13]⟩,
    ⟨3, 0, 4, 1, 3, pwdnX4, [7, 14, 15]⟩, ⟨3, 1, 0, 1, 3, pwdnX1, [6, 14, 15]⟩,
    ⟨0, 2, 0, 1, 4, pwdnX4, [0, 1, 9]⟩, ⟨0, 3, 0, 1, 4, pwdnX1, [0, 1, 8]⟩,
    ⟨1, 2, 0, 1, 5, pwdnX4, [2, 3, 11]⟩, ⟨1, 3, 0, 1, 5, pwdnX1, [2, 3, 10]⟩,
    ⟨2, 2, 0, 1, 6, pwdnX4, [4, 5, 13]⟩, ⟨2, 3, 0, 1, 6, pwdnX1, [4, 5, 12]⟩,
    ⟨3, 2, 0, 1, 7, pwdnX4, [6, 7, 15]⟩, ⟨3, 3, 0, 1, 7, pwdnX1, [6, 7, 14]⟩]

/-- `tsi574_pmr`, without its last element. -/
def tsi574Pmr : List PortMacRelations :=
  [⟨0, 0, 4, 1, 0, pwdnX4, [1]⟩, ⟨0, 1, 0, 1, 0, pwdnX1, [0]⟩,
    ⟨1, 0, 4, 1, 1, pwdnX4, [3]⟩, ⟨1, 1, 0, 1, 1, pwdnX1, [2]⟩,
    ⟨2, 0, 4, 1, 2, pwdnX4, [5]⟩, ⟨2, 1, 0, 1, 2, pwdnX1, [4]⟩,
    ⟨3, 0, 4, 1, 3, pwdnX4, [7]⟩, ⟨3, 1, 0, 1, 3, pwdnX1, [6]⟩]

/-- `tsi572_pmr`, without its last element. -/
def tsi572Pmr : List PortMacRelations :=
  [⟨0, 0, 4, 1, 0, pwdnX4, [1]⟩, ⟨0, 1, 0, 1, 0, pwdnX1, [0]⟩,
    ⟨1, 0, 4, 1, 1, pwdnX4, [3]⟩, ⟨1, 1, 0, 1, 1, pwdnX1, [2]⟩,
    ⟨2, 0, 4, 1, 2, pwdnX4, [5]⟩, ⟨2, 1, 0, 1, 2, pwdnX1, [4]⟩,
    ⟨3, 0, 4, 1, 3, pwdnX4, [7]⟩, ⟨3, 1, 0, 1, 3, pwdnX1, [6]⟩]

/-- The devices that `tsi57x_init_sw_pmr` knows. -/
inductive Tsi57xDevice where
  | tsi572 | tsi574 | tsi577 | tsi578
  deriving DecidableEq

namespace Tsi57xDevice

variable (dev : Tsi57xDevice)

def swPmr : List PortMacRelations :=
  match dev with
  | .tsi572 => tsi572Pmr
  | .tsi574 => tsi574Pmr
  | .tsi577 => tsi577Pmr
  | .tsi578 => tsi578Pmr

/-- `TSI57X_NUM_PORTS`. -/
def numPorts : Nat :=
  match dev with
  | .tsi572 | .tsi574 => 8
  | .tsi577 | .tsi578 => 16

/-- An element of `sw_pmr`; the last one is `END_PMR_ARRAY`. -/
def pmr (pnum : Nat) : PortMacRelations := dev.swPmr[pnum]?.getD ⟨0, 0, 0, 0, 0, pwdnX1, []⟩

/-- `other_mac_ports[0]`. -/
def otherMacPort (pnum : Nat) : Nat := (dev.pmr pnum).otherMacPorts.headD rioAllPorts

end Tsi57xDevice

/-- The registers that a port has. -/
inductive PortReg where
  /-- `TSI578_SPX_LM_REQ`. -/
  | lmReq
  /-- `TSI578_SPX_LM_RESP`. -/
  | lmResp
  /-- `TSI578_SPX_ACKID_STAT`. -/
  | ackidStat
  /-- `TSI578_SPX_ERR_STATUS`. -/
  | errStatus
  /-- `TSI578_SPX_CS_TX`. -/
  | csTx
  /-- `TSI578_SPX_CTL`. -/
  | ctl
  /-- `TSI578_SPX_RATE_EN`. -/
  | rateEn
  /-- `TSI578_SPX_ERR_RATE`. -/
  | errRate
  /-- `TSI578_SPX_ERR_THRESH`. -/
  | errThresh
  /-- `TSI578_SPX_DISCOVERY_TIMER`. -/
  | discoveryTimer
  /-- `TSI578_SPX_MODE`. -/
  | mode
  /-- `TSI578_SPX_RIO_WM`. -/
  | rioWm
  /-- `TSI578_SPX_ROUTE_CFG_DESTID`. -/
  | routeCfgDestid
  /-- `TSI578_SPX_ROUTE_BASE`. -/
  | routeBase
  /-- `TSI578_SPX_CTL_INDEP`. -/
  | ctlIndep
  /-- `TSI578_SPX_SILENCE_TIMER`. -/
  | silenceTimer
  /-- `TSI578_RIOX_MC_LAT_LIMIT`. -/
  | mcLatLimit
  /-- `TSI578_SPX_PSC0N1_CTRL`. -/
  | psc0n1Ctrl
  /-- `TSI578_SPX_PSC2N3_CTRL`. -/
  | psc2n3Ctrl
  /-- `TSI578_SPX_PSC4N5_CTRL`. -/
  | psc4n5Ctrl
  /-- `TSI578_SPX_TX_Q_D_THRESH`. -/
  | txQDThresh
  /-- `TSI578_SPX_TX_Q_STATUS`. -/
  | txQStatus
  /-- `TSI578_SPX_TX_Q_PERIOD`. -/
  | txQPeriod
  /-- `TSI578_SPX_RX_Q_D_THRESH`. -/
  | rxQDThresh
  /-- `TSI578_SPX_RX_Q_STATUS`. -/
  | rxQStatus
  /-- `TSI578_SPX_RX_Q_PERIOD`. -/
  | rxQPeriod
  /-- `TSI578_SPX_REORDER_CTR`. -/
  | reorderCtr
  /-- `TSI578_SPX_ISF_WM`. -/
  | isfWm
  /-- `TSI578_SPX_WRR_0`. -/
  | wrr0
  /-- `TSI578_SPX_WRR_1`. -/
  | wrr1
  /-- `TSI578_SPX_WRR_2`. -/
  | wrr2
  /-- `TSI578_SPX_WRR_3`. -/
  | wrr3
  deriving DecidableEq

/-- The registers: `dloop` is `TSI578_SMACX_DLOOP_CLK_SEL`, `serdes` is `TSI57X_HIDDEN_SERDES_REG`,
`dev` are registers that the device has once, and `linkPartner` is `RIO_SPX_ACKID_ST` of a port of
the link partner. -/
inductive Reg where
  | port (reg : PortReg) (pnum : Nat)
  | dloop (num : Nat)
  | serdes (mac lane : Nat)
  | dev (offset : BitVec 32)
  | linkPartner (pnum : Nat)
  deriving DecidableEq

/-- `TSI578_RIO_SW_PORT`. -/
def rioSwPort : BitVec 32 := 0x00000014

/-- `TSI578_RIO_SW_LT_CTL`. -/
def rioSwLtCtl : BitVec 32 := 0x00000120

/-- `TSI578_SMACX_DLOOP_CLK_SEL_CLK_SEL`. -/
def dloopClkSel : BitVec 32 := 0x00000003

/-- `TSI578_SMACX_DLOOP_CLK_SEL_SWAP_RX`. -/
def dloopSwapRx : BitVec 32 := 0x00000040

/-- `TSI578_SMACX_DLOOP_CLK_SEL_SWAP_TX`. -/
def dloopSwapTx : BitVec 32 := 0x00000080

/-- `TSI578_SMACX_DLOOP_CLK_SEL_MAC_MODE`. -/
def dloopMacMode : BitVec 32 := 0x00000400

/-- `TSI578_SPX_CTL_PORT_LOCKOUT`. -/
def ctlPortLockout : BitVec 32 := 0x00000002

/-- `TSI578_SPX_CTL_STOP_FAIL_EN`. -/
def ctlStopFailEn : BitVec 32 := 0x00000008

/-- `TSI578_SPX_CTL_INPUT_EN`. -/
def ctlInputEn : BitVec 32 := 0x00200000

/-- `TSI578_SPX_CTL_OUTPUT_EN`. -/
def ctlOutputEn : BitVec 32 := 0x00400000

/-- `TSI578_SPX_CTL_PORT_DIS`. -/
def ctlPortDis : BitVec 32 := 0x00800000

/-- `RIO_SPX_CTL_PTW_OVER`, which is `TSI578_SPX_CTL_OVER_PWIDTH`. -/
def ctlPtwOver : BitVec 32 := 0x07000000

/-- `TSI578_SPX_CTL_INIT_PWIDTH`. -/
def ctlInitPwidth : BitVec 32 := 0x38000000

/-- `TSI578_SPX_ERR_STATUS_PORT_OK`. -/
def errStatusPortOk : BitVec 32 := 0x00000002

/-- `TSI578_SPX_ERR_STATUS_PORT_ERR`. -/
def errStatusPortErr : BitVec 32 := 0x00000004

/-- `TSI578_SPX_ERR_STATUS_INPUT_ERR_STOP`. -/
def errStatusInputErrStop : BitVec 32 := 0x00000100

/-- `TSI578_SPX_ERR_STATUS_OUTPUT_ERR_STOP`. -/
def errStatusOutputErrStop : BitVec 32 := 0x00010000

/-- `TSI578_SPX_ERR_STATUS_OUTPUT_FAIL`. -/
def errStatusOutputFail : BitVec 32 := 0x02000000

/-- `TSI57X_HIDDEN_SERDES_TX_INV`. -/
def serdesTxInv : BitVec 32 := 0x00080000

/-- `TSI57X_HIDDEN_SERDES_RX_INV`. -/
def serdesRxInv : BitVec 32 := 0x00040000

/-- `DARrioGetPortList` within a call. -/
def getPortList {μ δ : Type} [HasImpRc μ] (dev : Tsi57xDevice) (ptl : DarPtl) (impRc : Nat) :
    Call μ δ (List Nat) :=
  match darDbRioGetPortList dev.numPorts ptl with
  | .ok ports => pure ports
  | .error (.code rc) => leave impRc rc
  | .error .outOfBounds => throw .outOfBounds

/-- A list that names one port. -/
def onePort (pnum : Nat) : DarPtl := ⟨1, fun _ => pnum⟩

theorem onePort_made {dev : Tsi57xDevice} {pnum : Nat} (isPort : pnum < dev.numPorts) :
    darDbRioGetPortList dev.numPorts (onePort pnum) = .ok [pnum] := by
  have few : 1 ≤ dev.numPorts ∧ dev.numPorts ≤ rioMaxPorts := by cases dev <;> decide
  have named : (List.range (onePort pnum).numPorts).map (onePort pnum).pnums = [pnum] := rfl
  apply darDbRioGetPortList_of_nodup named (List.nodup_singleton pnum) (List.cons_ne_nil pnum [])
    few.1 few.2
  exact fun port isPnum => List.mem_singleton.mp isPnum ▸ isPort

end RioFabric.Tsi57xPort

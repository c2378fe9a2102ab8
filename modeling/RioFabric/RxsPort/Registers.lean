import RioFabric.Lib.RegisterFile

/-!
# Registers of RXS ports

The registers of an RXS switch that the configuration, the status and the recovery of its ports
rest on.  A register is named by what it is for and by its port.
-/

namespace RioFabric.RxsPort

open Lib

/-- The registers that a port has. -/
inductive PortReg where
  /-- `RXS_SPX_LM_REQ`. -/
  | lmReq
  /-- `RXS_SPX_LM_RESP`. -/
  | lmResp
  /-- `RXS_SPX_CTL2`. -/
  | ctl2
  /-- `RXS_SPX_ERR_STAT`. -/
  | errStat
  /-- `RXS_SPX_CTL`. -/
  | ctl
  /-- `RXS_SPX_OUT_ACKID_CSR`. -/
  | outAckidCsr
  /-- `RXS_SPX_IN_ACKID_CSR`. -/
  | inAckidCsr
  /-- `RXS_PLM_SPX_IMP_SPEC_CTL`. -/
  | impSpecCtl
  /-- `RXS_PLM_SPX_PWDN_CTL`. -/
  | pwdnCtl
  /-- `RXS_PLM_SPX_1WR`. -/
  | oneWr
  /-- `RXS_PLM_SPX_POL_CTL`. -/
  | polCtl
  /-- `RXS_PLM_SPX_ACKID_CAP`. -/
  | ackidCap
  /-- `RXS_TLM_SPX_FTYPE_FILT`. -/
  | ftypeFilt
  /-- `RXS_TLM_SPX_ROUTE_EN`. -/
  | routeEn
  /-- `RXS_TLM_SPX_MTC_ROUTE_EN`. -/
  | mtcRouteEn
  /-- `RXS_FAB_IG_X_VOQ_ACT`. -/
  | voqAct
  /-- `RXS_FAB_IG_X_MTC_VOQ_ACT`. -/
  | mtcVoqAct
  deriving DecidableEq

/-- The registers that the device has once, and one of the device at the other end of a link. -/
inductive DevReg where
  /-- `RXS_SP_LT_CTL`. -/
  | spLtCtl
  /-- `RXS_PRESCALAR_SRV_CLK`. -/
  | prescalarSrvClk
  /-- `RXS_MPM_CFGSIG0`. -/
  | mpmCfgsig0
  /-- `RXS_EM_RST_INT_EN`. -/
  | emRstIntEn
  /-- `RXS_EM_RST_PW_EN`. -/
  | emRstPwEn
  /-- `RIO_SW_PORT_INF` of the link partner. -/
  | lpSwPortInf
  deriving DecidableEq

inductive Reg where
  | dev (reg : DevReg)
  | port (reg : PortReg) (port : Nat)
  deriving DecidableEq

/-- A function that returns the code of the first access that fails, or a code of its own. -/
abbrev RcProgram (μ δ : Type) := EStateM Nat (Attached μ δ)

def rioErrSwFailure : Nat := 0x1014

def rioErrReadRegReturnInvalidVal : Nat := 0x80000008

def rioErrReturnNoResult : Nat := 0x8000000A

def rioErrNotExpectedReturnValue : Nat := 0x8000000C

end RioFabric.RxsPort

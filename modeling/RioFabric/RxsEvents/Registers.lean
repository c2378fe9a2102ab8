import RioFabric.Lib.RegisterFile
import RioFabric.Lib.Simulation
import RioFabric.StatCounters.Rxs

/-!
# Registers and reports of RXS events

The registers of an RXS switch that say which events were found, and the reports that the calls
about events make.  An event is entered in a list that has room for as many as the caller says.
-/

namespace RioFabric.RxsEvents

open Lib Dar
open StatCounters (darFirstImpSpecError)

/-- The registers that a port has. -/
inductive PortReg where
  /-- `RXS_SPX_ERR_STAT`. -/
  | errStat
  /-- `RXS_SPX_ERR_DET`. -/
  | errDet
  /-- `RXS_SPX_RATE_EN`. -/
  | rateEn
  /-- `RXS_PLM_SPX_IMP_SPEC_CTL`. -/
  | impSpecCtl
  /-- `RXS_PLM_SPX_STAT`. -/
  | plmStat
  /-- `RXS_PLM_SPX_INT_EN`. -/
  | plmIntEn
  /-- `RXS_PLM_SPX_PW_EN`. -/
  | plmPwEn
  /-- `RXS_PLM_SPX_DENIAL_CTL`. -/
  | denialCtl
  /-- `RXS_PLM_SPX_PNA_CAP`. -/
  | pnaCap
  /-- `RXS_TLM_SPX_STAT`. -/
  | tlmStat
  /-- `RXS_TLM_SPX_INT_EN`. -/
  | tlmIntEn
  /-- `RXS_TLM_SPX_PW_EN`. -/
  | tlmPwEn
  /-- `RXS_PBM_SPX_STAT`. -/
  | pbmStat
  /-- `RXS_PBM_SPX_INT_EN`. -/
  | pbmIntEn
  /-- `RXS_PBM_SPX_PW_EN`. -/
  | pbmPwEn
  deriving DecidableEq

/-- The registers that the device has once. -/
inductive DevReg where
  /-- `RXS_ERR_DET`. -/
  | errDet
  /-- `RXS_EM_INT_STAT`. -/
  | emIntStat
  /-- `RXS_EM_INT_EN`. -/
  | emIntEn
  /-- `RXS_EM_PW_STAT`. -/
  | emPwStat
  /-- `RXS_EM_PW_EN`. -/
  | emPwEn
  /-- `RXS_EM_RST_PORT_STAT`. -/
  | emRstPortStat
  /-- `RXS_EM_RST_INT_EN`. -/
  | emRstIntEn
  /-- `RXS_EM_RST_PW_EN`. -/
  | emRstPwEn
  /-- `I2C_INT_STAT`. -/
  | i2cIntStat
  deriving DecidableEq

inductive Reg where
  | dev (reg : DevReg)
  | port (reg : PortReg) (port : Nat)
  deriving DecidableEq

/-- `RXS_PLM_SPX_STAT_DWNGD`, `RXS_PLM_SPX_STAT_DLT` and `RXS_PLM_SPX_STAT_OK_TO_UNINIT`. -/
def plmStatDwngd : BitVec 32 := 0x02000000
def plmStatDlt : BitVec 32 := 0x20000000
def plmStatOkToUninit : BitVec 32 := 0x40000000

/-- `RXS_PLM_SPX_STAT_PORT_ERR`. -/
def plmStatPortErr : BitVec 32 := 0x08000000

/-- `RXS_PLM_SPX_STAT_MAX_DENIAL`. -/
def plmStatMaxDenial : BitVec 32 := 0x80000000

/-- `RXS_PLM_SPX_STAT_PBM_FATAL`. -/
def plmStatPbmFatal : BitVec 32 := 0x04000000

/-- `RXS_PLM_SPX_STAT_LINK_INIT`. -/
def plmStatLinkInit : BitVec 32 := 0x10000000

/-- `RXS_PLM_SPX_STAT_RST_REQ` and `RXS_PLM_SPX_STAT_PRST_REQ`. -/
def plmStatRstReq : BitVec 32 := 0x00010000
def plmStatPrstReq : BitVec 32 := 0x00020000

/-- `RXS_PLM_SPX_STAT_TLM_PW` and `RXS_PLM_SPX_STAT_PBM_PW`. -/
def plmStatTlmPw : BitVec 32 := 0x00004000
def plmStatPbmPw : BitVec 32 := 0x00008000

/-- `RXS_PLM_SPX_UNMASKABLE_MASK`, with the interrupts of the TLM and of the PBM and with
`RXS_PLM_SPX_STAT_MECS`. -/
def plmUnmaskableMask : BitVec 32 :=
  0x00000400 ||| 0x00000800 ||| 0x00001000 ||| plmStatTlmPw ||| plmStatPbmPw ||| plmStatRstReq |||
    plmStatPrstReq

/-- `RXS_LOS_EVENT_MASK`. -/
def losEventMask : BitVec 32 := plmStatDwngd ||| plmStatDlt ||| plmStatOkToUninit

/-- `RXS_RST_REQ_EVENT_MASK`. -/
def rstReqEventMask : BitVec 32 := plmStatRstReq ||| plmStatPrstReq

/-- `RXS_PBM_SPX_STAT_EG_TTL_EXPIRED`. -/
def pbmStatEgTtlExpired : BitVec 32 := 0x00000200

/-- `RXS_PBM_FATAL_EVENT_MASK`. -/
def pbmFatalEventMask : BitVec 32 := 0x00000020 ||| 0x00000080 ||| 0x00000800

/-- `RXS_TLM_SPX_STAT_LUT_DISCARD`. -/
def tlmStatLutDiscard : BitVec 32 := 0x00400000

/-- `RXS_PLM_SPX_DENIAL_CTL_CNT_RTY`. -/
def denialCtlCntRty : BitVec 32 := 0x10000000

/-- `RXS_PLM_SPX_DENIAL_CTL_CNT_PNA`. -/
def denialCtlCntPna : BitVec 32 := 0x20000000

/-- `RXS_PLM_SPX_PNA_CAP_VALID`. -/
def pnaCapValid : BitVec 32 := 0x80000000

/-- `RXS_EM_INT_STAT_LOG`, and `RXS_EM_PW_STAT_LOG`. -/
def emIntStatLog : BitVec 32 := 0x10000000
def emPwStatLog : BitVec 32 := 0x10000000

/-- `RXS_EM_INT_STAT_EXTERNAL_I2C`, and `RXS_EM_PW_STAT_EXTERNAL_I2C`. -/
def emIntStatExternalI2c : BitVec 32 := 0x00800000
def emPwStatExternalI2c : BitVec 32 := 0x00800000

/-- `RXS_EM_INT_STAT_AGG_EVENTS_MASK`, and `RXS_EM_PW_STAT_AGG_EVENTS_MASK`. -/
def emIntStatAggEventsMask : BitVec 32 := 0x20000000 ||| 0x08000000
def emPwStatAggEventsMask : BitVec 32 := 0x20000000 ||| 0x08000000

def i2cIntStatBlFail : BitVec 32 := 0x00020000

def emParsePw (code : Nat) : Nat := darFirstImpSpecError + 0x2400 + code

def emGetIntStat (code : Nat) : Nat := darFirstImpSpecError + 0x2500 + code

def emGetPwStat (code : Nat) : Nat := darFirstImpSpecError + 0x2600 + code

/-- `rio_em_events_t`. -/
inductive RioEmEvents where
  | fLos | fPortErr | f2manyRetx | f2manyPna | fErrRate | dTtl | dRte | dLog | iSigDet | iRstReq
  | iInitFail | aClrPwpnd | aNoEvent | last
  deriving DecidableEq

def emMaxEventListSize : Nat := 13 * rioMaxPorts

/-- `rio_em_event_n_loc_t`. -/
structure RioEmEventNLoc where
  portNum : Nat
  event : RioEmEvents
  deriving DecidableEq

/-- What a call that looks for events writes: its `out_parms`, whose `num_events` has `width` bits,
and the memory that `events` of its `in_parms` points to. -/
structure EventsOut (width : Nat) where
  impRc : Nat
  numEvents : BitVec width
  tooMany : Bool
  otherEvents : Bool
  events : Nat → RioEmEventNLoc

/-- How a call reports what it finds. -/
structure EventSink (μ : Type) where
  clear : μ → μ
  setImpRc : Nat → μ → μ
  addEvent : RioEmEventNLoc → μ → μ
  setOtherEvents : μ → μ

/-- `SAFE_ADD_EVENT_N_LOC`, where there is room for `capacity` events. -/
def safeAddEventNLoc {width : Nat} (capacity : Nat) (event : RioEmEventNLoc)
    (out : EventsOut width) : EventsOut width :=
  if out.numEvents.toNat < capacity then
    { out with
      events := Function.update out.events out.numEvents.toNat event
      numEvents := out.numEvents + 1 }
  else { out with tooMany := true }

/-- The report to `out_parms` and `events`. -/
def outParms (width capacity : Nat) : EventSink (EventsOut width) where
  clear out := { out with impRc := 0, numEvents := 0, tooMany := false, otherEvents := false }
  setImpRc impRc out := { out with impRc }
  addEvent := safeAddEventNLoc capacity
  setOtherEvents out := { out with otherEvents := true }

/-- A call over the memory that it writes and the device. -/
abbrev EmProgram (μ δ : Type) := EStateM PtlStop (Attached μ δ)

section Calls

variable {μ δ α : Type} (sink : EventSink μ) (device : RegDevice Reg δ)

/-- Set `imp_rc` and leave. -/
def leave (impRc rc : Nat) : EmProgram μ δ α := do
  modifyMemory (sink.setImpRc impRc)
  throw (.code rc)

/-- Set `imp_rc` if a program stops early. -/
def orSetImpRc (impRc : Nat) (program : EmProgram μ δ α) : EmProgram μ δ α :=
  onStop program fun state => { state with memory := sink.setImpRc impRc state.memory }

/-- Read a register; if that fails, set `imp_rc` and leave. -/
def readReg (reg : Reg) (impRc : Nat) : EmProgram μ δ (BitVec 32) :=
  orSetImpRc sink impRc (regRead device reg .code)

/-- Report an event if a condition holds. -/
def addIf (condition : Prop) [Decidable condition] (event : RioEmEvents) (portNum : Nat) :
    EmProgram μ δ Unit :=
  if condition then modifyMemory (sink.addEvent ⟨portNum, event⟩) else pure ()

/-- Report other events if a condition holds. -/
def otherIf (condition : Prop) [Decidable condition] : EmProgram μ δ Unit :=
  if condition then modifyMemory sink.setOtherEvents else pure ()

/-- `DARrioGetPortList` within a call. -/
def getPortList (numPorts : Nat) (ptl : DarPtl) (impRc : Nat) : EmProgram μ δ (List Nat) :=
  match darDbRioGetPortList numPorts ptl with
  | .ok ports => pure ports
  | .error (.code rc) => leave sink impRc rc
  | .error .outOfBounds => throw .outOfBounds

end Calls

end RioFabric.RxsEvents

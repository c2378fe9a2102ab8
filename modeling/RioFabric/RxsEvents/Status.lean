import RioFabric.RxsEvents.Registers

/-!
# Which events a device has

Three calls find out which events there are: one from what a port-write says, one from what raises
an interrupt, one from what leads to port-writes.  The last two look through the ports that the
caller names and then at the device.
-/

namespace RioFabric.RxsEvents

open Lib Dar
open StatCounters (numRxsPorts)

/-- The words of a port-write that are looked at: `RIO_EMHS_PW_P_ERR_DET_IDX`,
`RIO_EMHS_PW_IMP_SPEC_IDX` and `RIO_EM_PW_L_ERR_DET_IDX`. -/
structure PwWords where
  errDet : BitVec 32
  impSpec : BitVec 32
  lErrDet : BitVec 32

/-- `RIO_EM_PW_IMP_SPEC_PORT_MASK`. -/
def pwImpSpecPortMask : BitVec 32 := 0x000000ff

/-- `RXS_SPX_ERR_DET_OK_TO_UNINIT`, `RXS_SPX_ERR_DET_DLT` and `RXS_SPX_ERR_DET_LINK_INIT`. -/
def errDetOkToUninit : BitVec 32 := 0x40000000
def errDetDlt : BitVec 32 := 0x20000000
def errDetLinkInit : BitVec 32 := 0x10000000

/-- `RXS_PW_DEV_RCS`. -/
def pwDevRcs : BitVec 32 := 0x00000400

/-- `RXS_PW_INIT_FAIL`. -/
def pwInitFail : BitVec 32 := 0x00001000

/-- `other_mask` of `rxs_rio_em_parse_pw`. -/
def pwOtherMask : BitVec 32 :=
  0x00000100 ||| 0x00000200 ||| 0x00002000 ||| 0x00100000 ||| 0x00200000 ||| 0x00400000 |||
    0x00800000 ||| 0x00000800 ||| 0x00040000 ||| 0x00080000 ||| 0x01000000

/-- The port that a port-write is about. -/
def PwWords.port (pw : PwWords) : Nat := (pw.impSpec &&& pwImpSpecPortMask).toNat

/-- `rio_em_parse_pw_in_t`; `events` may be `NULL`. -/
structure RioEmParsePwIn where
  pw : PwWords
  numEvents : BitVec 8
  hasEvents : Bool

/-- `rio_em_get_int_stat_in_t`. -/
structure RioEmGetIntStatIn where
  ptl : DarPtl
  numEvents : BitVec 16
  hasEvents : Bool

/-- `rio_em_get_pw_stat_in_t`. -/
structure RioEmGetPwStatIn where
  ptl : DarPtl
  pwPortNum : Nat
  numEvents : BitVec 16
  hasEvents : Bool

/-- What `rxs_rio_em_get_int_stat_port` and `rxs_rio_em_get_pw_stat_port` differ in: the registers
that enable events, those that are read last and not looked at, and the codes. -/
structure PortQuery where
  plmEn : PortReg
  tlmEn : PortReg
  pbmEn : PortReg
  unused : List (DevReg × Nat)
  plmStatCode : Nat
  statCode : Nat
  enCode : Nat
  pnaCode : Nat

/-- Of interrupts. -/
def intQuery : PortQuery where
  plmEn := .plmIntEn
  tlmEn := .tlmIntEn
  pbmEn := .pbmIntEn
  unused := [(.emRstIntEn, emGetIntStat 0x14)]
  plmStatCode := emGetIntStat 0x11
  statCode := emGetIntStat 0x10
  enCode := emGetIntStat 0x12
  pnaCode := emGetIntStat 0x1A

/-- Of port-writes. -/
def pwQuery : PortQuery where
  plmEn := .plmPwEn
  tlmEn := .tlmPwEn
  pbmEn := .pbmPwEn
  unused := [(.emRstPwEn, emGetPwStat 0x14), (.emPwStat, emGetPwStat 0x16),
    (.emPwEn, emGetPwStat 0x18)]
  plmStatCode := emGetPwStat 0x10
  statCode := emGetPwStat 0x10
  enCode := emGetPwStat 0x12
  pnaCode := emGetPwStat 0x1A

section Queries

variable {μ δ : Type} (sink : EventSink μ)

/-- `rxs_rio_em_parse_pw`, where there is `room` for events. -/
def parsePw (numPorts : Nat) (pw : PwWords) (room : Bool) : EmProgram μ δ Unit := do
  modifyMemory sink.clear
  if room then do
    if numRxsPorts numPorts ≤ pw.port then leave sink (emParsePw 0x02) rioErrInvalidParameter
    else do
      addIf sink (pw.errDet &&& errDetOkToUninit ≠ 0 ∨ pw.errDet &&& errDetDlt ≠ 0 ∨
        pw.impSpec &&& plmStatOkToUninit ≠ 0 ∨ pw.impSpec &&& plmStatDlt ≠ 0 ∨
        pw.impSpec &&& plmStatDwngd ≠ 0) .fLos pw.port
      addIf sink (pw.impSpec &&& plmStatPortErr ≠ 0) .fPortErr pw.port
      addIf sink (pw.impSpec &&& plmStatMaxDenial ≠ 0) .f2manyRetx pw.port
      addIf sink (pw.impSpec &&& plmStatMaxDenial ≠ 0) .f2manyPna pw.port
      addIf sink (pw.impSpec &&& plmStatPbmFatal ≠ 0) .fErrRate pw.port
      addIf sink (pw.impSpec &&& plmStatPbmPw ≠ 0) .dTtl pw.port
      addIf sink (pw.impSpec &&& plmStatTlmPw ≠ 0) .dRte pw.port
      addIf sink (pw.lErrDet ≠ 0) .dLog rioAllPorts
      addIf sink (pw.impSpec &&& (plmStatRstReq ||| plmStatPrstReq) ≠ 0) .iRstReq pw.port
      -- another port has a reset request
      addIf sink (pw.impSpec &&& pwDevRcs ≠ 0) .iRstReq rioAllPorts
      addIf sink (pw.errDet &&& errDetLinkInit ≠ 0 ∨ pw.impSpec &&& plmStatLinkInit ≠ 0)
        .iSigDet pw.port
      addIf sink (pw.impSpec &&& pwInitFail ≠ 0) .iInitFail rioAllPorts
      otherIf sink (pw.impSpec &&& pwOtherMask ≠ 0)
  else leave sink (emParsePw 0x01) rioErrInvalidParameter

variable (device : RegDevice Reg δ)

/-- The events of a port whose packets were refused too often. -/
def addMaxDenial (query : PortQuery) (port : Nat) (plmStat : BitVec 32) : EmProgram μ δ Unit := do
  if plmStat &&& plmStatMaxDenial ≠ 0 then do
    let plmDenialCtl ← readReg sink device (.port .denialCtl port) (emGetIntStat 0x1A)
    addIf sink (denialCtlCntRty &&& plmDenialCtl ≠ 0) .f2manyRetx port
    if denialCtlCntPna &&& plmDenialCtl ≠ 0 then do
      let pnaCap ← readReg sink device (.port .pnaCap port) query.pnaCode
      addIf sink (pnaCapValid &&& pnaCap ≠ 0) .f2manyPna port
    else pure ()
  else pure ()

/-- The status of a port. -/
def getStatPort (query : PortQuery) (port : Nat) : EmProgram μ δ Unit := do
  let _ ← readReg sink device (.port .errDet port) (emGetIntStat 0x10)
  let _ ← readReg sink device (.port .rateEn port) (emGetIntStat 0x10)
  let plm ← readReg sink device (.port .plmStat port) query.plmStatCode
  let plmEn ← readReg sink device (.port query.plmEn port) query.enCode
  let tlm ← readReg sink device (.port .tlmStat port) query.statCode
  let tlmEn ← readReg sink device (.port query.tlmEn port) query.enCode
  let pbm ← readReg sink device (.port .pbmStat port) query.statCode
  let pbmEn ← readReg sink device (.port query.pbmEn port) query.enCode
  query.unused.forM fun entry => do
    let _ ← readReg sink device (.dev entry.1) entry.2
    pure ()
  let plmStat := plm &&& (plmEn ||| plmUnmaskableMask)
  addIf sink (plmStat &&& losEventMask ≠ 0) .fLos port
  addIf sink (plmStat &&& plmStatPortErr ≠ 0) .fPortErr port
  addMaxDenial sink device query port plmStat
  addIf sink (plmStat &&& plmStatPbmFatal ≠ 0) .fErrRate port
  addIf sink (pbm &&& pbmEn &&& pbmStatEgTtlExpired ≠ 0) .dTtl port
  addIf sink (tlm &&& tlmEn &&& tlmStatLutDiscard ≠ 0) .dRte port
  addIf sink (plmStat &&& plmStatLinkInit ≠ 0) .iSigDet port
  addIf sink (plmStat &&& rstReqEventMask ≠ 0) .iRstReq port
  otherIf sink (plm &&& ~~~(plmEn ||| plmUnmaskableMask) ≠ 0)
  otherIf sink (tlm &&& ~~~tlmEn ≠ 0)
  otherIf sink (pbm &&& ~~~(pbmEn ||| pbmFatalEventMask) ≠ 0)

def rxsRioEmGetIntStatPort (port : Nat) : EmProgram μ δ Unit :=
  getStatPort sink device intQuery port

def rxsRioEmGetPwStatPort (port : Nat) : EmProgram μ δ Unit :=
  getStatPort sink device pwQuery port

/-- An event of the device that is asserted, or another event if the register behind it shows
one. -/
def addDevEvent (asserted : Prop) [Decidable asserted] (event : RioEmEvents) (reg : DevReg)
    (mask : BitVec 32) (impRc : Nat) : EmProgram μ δ Unit :=
  if asserted then modifyMemory (sink.addEvent ⟨rioAllPorts, event⟩)
  else do
    let shown ← readReg sink device (.dev reg) impRc
    otherIf sink (shown &&& mask ≠ 0)

def getDevIntStatus : EmProgram μ δ Unit := do
  let emInts ← readReg sink device (.dev .emIntStat) (emGetIntStat 0x30)
  let emIntEn ← readReg sink device (.dev .emIntEn) (emGetIntStat 0x31)
  addDevEvent sink device (emInts &&& emIntEn &&& emIntStatLog ≠ 0) .dLog .errDet 0xffffffff
    (emGetIntStat 0x31)
  addDevEvent sink device (emInts &&& emIntEn &&& emIntStatExternalI2c ≠ 0) .iInitFail .i2cIntStat
    i2cIntStatBlFail (emGetIntStat 0x31)
  otherIf sink (emInts &&& ~~~(emIntEn ||| emIntStatAggEventsMask) ≠ 0)

/-- `get_dev_pw_status`.  For other events it looks at those that are enabled. -/
def getDevPwStatus : EmProgram μ δ Unit := do
  let emPws ← readReg sink device (.dev .emPwStat) (emGetPwStat 0x10)
  let emPwEn ← readReg sink device (.dev .emPwEn) (emGetPwStat 0x12)
  let emPwStat := emPws &&& emPwEn
  addDevEvent sink device (emPwStat &&& emPwStatLog ≠ 0) .dLog .errDet 0xffffffff
    (emGetPwStat 0x24)
  addDevEvent sink device (emPwStat &&& emPwStatExternalI2c ≠ 0) .iInitFail .i2cIntStat
    i2cIntStatBlFail (emGetIntStat 0x31)
  otherIf sink (emPwStat &&& ~~~(emPwEn ||| emPwStatAggEventsMask) ≠ 0)

/-- `rxs_rio_em_get_int_stat`, where there is `room` for events. -/
def getIntStat (numPorts : Nat) (ptl : DarPtl) (room : Bool) : EmProgram μ δ Unit := do
  modifyMemory sink.clear
  if room then do
    let ports ← getPortList sink numPorts ptl (emGetIntStat 0x02)
    ports.forM (rxsRioEmGetIntStatPort sink device)
    getDevIntStatus sink device
  else leave sink (emGetIntStat 0x01) rioErrInvalidParameter

/-- `rxs_rio_em_get_pw_stat`, where there is `room` for events.  The port that sends port-writes
comes last, and its event to end them is entered even if the status of the device is not
obtained. -/
def getPwStat (numPorts : Nat) (ptl : DarPtl) (pwPortNum : Nat) (room : Bool) :
    EmProgram μ δ Unit := do
  modifyMemory sink.clear
  if room then do
    let ports ← getPortList sink numPorts ptl (emGetPwStat 0x02)
    ports.forM fun port =>
      if pwPortNum = port then pure () else rxsRioEmGetPwStatPort sink device port
    if pwPortNum ∈ ports then do
      rxsRioEmGetPwStatPort sink device pwPortNum
      atEnd (getDevPwStatus sink device) fun state => { state with
        memory := sink.addEvent ⟨pwPortNum, .aClrPwpnd⟩ state.memory }
    else getDevPwStatus sink device
  else leave sink (emGetPwStat 0x01) rioErrInvalidParameter

end Queries

section Calls

variable {δ : Type} (device : RegDevice Reg δ) (numPorts : Nat)

def rxsRioEmParsePw (inParms : RioEmParsePwIn) : EmProgram (EventsOut 8) δ Unit :=
  parsePw (outParms 8 inParms.numEvents.toNat) numPorts inParms.pw
    (inParms.numEvents ≠ 0 ∧ inParms.hasEvents)

def rxsRioEmGetIntStat (inParms : RioEmGetIntStatIn) : EmProgram (EventsOut 8) δ Unit :=
  getIntStat (outParms 8 inParms.numEvents.toNat) device numPorts inParms.ptl
    (inParms.numEvents ≠ 0 ∧ inParms.hasEvents)

def rxsRioEmGetPwStat (inParms : RioEmGetPwStatIn) : EmProgram (EventsOut 16) δ Unit :=
  getPwStat (outParms 16 inParms.numEvents.toNat) device numPorts inParms.ptl inParms.pwPortNum
    (inParms.numEvents ≠ 0 ∧ inParms.hasEvents)

end Calls

end RioFabric.RxsEvents

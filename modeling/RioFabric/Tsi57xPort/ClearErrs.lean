import RioFabric.ControlSymbol
import RioFabric.Tsi57xPort.Status

/-!
# Clearing the errors of a Tsi57x port

A control symbol makes both ends of a link leave the error-stopped states.  Then the ackIDs of the
port are set to those of the link partner and, if that is asked for, those of the link partner to
those of the port.
-/

namespace RioFabric.Tsi57xPort

open Lib Dar PortConfig ControlSymbol

/-- `TSI578_SPX_LM_RESP_RESP_VLD`. -/
def lmRespRespVld : BitVec 32 := 0x80000000

/-- `TSI578_SPX_LM_RESP_ACK_ID_STAT`. -/
def lmRespAckIdStat : BitVec 32 := 0x000003e0

/-- `TSI578_SPX_ACKID_STAT_OUTBOUND`. -/
def ackidStatOutbound : BitVec 32 := 0x0000001f

/-- `TSI578_SPX_ACKID_STAT_OUTSTANDING`. -/
def ackidStatOutstanding : BitVec 32 := 0x00001f00

/-- `TSI578_SPX_ACKID_STAT_INBOUND`. -/
def ackidStatInbound : BitVec 32 := 0x1f000000

/-- `TSI578_SPX_CS_TX_CMD`. -/
def csTxCmd : BitVec 32 := 0x0000e000

/-- `STYPE1_LREQ_CMD_PORT_STAT`. -/
def lreqCmdPortStat : BitVec 32 := 0x00000004

def rioErrErrsNotCl : Nat := 0x1011

/-- `magic_cs`; the fields from `cs_t2` on are not initialised. -/
def magicCs (uninit : CsField) : CsField :=
  { uninit with
    csSize := .csSmall
    csT0 := .pna
    parm0 := 0
    parm1 := 0x1F
    csT1 := .lreq
    csT1Cmd := 0 }

/-- `magic_cs_bytes`; `uninit` is what the structure holds before. -/
def magicCsBytes (fields : CsField) (uninit : CsBytes) : CsBytes :=
  (csFieldsToBytes (magicCs fields) uninit).2

/-- A byte of a symbol within a register. -/
def csByte (bytes : CsBytes) (idx : Fin 8) : BitVec 32 := BitVec.ofNat 32 bytes.csBytes[idx].toNat

/-- `cs_reg_val`: the three parts are joined by `||`, which gives a truth value. -/
def csRegVal (bytes : CsBytes) : BitVec 32 :=
  if csByte bytes 1 <<< 24 ≠ 0 ∨ csByte bytes 2 <<< 16 ≠ 0 ∨ csByte bytes 3 <<< 8 &&& csTxCmd ≠ 0
  then 1 else 0

/-- The bytes of a symbol in the places that the fields of `TSI578_SPX_CS_TX` have. -/
def csWord (bytes : CsBytes) : BitVec 32 :=
  csByte bytes 1 <<< 24 ||| (csByte bytes 2 <<< 16 ||| csByte bytes 3 <<< 8 &&& csTxCmd)

section ClearErrs

variable {δ : Type} (dev : Tsi57xDevice) (device : RegDevice Reg δ) (magic : CsBytes)

/-- The ports of the link partner that are tried. -/
def lpPorts (inParms : PcClrErrsIn) : List Nat :=
  (List.range inParms.numLpPorts).map inParms.lpPortList

/-- The checks of the request; a port of the Tsi57x has at most `TSI578_MAX_PORTS` candidates. -/
def checkClrErrsIn (inParms : PcClrErrsIn) : Call Nat δ Unit := do
  if dev.numPorts ≤ inParms.portNum then leave (pcClrErrs 1) rioErrInvalidParameter
  else if inParms.clrLpPortErr then
    match inParms.lpDevInfo with
    | none => leave (pcClrErrs 2) rioErrInvalidParameter
    | some lp =>
      if inParms.numLpPorts = 0 ∨ inParms.numLpPorts > 16 then
        leave (pcClrErrs 2) rioErrInvalidParameter
      else if ∃ pnum ∈ lpPorts inParms, pnum ≥ min lp.numPorts 16 then
        leave (pcClrErrs 3) rioErrInvalidParameter
      else pure ()
  else pure ()

/-- The port must be `PORT_OK`. -/
def checkPortOk (pnum : Nat) : Call Nat δ Unit := do
  let status ← taking (tsi57xRioPcGetStatus dev device (onePort pnum))
  if status.map (·.portOk) = [true] then pure () else leave (pcClrErrs 4) rioErrErrsNotCl

/-- Poll until there is a response, `dlay` times. -/
def pollLmResp (pnum : Nat) : Nat → Call Nat δ (BitVec 32)
  | 0 => leave (pcClrErrs 0x13) RxsPort.rioErrNotExpectedReturnValue
  | dlay + 1 => do
      let lresp ← readReg device (.port .lmResp pnum) (pcClrErrs 0x12)
      if lresp &&& lmRespRespVld ≠ 0 then pure lresp else pollLmResp pnum dlay

/-- `ackid_stat` of the port, from the response of the link partner. -/
def newAckidStat (lresp ackidStat : BitVec 32) : BitVec 32 :=
  let lresp := (lresp &&& lmRespAckIdStat) >>> 5
  (ackidStat &&& ackidStatInbound) ||| lresp ||| (lresp <<< 8)

/-- `ackid_stat` of the link partner, from that of the port. -/
def lpAckidStat (ackidStat : BitVec 32) : BitVec 32 :=
  let lresp := (ackidStat + 1) &&& ackidStatOutbound
  let ackidStat := (ackidStat &&& ackidStatInbound) >>> 24
  ackidStat ||| ((ackidStat <<< 8) ||| (lresp <<< 24))

/-- Set the ackIDs of the port to those that the link partner reports. -/
def setAckIds (pnum : Nat) : Call Nat δ (BitVec 32) := do
  writeReg device (.port .lmReq pnum) lreqCmdPortStat (pcClrErrs 0x11)
  let lresp ← pollLmResp device pnum 10
  let ackidStat ← readReg device (.port .ackidStat pnum) (pcClrErrs 0x14)
  let ackidStat := newAckidStat lresp ackidStat
  writeReg device (.port .ackidStat pnum) ackidStat (pcClrErrs 0x15)
  pure ackidStat

/-- Clear the indications of errors; a failure of an access does not change `imp_rc`. -/
def clearErrStatus (pnum : Nat) : Call Nat δ Unit := do
  let errStat ← readReg device (.port .errStatus pnum) 0
  writeReg device (.port .errStatus pnum) errStat 0
  let errStat ← readReg device (.port .errStatus pnum) 0
  if errStat &&& (errStatusPortErr ||| errStatusInputErrStop ||| errStatusOutputErrStop |||
      errStatusOutputFail) ≠ 0 then leave (pcClrErrs 0x20) rioErrErrsNotCl
  else pure ()

section

variable (inParms : PcClrErrsIn)

/-- `tsi57x_rio_pc_clr_errs`, with what it does about the link partner. -/
def clrErrsWith (linkPartner : BitVec 32 → Call Nat δ Unit) :
    Call Nat δ Unit := do
  setImpRc 0
  checkClrErrsIn dev inParms
  checkPortOk dev device inParms.portNum
  writeReg device (.port .csTx inParms.portNum) (csRegVal magic) (pcClrErrs 0x10)
  let ackidStat ← setAckIds device inParms.portNum
  linkPartner ackidStat
  clearErrStatus device inParms.portNum

/-- The call for the port alone: nothing is done about the link partner. -/
def clrLocalErrs : Call Nat δ Unit :=
  clrErrsWith dev device magic { inParms with clrLpPortErr := false } fun _ => pure ()

/-- The loop over the ports of the link partner.  After a write that fails the errors of the port
are cleared; then, as after a write that succeeds, the loop goes on. -/
def updateLinkPartner (ackidStat : BitVec 32) : Call Nat δ Unit :=
  (lpPorts inParms).forM fun lpPortNum => do
    let written ← tryWrite device (.linkPartner lpPortNum) (lpAckidStat ackidStat)
    if written then pure ()
    else takingAs (pcClrErrs 0x16) (clrLocalErrs dev device magic inParms)

def tsi57xRioPcClrErrs : Call Nat δ Unit :=
  if inParms.clrLpPortErr then
    clrErrsWith dev device magic inParms (updateLinkPartner dev device magic inParms)
  else clrLocalErrs dev device magic inParms

end

end ClearErrs

end RioFabric.Tsi57xPort

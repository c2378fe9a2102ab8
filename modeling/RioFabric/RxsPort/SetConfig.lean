import Mathlib.Data.Nat.Bitwise
import RioFabric.RxsPort.Config

/-!
# Configuring RXS ports

A request is checked, sorted by port and compared with the configuration of the device; then the
registers that it leads to are computed, traffic of the ports that must be reset is halted, and
the registers are written.  Local variables that are used before they are set have values that are
parameters.
-/

namespace RioFabric.RxsPort

open Lib Dar
open StatCounters (darFirstImpSpecError numRxsPorts)

def pcSetConfig (code : Nat) : Nat := darFirstImpSpecError + 0x200 + code

/-- `rio_pc_set_config_in_t`; `pc` has `num_ports` elements. -/
structure PcSetConfigIn where
  lrto : Nat
  oobRegAcc : Bool
  regAccPort : Nat
  numPorts : Nat
  pc : Nat → RioPcOnePortConfig

/-- The elements of `pc`. -/
def PcSetConfigIn.requests (inParms : PcSetConfigIn) : List RioPcOnePortConfig :=
  (List.range inParms.numPorts).map inParms.pc

/-- Configurations by port: `sorted`, and the current ones. -/
abbrev PortConfigs := Nat → RioPcOnePortConfig

/-- The value of a speed. -/
def RioPcLs.code : RioPcLs → Nat
  | ls1p25 => 0
  | ls2p5 => 1
  | ls3p125 => 2
  | ls5p0 => 3
  | ls6p25 => 4
  | ls10p3 => 5
  | ls12p5 => 6
  | last => 7

/-- What is wrong with the configuration of a port that is to be available and powered up: the
checks in the loop of `rxs_pc_set_cfg_check_parms`. -/
def configError (pc : RioPcOnePortConfig) : Option Nat :=
  if pc.pw = .last then some 0x05
  else if pc.pnum &&& 1 ≠ 0 ∧ (pc.pw = .pw4x ∨ pc.pw = .pw1xL2) then some 0x07
  else if pc.fc ≠ .rx then some 0x09
  else if pc.ls = .ls1p25 then some 0x0B
  else if pc.ls = .last then some 0x0D
  else if pc.txLswap = .last then some 0x0F
  else if pc.rxLswap = .last then some 0x11
  else
    match pc.iseq with
    | .one => if pc.ls.code > RioPcLs.ls5p0.code then some 0x13 else none
    | .two => if pc.ls.code > RioPcLs.ls6p25.code then some 0x15 else none
    | .three => none
    | .dflt => none
    | .last => some 0x17

/-- What is wrong with an element of the request. -/
def requestError (rxsPorts : Nat) (pc : RioPcOnePortConfig) : Option Nat :=
  if pc.pnum ≥ rxsPorts then some 0x03
  else if pc.portAvailable = false then none
  else if pc.poweredUp = false then none
  else configError pc

/-- An element of `sorted` that no element of the request was copied to. -/
def unsortedConfig : RioPcOnePortConfig where
  pnum := rioAllPorts
  portAvailable := false
  poweredUp := false
  pw := .pw1x
  ls := .ls1p25
  fc := .rx
  iseq := .one
  xmitterDisable := false
  portLockout := false
  nmtcXferEnable := false
  txLswap := .none
  txLinvert _ := false
  rxLswap := .none
  rxLinvert _ := false

/-- The elements of a request by port. -/
def sortRequests (requests : List RioPcOnePortConfig) : PortConfigs :=
  requests.foldl (fun sorted pc => Function.update sorted pc.pnum pc) fun _ => unsortedConfig

/-- `rxs_pc_set_cfg_check_parms`: the sorted request, or the code for `imp_rc`. -/
def checkParms (rxsPorts : Nat) (inParms : PcSetConfigIn) : Except Nat PortConfigs :=
  if inParms.numPorts = 0 ∨ inParms.numPorts > rxsPorts then .error (pcSetConfig 0x01)
  else if inParms.oobRegAcc = false ∧ inParms.regAccPort ≥ rxsPorts then
    .error (pcSetConfig 0x02)
  else
    match inParms.requests.findSome? (requestError rxsPorts) with
    | some code => .error (pcSetConfig code)
    | none => .ok (sortRequests inParms.requests)

def lsConflict (ls1 ls2 : RioPcLs) : Bool :=
  if ls2 = .ls10p3 then ls1 = .ls2p5 ∨ ls1 = .ls5p0
  else if ls1 = .ls10p3 then ls2 = .ls2p5 ∨ ls2 = .ls5p0
  else false

/-- The even port takes the lanes of the odd one. -/
def RioPcOnePortConfig.isWide (pc : RioPcOnePortConfig) : Bool := pc.pw = .pw4x ∨ pc.pw = .pw1xL2

def checkEvenConf (eReq oCurr : RioPcOnePortConfig) : Option Nat :=
  if eReq.isWide then
    if oCurr.portAvailable then some 0x3C else none
  else if lsConflict eReq.ls oCurr.ls then some 0x40
  else none

def checkOddConf (oReq eCurr oCurr : RioPcOnePortConfig) : Option Nat :=
  if eCurr.isWide ∧ oReq.portAvailable then some 0x44
  else if oReq.portAvailable ≠ oCurr.portAvailable then some 0x46
  else if oReq.portAvailable ∧ lsConflict oReq.ls eCurr.ls then some 0x48
  else none

def checkBothConf (eReq oReq eCurr oCurr : RioPcOnePortConfig) : Option Nat :=
  if eCurr.isWide ∧ (oCurr.portAvailable ∨ oReq.portAvailable) then some 0x30
  else if eReq.isWide ∧ (oCurr.portAvailable ∨ oReq.portAvailable) then some 0x32
  else if oReq.portAvailable ≠ oCurr.portAvailable then some 0x34
  else if oReq.portAvailable ∧ lsConflict eReq.ls oReq.ls then some 0x36
  else none

def oth (port : Nat) : Nat := port ^^^ 1

theorem oth_of_even {port : Nat} (even : port % 2 = 0) : oth port = port + 1 :=
  Nat.xor_one_of_even (Nat.even_iff.mpr even)

@[simp] theorem oth_oth (port : Nat) : oth (oth port) = port := Nat.xor_xor_cancel_right port 1

/-- The ports that the loops over pairs begin with. -/
def evenPorts (rxsPorts : Nat) : List Nat := (List.range rxsPorts).filter fun port => port % 2 = 0

/-- A turn of the loop of `rxs_pc_set_cfg_check_conflicts`. -/
def pairConflict (sorted current : PortConfigs) (port : Nat) : Option Nat :=
  if (sorted port).pnum = rioAllPorts ∧ (sorted (oth port)).pnum = rioAllPorts then none
  else if (sorted port).pnum = port then
    if (sorted (oth port)).pnum = oth port then
      checkBothConf (sorted port) (sorted (oth port)) (current port) (current (oth port))
    else checkEvenConf (sorted port) (current (oth port))
  else checkOddConf (sorted (oth port)) (current port) (current (oth port))

/-- `rxs_pc_set_cfg_check_conflicts`. -/
def checkConflicts (rxsPorts : Nat) (sorted current : PortConfigs) : Option Nat :=
  (evenPorts rxsPorts).findSome? (pairConflict sorted current)

/-- `rio_pc_one_port_regs_t`. -/
structure PortRegs where
  plmPwdn : BitVec 32
  spxCtl : BitVec 32
  oneWr : BitVec 32
  plmCtl : BitVec 32
  plmPol : BitVec 32
  rtEn : BitVec 32
  rtEnTemp : BitVec 32
  mtcRtEn : BitVec 32
  mtcRtEnTemp : BitVec 32
  deriving DecidableEq

/-- `rio_pc_set_regs_t`. -/
abbrev SetRegs := Nat → PortRegs

def portBit (port : Nat) : BitVec 32 := (1 : BitVec 32) <<< port

/-- `RXS_TLM_SPX_MTC_ROUTE_EN_MTC_EN`. -/
def mtcRouteEnMtcEn : BitVec 32 := 0x00000001

/-- `RXS_PLM_SPX_1WR_BAUD_EN`. -/
def oneWrBaudEn : BitVec 32 := 0xf0000000

/-- `RXS_PLM_SPX_1WR_IDLE_SEQ`. -/
def oneWrIdleSeq : BitVec 32 := 0x03000000

/-- The override of the width in `RXS_SPX_CTL`. -/
def overOfPw : RioPcPw → Option (BitVec 32)
  | .pw1xL0 => some ctlPtwOver1xL0
  | .pw1x => some ctlPtwOver1xL0
  | .pw2x => some ctlPtwOver2xNo4x
  | .pw4x => some ctlPtwOverNone
  | .pw1xL1 => some ctlPtwOver1xLr
  | .pw1xL2 => some ctlPtwOver1xLr
  | .last => none

/-- The speed in `RXS_PLM_SPX_1WR`. -/
def baudOfLs : RioPcLs → Option (BitVec 32)
  | .ls2p5 => some 0x20000000
  | .ls3p125 => some 0x30000000
  | .ls5p0 => some 0x40000000
  | .ls6p25 => some 0x50000000
  | .ls10p3 => some 0x80000000
  | .ls12p5 => some 0x90000000
  | .ls1p25 => none
  | .last => none

/-- The idle sequence in `RXS_PLM_SPX_1WR`. -/
def idleOfIseq : RioPcIdleSeq → Option (BitVec 32)
  | .one => some 0x01000000
  | .two => some 0x02000000
  | .three => some 0x03000000
  | .dflt => some 0x00000000
  | .last => none

/-- A swap of lanes, as a field with two bits. -/
def regLswap : RioLaneSwap → Option (BitVec 32)
  | .none => some 0
  | .abcdBadc => some 1
  | .abcdDcba => some 2
  | .abcdCdab => some 3
  | .last => Option.none

/-- Set or clear bits. -/
def setBits (on : Bool) (mask reg : BitVec 32) : BitVec 32 :=
  if on then reg ||| mask else reg &&& ~~~mask

/-- The polarities of lanes: the last loop of a turn of `rxs_pc_set_cfg_compute_changes`. -/
def polOfLanes (pc : RioPcOnePortConfig) : BitVec 32 :=
  (List.finRange rioMaxPortLanes).foldl (fun pol lane =>
    let pol := if pc.txLinvert lane then pol ||| polCtlTx0Pol <<< lane.val else pol
    if pc.rxLinvert lane then pol ||| polCtlRx0Pol <<< lane.val else pol) 0

/-- `RXS_SPX_CTL` of a port that is to be up, with an override of the width. -/
def changedCtl (pc : RioPcOnePortConfig) (ptwOver ctl : BitVec 32) : BitVec 32 :=
  let ctl := (ctl &&& ~~~ctlPtwOver) ||| ptwOver
  let ctl := setBits pc.xmitterDisable ctlPortDis ctl
  let ctl := setBits pc.portLockout ctlPortLockout ctl
  setBits pc.nmtcXferEnable ctlNmtcEn ctl

/-- `RXS_PLM_SPX_1WR` with a speed and an idle sequence. -/
def changedOneWr (baud idle oneWr : BitVec 32) : BitVec 32 :=
  (((oneWr &&& ~~~oneWrBaudEn) ||| baud) &&& ~~~oneWrIdleSeq) ||| idle

/-- `RXS_PLM_SPX_IMP_SPEC_CTL` with swaps of lanes. -/
def changedPlmCtl (txSwap rxSwap plmCtl : BitVec 32) : BitVec 32 :=
  (plmCtl &&& ~~~(impSpecSwapRx ||| impSpecSwapTx)) ||| txSwap <<< 18 ||| rxSwap <<< 16

/-- The registers of a port that is to be available and powered up, but for its routes; or the code
for `imp_rc`. -/
def configRegs (pc : RioPcOnePortConfig) (regs : PortRegs) : Except Nat PortRegs :=
  match overOfPw pc.pw, baudOfLs pc.ls, idleOfIseq pc.iseq, regLswap pc.txLswap,
    regLswap pc.rxLswap with
  | none, _, _, _, _ => .error (pcSetConfig 0x52)
  | _, none, _, _, _ => .error (pcSetConfig (if pc.ls = .ls1p25 then 0x54 else 0x56))
  | _, _, none, _, _ => .error (pcSetConfig 0x58)
  | _, _, _, none, _ => .error (pcSetConfig 0x5A)
  | _, _, _, _, none => .error (pcSetConfig 0x5A)
  | some ptwOver, some baud, some idle, some txSwap, some rxSwap =>
    .ok { regs with
      spxCtl := changedCtl pc ptwOver regs.spxCtl
      oneWr := changedOneWr baud idle regs.oneWr
      plmCtl := changedPlmCtl txSwap rxSwap regs.plmCtl
      plmPol := polOfLanes pc }

/-- A port of the request that is to be available and powered up. -/
def RioPcOnePortConfig.isUp (pc : RioPcOnePortConfig) : Bool := pc.portAvailable ∧ pc.poweredUp

section Compute

variable (rxsPorts : Nat) (sorted : PortConfigs)

/-- No port is to route packets to this one. -/
def clearRoutes (chg : SetRegs) (port : Nat) : SetRegs := fun pt =>
  if pt < rxsPorts then { chg pt with rtEn := (chg pt).rtEn &&& ~~~portBit port } else chg pt

/-- The ports of the request that are to be up are to route packets to this one. -/
def allowRoutes (chg : SetRegs) (port : Nat) : SetRegs := fun pt =>
  if pt < rxsPorts ∧ (sorted pt).isUp then { chg pt with rtEn := (chg pt).rtEn ||| portBit port }
  else chg pt

/-- The bits of the ports of the request that are to be up. -/
def upPorts : BitVec 32 :=
  ((List.range rxsPorts).filter fun pt => (sorted pt).isUp).foldl
    (fun rtEn pt => rtEn ||| portBit pt) 0

/-- The registers that the configuration of a port which is to be up starts from. -/
def upRegs (regs : PortRegs) : PortRegs :=
  { regs with
    plmPwdn := regs.plmPwdn &&& ~~~pwdnCtlPwdnPort
    rtEn := upPorts rxsPorts sorted
    mtcRtEn := mtcRouteEnMtcEn }

/-- A turn of the second loop of `rxs_pc_set_cfg_compute_changes`. -/
def computePort (chg : SetRegs) (port : Nat) : Except Nat SetRegs :=
  let pc := sorted port
  if pc.pnum = rioAllPorts then .ok chg
  else if pc.portAvailable = false then .ok (clearRoutes rxsPorts chg port)
  else if pc.poweredUp = false then
    let down := { chg port with plmPwdn := (chg port).plmPwdn ||| pwdnCtlPwdnPort }
    .ok (clearRoutes rxsPorts (Function.update chg port down) port)
  else
    let routed := allowRoutes rxsPorts sorted chg port
    match configRegs pc (upRegs rxsPorts sorted (routed port)) with
    | .ok regs => .ok (Function.update routed port regs)
    | .error code => .error code

/-- Keep the routes for the time that traffic is halted. -/
def initTemp (chg : SetRegs) : SetRegs := fun port =>
  if port < rxsPorts then
    { chg port with rtEnTemp := (chg port).rtEn, mtcRtEnTemp := (chg port).mtcRtEn }
  else chg port

/-- `rxs_pc_set_cfg_compute_changes`, once the registers are read. -/
def changesOf (chg : SetRegs) : Except Nat SetRegs :=
  match (List.range rxsPorts).foldlM (computePort rxsPorts sorted) chg with
  | .ok chg => .ok (initTemp rxsPorts chg)
  | .error code => .error code

/-- Take a port out of the request. -/
def eraseConfig (port : Nat) : PortConfigs :=
  Function.update sorted port { sorted port with pnum := rioAllPorts }

/-- The request without the ports that are not changed: the loop of
`rxs_pc_set_cfg_maintain_reg_acc`. -/
def eraseUnchanged (curr chg : SetRegs) : PortConfigs := fun port =>
  if port < rxsPorts ∧ curr port = chg port then { sorted port with pnum := rioAllPorts }
  else sorted port

/-- `rxs_pc_set_cfg_maintain_reg_acc`. -/
def maintainRegAcc (inParms : PcSetConfigIn) (curr chg : SetRegs) : PortConfigs :=
  let sorted := eraseUnchanged rxsPorts sorted curr chg
  if inParms.oobRegAcc then sorted
  else eraseConfig (eraseConfig sorted inParms.regAccPort) (oth inParms.regAccPort)

end Compute

/-- The ports whose speed is looked at by `rxs_pc_set_cfg_change_requires_reset`. -/
def baudPorts (sorted : PortConfigs) (port : Nat) : List Nat :=
  if (sorted port).pnum = rioAllPorts then
    if (sorted (oth port)).pnum = rioAllPorts then [] else [oth port]
  else if (sorted (oth port)).pnum = rioAllPorts then [port]
  else [port, oth port]

/-- `rxs_pc_set_cfg_change_requires_reset`. -/
def changeRequiresReset (sorted : PortConfigs) (curr chg : SetRegs) (port : Nat) : Bool :=
  if (sorted port).pnum = rioAllPorts ∧ (sorted (oth port)).pnum = rioAllPorts then false
  else
    (baudPorts sorted port).any (fun pt =>
      (curr pt).oneWr &&& oneWrBaudEn ≠ (chg pt).oneWr &&& oneWrBaudEn) ||
    (curr port).spxCtl &&& (ctlPortLockout ||| ctlPortDis) ≠
      (chg port).spxCtl &&& (ctlPortLockout ||| ctlPortDis)

/-- The values of the local variables that are used before they are set: the current configuration,
the registers and the codes of `rxs_rio_pc_set_config`, and `clear` when traffic of a port is
halted. -/
structure SetCfgLocals where
  currOut : PortConfigs
  curr : SetRegs
  chg : SetRegs
  clear : Nat → Bool
  rc : Nat

/-- Local variables that happen to be 0. -/
def zeroLocals : SetCfgLocals where
  currOut := unknownConfig
  curr _ := ⟨0, 0, 0, 0, 0, 0, 0, 0, 0⟩
  chg _ := ⟨0, 0, 0, 0, 0, 0, 0, 0, 0⟩
  clear _ := false
  rc := 0

section Programs

variable {μ δ : Type} (device : RegDevice Reg δ)

def readPortRegs (regs : PortRegs) (port : Nat) : RcProgram μ δ PortRegs := do
  let plmPwdn ← regRead device (.port .pwdnCtl port) id
  let spxCtl ← regRead device (.port .ctl port) id
  let oneWr ← regRead device (.port .oneWr port) id
  let plmCtl ← regRead device (.port .impSpecCtl port) id
  let plmPol ← regRead device (.port .polCtl port) id
  let rtEn ← regRead device (.port .routeEn port) id
  let mtcRtEn ← regRead device (.port .mtcRouteEn port) id
  pure { regs with plmPwdn, spxCtl, oneWr, plmCtl, plmPol, rtEn, mtcRtEn }

/-- A turn of the first loop of `rxs_pc_set_cfg_compute_changes`. -/
def readNamedRegs (sorted : PortConfigs) (curr : SetRegs) (port : Nat) : PcProgram δ SetRegs :=
  if (sorted port).pnum = rioAllPorts then pure curr
  else do
    let regs ← orLeave (pcSetConfig 0x50) (readPortRegs device (curr port) port)
    pure (Function.update curr port regs)

/-- The registers to change: those that were read, for the ports of the request. -/
def namedRegs (sorted : PortConfigs) (chg curr : SetRegs) : SetRegs := fun port =>
  if (sorted port).pnum = rioAllPorts then chg port else curr port

/-- `rxs_pc_set_cfg_compute_changes`. -/
def computeChanges (rxsPorts : Nat) (sorted : PortConfigs) (curr chg : SetRegs) :
    PcProgram δ (SetRegs × SetRegs) := do
  let curr ← (List.range rxsPorts).foldlM (readNamedRegs device sorted) curr
  match changesOf rxsPorts sorted (namedRegs sorted chg curr) with
  | .ok chg => pure (curr, chg)
  | .error impRc => leave impRc rioErrInvalidParameter

/-- What was read says that there are packets from or for the port. -/
def isPending (port pt : Nat) (voq mVoq : BitVec 32) : Bool :=
  if pt = port then voq ||| mVoq ≠ 0 else voq &&& portBit port ≠ 0 ∨ mVoq &&& portBit port ≠ 0

/-- `traffic_halted`, over the ports from one on: whether no packets are pending. -/
def trafficHalted (port : Nat) : List Nat → PcProgram δ Bool
  | [] => pure true
  | pt :: pts => do
      let voq ← readReg device (.port .voqAct pt) (pcSetConfig 0xC8)
      let mVoq ← readReg device (.port .mtcVoqAct pt) (pcSetConfig 0xC9)
      if isPending port pt voq mVoq then pure false else trafficHalted port pts

/-- Call a function; if it fails, overwrite `imp_rc` and leave. -/
def overwriting {α : Type} (impRc : Nat) (program : PcProgram δ α) : PcProgram δ α := fun state =>
  match program state with
  | .ok value after => .ok value after
  | .error stop after => .error stop { after with memory := impRc }

/-- The attempts of `rxs_pc_set_cfg_halt_traffic` to see traffic halted. -/
def awaitHalted (rxsPorts port : Nat) : Nat → PcProgram δ Bool
  | 0 => pure false
  | attempts + 1 => do
      let clear ← overwriting (pcSetConfig 0xCF) (trafficHalted device port (List.range rxsPorts))
      if clear then pure true else awaitHalted rxsPorts port attempts

/-- Call a function that does not set `imp_rc` and go on with the code that it returns. -/
def attemptRc (program : RcProgram Nat δ Unit) : PcProgram δ Nat := fun state =>
  match program state with
  | .ok () after => .ok 0 after
  | .error rc after => .ok rc after

section Rules

variable {Pre : Attached Nat δ → Prop} {Fail : PcStop → Attached Nat δ → Prop}

theorem overwriting_meets {α : Type} {impRc : Nat} {program : PcProgram δ α}
    {Post : α → Attached Nat δ → Prop} {FailBefore : PcStop → Attached Nat δ → Prop}
    (meets : Meets Pre program Post FailBefore)
    (leaves : ∀ stop state, FailBefore stop state → Fail stop { state with memory := impRc }) :
    Meets Pre (overwriting impRc program) Post Fail := by
  apply meets.called (fun state => state) fun _ before => before
  intro state
  unfold overwriting
  cases program state with
  | ok value after => exact fun ends => ends
  | error stop after => exact leaves stop after

theorem attemptRc_meets {program : RcProgram Nat δ Unit} {Post : Nat → Attached Nat δ → Prop}
    {FailRc : Nat → Attached Nat δ → Prop} (meets : Meets Pre program (fun _ => Post 0) FailRc)
    (goesOn : ∀ rc state, FailRc rc state → Post rc state) :
    Meets Pre (attemptRc program) Post Fail := by
  apply meets.called (fun state => state) fun _ before => before
  intro state
  unfold attemptRc
  cases program state with
  | ok value after => exact fun ends => ends
  | error rc after => exact goesOn rc after

end Rules

/-- The routes while traffic of a port is halted. -/
def haltRoutes (rxsPorts : Nat) (chg : SetRegs) (port : Nat) : SetRegs := fun pt =>
  let temp := if pt = port then 0 else (chg pt).rtEnTemp
  if pt < rxsPorts then { chg pt with rtEnTemp := temp &&& ~~~portBit port }
  else { chg pt with rtEnTemp := temp }

/-- `rxs_pc_set_cfg_halt_traffic`; `clear` is not set before it is used. -/
def haltTraffic (rxsPorts : Nat) (clear : Bool) (chg : SetRegs) (port : Nat) :
    PcProgram δ SetRegs := do
  (List.range rxsPorts).forM fun pt =>
    writeReg device (.port .routeEn pt) (haltRoutes rxsPorts chg port pt).rtEnTemp
      (pcSetConfig 0xC0)
  let rc ← attemptRc (regWrite device (.port .mtcRouteEn port) 0 id)
  if clear then
    failIf (rc ≠ 0) (.code rc)
    pure (haltRoutes rxsPorts chg port)
  else
    let clear ← awaitHalted device rxsPorts port 1000
    failIf (!clear) (.code rioErrReturnNoResult)
    pure (haltRoutes rxsPorts chg port)

/-- `rxs_pc_set_cfg_write_regs`. -/
def writeRegs (regs : PortRegs) (port : Nat) : PcProgram δ Unit := do
  writeReg device (.port .pwdnCtl port) regs.plmPwdn (pcSetConfig 0xD0)
  writeReg device (.port .ctl port) regs.spxCtl (pcSetConfig 0xD2)
  writeReg device (.port .impSpecCtl port) regs.plmCtl (pcSetConfig 0xD4)
  writeReg device (.port .oneWr port) regs.oneWr (pcSetConfig 0xD6)
  writeReg device (.port .polCtl port) regs.plmPol (pcSetConfig 0xD8)

/-- `rxs_pc_set_cfg_start_traffic`. -/
def startTraffic (regs : PortRegs) (port : Nat) : PcProgram δ Unit := do
  writeReg device (.port .routeEn port) regs.rtEn (pcSetConfig 0xE0)
  writeReg device (.port .mtcRouteEn port) regs.mtcRtEn (pcSetConfig 0xE8)

/-- Halt traffic of a port that must be reset.  The code of the last function that was called is
kept with the registers. -/
def haltIfReset (rxsPorts : Nat) (locals : SetCfgLocals) (sorted : PortConfigs) (curr : SetRegs)
    (carried : Nat × SetRegs) (port : Nat) : PcProgram δ (Nat × SetRegs) :=
  if changeRequiresReset sorted curr carried.2 port then do
    let chg ← haltTraffic device rxsPorts (locals.clear port) carried.2 port
    pure (0, chg)
  else pure carried

/-- Write the registers of a port of the request.  The code is not looked at. -/
def writeNamedRegs (sorted : PortConfigs) (chg : SetRegs) (port : Nat) : PcProgram δ Unit :=
  if (sorted port).pnum = port then do
    let _ ← attempt (writeRegs device (chg port) port)
  else pure ()

/-- A turn of the first loop of `rxs_pc_set_cfg_program_changes`. -/
def programPair (rxsPorts : Nat) (locals : SetCfgLocals) (sorted : PortConfigs) (curr : SetRegs)
    (carried : Nat × SetRegs) (port : Nat) : PcProgram δ (Nat × SetRegs) := do
  let carried ← haltIfReset device rxsPorts locals sorted curr carried port
  let carried ← haltIfReset device rxsPorts locals sorted curr carried (oth port)
  writeNamedRegs device sorted carried.2 port
  writeNamedRegs device sorted carried.2 (oth port)
  pure carried

/-- A turn of the second loop of `rxs_pc_set_cfg_program_changes`. -/
def startIfUp (sorted : PortConfigs) (chg : SetRegs) (rc port : Nat) : PcProgram δ Nat :=
  if (sorted port).isUp then attempt (startTraffic device (chg port) port) else pure rc

/-- `rxs_pc_set_cfg_program_changes`. -/
def programChanges (rxsPorts : Nat) (locals : SetCfgLocals) (sorted : PortConfigs)
    (curr chg : SetRegs) : PcProgram δ Unit := do
  let (rc, chg) ← (evenPorts rxsPorts).foldlM (programPair device rxsPorts locals sorted curr)
    (locals.rc, chg)
  let rc ← (List.range rxsPorts).foldlM (startIfUp device sorted chg) rc
  failIf (rc ≠ 0) (.code rc)

/-- A request for all ports. -/
def allPortsPtl : DarPtl := ⟨rioAllPorts, fun _ => 0⟩

/-- The current configuration by port. -/
def currentConfigs (locals : SetCfgLocals) (out : PcGetConfigOut) : PortConfigs := fun port =>
  match out.pc[port]? with
  | some pc => pc
  | none => locals.currOut port

/-- `rxs_rio_pc_set_config`.  The first call of `rxs_rio_pc_get_config` has an `imp_rc` of its own,
which is copied if it fails. -/
def rxsRioPcSetConfig (numPorts : Nat) (locals : SetCfgLocals) (inParms : PcSetConfigIn) :
    PcProgram δ PcGetConfigOut := do
  setImpRc 0
  match checkParms (numRxsPorts numPorts) inParms with
  | .error impRc => leave impRc rioErrInvalidParameter
  | .ok sorted =>
    orLeave (pcSetConfig 0x20) (rxsSetLrto device inParms.lrto)
    let currOut ← rxsRioPcGetConfig device numPorts allPortsPtl
    match checkConflicts (numRxsPorts numPorts) sorted (currentConfigs locals currOut) with
    | some code => leave (pcSetConfig code) rioErrInvalidParameter
    | none =>
      let (curr, chg) ← computeChanges device (numRxsPorts numPorts) sorted locals.curr
        locals.chg
      programChanges device (numRxsPorts numPorts) locals
        (maintainRegAcc (numRxsPorts numPorts) sorted inParms curr chg) curr chg
      rxsRioPcGetConfig device numPorts allPortsPtl

end Programs

end RioFabric.RxsPort

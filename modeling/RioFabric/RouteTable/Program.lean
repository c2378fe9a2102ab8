import RioFabric.Lib.Exec
import RioFabric.RouteTable.Edit

/-!
# Programming the device

`rxs_rio_rt_set_all`, `rxs_rio_rt_set_changed` and `rxs_rio_rt_initialize` write a routing
table to the registers of an RXS switch.  A port has its own routing tables and multicast
masks; registers for `RIO_ALL_PORTS` reach the tables of every port.
-/

namespace RioFabric.RouteTable

open Lib

def rioAllPorts : Nat := 0xFF

/-- What the routing registers of a device hold, port by port. -/
structure RxsHw where
  dfltRoute : BitVec 32
  domRte : Nat → RtIdx → BitVec 32
  devRte : Nat → RtIdx → BitVec 32
  mcMask : Nat → RtIdx → BitVec 32

/-- The registers of `setOnPort` are those of `port`, or reach every port. -/
def Reaches (setOnPort port : Nat) : Prop := setOnPort = rioAllPorts ∨ port = setOnPort

instance (setOnPort port : Nat) : Decidable (Reaches setOnPort port) :=
  inferInstanceAs (Decidable (_ ∨ _))

/-- One entry of a table of registers changes on the ports that are reached. -/
def writeReg (setOnPort : Nat) (idx : RtIdx) (write : BitVec 32 → BitVec 32)
    (regs : Nat → RtIdx → BitVec 32) : Nat → RtIdx → BitVec 32 := fun port other =>
  if Reaches setOnPort port ∧ other = idx then write (regs port other) else regs port other

/-- The register accesses made here. -/
inductive RegAccess where
  | writeDfltRoute
  | writeDomRte (setOnPort : Nat) (idx : RtIdx)
  | writeDevRte (setOnPort : Nat) (idx : RtIdx)
  | readMcMask (port : Nat) (idx : RtIdx)
  | setMcMask (setOnPort : Nat) (idx : RtIdx)
  | clrMcMask (setOnPort : Nat) (idx : RtIdx)

/-- How register accesses end: `none` is success.  No call below makes an access twice. -/
abbrev RegBus := RegAccess → Option Nat

/-- The table in memory and the device. -/
structure RxsState where
  rt : RioRtState
  hw : RxsHw

abbrev RxsProgram := EStateM RtRc RxsState

/-- An access that fails ends the call with its code. -/
def regAccess (bus : RegBus) (access : RegAccess) (impRc : ImpRc) : RxsProgram Unit :=
  match bus access with
  | some code => throw (.regError code, impRc)
  | none => pure ()

def darRegRead (bus : RegBus) (access : RegAccess) (impRc : ImpRc) (read : RxsHw → BitVec 32) :
    RxsProgram (BitVec 32) := do
  regAccess bus access impRc
  let state ← get
  return read state.hw

def darRegWrite (bus : RegBus) (access : RegAccess) (impRc : ImpRc) (write : RxsHw → RxsHw) :
    RxsProgram Unit := do
  regAccess bus access impRc
  modify fun state => { state with hw := write state.hw }

/-- The ports a mask can have, `RXS2448_RIO_BC_MC_X_S_CSR_SET` and its RXS1632 version. -/
def rxsMaskMask : DevCode → Option (BitVec 32)
  | .rxs2448 => some 0x00FFFFFF
  | .rxs1632 => some 0x0000FFFF
  | .other => none

/-- The mask has been programmed. -/
def RioRtState.unmarkMcMask (rt : RioRtState) (idx : RtIdx) : RioRtState :=
  { rt with
    mcMasks := Function.update rt.mcMasks idx { rt.mcMasks idx with changed := false } }

def RioRtState.unmarkDomRte (rt : RioRtState) (idx : RtIdx) : RioRtState :=
  { rt with
    domTable := Function.update rt.domTable idx { rt.domTable idx with changed := false } }

def RioRtState.unmarkDevRte (rt : RioRtState) (idx : RtIdx) : RioRtState :=
  { rt with
    devTable := Function.update rt.devTable idx { rt.devTable idx with changed := false } }

/-- The bits a mask has now.  A broadcast cannot know them: it takes none as set here, and
all as set before it clears. -/
def readCurrMsk (bus : RegBus) (setOnPort : Nat) (idx : RtIdx) : RxsProgram (BitVec 32) :=
  if setOnPort = rioAllPorts then pure 0
  else
    darRegRead bus (.readMcMask setOnPort idx) (.rxsProgramMcMasks 0xF) fun hw =>
      hw.mcMask setOnPort idx

/-- If there are bits to set or to clear, write them. -/
def writeChgBits (bus : RegBus) (access : RegAccess) (impRc : ImpRc) (setOnPort : Nat)
    (idx : RtIdx) (chgBits : BitVec 32) (write : BitVec 32 → BitVec 32 → BitVec 32) :
    RxsProgram Unit :=
  if chgBits ≠ 0 then
    darRegWrite bus access impRc fun hw =>
      { hw with mcMask := writeReg setOnPort idx (write chgBits) hw.mcMask }
  else pure ()

/-- The loop body of `rxs_program_mc_masks`.  A mask has one register that sets bits and
one that clears them; reading the first returns the mask. -/
def rxsProgramMcMask (bus : RegBus) (setOnPort : Nat) (setAll : Bool) (maskMask : BitVec 32)
    (idx : RtIdx) : RxsProgram Unit := do
  let state ← get
  let mask := state.rt.mcMasks idx
  if mask.changed || setAll then
    failIf (mask.mcMask &&& ~~~maskMask ≠ 0) (.rioErrInvalidParameter, .rxsProgramMcMasks 5)
    let currMsk ← readCurrMsk bus setOnPort idx
    writeChgBits bus (.setMcMask setOnPort idx) (.rxsProgramMcMasks 0x10) setOnPort idx
      (~~~currMsk &&& mask.mcMask &&& maskMask) fun chgBits held => held ||| chgBits
    let currMsk := if setOnPort = rioAllPorts then maskMask else currMsk
    writeChgBits bus (.clrMcMask setOnPort idx) (.rxsProgramMcMasks 0x20) setOnPort idx
      (currMsk &&& ~~~mask.mcMask &&& maskMask) fun chgBits held => held &&& ~~~chgBits
    modify fun state => { state with rt := state.rt.unmarkMcMask idx }

def rxsProgramMcMasks (devInfo : DarDevInfo) (bus : RegBus) (setOnPort : Nat) (setAll : Bool) :
    RxsProgram Unit := do
  let maskMask ← orFail (rxsMaskMask devInfo.devCode)
    (.rioErrNoFunctionSupport, .rxsProgramMcMasks 1)
  (List.finRange 256).forM (rxsProgramMcMask bus setOnPort setAll maskMask)

/-- The first loop body of `rxs_program_rte_entries`. -/
def rxsProgramDomRte (bus : RegBus) (setOnPort : Nat) (setAll : Bool) (idx : RtIdx) :
    RxsProgram Unit := do
  let state ← get
  let rte := state.rt.domTable idx
  if rte.changed || setAll then
    darRegWrite bus (.writeDomRte setOnPort idx) (.rxsProgramRteEntries 2) fun hw =>
      { hw with domRte := writeReg setOnPort idx (fun _ => rte.rteVal) hw.domRte }
    modify fun state => { state with rt := state.rt.unmarkDomRte idx }

/-- The second loop body of `rxs_program_rte_entries`. -/
def rxsProgramDevRte (bus : RegBus) (setOnPort : Nat) (setAll : Bool) (idx : RtIdx) :
    RxsProgram Unit := do
  let state ← get
  let rte := state.rt.devTable idx
  if rte.changed || setAll then
    failIf (rioRtvIsLvlGrp rte.rteVal = true) (.rioErrInvalidParameter, .rxsProgramRteEntries 3)
    darRegWrite bus (.writeDevRte setOnPort idx) (.rxsProgramRteEntries 4) fun hw =>
      { hw with devRte := writeReg setOnPort idx (fun _ => rte.rteVal) hw.devRte }
    modify fun state => { state with rt := state.rt.unmarkDevRte idx }

def rxsProgramRteEntries (bus : RegBus) (setOnPort : Nat) (setAll : Bool) : RxsProgram Unit := do
  let state ← get
  darRegWrite bus .writeDfltRoute (.rxsProgramRteEntries 0x10) fun hw =>
    { hw with dfltRoute := state.rt.defaultRoute }
  (List.finRange 256).forM (rxsProgramDomRte bus setOnPort setAll)
  (List.finRange 256).forM (rxsProgramDevRte bus setOnPort setAll)

section

variable (devInfo : DarDevInfo)

def rxsChkDfltRteReg (val : PeRtVal) : Bool :=
  (rxsChkAndCorrRtv devInfo ⟨val, false⟩ false true).changed

def rxsRtSetCommon (bus : RegBus) (setOnPort : Nat) (setAll : Bool) :
    RxsProgram Unit := do
  failIf (setOnPort ≠ rioAllPorts ∧ setOnPort ≥ devInfo.numRxsPorts)
    (.rioErrInvalidParameter, .rxsRteSetCommon 1)
  let state ← get
  failIf (rxsChkDfltRteReg devInfo state.rt.defaultRoute = true)
    (.rioErrInvalidParameter, .rxsRteSetCommon 3)
  rxsProgramMcMasks devInfo bus setOnPort setAll
  rxsProgramRteEntries bus setOnPort setAll

def rxsRioRtSetAll (bus : RegBus) (setOnPort : Nat) : RxsProgram Unit :=
  rxsRtSetCommon devInfo bus setOnPort true

def rxsRioRtSetChanged (bus : RegBus) (setOnPort : Nat) :
    RxsProgram Unit :=
  rxsRtSetCommon devInfo bus setOnPort false

end

/-- `rio_rt_initialize_in_t`, less the pointer to the table. -/
structure RioRtInitializeIn where
  setOnPort : Nat
  defaultRoute : PeRtVal
  defaultRouteTablePort : PeRtVal
  updateHw : Bool

/-- The table that `rxs_rio_rt_initialize` fills in. -/
def initialRt (inParms : RioRtInitializeIn) : RioRtState where
  defaultRoute := inParms.defaultRoute
  devTable := fun _ => ⟨inParms.defaultRouteTablePort, true⟩
  domTable := fun idx => ⟨if idx = 0 then rioRteLvlG0 else inParms.defaultRouteTablePort, true⟩
  mcMasks := fun _ =>
    { mcDestId := 0, tt := .ttDev8, mcMask := 0, inUse := false, allocd := false, changed := true }

def rxsRioRtInitialize (devInfo : DarDevInfo) (bus : RegBus) (inParms : RioRtInitializeIn) :
    RxsProgram Unit := do
  failIf (rxsChkDfltRteReg devInfo inParms.defaultRoute = true)
    (.rioErrInvalidParameter, .rtInitialize 1)
  failIf ((rxsChkAndCorrRtv devInfo ⟨inParms.defaultRouteTablePort, false⟩ false false).changed =
      true)
    (.rioErrInvalidParameter, .rtInitialize 1)
  failIf (inParms.setOnPort ≥ devInfo.numRxsPorts ∧ inParms.setOnPort ≠ rioAllPorts)
    (.rioErrInvalidParameter, .rtInitialize 3)
  modify fun state => { state with rt := initialRt inParms }
  if inParms.updateHw then rxsRioRtSetChanged devInfo bus inParms.setOnPort else pure ()

end RioFabric.RouteTable

import RioFabric.Tsi57xPort.Registers

/-!
# The configuration of Tsi57x ports

Whether a port is available depends on the mode of its MAC, and whether it is powered up on a bit
that the Tsi577 has in the register of another MAC for some of the ports.
-/

namespace RioFabric.Tsi57xPort

open Lib Dar PortConfig
open RxsPort (RioPcPw RioPcLs RioPcFc RioPcIdleSeq RioLaneSwap RioPcOnePortConfig
  pcGetConfig rioMaxPortLanes PcGetConfigOut)

/-- How many lanes a port has, from the register of its MAC. -/
def PortMacRelations.numLanes (pmr : PortMacRelations) (dloop : BitVec 32) : Nat :=
  if dloop &&& dloopMacMode ≠ 0 then pmr.laneCount1x else pmr.laneCount4x

/-- The width of a port with four lanes, from what overrides it. -/
def pwOf (spxCtl : BitVec 32) : RioPcPw :=
  let override := (spxCtl &&& ctlPtwOver) >>> 24
  if override = 0 then .pw4x
  else if override = 2 then .pw1xL0
  else if override = 3 then .pw1xL2
  else .last

/-- The speed of the lanes of a MAC. -/
def lsOf (dloop : BitVec 32) : RioPcLs :=
  let clkSel := dloop &&& dloopClkSel
  if clkSel = 0 then .ls1p25 else if clkSel = 1 then .ls2p5 else .ls3p125

/-- How the lanes of a MAC are swapped. -/
def lswapOf (dloop mask : BitVec 32) : RioLaneSwap :=
  if dloop &&& mask ≠ 0 then .abcdDcba else .none

/-- The configuration of a port that is powered down, before its lanes are looked at. -/
def downConfig (pnum : Nat) : RioPcOnePortConfig where
  pnum := pnum
  portAvailable := false
  poweredUp := false
  pw := .last
  ls := .last
  fc := .rx
  iseq := .one
  xmitterDisable := false
  portLockout := false
  nmtcXferEnable := false
  txLswap := .none
  txLinvert _ := false
  rxLswap := .none
  rxLinvert _ := false

/-- Enter how the lanes are swapped. -/
def withLswap (dloop : BitVec 32) (pc : RioPcOnePortConfig) : RioPcOnePortConfig :=
  { pc with rxLswap := lswapOf dloop dloopSwapRx, txLswap := lswapOf dloop dloopSwapTx }

/-- Enter what the registers of a port that is powered up say; `lanes` are those of its lanes. -/
def withUp (spxCtl : BitVec 32) (lanes : List (BitVec 32)) (pc : RioPcOnePortConfig) :
    RioPcOnePortConfig :=
  { pc with
    poweredUp := true
    xmitterDisable := spxCtl &&& ctlPortDis ≠ 0
    portLockout := spxCtl &&& ctlPortLockout ≠ 0
    nmtcXferEnable := spxCtl &&& ctlInputEn ≠ 0 ∧ spxCtl &&& ctlOutputEn ≠ 0
    rxLinvert lane := lanes.getD lane.val 0 &&& serdesRxInv ≠ 0
    txLinvert lane := lanes.getD lane.val 0 &&& serdesTxInv ≠ 0 }

section GetConfig

variable {μ δ : Type} [HasImpRc μ] (dev : Tsi57xDevice) (device : RegDevice Reg δ)

def tsi57xGetLrto : EStateM Nat (Attached μ δ) Nat := do
  let lrto ← regRead device (.dev rioSwLtCtl) id
  pure ((lrto >>> 8).toNat * 32 / 10)

/-- The first switch of `tsi57x_rio_pc_get_config`. -/
def getWidth (pnum numLanes : Nat) (dloop : BitVec 32) (pc : RioPcOnePortConfig) :
    Call μ δ RioPcOnePortConfig :=
  match numLanes with
  | 0 => pure { pc with portAvailable := false }
  | 1 =>
    let pc := { pc with portAvailable := true, pw := .pw1x }
    pure (if (dev.pmr pnum).laneCount4x = 4 then withLswap dloop pc else pc)
  | 4 => do
      let spxCtl ← readReg device (.port .ctl pnum) (pcGetConfig 5)
      pure (withLswap dloop { pc with portAvailable := true, pw := pwOf spxCtl })
  | _ => leave (pcGetConfig 6) RxsPort.rioErrNotExpectedReturnValue

/-- The register that says whether a port is powered down. -/
def readPwr (pnum : Nat) (dloop : BitVec 32) (impRc : Nat) : Call μ δ (BitVec 32) :=
  if (dev.pmr pnum).macNum ≠ (dev.pmr pnum).pwrMacNum then
    readReg device (.dloop ((dev.pmr pnum).pwrMacNum * 2)) impRc
  else pure dloop

/-- A turn of the loop of `tsi57x_rio_pc_get_config`. -/
def getPortConfig (pnum : Nat) : Call μ δ RioPcOnePortConfig := do
  let pmr := dev.pmr pnum
  let dloop ← readReg device (.dloop (pmr.macNum * 2)) (pcGetConfig 4)
  let pc ← getWidth dev device pnum (pmr.numLanes dloop) dloop (downConfig pnum)
  let pc := { pc with ls := lsOf dloop }
  let pwr ← readPwr dev device pnum dloop (pcGetConfig 7)
  if pwr &&& pmr.pwrDownMask ≠ 0 then pure pc
  else do
    let spxCtl ← readReg device (.port .ctl pnum) (pcGetConfig 8)
    let lanes ← (List.range' pmr.firstMacLane (pmr.numLanes dloop)).mapM fun lane =>
      readReg device (.serdes pmr.macNum lane) (pcGetConfig 9)
    pure (withUp spxCtl lanes pc)

def tsi57xRioPcGetConfig (ptl : DarPtl) : Call μ δ PcGetConfigOut := do
  setImpRc 0
  let ports ← getPortList dev ptl (pcGetConfig 1)
  let lrto ← orLeave (pcGetConfig 4) (tsi57xGetLrto device)
  let pc ← ports.mapM (getPortConfig dev device)
  pure ⟨lrto, pc⟩

end GetConfig

section Preserves

variable {μ δ : Type} [HasImpRc μ] {dev : Tsi57xDevice} {device : RegDevice Reg δ}
  {Inv : δ → Prop} {allowed : Reg → BitVec 32 → Prop} {ptl : DarPtl} {impRc : Nat}

theorem getPortList_meets :
    Meets (fun state => Inv state.device) (getPortList dev ptl impRc : Call μ δ (List Nat))
      (fun ports state => darDbRioGetPortList dev.numPorts ptl = .ok ports ∧ Inv state.device)
      fun _ state => Inv state.device := by
  unfold getPortList
  split
  next ports made => exact Meets.pure fun _ before => ⟨made, before⟩
  next => exact leave_meets fun _ before => before
  next => exact Meets.throw fun _ before => before

theorem getPortList_preserves :
    Preserves Inv (getPortList dev ptl impRc : Call μ δ (List Nat)) :=
  getPortList_meets.weakenPost fun _ _ made => made.2

section

variable (keeps : device.Keeps Inv allowed)
include keeps

theorem readPwr_preserves {pnum : Nat} {dloop : BitVec 32} :
    Preserves Inv (readPwr dev device pnum dloop impRc : Call μ δ (BitVec 32)) := by
  apply Preserves.ite
  · exact fun _ => readReg_preserves keeps
  · exact fun _ => Preserves.pure _

theorem getPortConfig_preserves {pnum : Nat} :
    Preserves Inv (getPortConfig dev device pnum : Call μ δ _) := by
  apply (readReg_preserves keeps).bind
  intro dloop
  apply Preserves.bind
  · unfold getWidth
    split
    next => exact Preserves.pure _
    next => exact Preserves.pure _
    next => exact (readReg_preserves keeps).bind fun _ => Preserves.pure _
    next => exact leave_preserves
  intro pc
  apply (readPwr_preserves keeps).bind
  intro pwr
  apply Preserves.ite (fun _ => Preserves.pure _)
  intro _
  apply (readReg_preserves keeps).bind
  intro spxCtl
  apply (Preserves.mapM fun lane _ => readReg_preserves keeps).bind
  exact fun lanes => Preserves.pure _

theorem tsi57xRioPcGetConfig_preserves :
    Preserves Inv (tsi57xRioPcGetConfig dev device ptl : Call μ δ _) := by
  apply setImpRc_preserves.bind
  intro _
  apply getPortList_preserves.bind
  intro ports
  apply (orLeave_preserves (keeps.regRead.bind fun _ => Preserves.pure _)).bind
  intro lrto
  apply (Preserves.mapM fun pnum _ => getPortConfig_preserves keeps).bind
  exact fun pc => Preserves.pure _

end

end Preserves

section Values

variable (dev : Tsi57xDevice) (values : Reg → BitVec 32)

/-- What the register of the MAC of a port holds. -/
def dloopAt (pnum : Nat) : BitVec 32 := values (.dloop ((dev.pmr pnum).macNum * 2))

/-- What the register that says whether a port is powered down holds. -/
def pwrAt (pnum : Nat) : BitVec 32 := values (.dloop ((dev.pmr pnum).pwrMacNum * 2))

/-- How many lanes a port has, from what the registers hold. -/
def numLanesAt (pnum : Nat) : Nat := (dev.pmr pnum).numLanes (dloopAt dev values pnum)

/-- A port with its width entered. -/
def widthAt (pnum : Nat) : RioPcOnePortConfig :=
  let dloop := dloopAt dev values pnum
  match numLanesAt dev values pnum with
  | 0 => { downConfig pnum with portAvailable := false }
  | 1 =>
    let pc := { downConfig pnum with portAvailable := true, pw := .pw1x }
    if (dev.pmr pnum).laneCount4x = 4 then withLswap dloop pc else pc
  | _ =>
    withLswap dloop
      { downConfig pnum with portAvailable := true, pw := pwOf (values (.port .ctl pnum)) }

/-- The configuration of a port. -/
def configAt (pnum : Nat) : RioPcOnePortConfig :=
  let pc := { widthAt dev values pnum with ls := lsOf (dloopAt dev values pnum) }
  if pwrAt dev values pnum &&& (dev.pmr pnum).pwrDownMask ≠ 0 then pc
  else withUp (values (.port .ctl pnum))
    ((List.range' (dev.pmr pnum).firstMacLane (numLanesAt dev values pnum)).map fun lane =>
      values (.serdes (dev.pmr pnum).macNum lane)) pc

end Values

section Reads

variable {μ δ : Type} [HasImpRc μ] {dev : Tsi57xDevice} {device : RegDevice Reg δ}
  {Inv : δ → Prop} {fails : Prop} {values : Reg → BitVec 32} {pnum : Nat} {ports : List Nat}

theorem pmr_of_mem {P : PortMacRelations → Prop} (listed : ∀ pmr ∈ dev.swPmr, P pmr)
    (last : P ⟨0, 0, 0, 0, 0, pwdnX1, []⟩) (pnum : Nat) : P (dev.pmr pnum) := by
  rw [Tsi57xDevice.pmr]
  cases isPort : dev.swPmr[pnum]? with
  | none => exact last
  | some pmr => exact listed pmr (List.mem_of_getElem? isPort)

theorem laneCounts (pnum : Nat) :
    (dev.pmr pnum).laneCount1x ≤ 1 ∧
      ((dev.pmr pnum).laneCount4x = 0 ∨ (dev.pmr pnum).laneCount4x = 4) := by
  apply pmr_of_mem
    (P := fun pmr => pmr.laneCount1x ≤ 1 ∧ (pmr.laneCount4x = 0 ∨ pmr.laneCount4x = 4))
  · cases dev <;> decide
  · decide

theorem numLanes_cases (pnum : Nat) (dloop : BitVec 32) :
    (dev.pmr pnum).numLanes dloop = 0 ∨ (dev.pmr pnum).numLanes dloop = 1 ∨
      (dev.pmr pnum).numLanes dloop = 4 := by
  obtain ⟨few, none | all⟩ := @laneCounts dev pnum <;> unfold PortMacRelations.numLanes <;>
    split <;> omega

variable (tells : device.Tells Inv values fails)

include tells

theorem getWidth_reads :
    Reads Inv fails
      (getWidth dev device pnum (numLanesAt dev values pnum) (dloopAt dev values pnum)
        (downConfig pnum) : Call μ δ _) (widthAt dev values pnum) := by
  rw [widthAt]
  rcases @numLanes_cases dev pnum (dloopAt dev values pnum) with none | one | four
  · rw [numLanesAt, none]
    exact Reads.pure _
  · rw [numLanesAt, one]
    exact Reads.pure _
  · rw [numLanesAt, four]
    exact (readReg_reads tells).bind (Reads.pure _)

theorem readPwr_reads {impRc : Nat} :
    Reads Inv fails (readPwr dev device pnum (dloopAt dev values pnum) impRc : Call μ δ _)
      (pwrAt dev values pnum) := by
  unfold readPwr
  split
  next => exact readReg_reads tells
  next same =>
    rw [pwrAt, ← not_not.mp same]
    exact Reads.pure _

theorem getPortConfig_reads :
    Reads Inv fails (getPortConfig dev device pnum : Call μ δ _) (configAt dev values pnum) := by
  apply (readReg_reads tells).bind
  apply (getWidth_reads tells).bind
  apply (readPwr_reads tells).bind
  apply Reads.ite
  · exact fun _ => Reads.pure _
  · intro _
    apply (readReg_reads tells).bind
    apply (Reads.mapM fun lane _ => readReg_reads tells).bind
    exact Reads.pure _

omit [HasImpRc μ] in
theorem tsi57xGetLrto_reads :
    Reads Inv fails (tsi57xGetLrto device : EStateM Nat (Attached μ δ) Nat)
      ((values (.dev rioSwLtCtl) >>> 8).toNat * 32 / 10) :=
  tells.regRead.bind (Reads.pure _)

omit tells in
theorem getPortList_reads {ptl : DarPtl} {impRc : Nat}
    (made : darDbRioGetPortList dev.numPorts ptl = .ok ports) :
    Reads Inv fails (getPortList dev ptl impRc : Call μ δ _) ports := by
  rw [getPortList, made]
  exact Reads.pure _

theorem tsi57xRioPcGetConfig_reads {ptl : DarPtl}
    (made : darDbRioGetPortList dev.numPorts ptl = .ok ports) :
    Reads Inv fails (tsi57xRioPcGetConfig dev device ptl : Call μ δ _)
      ⟨(values (.dev rioSwLtCtl) >>> 8).toNat * 32 / 10, ports.map (configAt dev values)⟩ := by
  apply setImpRc_reads.bind
  apply (getPortList_reads made).bind
  apply (orLeave_reads (tsi57xGetLrto_reads tells)).bind
  apply (Reads.mapM fun pnum _ => getPortConfig_reads tells).bind
  exact Reads.pure _

end Reads

end RioFabric.Tsi57xPort

import RioFabric.RxsPort.Status
import RioFabric.Tsi57xPort.Config

/-!
# The status of Tsi57x ports

A port that has no lanes, or is powered down, has no status to speak of.
-/

namespace RioFabric.Tsi57xPort

open Lib Dar PortConfig
open RxsPort (RioPcPw RioPcOnePortStatus pcGetStatus)

/-- The width of a port that is `PORT_OK`. -/
def initPwOf (numLanes : Nat) (spxCtl : BitVec 32) : RioPcPw :=
  let init := (spxCtl &&& ctlInitPwidth) >>> 27
  if init = 0 then if numLanes = 1 then .pw1x else .pw1xL0
  else if init = 1 then .pw1xL2
  else if init = 2 then .pw4x
  else .last

/-- The status of a port that has no lanes. -/
def downStatus (pnum firstLane : Nat) : RioPcOnePortStatus where
  pnum := pnum
  portOk := false
  pw := .last
  fc := .last
  iseq := .last
  portError := false
  inputStopped := false
  outputStopped := false
  numLanes := 0
  firstLane := firstLane ≠ 0

/-- The status of a port that has lanes. -/
def upStatus (pnum firstLane numLanes : Nat) (errNStat spxCtl : BitVec 32) :
    RioPcOnePortStatus where
  pnum := pnum
  portOk := errNStat &&& errStatusPortOk ≠ 0
  pw := if errNStat &&& errStatusPortOk ≠ 0 then initPwOf numLanes spxCtl else .last
  fc := .last
  iseq := .last
  portError := errNStat &&& errStatusPortErr ≠ 0 ∨
    (spxCtl &&& ctlStopFailEn ≠ 0 ∧ errNStat &&& errStatusOutputFail ≠ 0)
  inputStopped := errNStat &&& errStatusInputErrStop ≠ 0
  outputStopped := errNStat &&& errStatusOutputErrStop ≠ 0
  numLanes := numLanes
  firstLane := firstLane ≠ 0

section GetStatus

variable {μ δ : Type} [HasImpRc μ] (dev : Tsi57xDevice) (device : RegDevice Reg δ)

/-- How many lanes a port has that are powered up. -/
def readNumLanes (idx pnum : Nat) : Call μ δ Nat := do
  let pmr := dev.pmr pnum
  let dloop ← readReg device (.dloop (pmr.macNum * 2)) (pcGetStatus (0x10 + idx))
  if pmr.numLanes dloop = 0 then pure 0
  else do
    let pwr ← readPwr dev device pnum dloop (pcGetStatus (0x20 + idx))
    if pwr &&& pmr.pwrDownMask ≠ 0 then pure 0 else pure (pmr.numLanes dloop)

/-- A turn of the loop of `tsi57x_rio_pc_get_status`; the status has neither a flow control nor an
idle sequence. -/
def getPortStatus (idx pnum : Nat) : Call μ δ RioPcOnePortStatus := do
  let numLanes ← readNumLanes dev device idx pnum
  if numLanes = 0 then pure (downStatus pnum (dev.pmr pnum).firstMacLane)
  else do
    let errNStat ← readReg device (.port .errStatus pnum) (pcGetStatus (0x30 + idx))
    let spxCtl ← readReg device (.port .ctl pnum) (pcGetStatus (0x40 + idx))
    pure (upStatus pnum (dev.pmr pnum).firstMacLane numLanes errNStat spxCtl)

def tsi57xRioPcGetStatus (ptl : DarPtl) : Call μ δ (List RioPcOnePortStatus) := do
  setImpRc 0
  let ports ← getPortList dev ptl (pcGetStatus 1)
  ports.zipIdx.mapM fun (pnum, idx) => getPortStatus dev device idx pnum

end GetStatus

section Preserves

variable {μ δ : Type} [HasImpRc μ] {dev : Tsi57xDevice} {device : RegDevice Reg δ}
  {Inv : δ → Prop} {allowed : Reg → BitVec 32 → Prop}

theorem readNumLanes_preserves (keeps : device.Keeps Inv allowed) {idx pnum : Nat} :
    Preserves Inv (readNumLanes dev device idx pnum : Call μ δ Nat) := by
  apply (readReg_preserves keeps).bind
  intro dloop
  apply Preserves.ite
  · exact fun _ => Preserves.pure _
  · intro _
    apply (readPwr_preserves keeps).bind
    intro pwr
    exact Preserves.ite (fun _ => Preserves.pure _) fun _ => Preserves.pure _

theorem tsi57xRioPcGetStatus_preserves (keeps : device.Keeps Inv allowed) {ptl : DarPtl} :
    Preserves Inv (tsi57xRioPcGetStatus dev device ptl : Call μ δ _) := by
  apply setImpRc_preserves.bind
  intro _
  apply getPortList_preserves.bind
  intro ports
  apply Preserves.mapM
  intro entry _
  apply (readNumLanes_preserves keeps).bind
  intro numLanes
  apply Preserves.ite
  · exact fun _ => Preserves.pure _
  · intro _
    apply (readReg_preserves keeps).bind
    intro errNStat
    apply (readReg_preserves keeps).bind
    exact fun spxCtl => Preserves.pure _

end Preserves

/-- How many lanes a port has that are powered up, from what the registers hold. -/
def upLanesAt (dev : Tsi57xDevice) (values : Reg → BitVec 32) (pnum : Nat) : Nat :=
  if numLanesAt dev values pnum = 0 then 0
  else if pwrAt dev values pnum &&& (dev.pmr pnum).pwrDownMask ≠ 0 then 0
  else numLanesAt dev values pnum

def statusAt (dev : Tsi57xDevice) (values : Reg → BitVec 32) (pnum : Nat) : RioPcOnePortStatus :=
  let firstLane := (dev.pmr pnum).firstMacLane
  if upLanesAt dev values pnum = 0 then downStatus pnum firstLane
  else upStatus pnum firstLane (upLanesAt dev values pnum) (values (.port .errStatus pnum))
    (values (.port .ctl pnum))

@[simp] theorem pnum_statusAt {dev : Tsi57xDevice} {values : Reg → BitVec 32} {pnum : Nat} :
    (statusAt dev values pnum).pnum = pnum := by
  simp only [statusAt]
  split
  · rfl
  · rfl

section Reads

variable {μ δ : Type} [HasImpRc μ] {dev : Tsi57xDevice} {device : RegDevice Reg δ}
  {Inv : δ → Prop} {fails : Prop} {values : Reg → BitVec 32}

section

variable (tells : device.Tells Inv values fails)
include tells

theorem readNumLanes_reads {idx pnum : Nat} :
    Reads Inv fails (readNumLanes dev device idx pnum : Call μ δ _)
      (upLanesAt dev values pnum) := by
  apply (readReg_reads tells).bind
  apply Reads.ite
  · exact fun _ => Reads.pure 0
  · intro _
    apply (readPwr_reads tells).bind
    exact Reads.ite (fun _ => Reads.pure 0) fun _ => Reads.pure _

theorem getPortStatus_reads {idx pnum : Nat} :
    Reads Inv fails (getPortStatus dev device idx pnum : Call μ δ _)
      (statusAt dev values pnum) := by
  apply (readNumLanes_reads tells).bind
  apply Reads.ite
  · exact fun _ => Reads.pure _
  · intro _
    apply (readReg_reads tells).bind
    apply (readReg_reads tells).bind
    exact Reads.pure _

theorem getPortStatuses_reads (ports : List Nat) :
    Reads Inv fails
      (ports.zipIdx.mapM fun (pnum, idx) => getPortStatus dev device idx pnum : Call μ δ _)
      (ports.map (statusAt dev values)) := by
  have turns : Reads Inv fails
      (ports.zipIdx.mapM fun (pnum, idx) => getPortStatus dev device idx pnum : Call μ δ _)
      (ports.zipIdx.map fun entry => statusAt dev values entry.1) :=
    Reads.mapM fun entry _ => getPortStatus_reads tells
  have sameStatuses : (ports.zipIdx.map fun entry => statusAt dev values entry.1) =
      ports.map (statusAt dev values) :=
    List.map_map.symm.trans
      (congrArg (List.map (statusAt dev values)) (List.zipIdx_map_fst 0 ports))
  rwa [sameStatuses] at turns

theorem tsi57xRioPcGetStatus_reads {pnum : Nat} (isPort : pnum < dev.numPorts) :
    Reads Inv fails (tsi57xRioPcGetStatus dev device (onePort pnum) : Call μ δ _)
      [statusAt dev values pnum] := by
  apply setImpRc_reads.bind
  apply (getPortList_reads (onePort_made isPort)).bind
  exact getPortStatuses_reads tells [pnum]

/-- A call that succeeds reports the status of each port of its list. -/
theorem tsi57xRioPcGetStatus_meets (ptl : DarPtl) :
    Meets (fun state => Inv state.device)
      (tsi57xRioPcGetStatus dev device ptl : Call μ δ (List RioPcOnePortStatus))
      (fun statuses state => Inv state.device ∧ ∃ ports,
        darDbRioGetPortList dev.numPorts ptl = .ok ports ∧
          statuses = ports.map (statusAt dev values))
      fun _ state => Inv state.device := by
  apply Meets.bind setImpRc_preserves
  intro _
  apply Meets.bind getPortList_meets
  intro ports
  apply Meets.assume
  intro made
  apply (getPortStatuses_reads tells ports).weaken
  · exact fun _ before => before
  · exact fun statuses state each => ⟨each.2, ports, made, each.1⟩
  · exact fun _ _ failed => failed.2

end

end Reads

end RioFabric.Tsi57xPort

import RioFabric.Lib.Registers
import RioFabric.RouteTable.Program

/-!
# Tsi57x switches

The Tsi57x versions of the routing table calls.  A Tsi57x routes one domain by the device
table, the one whose entry in the domain table is `RIO_RTE_LVL_G0`; a register for each port
holds its number.
-/

namespace RioFabric.RouteTable

open Lib

/-- Programs over a table in memory and a device. -/
abbrev RtProgram (δ : Type) := EStateM RtRc (Attached RioRtState δ)

/-- `DARRegRead`. -/
def darRead {ρ δ : Type} (device : RegDevice ρ δ) (reg : ρ) (impRc : ImpRc) :
    RtProgram δ (BitVec 32) :=
  regRead device reg fun code => (.regError code, impRc)

/-- `DARRegWrite`. -/
def darWrite {ρ δ : Type} (device : RegDevice ρ δ) (reg : ρ) (value : BitVec 32)
    (impRc : ImpRc) : RtProgram δ Unit :=
  regWrite device reg value fun code => (.regError code, impRc)

/-- Replace one mask. -/
def RioRtState.setMcMask (rt : RioRtState) (mcIdx : RtIdx) (mask : RioRtMcInfo) : RioRtState :=
  { rt with mcMasks := Function.update rt.mcMasks mcIdx mask }

/-- Deallocate the masks from `first` on, which the device does not have. -/
def deallocMcMasksFrom {δ : Type} (first : Nat) : RtProgram δ Unit :=
  ((List.finRange 256).filter fun maskIdx => first ≤ maskIdx.val).forM fun maskIdx => do
    let state ← get
    let (rc, rt) := dsfRioRtDeallocMcMask state.memory (rioRtvMcMsk maskIdx)
    modifyMemory fun _ => rt
    failIf (rc.1 ≠ .rioSuccess) rc

/-- The ports from `start_port` to `end_port`. -/
def portRange (numPorts pnum : Nat) : List Nat :=
  if pnum = rioAllPorts then List.range numPorts else [pnum]

/-- The routing registers of a Tsi57x. -/
inductive TsiReg where
  | mcIdx (idx : RtIdx)
  | mcMskx (idx : RtIdx)
  | lutAttr
  | spxRouteBase (port : Nat)
  | spxRouteCfgDestId (port : Nat)
  | spxRouteCfgPort (port : Nat)
  | spxMode (port : Nat)

def tsi578MaxMcMasks : Nat := 8

def DarDevInfo.tsi57xNumPorts (devInfo : DarDevInfo) : Nat :=
  if devInfo.numPorts > 16 then 16 else devInfo.numPorts

def hwDfltRt : BitVec 32 := 0xFF

section Calls

variable {δ : Type} (device : RegDevice TsiReg δ)

/-- The second loop body of `tsi57x_read_mc_masks`. -/
def tsi57xReadMcMask (maskIdx : RtIdx) : RtProgram δ Unit := do
  let regVal ← darRead device (.mcIdx maskIdx) (.readMcMasks 1)
  let tt := if regVal &&& 0x40000000 ≠ 0 then Tt.ttDev16 else .ttDev8
  modifyMemory fun rt =>
    rt.setMcMask maskIdx
      { rt.mcMasks maskIdx with
        allocd := false
        changed := false
        tt := tt
        inUse := regVal &&& 0x80000000 ≠ 0
        mcDestId := (regVal &&& if tt = .ttDev16 then 0xFFFF else 0xFF).toNat }
  let regVal ← darRead device (.mcMskx maskIdx) (.readMcMasks 2)
  failIf (regVal &&& ~~~0xFFFF0000 ≠ 0) (.rioErrRtCorrupted, .readMcMasks 3)
  modifyMemory fun rt =>
    rt.setMcMask maskIdx
      { rt.mcMasks maskIdx with mcMask := (regVal &&& 0xFFFF0000) >>> 16 }

def tsi57xReadMcMasks : RtProgram δ Unit := do
  deallocMcMasksFrom tsi578MaxMcMasks
  ((List.finRange 256).filter fun maskIdx => maskIdx.val < tsi578MaxMcMasks).forM
    (tsi57xReadMcMask device)

/-- The value of an entry from its register. -/
def tsi57xRteVal (regVal : BitVec 32) : PeRtVal :=
  if regVal = hwDfltRt then rioRteDfltPort else regVal &&& 0xFF

/-- The loop bodies of `tsi57x_read_rte_entries`. -/
def tsi57xReadRte (pnum : Nat) (domEntry : Bool) (idxVal : BitVec 32) (writePt readPt : Nat)
    (destId : RtIdx) : RtProgram δ Unit := do
  modifyMemory fun rt =>
    rt.setTarget domEntry destId { rt.target domEntry destId with changed := false }
  darWrite device (.spxRouteCfgDestId pnum) idxVal (.readRteEntries writePt)
  let rteVal ← darRead device (.spxRouteCfgPort pnum) (.readRteEntries readPt)
  modifyMemory fun rt =>
    rt.setTarget domEntry destId
      { rt.target domEntry destId with rteVal := tsi57xRteVal rteVal }

def tsi57xReadRteEntries (pnum : Nat) : RtProgram δ Unit := do
  let attr ← darRead device .lutAttr (.readRteEntries 1)
  modifyMemory fun rt =>
    { rt with
      defaultRoute := if attr &&& 0xFF = hwDfltRt then rioRteDrop else attr &&& 0xFF }
  let baseReg ← darRead device (.spxRouteBase pnum) (.readRteEntries 10)
  (List.finRange 256).forM fun destId =>
    tsi57xReadRte device pnum true (BitVec.ofNat 32 (destId.val * 256)) 7 8 destId
  let base : RtIdx := Fin.ofNat 256 ((baseReg &&& 0xFF000000) >>> 24).toNat
  modifyMemory fun rt =>
    { rt with
      domTable := Function.update rt.domTable base { rt.domTable base with rteVal := rioRteLvlG0 } }
  (List.finRange 256).forM fun destId =>
    tsi57xReadRte device pnum false (BitVec.ofNat 32 (base.val * 256 + destId.val)) 3 4 destId

def tsi57xRioRtProbeAll (devInfo : DarDevInfo) (probeOnPort : Nat) : RtProgram δ Unit := do
  failIf (probeOnPort ≠ rioAllPorts ∧ probeOnPort ≥ devInfo.tsi57xNumPorts)
    (.rioErrInvalidParameter, .rtProbeAll 1)
  tsi57xReadMcMasks device
  tsi57xReadRteEntries device (if probeOnPort = rioAllPorts then 0 else probeOnPort)

/-- The second loop of `program_mc_masks`.  A mask with a port that does not exist ends it; the
code returned is then that of the last register access, `written` saying that there was one. -/
def tsi57xProgramMcMaskLoop (devInfo : DarDevInfo) (progAll : Bool) (written : Bool) :
    List RtIdx → RtProgram δ Unit
  | [] => pure ()
  | maskIdx :: maskIdxs => do
      let state ← get
      let mask := state.memory.mcMasks maskIdx
      if ~~~(BitVec.ofNat 32 (2 ^ devInfo.tsi57xNumPorts) - 1) &&& mask.mcMask ≠ 0 then
        failIf (written = false) (.rioErrInvalidParameter, .programMcMasks 2)
      else if progAll || mask.changed then
        modifyMemory fun rt => rt.unmarkMcMask maskIdx
        darWrite device (.mcIdx maskIdx)
          (BitVec.ofNat 32 mask.mcDestId ||| (if mask.tt = .ttDev16 then 0x40000000 else 0) |||
            if mask.inUse then 0x80000000 else 0)
          (.programMcMasks 3)
        darWrite device (.mcMskx maskIdx) (mask.mcMask <<< 16 &&& 0xFFFF0000) (.programMcMasks 4)
        tsi57xProgramMcMaskLoop devInfo progAll true maskIdxs
      else tsi57xProgramMcMaskLoop devInfo progAll written maskIdxs

/-- `program_mc_masks`. -/
def tsi57xProgramMcMasks (devInfo : DarDevInfo) (progAll : Bool) : RtProgram δ Unit := do
  let state ← get
  failIf (∃ maskIdx : RtIdx, tsi578MaxMcMasks ≤ maskIdx.val ∧
      ((state.memory.mcMasks maskIdx).inUse || (state.memory.mcMasks maskIdx).changed ||
        (state.memory.mcMasks maskIdx).allocd) = true)
    (.rioErrInvalidParameter, .programMcMasks 1)
  tsi57xProgramMcMaskLoop device devInfo progAll false
    ((List.finRange 256).filter fun maskIdx => maskIdx.val < tsi578MaxMcMasks)

/-- One turn of the search for the base ID: a second local domain is refused. -/
def tsi57xFindBase (rt : RioRtState) (base : Option RtIdx) (destId : RtIdx) :
    RtProgram δ (Option RtIdx) :=
  if (rt.domTable destId).rteVal = rioRteLvlG0 then
    match base with
    | some _ => throw (.rioErrInvalidParameter, .programRteEntries 2)
    | none => pure (some destId)
  else pure base

/-- What the routing registers take for an entry: the destination ID with its flags, and the
port.  The check for `RIO_RTE_LVL_G0` is that of the device table; the loop over the domain
table does not come here with that value. -/
def tsi57xHwRte (devInfo : DarDevInfo) (idxVal : BitVec 32) (rteVal : PeRtVal) (pt : Nat) :
    RtProgram δ (BitVec 32 × BitVec 32) :=
  if rteVal = rioRteDfltPort then pure (idxVal, hwDfltRt)
  else if rteVal = rioRteDrop then pure (idxVal ||| 0x40000000, hwDfltRt)
  else if rteVal = rioRteLvlG0 ∨ devInfo.tsi57xNumPorts ≤ rteVal.toNat then
    throw (.rioErrInvalidParameter, .programRteEntries pt)
  else pure (idxVal, rteVal)

/-- Write one entry on every port. -/
def tsi57xWriteRte (ports : List Nat) (hwRte : BitVec 32 × BitVec 32) (destIdPt portPt : Nat) :
    RtProgram δ Unit :=
  ports.forM fun port => do
    darWrite device (.spxRouteCfgDestId port) hwRte.1 (.programRteEntries destIdPt)
    darWrite device (.spxRouteCfgPort port) hwRte.2 (.programRteEntries portPt)

section

variable (devInfo : DarDevInfo)

/-- The loop body for the domain table of `program_rte_entries`. -/
def tsi57xProgramDomRte (ports : List Nat) (progAll : Bool)
    (destId : RtIdx) : RtProgram δ Unit := do
  let state ← get
  let rte := state.memory.domTable destId
  if progAll || rte.changed then
    if rte.rteVal ≠ rioRteLvlG0 then
      let hwRte ← tsi57xHwRte devInfo (BitVec.ofNat 32 (destId.val * 256)) rte.rteVal 3
      tsi57xWriteRte device ports hwRte 4 5
    modifyMemory fun rt => rt.unmarkDomRte destId

/-- The loop body for the device table of `program_rte_entries`. -/
def tsi57xProgramDevRte (ports : List Nat) (progAll : Bool)
    (baseId : Nat) (destId : RtIdx) : RtProgram δ Unit := do
  let state ← get
  let rte := state.memory.devTable destId
  if progAll || rte.changed then
    let hwRte ← tsi57xHwRte devInfo (BitVec.ofNat 32 (baseId + destId.val)) rte.rteVal 7
    tsi57xWriteRte device ports hwRte 8 9
    modifyMemory fun rt => rt.unmarkDevRte destId

/-- `program_rte_entries`. -/
def tsi57xProgramRteEntries (pnum : Nat) (progAll : Bool) :
    RtProgram δ Unit := do
  let ports := portRange devInfo.tsi57xNumPorts pnum
  let state ← get
  let rt := state.memory
  darWrite device .lutAttr
    (if rt.defaultRoute = rioRteDrop then hwDfltRt &&& 0xFF else rt.defaultRoute &&& 0xFF)
    (.programRteEntries 1)
  let base ← (List.finRange 256).foldlM (tsi57xFindBase rt) none
  let baseId := (base.elim 0 fun destId => destId.val) * 256
  ports.forM fun port =>
    darWrite device (.spxRouteBase port) (BitVec.ofNat 32 baseId <<< 16) (.programRteEntries 6)
  (List.finRange 256).forM (tsi57xProgramDomRte device devInfo ports progAll)
  (List.finRange 256).forM (tsi57xProgramDevRte device devInfo ports progAll baseId)

/-- `tsi57x_rio_rt_set_all` and `tsi57x_rio_rt_set_changed`. -/
def tsi57xRtSet (impRc : Nat → ImpRc) (setOnPort : Nat) (progAll : Bool) :
    RtProgram δ Unit := do
  failIf (setOnPort ≠ rioAllPorts ∧ setOnPort ≥ devInfo.tsi57xNumPorts)
    (.rioErrInvalidParameter, impRc 1)
  let state ← get
  failIf (devInfo.tsi57xNumPorts ≤ state.memory.defaultRoute.toNat ∧
      state.memory.defaultRoute ≠ rioRteDrop)
    (.rioErrInvalidParameter, impRc 2)
  tsi57xProgramMcMasks device devInfo progAll
  tsi57xProgramRteEntries device devInfo setOnPort progAll

def tsi57xRioRtSetAll (setOnPort : Nat) : RtProgram δ Unit :=
  tsi57xRtSet device devInfo .rtSetAll setOnPort true

def tsi57xRioRtSetChanged (setOnPort : Nat) : RtProgram δ Unit :=
  tsi57xRtSet device devInfo .rtSetChanged setOnPort false

end

/-- The table that `tsi57x_rio_rt_initialize` fills in: that of every switch, but only masks
that exist are to be programmed, and only with all ports. -/
def tsi57xInitialRt (inParms : RioRtInitializeIn) : RioRtState :=
  { initialRt inParms with
    mcMasks := fun mcIdx =>
      { (initialRt inParms).mcMasks mcIdx with
        changed := mcIdx.val < tsi578MaxMcMasks ∧ inParms.setOnPort = rioAllPorts } }

/-- The loop of `tsi57x_rio_rt_initialize` that turns on hierarchical routing. -/
def tsi57xHierarchicalMode (devInfo : DarDevInfo) (inParms : RioRtInitializeIn) :
    RtProgram δ Unit :=
  if inParms.updateHw then
    (portRange devInfo.tsi57xNumPorts inParms.setOnPort).forM fun port => do
      let spxMode ← darRead device (.spxMode port) (.rtInitialize 4)
      darWrite device (.spxMode port) (spxMode &&& ~~~0x01000000) (.rtInitialize 5)
  else pure ()

def tsi57xRioRtInitialize (devInfo : DarDevInfo) (inParms : RioRtInitializeIn) :
    RtProgram δ Unit := do
  failIf (inParms.defaultRoute.toNat ≥ devInfo.tsi57xNumPorts ∧
      ¬(inParms.defaultRoute = rioRteDfltPort ∨ inParms.defaultRoute = rioRteDrop))
    (.rioErrInvalidParameter, .rtInitialize 1)
  failIf (inParms.defaultRouteTablePort.toNat ≥ devInfo.tsi57xNumPorts ∧
      inParms.defaultRouteTablePort ≠ rioRteDrop)
    (.rioErrInvalidParameter, .rtInitialize 2)
  failIf (inParms.setOnPort ≥ devInfo.tsi57xNumPorts ∧ inParms.setOnPort ≠ rioAllPorts)
    (.rioErrInvalidParameter, .rtInitialize 3)
  modifyMemory fun rt => { rt with defaultRoute := inParms.defaultRoute }
  tsi57xHierarchicalMode device devInfo inParms
  modifyMemory fun _ => tsi57xInitialRt inParms
  if inParms.updateHw then tsi57xRioRtSetChanged device devInfo inParms.setOnPort else pure ()

end Calls

/-- A new value for an entry, which counts as changed if it was or differs. -/
def RioRtUcInfo.store (rte : RioRtUcInfo) (rteValue : PeRtVal) : RioRtUcInfo :=
  ⟨rteValue, rte.changed || rte.rteVal ≠ rteValue⟩

/-- The domain table once the entry `idx` has become the local domain: no other has its value. -/
def dropOtherLocals (domTable : RtIdx → RioRtUcInfo) (idx : RtIdx) : RtIdx → RioRtUcInfo :=
  fun other =>
    if (domTable other).rteVal = rioRteLvlG0 ∧ other ≠ idx then ⟨rioRteDrop, true⟩
    else domTable other

def tsi57xRioRtChangeRte (devInfo : DarDevInfo) (rt : RioRtState) (domEntry : Bool) (idx : RtIdx)
    (rteValue : PeRtVal) : RtRc × RioRtState :=
  if rteValue ≠ rioRteLvlG0 ∧ rteValue ≠ rioRteDfltPort ∧ rteValue ≠ rioRteDrop ∧
      rteValue.toNat ≥ devInfo.tsi57xNumPorts then
    ((.rioErrInvalidParameter, .rtChangeRte 2), rt)
  else if rteValue = rioRteLvlG0 ∧ domEntry = false then
    ((.rioErrInvalidParameter, .rtChangeRte 3), rt)
  else
    let stored := rt.setTarget domEntry idx ((rt.target domEntry idx).store rteValue)
    if domEntry = true ∧ rteValue = rioRteLvlG0 then
      ((.rioSuccess, .rioSuccess), { stored with domTable := dropOtherLocals stored.domTable idx })
    else ((.rioSuccess, .rioSuccess), stored)

/-- The mask after `tsi57x_rio_rt_change_mc_mask`. -/
def tsi57xChangeMask (mask mcInfo : RioRtMcInfo) : RioRtMcInfo :=
  { mask with
    changed := mask.changed || mask.mcDestId ≠ mcInfo.mcDestId || mask.tt ≠ mcInfo.tt ||
      mask.mcMask ≠ mcInfo.mcMask || mask.inUse ≠ mcInfo.inUse
    inUse := mcInfo.inUse
    mcDestId := mcInfo.mcDestId
    tt := mcInfo.tt
    mcMask := mcInfo.mcMask }

/-- `tsi57x_rio_rt_change_mc_mask`.  A value that names no mask becomes the index 255. -/
def tsi57xRioRtChangeMcMask (rt : RioRtState) (mcMaskRte : PeRtVal) (mcInfo : RioRtMcInfo) :
    RtRc × RioRtState :=
  let chgIdx := (rioRtvGetMcMsk mcMaskRte).getD 255
  if mcInfo.mcDestId > 0xFFFF ∨ (mcInfo.mcDestId > 0xFF ∧ mcInfo.tt = .ttDev8) ∨
      mcInfo.mcMask &&& ~~~0xFFFF ≠ 0 then
    ((.rioErrInvalidParameter, .changeMcMask 2), rt)
  else if ∃ mcIdx : RtIdx, mcIdx.val < tsi578MaxMcMasks ∧ mcIdx ≠ chgIdx ∧
      (rt.mcMasks mcIdx).mcDestId = mcInfo.mcDestId ∧ (rt.mcMasks mcIdx).tt = mcInfo.tt then
    ((.rioErrRouteError, .changeMcMask 3), rt)
  else if chgIdx.val ≥ tsi578MaxMcMasks then
    -- nothing to do for masks that the device does not have
    ((.rioSuccess, .rioSuccess), rt)
  else
    ((.rioSuccess, .rioSuccess),
      rt.setMcMask chgIdx (tsi57xChangeMask (rt.mcMasks chgIdx) mcInfo))

/-- One call on a Tsi57x: its return codes and the table it leaves. -/
def RtCall.tsi57xResult (devInfo : DarDevInfo) (rt : RioRtState) : RtCall → RtRc × RioRtState
  | .allocMcMask mcMaskCnt =>
    let (rc, _, rt) := dsfRioRtDefaultAllocMcMask rt mcMaskCnt
    (rc, rt)
  | .deallocMcMask mcMaskRte => dsfRioRtDeallocMcMask rt mcMaskRte
  | .changeRte domEntry idx rteValue => tsi57xRioRtChangeRte devInfo rt domEntry idx rteValue
  | .changeMcMask mcMaskRte mcInfo => tsi57xRioRtChangeMcMask rt mcMaskRte mcInfo

def RtCall.tsi57xExec (devInfo : DarDevInfo) (rt : RioRtState) (call : RtCall) : RioRtState :=
  (call.tsi57xResult devInfo rt).2

end RioFabric.RouteTable

import RioFabric.RouteTable.Tsi57x

/-!
# CPS switches

The CPS versions of the routing table calls, for CPS1848, CPS1432, CPS1616, VPS1616 and
SPS1616 switches.  The registers of a CPS have codes of their own for entries that are not
ports, and the multicast masks follow the ports among them.
-/

namespace RioFabric.RouteTable

open Lib

/-- The part of `DAR_DEV_INFO_t` that is read here.  `CPS_rioDeviceSupported` gives 18 ports to
a CPS1848 and 16 to the other devices it knows; no device has more than `RIO_MAX_PORTS`. -/
structure CpsDevInfo where
  isCps1848 : Bool
  numPorts : Nat
  numMcMasks : Nat
  portsExist : numPorts ≤ 24

def CpsDevInfo.numCpsPorts (devInfo : CpsDevInfo) : Nat :=
  if devInfo.numPorts > 18 then 18 else devInfo.numPorts

def cpsMaxMcMask : Nat := 40

def CpsDevInfo.numCpsMcMasks (devInfo : CpsDevInfo) : Nat :=
  if devInfo.numMcMasks > cpsMaxMcMask then cpsMaxMcMask else devInfo.numMcMasks

/-- The routing registers of a CPS; for `RIO_ALL_PORTS`, those that broadcast. -/
inductive CpsReg where
  | rteDefaultPort
  | rioDomain
  | domRte (port : Nat) (idx : RtIdx)
  | devRte (port : Nat) (idx : RtIdx)
  | mcastMask (port : Nat) (idx : RtIdx)
  | ops (port : Nat)
  deriving DecidableEq

/-- The masks of `CPS1848_BCAST__MCAST_MASK_X_PORT_MASK` and its CPS1616 version. -/
def CpsDevInfo.maskMask (devInfo : CpsDevInfo) : BitVec 32 :=
  if devInfo.isCps1848 then 0x0003FFFF else 0x0000FFFF

/-- The ports that the device has. -/
def CpsDevInfo.portMask (devInfo : CpsDevInfo) : BitVec 32 :=
  BitVec.ofNat 32 (2 ^ devInfo.numCpsPorts) - 1

def cpsRtUseDeviceTable : BitVec 32 := 0xDD

def cpsRtUseDefaultRoute : BitVec 32 := 0xDE

def cpsRtNoRoute : BitVec 32 := 0xDF

def cpsMcPort (maskNo : RtIdx) : BitVec 32 := BitVec.ofNat 32 ((maskNo.val + 0x40) % 256)

section

variable (devInfo : CpsDevInfo)

def cpsRteTranslateStdToCps (stdIn : PeRtVal) : Option (BitVec 32) :=
  if stdIn = rioRteDfltPort then some cpsRtUseDefaultRoute
  else if stdIn = rioRteDrop then some cpsRtNoRoute
  else if stdIn = rioRteLvlG0 then some cpsRtUseDeviceTable
  -- CPS does not support implementation specific bits
  else if stdIn &&& ~~~0x3FF ≠ 0 then none
  else if rioRtvIsPort stdIn ∧ (stdIn &&& 0xFF).toNat < devInfo.numPorts then some stdIn
  else if rioRtvIsMcMsk stdIn ∧ (rioRteIdx stdIn).val < cpsMaxMcMask then
    some (cpsMcPort (rioRteIdx stdIn))
  else none

def cpsRteTranslateCpsToStd (cpsIn : BitVec 32) : Option PeRtVal :=
  if cpsIn = cpsRtUseDefaultRoute then some rioRteDfltPort
  else if cpsIn = cpsRtNoRoute then some rioRteDrop
  else if cpsIn = cpsRtUseDeviceTable then some rioRteLvlG0
  else if cpsIn.toNat < devInfo.numPorts then
    some (if cpsIn &&& ~~~0xFF ≠ 0 then rioRteBad else cpsIn)
  else if 0x40 ≤ cpsIn.toNat ∧ cpsIn.toNat < 0x40 + cpsMaxMcMask then
    some (rioRtvMcMsk (Fin.ofNat 256 (cpsIn.toNat - 0x40)))
  else none

/-- What `cps_read_rte_entries` keeps of a value in the domain table. -/
def cpsDomRteVal (rteVal : PeRtVal) : PeRtVal :=
  if rteVal ≠ rioRteLvlG0 ∧ rteVal ≠ rioRteDfltPort ∧ rteVal ≠ rioRteDrop ∧
      devInfo.numCpsPorts ≤ rteVal.toNat then rioRteDrop
  else rteVal

/-- What `cps_read_rte_entries` keeps of a value in the device table. -/
def cpsDevRteVal (rteVal : PeRtVal) : PeRtVal :=
  if rteVal.toNat ≥ devInfo.numCpsPorts ∧ rioRtvIsMcMsk rteVal = false ∧ rteVal ≠ rioRteDrop ∧
      rteVal ≠ rioRteDfltPort then rioRteDrop
  else rteVal

end

section Calls

variable {δ : Type} (device : RegDevice CpsReg δ) (devInfo : CpsDevInfo)

/-- The second loop body of `cps_read_mc_masks`. -/
def cpsReadMcMask (pnum : Nat) (maskIdx : RtIdx) : RtProgram δ Unit := do
  let regVal ← darRead device (.mcastMask pnum maskIdx) (.readMcMasks 1)
  modifyMemory fun rt =>
    rt.setMcMask maskIdx
      { allocd := false
        changed := false
        tt := .ttDev8
        inUse := false
        mcDestId := 0
        mcMask := regVal &&& devInfo.portMask }

def cpsReadMcMasks (pnum : Nat) : RtProgram δ Unit := do
  deallocMcMasksFrom devInfo.numCpsMcMasks
  ((List.finRange 256).filter fun maskIdx => maskIdx.val < devInfo.numCpsMcMasks).forM
    (cpsReadMcMask device devInfo pnum)

/-- The loop body for the domain table of `cps_read_rte_entries`.  `firstMcDestId` is the first
domain that the device table routes, if one was found. -/
def cpsReadDomRte (pnum : Nat) (firstMcDestId : Option RtIdx) (destId : RtIdx) :
    RtProgram δ (Option RtIdx) := do
  modifyMemory fun rt =>
    rt.setTarget true destId { rt.target true destId with changed := false }
  let regVal ← darRead device (.domRte pnum destId) (.readRteEntries 4)
  let rteVal ← orFail (cpsRteTranslateCpsToStd devInfo (regVal &&& 0xFF))
    (.rioErrInvalidParameter, .readRteEntries 5)
  modifyMemory fun rt =>
    rt.setTarget true destId
      { rt.target true destId with rteVal := cpsDomRteVal devInfo rteVal }
  return if rteVal = rioRteLvlG0 then some (firstMcDestId.getD destId) else firstMcDestId

/-- The mask that an entry of the device table names is in use. -/
def cpsNoteMcMask (firstMcDestId : Option RtIdx) (destId : RtIdx) (rteVal : PeRtVal)
    (rt : RioRtState) : RioRtState :=
  match rioRtvGetMcMsk rteVal with
  | none => rt
  | some maskIdx =>
    if (rt.mcMasks maskIdx).inUse then rt
    else
      rt.setMcMask maskIdx
        { rt.mcMasks maskIdx with
          tt := .ttDev16
          inUse := true
          mcDestId := (firstMcDestId.elim 0 fun first => first.val * 256) + destId.val }

/-- The loop body for the device table of `cps_read_rte_entries`. -/
def cpsReadDevRte (pnum : Nat) (firstMcDestId : Option RtIdx) (destId : RtIdx) :
    RtProgram δ Unit := do
  modifyMemory fun rt =>
    rt.setTarget false destId { rt.target false destId with changed := false }
  let regVal ← darRead device (.devRte pnum destId) (.readRteEntries 8)
  let rteVal ← orFail (cpsRteTranslateCpsToStd devInfo (regVal &&& 0xFF))
    (.rioErrInvalidParameter, .readRteEntries 9)
  modifyMemory fun rt =>
    (cpsNoteMcMask firstMcDestId destId rteVal rt).setTarget false destId
      { rt.target false destId with rteVal := cpsDevRteVal devInfo rteVal }

/-- `cps_read_rte_entries`.  Entry 0 of the domain table is not read. -/
def cpsReadRteEntries (pnum : Nat) : RtProgram δ Unit := do
  let regVal ← darRead device .rteDefaultPort (.readRteEntries 1)
  let dfltRoute := regVal &&& 0xFF
  modifyMemory fun rt =>
    { rt with
      defaultRoute := if dfltRoute.toNat ≥ devInfo.numCpsPorts then rioRteDrop else dfltRoute }
  modifyMemory fun rt => rt.setTarget true 0 ⟨rioRteLvlG0, false⟩
  let firstMcDestId ← ((List.finRange 256).filter fun destId => destId ≠ 0).foldlM
    (cpsReadDomRte device devInfo pnum) none
  (List.finRange 256).forM (cpsReadDevRte device devInfo pnum firstMcDestId)

def cpsRioRtProbeAll (probeOnPort : Nat) : RtProgram δ Unit := do
  failIf (probeOnPort ≠ rioAllPorts ∧ probeOnPort ≥ devInfo.numCpsPorts)
    (.rioErrInvalidParameter, .rtProbeAll 1)
  let probePort := if probeOnPort = rioAllPorts then 0 else probeOnPort
  cpsReadMcMasks device devInfo probePort
  cpsReadRteEntries device devInfo probePort

section

variable (setOnPort : Nat) (setAll : Bool)

/-- The loop body of `cps_program_mc_mask`. -/
def cpsProgramMcMask (maskNum : RtIdx) : RtProgram δ Unit := do
  let state ← get
  let mask := state.memory.mcMasks maskNum
  if mask.changed || setAll then
    failIf (mask.mcMask &&& ~~~devInfo.maskMask ≠ 0) (.rioErrInvalidParameter, .programMcMasks 3)
    darWrite device (.mcastMask setOnPort maskNum) (mask.mcMask &&& devInfo.maskMask)
      (.programMcMasks 4)
    modifyMemory fun rt => rt.unmarkMcMask maskNum

/-- The loop body for the domain table of `cps_program_rte_entries`. -/
def cpsProgramDomRte (rteNum : RtIdx) : RtProgram δ Unit := do
  let state ← get
  let rte := state.memory.domTable rteNum
  if rte.changed || setAll then
    failIf (rte.rteVal.toNat ≥ devInfo.numCpsPorts ∧ rte.rteVal ≠ rioRteLvlG0 ∧
        rte.rteVal ≠ rioRteDfltPort ∧ rte.rteVal ≠ rioRteDrop)
      (.rioErrInvalidParameter, .programRteEntries 1)
    let cpsVal ← orFail (cpsRteTranslateStdToCps devInfo rte.rteVal)
      (.rioErrInvalidParameter, .programRteEntries 7)
    darWrite device (.domRte setOnPort rteNum) cpsVal (.programRteEntries 2)
    modifyMemory fun rt => rt.unmarkDomRte rteNum

/-- The loop body for the device table of `cps_program_rte_entries`. -/
def cpsProgramDevRte (rteNum : RtIdx) : RtProgram δ Unit := do
  let state ← get
  let rte := state.memory.devTable rteNum
  if rte.changed || setAll then
    failIf (rte.rteVal.toNat ≥ devInfo.numCpsPorts ∧ rioRtvGetMcMsk rte.rteVal = none ∧
        rte.rteVal ≠ rioRteDfltPort ∧ rte.rteVal ≠ rioRteDrop)
      (.rioErrInvalidParameter, .programRteEntries 3)
    let cpsVal ← orFail (cpsRteTranslateStdToCps devInfo rte.rteVal)
      (.rioErrInvalidParameter, .programRteEntries 8)
    darWrite device (.devRte setOnPort rteNum) cpsVal (.programRteEntries 4)
    modifyMemory fun rt => rt.unmarkDevRte rteNum

/-- `cps_program_rte_entries`.  The domain register stays 0, so that 16 bit destination IDs of
the form 0x00YY are routed as 8 bit ones. -/
def cpsProgramRteEntries : RtProgram δ Unit := do
  let state ← get
  let cpsVal ← orFail (cpsRteTranslateStdToCps devInfo state.memory.defaultRoute)
    (.rioErrInvalidParameter, .programRteEntries 6)
  darWrite device .rteDefaultPort cpsVal (.programRteEntries 0x10)
  darWrite device .rioDomain 0 (.programRteEntries 0)
  (List.finRange 256).forM (cpsProgramDomRte device devInfo setOnPort setAll)
  (List.finRange 256).forM (cpsProgramDevRte device devInfo setOnPort setAll)

def cpsRtSetCommon : RtProgram δ Unit := do
  failIf (setOnPort ≠ rioAllPorts ∧ setOnPort ≥ devInfo.numCpsPorts)
    (.rioErrInvalidParameter, .rteSetCommon 1)
  let state ← get
  failIf (devInfo.numCpsPorts ≤ state.memory.defaultRoute.toNat ∧
      state.memory.defaultRoute ≠ rioRteDrop)
    (.rioErrInvalidParameter, .rteSetCommon 2)
  ((List.finRange 256).filter fun maskNum => maskNum.val < devInfo.numCpsMcMasks).forM
    (cpsProgramMcMask device devInfo setOnPort setAll)
  cpsProgramRteEntries device devInfo setOnPort setAll

def cpsRioRtSetAll : RtProgram δ Unit :=
  cpsRtSetCommon device devInfo setOnPort true

def cpsRioRtSetChanged : RtProgram δ Unit :=
  cpsRtSetCommon device devInfo setOnPort false

end

/-- The table that `CPS_rio_rt_initialize` fills in: that of every switch, but only masks that
exist are to be programmed. -/
def cpsInitialRt (inParms : RioRtInitializeIn) : RioRtState :=
  { initialRt inParms with
    mcMasks := fun mcIdx =>
      { (initialRt inParms).mcMasks mcIdx with changed := mcIdx.val < cpsMaxMcMask } }

/-- The loop of `CPS_rio_rt_initialize` that clears the self-association bits. -/
def cpsClearSelfMcast (setOnPort : Nat) : RtProgram δ Unit :=
  (portRange devInfo.numCpsPorts setOnPort).forM fun port => do
    let ops ← darRead device (.ops port) (.rtInitialize 4)
    darWrite device (.ops port) (ops &&& ~~~0x00020000) (.rtInitialize 5)

def cpsRioRtInitialize (inParms : RioRtInitializeIn) : RtProgram δ Unit := do
  failIf (inParms.defaultRoute.toNat ≥ devInfo.numCpsPorts ∧ inParms.defaultRoute ≠ rioRteDrop)
    (.rioErrInvalidParameter, .rtInitialize 1)
  failIf (inParms.defaultRouteTablePort.toNat ≥ devInfo.numCpsPorts ∧
      ¬(inParms.defaultRouteTablePort = rioRteDfltPort ∨
        inParms.defaultRouteTablePort = rioRteDrop))
    (.rioErrInvalidParameter, .rtInitialize 2)
  failIf (inParms.setOnPort ≥ devInfo.numCpsPorts ∧ inParms.setOnPort ≠ rioAllPorts)
    (.rioErrInvalidParameter, .rtInitialize 3)
  modifyMemory fun _ => cpsInitialRt inParms
  if inParms.updateHw then
    cpsClearSelfMcast device devInfo inParms.setOnPort
    cpsRioRtSetChanged device devInfo inParms.setOnPort
  else pure ()

end Calls

/-- `cps_tidy_routing_table`: free the mask of an entry of the device table that is about to
change, if no other entry of the device table has the same value. -/
def cpsTidyRoutingTable (rt : RioRtState) (devIdx : RtIdx) : RtRc × RioRtState :=
  let chkVal := (rt.devTable devIdx).rteVal
  if rioRtvIsMcMsk chkVal ∧ ∀ srchIdx, srchIdx ≠ devIdx → chkVal ≠ (rt.devTable srchIdx).rteVal then
    dsfRioRtDeallocMcMask rt chkVal
  else ((.rioSuccess, .rioSuccess), rt)

def cpsRioRtChangeRte (devInfo : CpsDevInfo) (rt : RioRtState) (domEntry : Bool) (idx : RtIdx)
    (rteValue : PeRtVal) : RtRc × RioRtState :=
  if rteValue ≠ rioRteLvlG0 ∧ rteValue ≠ rioRteDfltPort ∧ rteValue ≠ rioRteDrop ∧
      rteValue.toNat ≥ devInfo.numCpsPorts then
    ((.rioErrInvalidParameter, .rtChangeRte 2), rt)
  else if rteValue = rioRteLvlG0 ∧ domEntry = false then
    ((.rioErrInvalidParameter, .rtChangeRte 3), rt)
  -- index 0 of the domain table always leads to the device table
  else if domEntry = true ∧ idx = 0 then ((.rioSuccess, .rioSuccess), rt)
  else
    ((.rioSuccess, .rioSuccess),
      rt.setTarget domEntry idx ((rt.target domEntry idx).store rteValue))

/-- The domain of a 16 bit destination ID is routed by the device table. -/
def cpsPointDomain (rt : RioRtState) (mcInfo : RioRtMcInfo) : RioRtState :=
  let dom := domIdx mcInfo.mcDestId
  if mcInfo.tt = .ttDev16 ∧ dom ≠ 0 ∧ (rt.domTable dom).rteVal ≠ rioRteLvlG0 then
    { rt with domTable := Function.update rt.domTable dom ⟨rioRteLvlG0, true⟩ }
  else rt

/-- The entry of the device table that leads to the mask. -/
def cpsPointDevice (rt : RioRtState) (mcMaskRte : PeRtVal) (dev : RtIdx) : RtRc × RioRtState :=
  if mcMaskRte ≠ (rt.devTable dev).rteVal then
    let (rc, rt) := cpsTidyRoutingTable rt dev
    if rc.1 ≠ .rioSuccess then (rc, rt)
    else
      ((.rioSuccess, .rioSuccess),
        { rt with devTable := Function.update rt.devTable dev ⟨mcMaskRte, true⟩ })
  else ((.rioSuccess, .rioSuccess), rt)

section

variable (devInfo : CpsDevInfo)

/-- `CPS_rio_rt_change_mc_mask` for a mask that is in use and exists. -/
def cpsUseMcMask (rt : RioRtState) (mcMaskRte : PeRtVal)
    (mcInfo : RioRtMcInfo) (chgIdx : RtIdx) : RtRc × RioRtState :=
  let mask := rt.mcMasks chgIdx
  let marked := rt.setMcMask chgIdx
    { mask with
      changed := mask.changed || mask.mcMask ≠ mcInfo.mcMask || mask.inUse ≠ mcInfo.inUse }
  let (rc, rt) := cpsPointDevice (cpsPointDomain marked mcInfo) mcMaskRte (devIdx mcInfo.mcDestId)
  if rc.1 ≠ .rioSuccess then (rc, rt)
  else
    ((.rioSuccess, .rioSuccess),
      rt.setMcMask chgIdx
        { rt.mcMasks chgIdx with
          inUse := true
          mcDestId := mcInfo.mcDestId
          tt := mcInfo.tt
          mcMask := mcInfo.mcMask &&& devInfo.portMask })

/-- `CPS_rio_rt_change_mc_mask`.  A value that names no mask becomes the index 255. -/
def cpsRioRtChangeMcMask (rt : RioRtState) (mcMaskRte : PeRtVal)
    (mcInfo : RioRtMcInfo) : RtRc × RioRtState :=
  let chgIdx := (rioRtvGetMcMsk mcMaskRte).getD 255
  if mcInfo.mcDestId > 0xFFFF ∨ (mcInfo.mcDestId > 0xFF ∧ mcInfo.tt = .ttDev8) ∨
      mcInfo.mcMask &&& ~~~0x3FFFF ≠ 0 then
    ((.rioErrInvalidParameter, .changeMcMask 2), rt)
  else if !mcInfo.inUse then dsfRioRtDeallocMcMask rt mcMaskRte
  else if chgIdx.val ≥ devInfo.numCpsMcMasks then
    ((.rioErrInvalidParameter, .changeMcMask 3), rt)
  else cpsUseMcMask devInfo rt mcMaskRte mcInfo chgIdx

/-- One call on a CPS: its return codes and the table it leaves. -/
def RtCall.cpsResult (rt : RioRtState) : RtCall → RtRc × RioRtState
  | .allocMcMask mcMaskCnt =>
    let (rc, _, rt) := dsfRioRtDefaultAllocMcMask rt mcMaskCnt
    (rc, rt)
  | .deallocMcMask mcMaskRte => dsfRioRtDeallocMcMask rt mcMaskRte
  | .changeRte domEntry idx rteValue => cpsRioRtChangeRte devInfo rt domEntry idx rteValue
  | .changeMcMask mcMaskRte mcInfo => cpsRioRtChangeMcMask devInfo rt mcMaskRte mcInfo

def RtCall.cpsExec (rt : RioRtState) (call : RtCall) : RioRtState :=
  (call.cpsResult devInfo rt).2

end

end RioFabric.RouteTable

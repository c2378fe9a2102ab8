import RioFabric.Lib.Bits
import RioFabric.Lib.Runs

/-!
# Routing tables and their editing operations

The routing table state of `RapidIO_Routing_Table_API.h` and the operations that change it
without touching the device: allocation and deallocation of multicast masks, and the RXS
versions of `rio_rt_change_rte` and `rio_rt_change_mc_mask`.  The tables have
`RIO_RT_GRP_SZ` = `RIO_MAX_MC_MASKS` = 256 entries.
-/

namespace RioFabric.RouteTable

open Lib

abbrev PeRtVal := BitVec 32

/-- An index into a routing table or the table of multicast masks. -/
abbrev RtIdx := Fin 256

def rioRteLvlG0 : PeRtVal := 0x200

def rioRteDrop : PeRtVal := 0x300

def rioRteDfltPort : PeRtVal := 0x301

def rioRteBad : PeRtVal := 0x0FFFFFFF

def rioRtvIsPort (n : PeRtVal) : Bool := n &&& 0x300 = 0

def rioRtvIsMcMsk (n : PeRtVal) : Bool := n &&& 0x300 = 0x100

def rioRtvIsLvlGrp (n : PeRtVal) : Bool := n &&& 0x300 = 0x200

/-- The bits of `RIO_RTE_IDX`. -/
def rioRteIdx (n : PeRtVal) : RtIdx := Fin.ofNat 256 (n &&& 0xFF).toNat

/-- `RIO_RTV_MC_MSK` of an index in range. -/
def rioRtvMcMsk (idx : RtIdx) : PeRtVal := 0x100 + BitVec.ofNat 32 idx.val

/-- `RIO_RTV_GET_MC_MSK`; `none` stands for `RIO_RTE_BAD`, which is beyond every table. -/
def rioRtvGetMcMsk (n : PeRtVal) : Option RtIdx :=
  if rioRtvIsMcMsk n then some (rioRteIdx n) else none

/-- `tt_t`. -/
inductive Tt where
  | ttDev8 | ttDev16
  deriving DecidableEq, Repr

/-- `rio_rt_uc_info_t`. -/
structure RioRtUcInfo where
  rteVal : PeRtVal
  changed : Bool
  deriving DecidableEq, Repr

/-- `rio_rt_mc_info_t`. -/
structure RioRtMcInfo where
  mcDestId : Nat
  tt : Tt
  mcMask : BitVec 32
  inUse : Bool
  allocd : Bool
  changed : Bool
  deriving DecidableEq, Repr

/-- `rio_rt_state_t`. -/
structure RioRtState where
  defaultRoute : PeRtVal
  devTable : RtIdx → RioRtUcInfo
  domTable : RtIdx → RioRtUcInfo
  mcMasks : RtIdx → RioRtMcInfo

/-- Devices the driver knows. -/
inductive DevCode where
  | rxs2448 | rxs1632 | other
  deriving DecidableEq, Repr

/-- The part of `DAR_DEV_INFO_t` that is read here. -/
structure DarDevInfo where
  devCode : DevCode
  numPorts : Nat

def DarDevInfo.numRxsPorts (devInfo : DarDevInfo) : Nat :=
  if devInfo.numPorts > 24 then 24 else devInfo.numPorts

/-- The entry of the device table for the low byte of a destination ID. -/
def devIdx (mcDestId : Nat) : RtIdx := Fin.ofNat 256 mcDestId

/-- The entry of the domain table for the high byte of a destination ID. -/
def domIdx (mcDestId : Nat) : RtIdx := Fin.ofNat 256 (mcDestId / 256)

/-- Return codes; `regError` is a code that a register access returned. -/
inductive RioRc where
  | rioSuccess
  | rioErrInvalidParameter
  | rioErrInsufficientResources
  | rioErrNoFunctionSupport
  | rioErrRtCorrupted
  | rioErrRouteError
  | regError (code : Nat)
  deriving DecidableEq, Repr

/-- `imp_rc`: where a call gave up. -/
inductive ImpRc where
  | rioSuccess
  | rtInitialize (pt : Nat)
  | rtProbe (pt : Nat)
  | rtAllocMcMask (pt : Nat)
  | rtDeallocMcMask (pt : Nat)
  | rtChangeRte (pt : Nat)
  | changeMcMask (pt : Nat)
  | rxsProgramMcMasks (pt : Nat)
  | rxsProgramRteEntries (pt : Nat)
  | rxsRteSetCommon (pt : Nat)
  | rtProbeAll (pt : Nat)
  | rxsReadRteEntries (pt : Nat)
  | rtSetAll (pt : Nat)
  | rtSetChanged (pt : Nat)
  | rteSetCommon (pt : Nat)
  | readMcMasks (pt : Nat)
  | readRteEntries (pt : Nat)
  | programMcMasks (pt : Nat)
  | programRteEntries (pt : Nat)
  deriving DecidableEq, Repr

/-- The two codes a call returns. -/
abbrev RtRc := RioRc × ImpRc

/-- `rxs_chk_and_corr_rtv`: an entry that the device cannot use becomes a drop. -/
def rxsChkAndCorrRtv (devInfo : DarDevInfo) (rtv : RioRtUcInfo) (domValue dfltPort : Bool) :
    RioRtUcInfo :=
  let chkVal := rtv.rteVal &&& ~~~0xF0000000
  let dropped : RioRtUcInfo := ⟨rioRteDrop, true⟩
  -- unknown bits are no reason to return
  let rtv := if chkVal &&& ~~~0x3FF ≠ 0 then dropped else rtv
  if rioRtvIsPort chkVal then
    if (chkVal &&& 0xFF).toNat ≥ devInfo.numPorts then dropped else rtv
  else if rioRtvIsMcMsk chkVal then rtv
  else if rioRtvIsLvlGrp chkVal then
    if !domValue || dfltPort then dropped
    else if chkVal ≠ rioRteLvlG0 then dropped
    else rtv
  else if chkVal = rioRteDfltPort then
    if dfltPort then dropped else rtv
  else if chkVal = rioRteDrop then rtv
  else dropped

/-- `DSF_rio_rt_default_alloc_mc_mask`, which searches the first `mcMaskCnt` masks. -/
def dsfRioRtDefaultAllocMcMask (rt : RioRtState) (mcMaskCnt : Nat) :
    RtRc × PeRtVal × RioRtState :=
  match (List.finRange 256).find? fun idx =>
      idx.val < mcMaskCnt && !(rt.mcMasks idx).inUse && !(rt.mcMasks idx).allocd with
  | some idx =>
    ((.rioSuccess, .rioSuccess), rioRtvMcMsk idx,
      { rt with
        mcMasks := Function.update rt.mcMasks idx { rt.mcMasks idx with allocd := true } })
  | none => ((.rioErrInsufficientResources, .rtAllocMcMask 2), rioRteBad, rt)

/-- An entry with the given value becomes a drop. -/
def dropValue (mcMaskRte : PeRtVal) (rte : RioRtUcInfo) : RioRtUcInfo :=
  if rte.rteVal = mcMaskRte then ⟨rioRteDrop, true⟩ else rte

/-- What deallocation leaves of a mask. -/
def clearMask (mask : RioRtMcInfo) : RioRtMcInfo :=
  if mask.inUse || mask.allocd then
    { mcDestId := 0, tt := .ttDev8, mcMask := 0, inUse := false, allocd := false
      changed := mask.inUse }
  else mask

section

variable (rt : RioRtState)

/-- `DSF_rio_rt_dealloc_mc_mask` once the mask index is known. -/
def deallocMask (mcMaskRte : PeRtVal) (mcIdx : RtIdx) : RioRtState :=
  let mask := rt.mcMasks mcIdx
  let devTable := fun idx => dropValue mcMaskRte (rt.devTable idx)
  { rt with
    devTable :=
      if mask.inUse then Function.update devTable (devIdx mask.mcDestId) ⟨rioRteDrop, true⟩
      else devTable
    domTable := fun idx => dropValue mcMaskRte (rt.domTable idx)
    mcMasks := Function.update rt.mcMasks mcIdx (clearMask mask) }

def dsfRioRtDeallocMcMask (mcMaskRte : PeRtVal) : RtRc × RioRtState :=
  match rioRtvGetMcMsk mcMaskRte with
  | none => ((.rioErrInvalidParameter, .rtDeallocMcMask 2), rt)
  | some mcIdx => ((.rioSuccess, .rioSuccess), deallocMask rt mcMaskRte mcIdx)

/-- The entry that `change_rte` is about. -/
def RioRtState.target (domEntry : Bool) (idx : RtIdx) : RioRtUcInfo :=
  if domEntry then rt.domTable idx else rt.devTable idx

/-- Store into the entry that `change_rte` is about. -/
def RioRtState.setTarget (domEntry : Bool) (idx : RtIdx)
    (rte : RioRtUcInfo) : RioRtState :=
  if domEntry then { rt with domTable := Function.update rt.domTable idx rte }
  else { rt with devTable := Function.update rt.devTable idx rte }

theorem setTarget_mcMasks (domEntry : Bool) (idx : RtIdx) (rte : RioRtUcInfo) :
    (rt.setTarget domEntry idx rte).mcMasks = rt.mcMasks := by
  cases domEntry <;> rfl

/-- The search of `rxs_tidy_routing_table`: some other entry has exactly this value. -/
def RioRtState.foundOne (domEntry : Bool) (idx : RtIdx) (chkVal : PeRtVal) :
    Prop :=
  ∃ srch : RtIdx,
    ((idx ≠ srch ∨ domEntry = true) ∧ (rt.devTable srch).rteVal = chkVal) ∨
      ((idx ≠ srch ∨ domEntry = false) ∧ (rt.domTable srch).rteVal = chkVal)

end

instance (rt : RioRtState) (domEntry : Bool) (idx : RtIdx) (chkVal : PeRtVal) :
    Decidable (rt.foundOne domEntry idx chkVal) :=
  inferInstanceAs (Decidable (∃ _ : RtIdx, _ ∨ _))

/-- `rxs_tidy_routing_table`: free the mask of an entry that is about to change, if no other
entry has the same value. -/
def rxsTidyRoutingTable (rt : RioRtState) (idx : RtIdx) (isDomTable : Bool) :
    RtRc × RioRtState :=
  let chkVal := (rt.target isDomTable idx).rteVal
  if !rioRtvIsMcMsk chkVal then ((.rioSuccess, .rioSuccess), rt)
  else if rt.foundOne isDomTable idx chkVal then ((.rioSuccess, .rioSuccess), rt)
  else dsfRioRtDeallocMcMask rt chkVal

/-- A new value for an entry is refused: it had to be corrected, or is a multicast mask that
is not in use. -/
def rxsRefusesRte (devInfo : DarDevInfo) (rt : RioRtState) (domEntry : Bool)
    (rteValue : PeRtVal) : Option RtRc :=
  if (rxsChkAndCorrRtv devInfo ⟨rteValue, false⟩ domEntry false).changed then
    some (.rioErrInvalidParameter, .rtChangeRte 0x10)
  else if rioRtvIsMcMsk rteValue && !(rt.mcMasks (rioRteIdx rteValue)).inUse then
    some (.rioErrInvalidParameter, .rtChangeRte 0x20)
  else none

def rxsRioRtChangeRte (devInfo : DarDevInfo) (rt : RioRtState) (domEntry : Bool) (idx : RtIdx)
    (rteValue : PeRtVal) : RtRc × RioRtState :=
  if domEntry && idx = 0 then
    -- index 0 of the domain table always leads to the device table
    if rteValue = (rt.domTable 0).rteVal then ((.rioSuccess, .rioSuccess), rt)
    else ((.rioErrInvalidParameter, .rtChangeRte 4), rt)
  else
    match rxsRefusesRte devInfo rt domEntry rteValue with
    | some rc => (rc, rt)
    | none =>
      if (rt.target domEntry idx).rteVal = rteValue then ((.rioSuccess, .rioSuccess), rt)
      else
        let tidied := rxsTidyRoutingTable rt idx domEntry
        if tidied.1.1 ≠ .rioSuccess then tidied
        else
          ((.rioSuccess, .rioSuccess), tidied.2.setTarget domEntry idx ⟨rteValue, true⟩)

/-- Point an entry to a mask. -/
def pointTo (mcMaskRte : PeRtVal) (rte : RioRtUcInfo) : RioRtUcInfo :=
  if rte.rteVal ≠ mcMaskRte then ⟨mcMaskRte, true⟩ else rte

/-- The mask after `change_mc_mask`: new ports always, a new destination ID only if the mask
was not both in use and allocated. -/
def changeMask (mask mcInfo : RioRtMcInfo) : RioRtMcInfo :=
  let mask :=
    if mask.mcMask ≠ mcInfo.mcMask then { mask with mcMask := mcInfo.mcMask, changed := true }
    else mask
  if mask.inUse && mask.allocd then mask
  else
    { mask with
      changed := true
      inUse := true
      allocd := true
      mcDestId := mcInfo.mcDestId
      tt := mcInfo.tt }

/-- The tables after `change_mc_mask`: the entry of the destination ID points to the mask. -/
def pointEntry (rt : RioRtState) (mcMaskRte : PeRtVal) (mcInfo : RioRtMcInfo) : RioRtState :=
  let dom := domIdx mcInfo.mcDestId
  let dev := devIdx mcInfo.mcDestId
  if mcInfo.tt = .ttDev16 ∧ rioRtvIsLvlGrp (rt.domTable dom).rteVal = false then
    { rt with domTable := Function.update rt.domTable dom (pointTo mcMaskRte (rt.domTable dom)) }
  else
    { rt with devTable := Function.update rt.devTable dev (pointTo mcMaskRte (rt.devTable dev)) }

/-- The parameter checks of `rxs_rio_rt_change_mc_mask`. -/
def rxsRefusesMcInfo (devInfo : DarDevInfo) (mcInfo : RioRtMcInfo) : Option RtRc :=
  if mcInfo.mcDestId > 0xFFFF ∨ (mcInfo.mcDestId > 0xFF ∧ mcInfo.tt = .ttDev8) then
    some (.rioErrInvalidParameter, .changeMcMask 2)
  else if mcInfo.mcMask &&& ~~~(BitVec.ofNat 32 (2 ^ devInfo.numRxsPorts) - 1) ≠ 0 then
    some (.rioErrInvalidParameter, .changeMcMask 3)
  else none

def rxsRioRtChangeMcMask (devInfo : DarDevInfo) (rt : RioRtState) (mcMaskRte : PeRtVal)
    (mcInfo : RioRtMcInfo) : RtRc × RioRtState :=
  match rxsRefusesMcInfo devInfo mcInfo with
  | some rc => (rc, rt)
  | none =>
    if !mcInfo.inUse then dsfRioRtDeallocMcMask rt mcMaskRte
    else
      match rioRtvGetMcMsk mcMaskRte with
      | none => ((.rioErrInvalidParameter, .changeMcMask 4), rt)
      | some chgIdx =>
        let pointed := pointEntry rt mcMaskRte mcInfo
        ((.rioSuccess, .rioSuccess),
          { pointed with
            mcMasks :=
              Function.update rt.mcMasks chgIdx (changeMask (rt.mcMasks chgIdx) mcInfo) })

/-- The editing operations with their parameters. -/
inductive RtCall where
  | allocMcMask (mcMaskCnt : Nat)
  | deallocMcMask (mcMaskRte : PeRtVal)
  | changeRte (domEntry : Bool) (idx : RtIdx) (rteValue : PeRtVal)
  | changeMcMask (mcMaskRte : PeRtVal) (mcInfo : RioRtMcInfo)
  deriving DecidableEq, Repr

/-- One call: its return codes and the table it leaves. -/
def RtCall.result (devInfo : DarDevInfo) (rt : RioRtState) : RtCall → RtRc × RioRtState
  | .allocMcMask mcMaskCnt =>
    let (rc, _, rt) := dsfRioRtDefaultAllocMcMask rt mcMaskCnt
    (rc, rt)
  | .deallocMcMask mcMaskRte => dsfRioRtDeallocMcMask rt mcMaskRte
  | .changeRte domEntry idx rteValue => rxsRioRtChangeRte devInfo rt domEntry idx rteValue
  | .changeMcMask mcMaskRte mcInfo => rxsRioRtChangeMcMask devInfo rt mcMaskRte mcInfo

/-- The table after one call. -/
def RtCall.exec (devInfo : DarDevInfo) (rt : RioRtState) (call : RtCall) : RioRtState :=
  (call.result devInfo rt).2

/-- The mask value that a call hands to `DSF_rio_rt_dealloc_mc_mask`, directly or through
`rxs_tidy_routing_table`. -/
def RtCall.deallocates (devInfo : DarDevInfo) (rt : RioRtState) : RtCall → Option PeRtVal
  | .allocMcMask _ => none
  | .deallocMcMask mcMaskRte => if rioRtvIsMcMsk mcMaskRte then some mcMaskRte else none
  | .changeRte domEntry idx rteValue =>
    let current := (rt.target domEntry idx).rteVal
    if (domEntry && idx = 0) || (rxsRefusesRte devInfo rt domEntry rteValue).isSome then none
    else if current = rteValue then none
    else if rioRtvIsMcMsk current && !rt.foundOne domEntry idx current then some current
    else none
  | .changeMcMask mcMaskRte mcInfo =>
    if (rxsRefusesMcInfo devInfo mcInfo).isNone && !mcInfo.inUse && rioRtvIsMcMsk mcMaskRte then
      some mcMaskRte
    else none

/-- The value that a call stores after it has deallocated. -/
def RtCall.newValue : RtCall → Option PeRtVal
  | .changeRte _ _ rteValue => some rteValue
  | _ => none

/-- A value refers to a multicast mask only if that mask is in use. -/
def RefersInUse (rt : RioRtState) (value : PeRtVal) : Prop :=
  ∀ mcIdx, rioRtvGetMcMsk value = some mcIdx → (rt.mcMasks mcIdx).inUse = true

/-- What one call does to the table, with the mask value it deallocates. -/
inductive RtEffect (rt : RioRtState) : RtCall → Option PeRtVal → RioRtState → Prop where
  | kept (call : RtCall) : RtEffect rt call none rt
  | allocated (mcMaskCnt : Nat) (idx : RtIdx) :
      RtEffect rt (.allocMcMask mcMaskCnt) none
        { rt with
          mcMasks := Function.update rt.mcMasks idx { rt.mcMasks idx with allocd := true } }
  | deallocated {call : RtCall} {mcMaskRte : PeRtVal} (storesNothing : call.newValue = none)
      (isMask : rioRtvIsMcMsk mcMaskRte = true) :
      RtEffect rt call (some mcMaskRte) (deallocMask rt mcMaskRte (rioRteIdx mcMaskRte))
  | changed (domEntry : Bool) (idx : RtIdx) {rteValue : PeRtVal}
      (inUse : RefersInUse rt rteValue) :
      RtEffect rt (.changeRte domEntry idx rteValue) none
        (rt.setTarget domEntry idx ⟨rteValue, true⟩)
  | replaced (domEntry : Bool) (idx : RtIdx) {rteValue mcMaskRte : PeRtVal}
      (inUse : RefersInUse rt rteValue)
      (current : (rt.target domEntry idx).rteVal = mcMaskRte)
      (isMask : rioRtvIsMcMsk mcMaskRte = true) :
      RtEffect rt (.changeRte domEntry idx rteValue) (some mcMaskRte)
        ((deallocMask rt mcMaskRte (rioRteIdx mcMaskRte)).setTarget domEntry idx ⟨rteValue, true⟩)
  | pointed {mcMaskRte : PeRtVal} (mcInfo : RioRtMcInfo)
      (isMask : rioRtvIsMcMsk mcMaskRte = true) :
      RtEffect rt (.changeMcMask mcMaskRte mcInfo) none
        { pointEntry rt mcMaskRte mcInfo with
          mcMasks :=
            Function.update rt.mcMasks (rioRteIdx mcMaskRte)
              (changeMask (rt.mcMasks (rioRteIdx mcMaskRte)) mcInfo) }

variable {value : PeRtVal} {rt : RioRtState} {isDomTable : Bool}

theorem rioRtvGetMcMsk_of_isMcMsk (isMask : rioRtvIsMcMsk value = true) :
    rioRtvGetMcMsk value = some (rioRteIdx value) := if_pos isMask

theorem rioRtvGetMcMsk_of_not (notMask : rioRtvIsMcMsk value = false) :
    rioRtvGetMcMsk value = none := by simp [rioRtvGetMcMsk, notMask]

theorem refersInUse_of_accepted {devInfo : DarDevInfo} {domEntry : Bool} {rteValue : PeRtVal}
    (accepted : rxsRefusesRte devInfo rt domEntry rteValue = none) :
    RefersInUse rt rteValue := by
  intro mcIdx refers
  have isMask : rioRtvIsMcMsk rteValue = true := by
    by_contra notMask
    simp [rioRtvGetMcMsk, notMask] at refers
  rw [rioRtvGetMcMsk_of_isMcMsk isMask, Option.some.injEq] at refers
  subst refers
  cases inUse : (rt.mcMasks (rioRteIdx rteValue)).inUse with
  | true => rfl
  | false =>
    simp only [rxsRefusesRte, isMask, inUse] at accepted
    split at accepted <;> cases accepted

theorem rxsTidyRoutingTable_of_last {idx : RtIdx}
    (isMask : rioRtvIsMcMsk (rt.target isDomTable idx).rteVal = true)
    (last : ¬rt.foundOne isDomTable idx (rt.target isDomTable idx).rteVal) :
    rxsTidyRoutingTable rt idx isDomTable =
      ((.rioSuccess, .rioSuccess),
        deallocMask rt (rt.target isDomTable idx).rteVal
          (rioRteIdx (rt.target isDomTable idx).rteVal)) := by
  simp only [rxsTidyRoutingTable, isMask, last, dsfRioRtDeallocMcMask,
    rioRtvGetMcMsk_of_isMcMsk isMask]
  rfl

theorem rxsTidyRoutingTable_of_kept {idx : RtIdx}
    (kept : ¬(rioRtvIsMcMsk (rt.target isDomTable idx).rteVal &&
      !rt.foundOne isDomTable idx (rt.target isDomTable idx).rteVal) = true) :
    rxsTidyRoutingTable rt idx isDomTable = ((.rioSuccess, .rioSuccess), rt) := by
  simp only [Bool.and_eq_true, Bool.not_eq_true', decide_eq_false_iff_not, not_and, not_not]
    at kept
  by_cases isMask : rioRtvIsMcMsk (rt.target isDomTable idx).rteVal = true
  · simp [rxsTidyRoutingTable, isMask, kept isMask]
  · simp [rxsTidyRoutingTable, isMask]

section

variable (devInfo : DarDevInfo) (rt : RioRtState)

theorem allocMcMask_effect (mcMaskCnt : Nat) :
    RtEffect rt (.allocMcMask mcMaskCnt) none
      ((RtCall.allocMcMask mcMaskCnt).exec devInfo rt) := by
  simp only [RtCall.exec, RtCall.result, dsfRioRtDefaultAllocMcMask]
  split
  · exact .allocated mcMaskCnt _
  · exact .kept _

theorem deallocMcMask_effect (mcMaskRte : PeRtVal) :
    RtEffect rt (.deallocMcMask mcMaskRte)
      ((RtCall.deallocMcMask mcMaskRte).deallocates devInfo rt)
      ((RtCall.deallocMcMask mcMaskRte).exec devInfo rt) := by
  simp only [RtCall.exec, RtCall.result, RtCall.deallocates, dsfRioRtDeallocMcMask]
  cases isMask : rioRtvIsMcMsk mcMaskRte with
  | false =>
    rw [rioRtvGetMcMsk_of_not isMask]
    exact .kept _
  | true =>
    rw [rioRtvGetMcMsk_of_isMcMsk isMask]
    exact .deallocated rfl isMask

theorem changeRte_effect (domEntry : Bool) (idx : RtIdx)
    (rteValue : PeRtVal) :
    RtEffect rt (.changeRte domEntry idx rteValue)
      ((RtCall.changeRte domEntry idx rteValue).deallocates devInfo rt)
      ((RtCall.changeRte domEntry idx rteValue).exec devInfo rt) := by
  simp only [RtCall.exec, RtCall.result, RtCall.deallocates, rxsRioRtChangeRte]
  cases first : domEntry && decide (idx = 0) with
  | true =>
    simp only [Bool.true_or, if_true]
    split <;> exact .kept _
  | false =>
    cases refused : rxsRefusesRte devInfo rt domEntry rteValue with
    | some rc => exact .kept _
    | none =>
      have inUse := refersInUse_of_accepted refused
      by_cases same : (rt.target domEntry idx).rteVal = rteValue
      · simp only [same, if_true, ite_self, Bool.false_eq_true, if_false]
        exact .kept _
      · simp only [same, if_false, Bool.false_eq_true, Option.isSome_none, Bool.or_false]
        split
        next last =>
          simp only [Bool.and_eq_true, Bool.not_eq_true', decide_eq_false_iff_not] at last
          rw [rxsTidyRoutingTable_of_last last.1 last.2]
          exact .replaced domEntry idx inUse rfl last.1
        next kept =>
          rw [rxsTidyRoutingTable_of_kept kept]
          exact .changed domEntry idx inUse

theorem changeMcMask_effect (mcMaskRte : PeRtVal)
    (mcInfo : RioRtMcInfo) :
    RtEffect rt (.changeMcMask mcMaskRte mcInfo)
      ((RtCall.changeMcMask mcMaskRte mcInfo).deallocates devInfo rt)
      ((RtCall.changeMcMask mcMaskRte mcInfo).exec devInfo rt) := by
  simp only [RtCall.exec, RtCall.result, RtCall.deallocates, rxsRioRtChangeMcMask]
  cases refused : rxsRefusesMcInfo devInfo mcInfo with
  | some rc => exact .kept _
  | none =>
    cases isMask : rioRtvIsMcMsk mcMaskRte with
    | false =>
      simp only [dsfRioRtDeallocMcMask, rioRtvGetMcMsk_of_not isMask, Bool.and_false,
        Bool.false_eq_true, if_false]
      split <;> exact .kept _
    | true =>
      simp only [dsfRioRtDeallocMcMask, rioRtvGetMcMsk_of_isMcMsk isMask]
      cases used : mcInfo.inUse with
      | false => exact .deallocated rfl isMask
      | true => exact .pointed mcInfo isMask

theorem exec_effect (call : RtCall) :
    RtEffect rt call (call.deallocates devInfo rt) (call.exec devInfo rt) := by
  cases call with
  | allocMcMask mcMaskCnt => exact allocMcMask_effect devInfo rt mcMaskCnt
  | deallocMcMask mcMaskRte => exact deallocMcMask_effect devInfo rt mcMaskRte
  | changeRte domEntry idx rteValue => exact changeRte_effect devInfo rt domEntry idx rteValue
  | changeMcMask mcMaskRte mcInfo => exact changeMcMask_effect devInfo rt mcMaskRte mcInfo

end

end RioFabric.RouteTable

import Mathlib.Data.BitVec
import RioFabric.RouteTable.Frame

/-!
# Reading a table back

`rxs_rio_rt_probe_all` fills a routing table from the registers of one port.  A mask has no
register that tells which entry it belongs to: the first entry that names the mask gives its
destination ID.
-/

namespace RioFabric.RouteTable

open Lib

/-- The register accesses of a probe. -/
inductive RegRead where
  | readDfltRoute
  | readRte (domEntry : Bool) (port : Nat) (idx : RtIdx)
  | readMcMask (port : Nat) (idx : RtIdx)

/-- How the reads of a probe end: `none` is success. -/
abbrev ReadBus := RegRead → Option Nat

/-- `DARRegRead`. -/
def probeRegRead (bus : ReadBus) (access : RegRead) (impRc : ImpRc) (read : RxsHw → BitVec 32) :
    RxsProgram (BitVec 32) := do
  match bus access with
  | some code => throw (.regError code, impRc)
  | none =>
    let state ← get
    return read state.hw

/-- The entry registers of one table. -/
def RxsHw.rte (hw : RxsHw) (domEntry : Bool) : Nat → RtIdx → BitVec 32 :=
  if domEntry then hw.domRte else hw.devRte

/-- Replace one mask. -/
def RxsState.setMcMask (state : RxsState) (mcIdx : RtIdx) (mask : RioRtMcInfo) : RxsState :=
  { state with rt := { state.rt with mcMasks := Function.update state.rt.mcMasks mcIdx mask } }

def rxsRioReadDefaultRoute (devInfo : DarDevInfo) (bus : ReadBus) : RxsProgram Unit := do
  let rteVal ← probeRegRead bus .readDfltRoute (.rxsReadRteEntries 1) fun hw => hw.dfltRoute
  let rtv := rxsChkAndCorrRtv devInfo ⟨rteVal, false⟩ false true
  modify fun state => { state with rt := { state.rt with defaultRoute := rtv.rteVal } }

/-- The destination ID of the entry `didIdx` of the table for IDs of size `didSz`. -/
def entryDestId (didIdx : RtIdx) : Tt → Nat
  | .ttDev8 => didIdx.val
  | .ttDev16 => didIdx.val * 256

/-- `rxs_update_mc_msk`, called for values that name a mask. -/
def rxsUpdateMcMsk (bus : ReadBus) (port : Nat) (mcMsk : PeRtVal) (didIdx : RtIdx) (didSz : Tt) :
    RxsProgram Unit := do
  let mcIdx := rioRteIdx mcMsk
  let state ← get
  let mask := state.rt.mcMasks mcIdx
  if mask.inUse then pure ()
  else
    let mask : RioRtMcInfo :=
      { mask with
        inUse := true
        allocd := true
        changed := false
        tt := didSz
        mcDestId := entryDestId didIdx didSz }
    modify fun state => state.setMcMask mcIdx mask
    let mcMask ← probeRegRead bus (.readMcMask port mcIdx) (.rxsReadRteEntries 6) fun hw =>
      hw.mcMask port mcIdx
    modify fun state => state.setMcMask mcIdx { mask with mcMask := mcMask }

/-- The loop bodies of `rxs_read_rte_entries`.  Both take the entry for one of the device
table when they note what names a mask. -/
def rxsReadRte (devInfo : DarDevInfo) (bus : ReadBus) (port : Nat) (domEntry : Bool)
    (idx : RtIdx) : RxsProgram Unit := do
  modify fun state =>
    { state with
      rt := state.rt.setTarget domEntry idx { state.rt.target domEntry idx with changed := false } }
  let rteVal ← probeRegRead bus (.readRte domEntry port idx) (.rxsReadRteEntries 4) fun hw =>
    hw.rte domEntry port idx
  let rte := rxsChkAndCorrRtv devInfo ⟨rteVal, false⟩ domEntry false
  modify fun state => { state with rt := state.rt.setTarget domEntry idx rte }
  if rioRtvIsMcMsk rte.rteVal then rxsUpdateMcMsk bus port rte.rteVal idx .ttDev8 else pure ()

def rxsReadRteEntries (devInfo : DarDevInfo) (bus : ReadBus) (port : Nat) : RxsProgram Unit := do
  (List.finRange 256).forM (rxsReadRte devInfo bus port false)
  (List.finRange 256).forM (rxsReadRte devInfo bus port true)

/-- The port that is read for `probe_on_port`. -/
def probePort (probeOnPort : Nat) : Nat := if probeOnPort = rioAllPorts then 0 else probeOnPort

/-- `rxs_rio_rt_probe_all`.  Its initialization writes no register. -/
def rxsRioRtProbeAll (devInfo : DarDevInfo) (bus : ReadBus) (probeOnPort : Nat) :
    RxsProgram Unit := do
  failIf (probeOnPort ≠ rioAllPorts ∧ probeOnPort ≥ devInfo.numRxsPorts)
    (.rioErrInvalidParameter, .rtProbeAll 1)
  rxsRioRtInitialize devInfo (fun _ => none)
    { setOnPort := probePort probeOnPort
      defaultRoute := rioRteDrop
      defaultRouteTablePort := rioRteDrop
      updateHw := false }
  rxsRioReadDefaultRoute devInfo bus
  rxsReadRteEntries devInfo bus (probePort probeOnPort)

section ReadBack

variable (devInfo : DarDevInfo) (port : Nat) (domEntry : Bool) {done : Set RtIdx}

/-- The value that a probe makes of an entry register. -/
def readValue (hw : RxsHw) (idx : RtIdx) : PeRtVal :=
  (rxsChkAndCorrRtv devInfo ⟨hw.rte domEntry port idx, false⟩ domEntry false).rteVal

/-- The mask that a probe notes for the entry `idx`. -/
def foundMask (hw : RxsHw) (idx mcIdx : RtIdx) : RioRtMcInfo where
  mcDestId := idx.val
  tt := .ttDev8
  mcMask := hw.mcMask port mcIdx
  inUse := true
  allocd := true
  changed := false

/-- An entry is stored, and gets the mask that it names if no entry has it. -/
def storeRte (idx : RtIdx) (rte : RioRtUcInfo) (state : RxsState) : RxsState :=
  let mcIdx := rioRteIdx rte.rteVal
  let stored : RxsState := { state with rt := state.rt.setTarget domEntry idx rte }
  if rioRtvIsMcMsk rte.rteVal = true ∧ (state.rt.mcMasks mcIdx).inUse = false then
    stored.setMcMask mcIdx (foundMask port state.hw idx mcIdx)
  else stored

/-- What one turn of the loop over a table leaves if no read fails. -/
def readRteStep (idx : RtIdx) (state : RxsState) : RxsState :=
  storeRte port domEntry idx
    (rxsChkAndCorrRtv devInfo ⟨state.hw.rte domEntry port idx, false⟩ domEntry false) state

theorem setTarget_setTarget (rt : RioRtState) (idx : RtIdx) (first second : RioRtUcInfo) :
    (rt.setTarget domEntry idx first).setTarget domEntry idx second =
      rt.setTarget domEntry idx second := by
  cases domEntry <;> simp [RioRtState.setTarget]

theorem rxsReadRte_run (idx : RtIdx) (state : RxsState) :
    (rxsReadRte devInfo (fun _ => none) port domEntry idx).run state =
      .ok () (readRteStep devInfo port domEntry idx state) := by
  have masks (rte : RioRtUcInfo) := setTarget_mcMasks state.rt domEntry idx rte
  have again (first second : RioRtUcInfo) :=
    setTarget_setTarget domEntry state.rt idx first second
  simp only [rxsReadRte, probeRegRead, EStateM.run_bind, EStateM.run_modify, EStateM.run_get,
    EStateM.run_pure, again, readRteStep, storeRte]
  generalize rxsChkAndCorrRtv devInfo ⟨state.hw.rte domEntry port idx, false⟩ domEntry false = rte
  cases isMask : rioRtvIsMcMsk rte.rteVal with
  | false => simp
  | true =>
    cases used : (state.rt.mcMasks (rioRteIdx rte.rteVal)).inUse with
    | true => simp [rxsUpdateMcMsk, masks, used]
    | false =>
      simp [rxsUpdateMcMsk, masks, used, probeRegRead, RxsState.setMcMask]
      rfl

/-- An entry of `done` names the mask. -/
def NamedBy (hw : RxsHw) (done : Set RtIdx) (mcIdx : RtIdx) : Prop :=
  ∃ idx ∈ done, rioRtvGetMcMsk (readValue devInfo port domEntry hw idx) = some mcIdx

/-- The entries of `done` have been read from one table.  A mask that was not in use before
belongs to one of them, or is not in use now. -/
structure TableRead (start : RxsState) (done : Set RtIdx) (state : RxsState) : Prop where
  hw : state.hw = start.hw
  dfltRoute : state.rt.defaultRoute = start.rt.defaultRoute
  otherTable : ∀ idx, state.rt.target (!domEntry) idx = start.rt.target (!domEntry) idx
  entries : ∀ idx ∈ done,
    (state.rt.target domEntry idx).rteVal = readValue devInfo port domEntry start.hw idx
  kept : ∀ mcIdx, (start.rt.mcMasks mcIdx).inUse = true →
    state.rt.mcMasks mcIdx = start.rt.mcMasks mcIdx
  found : ∀ mcIdx, (start.rt.mcMasks mcIdx).inUse = false →
    NamedBy devInfo port domEntry start.hw done mcIdx →
      ∃ idx ∈ done, rioRtvGetMcMsk (readValue devInfo port domEntry start.hw idx) = some mcIdx ∧
        state.rt.mcMasks mcIdx = foundMask port start.hw idx mcIdx
  unnamed : ∀ mcIdx, (start.rt.mcMasks mcIdx).inUse = false →
    ¬NamedBy devInfo port domEntry start.hw done mcIdx →
      state.rt.mcMasks mcIdx = start.rt.mcMasks mcIdx

variable {devInfo port domEntry}

theorem namedBy_insert_iff {hw : RxsHw} {idx mcIdx : RtIdx} :
    NamedBy devInfo port domEntry hw (insert idx done) mcIdx ↔
      rioRtvGetMcMsk (readValue devInfo port domEntry hw idx) = some mcIdx ∨
        NamedBy devInfo port domEntry hw done mcIdx := by
  simp only [NamedBy, Set.exists_mem_insert]

theorem storeRte_target (idx : RtIdx) (rte : RioRtUcInfo) (state : RxsState) (other : Bool)
    (at_ : RtIdx) :
    (storeRte port domEntry idx rte state).rt.target other at_ =
      if other = domEntry ∧ at_ = idx then rte else state.rt.target other at_ := by
  rw [← target_setTarget]
  simp only [storeRte]
  split <;> rfl

theorem storeRte_mcMasks (idx : RtIdx) (rte : RioRtUcInfo) (state : RxsState) (mcIdx : RtIdx) :
    (storeRte port domEntry idx rte state).rt.mcMasks mcIdx =
      if rioRtvGetMcMsk rte.rteVal = some mcIdx ∧ (state.rt.mcMasks mcIdx).inUse = false then
        foundMask port state.hw idx mcIdx
      else state.rt.mcMasks mcIdx := by
  simp only [storeRte]
  cases isMask : rioRtvIsMcMsk rte.rteVal with
  | false => simp [rioRtvGetMcMsk, isMask, setTarget_mcMasks]
  | true =>
    rw [rioRtvGetMcMsk_of_isMcMsk isMask]
    obtain rfl | different := eq_or_ne mcIdx (rioRteIdx rte.rteVal)
    · split <;> simp_all [RxsState.setMcMask, setTarget_mcMasks]
    · split <;> simp [RxsState.setMcMask, setTarget_mcMasks, different, different.symm]

theorem storeRte_hw (idx : RtIdx) (rte : RioRtUcInfo) (state : RxsState) :
    (storeRte port domEntry idx rte state).hw = state.hw := by
  simp only [storeRte]
  split <;> rfl

theorem storeRte_defaultRoute (idx : RtIdx) (rte : RioRtUcInfo) (state : RxsState) :
    (storeRte port domEntry idx rte state).rt.defaultRoute = state.rt.defaultRoute := by
  simp only [storeRte]
  cases domEntry <;> split <;> rfl

theorem TableRead.start (start : RxsState) :
    TableRead devInfo port domEntry start ∅ start where
  hw := rfl
  dfltRoute := rfl
  otherTable _ := rfl
  entries _ mem := absurd mem (Set.notMem_empty _)
  kept _ _ := rfl
  found _ _ named := by
    obtain ⟨idx, mem, _⟩ := named
    exact absurd mem (Set.notMem_empty idx)
  unnamed _ _ _ := rfl

theorem TableRead.turn {start state : RxsState}
    (before : TableRead devInfo port domEntry start done state) (idx : RtIdx) :
    TableRead devInfo port domEntry start (insert idx done)
      (readRteStep devInfo port domEntry idx state) where
  hw := (storeRte_hw idx _ state).trans before.hw
  dfltRoute := (storeRte_defaultRoute idx _ state).trans before.dfltRoute
  otherTable at_ := by
    rw [readRteStep, storeRte_target, if_neg (by simp), before.otherTable]
  entries at_ mem := by
    rw [readRteStep, storeRte_target, before.hw]
    split
    next here =>
      rw [here.2]
      rfl
    next elsewhere =>
      apply before.entries
      exact mem.resolve_left fun here => elsewhere ⟨rfl, here⟩
  kept mcIdx used := by
    have same := before.kept mcIdx used
    rw [readRteStep, storeRte_mcMasks, same, if_neg (by simp [used])]
  found mcIdx unused named := by
    rw [readRteStep, storeRte_mcMasks, before.hw]
    by_cases already : NamedBy devInfo port domEntry start.hw done mcIdx
    · obtain ⟨at_, mem, names, mask⟩ := before.found mcIdx unused already
      refine ⟨at_, .inr mem, names, ?_⟩
      rw [mask, if_neg (by simp [foundMask])]
    · have names := (namedBy_insert_iff.mp named).resolve_right already
      refine ⟨idx, .inl rfl, names, ?_⟩
      rw [before.unnamed mcIdx unused already]
      exact if_pos ⟨names, unused⟩
  unnamed mcIdx unused notNamed := by
    rw [namedBy_insert_iff, not_or] at notNamed
    rw [readRteStep, storeRte_mcMasks, before.hw]
    refine (if_neg fun taken => notNamed.1 taken.1).trans ?_
    exact before.unnamed mcIdx unused notNamed.2

theorem readTable_total (start : RxsState) :
    ∃ final, ((List.finRange 256).forM (rxsReadRte devInfo (fun _ => none) port domEntry)).run
        start = .ok () final ∧
      TableRead devInfo port domEntry start Set.univ final := by
  apply forM_finRange_total
  · intro done idx state before
    exact ⟨_, rxsReadRte_run devInfo port domEntry idx state, before.turn idx⟩
  · exact TableRead.start start

end ReadBack

/-- No bit but those of `RIO_RTE_IMP_SPEC` and `RIO_RTE_VAL` is set. -/
def KnownBits (value : PeRtVal) : Prop := value &&& ~~~0xF0000000 &&& ~~~0x3FF = 0

instance (value : PeRtVal) : Decidable (KnownBits value) := inferInstanceAs (Decidable (_ = _))

theorem impSpec_and (value : PeRtVal) : value &&& ~~~0xF0000000 &&& 0x300 = value &&& 0x300 := by
  rw [BitVec.and_assoc]
  rfl

theorem rxsChkAndCorrRtv_cases (devInfo : DarDevInfo) (rtv : RioRtUcInfo)
    (domValue dfltPort : Bool) :
    rxsChkAndCorrRtv devInfo rtv domValue dfltPort = rtv ∨
      (rxsChkAndCorrRtv devInfo rtv domValue dfltPort).changed = true := by
  simp only [rxsChkAndCorrRtv]
  repeat' split
  all_goals first
    | exact .inl rfl
    | exact .inr rfl

variable {value : PeRtVal}

theorem rxsChkAndCorrRtv_of_unchanged {devInfo : DarDevInfo} {domValue dfltPort : Bool}
    (unchanged : (rxsChkAndCorrRtv devInfo ⟨value, false⟩ domValue dfltPort).changed = false) :
    (rxsChkAndCorrRtv devInfo ⟨value, false⟩ domValue dfltPort).rteVal = value := by
  obtain same | changed := rxsChkAndCorrRtv_cases devInfo ⟨value, false⟩ domValue dfltPort
  · rw [same]
  · rw [changed] at unchanged
    contradiction

theorem rxsChkAndCorrRtv_of_mask {devInfo : DarDevInfo} {domValue dfltPort : Bool}
    (isMask : rioRtvIsMcMsk value = true) :
    (rxsChkAndCorrRtv devInfo ⟨value, false⟩ domValue dfltPort).rteVal =
      if KnownBits value then value else rioRteDrop := by
  have bits : value &&& ~~~0xF0000000 &&& 0x300 = 0x100 := by
    rw [impSpec_and]
    simpa [rioRtvIsMcMsk] using isMask
  have notPort : rioRtvIsPort (value &&& ~~~0xF0000000) = false := by rw [rioRtvIsPort, bits]; rfl
  have stillMask : rioRtvIsMcMsk (value &&& ~~~0xF0000000) = true := by
    rw [rioRtvIsMcMsk, bits]
    rfl
  simp only [rxsChkAndCorrRtv, notPort, stillMask, Bool.false_eq_true, if_false, if_true,
    ne_eq, ite_not]
  split
  next known => exact (if_pos known).symm
  next unknown => exact (if_neg unknown).symm

theorem rxsChkAndCorrRtv_rteVal_iff {devInfo : DarDevInfo} {domEntry : Bool}
    (usable : Usable devInfo domEntry value) :
    (rxsChkAndCorrRtv devInfo ⟨value, false⟩ domEntry false).rteVal = value ↔
      (rioRtvIsMcMsk value = true → KnownBits value) := by
  cases isMask : rioRtvIsMcMsk value with
  | false =>
    refine iff_of_true ?_ nofun
    exact rxsChkAndCorrRtv_of_unchanged (usable.resolve_left (by simp [isMask]))
  | true =>
    rw [rxsChkAndCorrRtv_of_mask isMask]
    by_cases known : KnownBits value
    · simp [known]
    · have notDrop : rioRteDrop ≠ value := by
        rintro rfl
        exact absurd isMask (by decide)
      simp [known, notDrop]

theorem storeMask_of_implemented {maskMask mask held : BitVec 32}
    (implemented : held &&& ~~~maskMask = 0) (legal : mask &&& ~~~maskMask = 0) :
    storeMask maskMask mask held = mask := by
  ext bit inRange
  have heldBit := congrArg (fun value : BitVec 32 => value[bit]) implemented
  have maskBit := congrArg (fun value : BitVec 32 => value[bit]) legal
  simp only [storeMask, BitVec.getElem_or, BitVec.getElem_and, BitVec.getElem_not,
    BitVec.ofNat_eq_ofNat, BitVec.getElem_zero] at heldBit maskBit ⊢
  revert heldBit maskBit
  cases held[bit] <;> cases mask[bit] <;> cases maskMask[bit] <;> simp

/-- What a probe finds in the registers of one port. -/
structure Probed (devInfo : DarDevInfo) (port : Nat) (hw : RxsHw) (rt : RioRtState) : Prop where
  dfltRoute : rt.defaultRoute = (rxsChkAndCorrRtv devInfo ⟨hw.dfltRoute, false⟩ false true).rteVal
  entries : ∀ domEntry idx, (rt.target domEntry idx).rteVal = readValue devInfo port domEntry hw idx
  ofDev : ∀ mcIdx, NamedBy devInfo port false hw Set.univ mcIdx →
    ∃ idx, rioRtvGetMcMsk (readValue devInfo port false hw idx) = some mcIdx ∧
      rt.mcMasks mcIdx = foundMask port hw idx mcIdx
  ofDom : ∀ mcIdx, ¬NamedBy devInfo port false hw Set.univ mcIdx →
    NamedBy devInfo port true hw Set.univ mcIdx →
      ∃ idx, rioRtvGetMcMsk (readValue devInfo port true hw idx) = some mcIdx ∧
        rt.mcMasks mcIdx = foundMask port hw idx mcIdx

theorem probed_of_tablesRead {devInfo : DarDevInfo} {port : Nat} {start devsRead final : RxsState}
    (unused : ∀ mcIdx, (start.rt.mcMasks mcIdx).inUse = false)
    (dfltRoute : start.rt.defaultRoute =
      (rxsChkAndCorrRtv devInfo ⟨start.hw.dfltRoute, false⟩ false true).rteVal)
    (devs : TableRead devInfo port false start Set.univ devsRead)
    (doms : TableRead devInfo port true devsRead Set.univ final) :
    Probed devInfo port start.hw final.rt where
  dfltRoute := doms.dfltRoute.trans (devs.dfltRoute.trans dfltRoute)
  entries domEntry idx := by
    cases domEntry with
    | false =>
      have kept := congrArg RioRtUcInfo.rteVal (doms.otherTable idx)
      exact kept.trans (devs.entries idx trivial)
    | true => rw [doms.entries idx trivial, devs.hw]
  ofDev mcIdx named := by
    obtain ⟨idx, _, names, mask⟩ := devs.found mcIdx (unused mcIdx) named
    refine ⟨idx, names, (doms.kept mcIdx ?_).trans mask⟩
    rw [mask]
    rfl
  ofDom mcIdx notByDev named := by
    have free : (devsRead.rt.mcMasks mcIdx).inUse = false := by
      rw [devs.unnamed mcIdx (unused mcIdx) notByDev]
      exact unused mcIdx
    obtain ⟨idx, _, names, mask⟩ := doms.found mcIdx free (devs.hw ▸ named)
    exact ⟨idx, devs.hw ▸ names, devs.hw ▸ mask⟩

/-- What initialization for a probe takes as parameters. -/
def probeIn (port : Nat) : RioRtInitializeIn where
  setOnPort := port
  defaultRoute := rioRteDrop
  defaultRouteTablePort := rioRteDrop
  updateHw := false

theorem probeIn_initializes {devInfo : DarDevInfo} {bus : RegBus} {port : Nat}
    (inRange : port < devInfo.numRxsPorts) (state : RxsState) :
    (rxsRioRtInitialize devInfo bus (probeIn port)).run state =
      .ok () ⟨initialRt (probeIn port), state.hw⟩ := by
  have dfltPasses : rxsChkDfltRteReg devInfo rioRteDrop = false := rfl
  have tablePasses : (rxsChkAndCorrRtv devInfo ⟨rioRteDrop, false⟩ false false).changed = false :=
    rfl
  have accepted : ¬(port ≥ devInfo.numRxsPorts ∧ port ≠ rioAllPorts) := by omega
  simp only [rxsRioRtInitialize, bind_ok_iff, failIf_ok_iff, modify_ok_iff]
  exact ⟨(), state, ⟨Bool.eq_false_iff.mp dfltPasses, rfl⟩, (), state,
    ⟨Bool.eq_false_iff.mp tablePasses, rfl⟩, (), state, ⟨accepted, rfl⟩, (), _, rfl, rfl⟩

theorem rxsRioRtProbeAll_total {devInfo : DarDevInfo} {probeOnPort : Nat}
    (legal : probeOnPort = rioAllPorts ∨ probeOnPort < devInfo.numRxsPorts)
    (inRange : probePort probeOnPort < devInfo.numRxsPorts) (state : RxsState) :
    ∃ final, (rxsRioRtProbeAll devInfo (fun _ => none) probeOnPort).run state = .ok () final ∧
      Probed devInfo (probePort probeOnPort) state.hw final.rt := by
  let dfltRoute := (rxsChkAndCorrRtv devInfo ⟨state.hw.dfltRoute, false⟩ false true).rteVal
  let start : RxsState :=
    ⟨{ initialRt (probeIn (probePort probeOnPort)) with defaultRoute := dfltRoute }, state.hw⟩
  obtain ⟨devsRead, devsRan, devs⟩ :=
    @readTable_total devInfo (probePort probeOnPort) false start
  obtain ⟨final, domsRan, doms⟩ :=
    @readTable_total devInfo (probePort probeOnPort) true devsRead
  refine ⟨final, ?_, @probed_of_tablesRead _ _ start _ _ (fun _ => rfl) rfl devs doms⟩
  have accepted : ¬(probeOnPort ≠ rioAllPorts ∧ probeOnPort ≥ devInfo.numRxsPorts) := by omega
  simp only [rxsRioRtProbeAll, rxsReadRteEntries, bind_ok_iff, failIf_ok_iff]
  refine ⟨(), state, ⟨accepted, rfl⟩, (), _, probeIn_initializes inRange state, (), start, rfl,
    (), devsRead, devsRan, domsRan⟩

theorem inRange_of_probed {devInfo : DarDevInfo} {bus : ReadBus} {probeOnPort : Nat}
    {state final : RxsState}
    (ran : (rxsRioRtProbeAll devInfo bus probeOnPort).run state = .ok () final) :
    probePort probeOnPort < devInfo.numRxsPorts := by
  simp only [rxsRioRtProbeAll, rxsRioRtInitialize, bind_ok_iff, failIf_ok_iff] at ran
  obtain ⟨_, _, _, _, _, ⟨_, _, _, _, _, _, _, _, ⟨inRange, _⟩, _⟩, _⟩ := ran
  have notAll : probePort probeOnPort ≠ rioAllPorts := by
    unfold probePort
    split
    · decide
    · assumption
  by_contra beyond
  exact inRange ⟨not_lt.mp beyond, notAll⟩

/-- The entry that a mask's type and destination ID stand for names the mask. -/
def OwnedBy (rt : RioRtState) (mask : RioRtMcInfo) (mcIdx : RtIdx) : Prop :=
  ∃ idx, mask.mcDestId = entryDestId idx mask.tt ∧ RefersTo rt (mask.tt = .ttDev16) idx mcIdx

/-- A probed table shows the table that was programmed: default route, entries, and the masks
that entries name. -/
structure Recovers (rt probed : RioRtState) : Prop where
  defaultRoute : probed.defaultRoute = rt.defaultRoute
  entries : ∀ domEntry idx,
    (probed.target domEntry idx).rteVal = (rt.target domEntry idx).rteVal
  masks : ∀ domEntry idx mcIdx, RefersTo rt domEntry idx mcIdx →
    (probed.mcMasks mcIdx).mcMask = (rt.mcMasks mcIdx).mcMask ∧
      (probed.mcMasks mcIdx).inUse = true ∧ OwnedBy rt (probed.mcMasks mcIdx) mcIdx

/-- The registers of a port hold a table. -/
structure Holds (port : Nat) (rt : RioRtState) (hw : RxsHw) : Prop where
  dfltRoute : hw.dfltRoute = rt.defaultRoute
  entries : ∀ domEntry idx, hw.rte domEntry port idx = (rt.target domEntry idx).rteVal
  masks : ∀ mcIdx, hw.mcMask port mcIdx = (rt.mcMasks mcIdx).mcMask

theorem reaches_probePort (port : Nat) : Reaches port (probePort port) := by
  unfold Reaches probePort
  split
  · exact .inl ‹_›
  · exact .inr rfl

theorem holds_of_setAll {devInfo : DarDevInfo} {bus : RegBus} {port : Nat} {rt : RioRtState}
    {hw : RxsHw} {programmed : RxsState}
    (setAll : (rxsRioRtSetAll devInfo bus port).run ⟨rt, hw⟩ = .ok () programmed)
    (implemented : ∀ maskMask ∈ rxsMaskMask devInfo.devCode, ∀ port mcIdx,
      hw.mcMask port mcIdx &&& ~~~maskMask = 0) :
    Holds (probePort port) rt programmed.hw := by
  obtain ⟨maskMask, able, rfl⟩ := rxsRtSetCommon_ok_iff.mp setAll
  have reached := reaches_probePort port
  constructor
  · rfl
  · intro domEntry idx
    cases domEntry with
    | false =>
      simp [RxsState.program, RxsState.programDevRtes, RxsState.programDomRtes,
        RxsState.programMcMasks, RxsHw.rte, RioRtState.target, reached, Marking.writeBack,
        rteMarking]
    | true =>
      simp [RxsState.program, RxsState.programDevRtes, RxsState.programDomRtes,
        RxsState.programMcMasks, RxsHw.rte, RioRtState.target, reached, Marking.writeBack,
        rteMarking]
  · intro mcIdx
    have stored := storeMask_of_implemented
      (implemented maskMask able.device (probePort port) mcIdx)
      (able.masks mcIdx (by simp)).legal
    simpa [RxsState.program, RxsState.programDevRtes, RxsState.programDomRtes,
      RxsState.programMcMasks, reached, Marking.writeBack, mcMarking] using stored

section Probed

variable {devInfo : DarDevInfo} {port : Nat} {rt probed : RioRtState} {hw : RxsHw} {domEntry : Bool}
  {mcIdx : RtIdx}

theorem Holds.readValue_eq (holds : Holds port rt hw) (domEntry : Bool) (idx : RtIdx) :
    readValue devInfo port domEntry hw idx =
      (rxsChkAndCorrRtv devInfo ⟨(rt.target domEntry idx).rteVal, false⟩
        domEntry false).rteVal := by
  rw [readValue, holds.entries]

theorem Holds.namedBy (holds : Holds port rt hw) {idx : RtIdx}
    (names : RefersTo rt domEntry idx mcIdx) (known : KnownBits (rt.target domEntry idx).rteVal) :
    NamedBy devInfo port domEntry hw Set.univ mcIdx := by
  have isMask : rioRtvIsMcMsk (rt.target domEntry idx).rteVal = true := by
    by_contra notMask
    rw [RefersTo, rioRtvGetMcMsk_of_not (Bool.eq_false_iff.mpr notMask)] at names
    contradiction
  refine ⟨idx, trivial, ?_⟩
  rw [holds.readValue_eq, rxsChkAndCorrRtv_of_mask isMask, if_pos known]
  exact names

theorem recovers_of_probed (holds : Holds port rt hw) (read : Probed devInfo port hw probed)
    (dfltPasses : rxsChkDfltRteReg devInfo rt.defaultRoute = false)
    (same : ∀ domEntry idx,
      readValue devInfo port domEntry hw idx = (rt.target domEntry idx).rteVal)
    (devNames : ∀ idx mcIdx, RefersTo rt true idx mcIdx → ∃ at_, RefersTo rt false at_ mcIdx) :
    Recovers rt probed where
  defaultRoute := by
    rw [read.dfltRoute, holds.dfltRoute]
    exact rxsChkAndCorrRtv_of_unchanged dfltPasses
  entries domEntry idx := (read.entries domEntry idx).trans (same domEntry idx)
  masks domEntry idx mcIdx names := by
    have byDev : ∃ at_, RefersTo rt false at_ mcIdx := by
      cases domEntry with
      | false => exact ⟨idx, names⟩
      | true => exact devNames idx mcIdx names
    obtain ⟨at_, devEntry⟩ := byDev
    have named : NamedBy devInfo port false hw Set.univ mcIdx :=
      ⟨at_, trivial, (same false at_).symm ▸ devEntry⟩
    obtain ⟨owner, owns, mask⟩ := read.ofDev mcIdx named
    rw [same] at owns
    rw [mask]
    exact ⟨holds.masks mcIdx, rfl, owner, rfl, owns⟩

theorem Probed.ttDev8 (read : Probed devInfo port hw probed)
    (named : NamedBy devInfo port domEntry hw Set.univ mcIdx) :
    (probed.mcMasks mcIdx).tt = .ttDev8 := by
  by_cases byDev : NamedBy devInfo port false hw Set.univ mcIdx
  · obtain ⟨_, _, mask⟩ := read.ofDev mcIdx byDev
    rw [mask]
    rfl
  · cases domEntry with
    | false => exact absurd named byDev
    | true =>
      obtain ⟨_, _, mask⟩ := read.ofDom mcIdx byDev named
      rw [mask]
      rfl

theorem devNames_of_recovers (read : Probed devInfo port hw probed) (recovers : Recovers rt probed)
    {idx : RtIdx} (names : RefersTo rt true idx mcIdx) :
    ∃ at_, RefersTo rt false at_ mcIdx := by
  obtain ⟨_, _, at_, _, owner⟩ := recovers.masks true idx mcIdx names
  have named : NamedBy devInfo port true hw Set.univ mcIdx := by
    refine ⟨idx, trivial, ?_⟩
    rw [← read.entries, recovers.entries]
    exact names
  rw [read.ttDev8 named] at owner
  exact ⟨at_, owner⟩

end Probed

/-- Programming a reachable table and reading it back recovers it exactly if the device has a
port, masks are named without unknown bits, and whatever mask a domain table entry names, a
device table entry names too. -/
theorem probe_recovers_iff {devInfo : DarDevInfo} {bus : RegBus} {port : Nat} {rt : RioRtState}
    {hw : RxsHw} {programmed : RxsState} (reachable : Reachable devInfo rt)
    (setAll : (rxsRioRtSetAll devInfo bus port).run ⟨rt, hw⟩ = .ok () programmed)
    (implemented : ∀ maskMask ∈ rxsMaskMask devInfo.devCode, ∀ port mcIdx,
      hw.mcMask port mcIdx &&& ~~~maskMask = 0) :
    (∃ final, (rxsRioRtProbeAll devInfo (fun _ => none) port).run programmed = .ok () final ∧
        Recovers rt final.rt) ↔
      0 < devInfo.numPorts ∧
        (∀ domEntry idx, rioRtvIsMcMsk (rt.target domEntry idx).rteVal = true →
          KnownBits (rt.target domEntry idx).rteVal) ∧
        ∀ idx mcIdx, RefersTo rt true idx mcIdx → ∃ at_, RefersTo rt false at_ mcIdx := by
  have holds := holds_of_setAll setAll implemented
  obtain ⟨maskMask, able, _⟩ := rxsRtSetCommon_ok_iff.mp setAll
  have survives (domEntry : Bool) (idx : RtIdx) :=
    rxsChkAndCorrRtv_rteVal_iff (reachable.entriesUsable domEntry idx)
  constructor
  · rintro ⟨final, ran, recovers⟩
    have inRange := inRange_of_probed ran
    obtain ⟨_, again, read⟩ := rxsRioRtProbeAll_total able.port inRange programmed
    cases ran.symm.trans again
    refine ⟨?_, fun domEntry idx => ?_, fun idx mcIdx => devNames_of_recovers read recovers⟩
    · unfold DarDevInfo.numRxsPorts at inRange
      split at inRange <;> omega
    · rw [← survives, ← holds.readValue_eq, ← read.entries]
      exact recovers.entries domEntry idx
  · rintro ⟨hasPort, known, devNames⟩
    have inRange : probePort port < devInfo.numRxsPorts := by
      have legal := able.port
      unfold probePort
      split
      · unfold DarDevInfo.numRxsPorts
        split <;> omega
      · exact legal.resolve_left ‹_›
    obtain ⟨final, ran, read⟩ := rxsRioRtProbeAll_total able.port inRange programmed
    refine ⟨final, ran, recovers_of_probed holds read able.dfltRoute (fun domEntry idx => ?_)
      devNames⟩
    rw [holds.readValue_eq, survives]
    exact known domEntry idx

theorem portZeroRt_setAll {calls : List RtCall} (dfltRoute : (portZeroRt calls).defaultRoute = 0)
    (legal : ∀ idx, ((portZeroRt calls).mcMasks idx).mcMask &&& ~~~0x00FFFFFF = 0)
    (notGroup : ∀ idx, rioRtvIsLvlGrp ((portZeroRt calls).devTable idx).rteVal = false) :
    (rxsRioRtSetAll ⟨.rxs2448, 24⟩ (fun _ => none) 0).run ⟨portZeroRt calls, ⟨0, 0, 0, 0⟩⟩ =
      .ok () (RxsState.program 0 true 0x00FFFFFF ⟨portZeroRt calls, ⟨0, 0, 0, 0⟩⟩) := by
  refine rxsRtSetCommon_ok_iff.mpr ⟨0x00FFFFFF, ?_, rfl⟩
  apply programmable_of_noErrors (fun _ => rfl) (.inr (by decide))
  · rw [dfltRoute]
    decide
  · rfl
  · exact fun idx _ => legal idx
  · exact fun idx _ => Bool.eq_false_iff.mp (notGroup idx)

/-- A mask of the device table comes back. -/
theorem probe_recovers_devMask :
    ∃ final,
      (rxsRioRtProbeAll ⟨.rxs2448, 24⟩ (fun _ => none) 0).run
          (RxsState.program 0 true 0x00FFFFFF ⟨portZeroRt maskForFive, ⟨0, 0, 0, 0⟩⟩) =
            .ok () final ∧
        Recovers (portZeroRt maskForFive) final.rt := by
  have setAll := @portZeroRt_setAll maskForFive (by decide +kernel) (by decide +kernel)
    (by decide +kernel)
  have known : ∀ domEntry idx,
      rioRtvIsMcMsk ((portZeroRt maskForFive).target domEntry idx).rteVal = true →
        KnownBits ((portZeroRt maskForFive).target domEntry idx).rteVal := by decide +kernel
  have noDomMask : ∀ idx, rioRtvGetMcMsk ((portZeroRt maskForFive).target true idx).rteVal = none :=
    by decide +kernel
  apply (probe_recovers_iff (portZeroRt_reachable maskForFive) setAll ?_).mpr
  · exact ⟨by decide, known, fun idx mcIdx names =>
      nomatch (noDomMask idx).symm.trans names⟩
  · exact fun _ _ _ _ => BitVec.zero_and

def maskForDomain : List RtCall :=
  [.allocMcMask 256, .changeMcMask 0x100 ⟨0x500, .ttDev16, 1, true, true, false⟩]

/-- The mask of a domain table entry comes back as one of the device table. -/
theorem probe_recovers_not_domMask :
    let rt := portZeroRt maskForDomain
    Reachable ⟨.rxs2448, 24⟩ rt ∧ RefersTo rt true 5 0 ∧
      ∃ programmed final,
        (rxsRioRtSetAll ⟨.rxs2448, 24⟩ (fun _ => none) 0).run ⟨rt, ⟨0, 0, 0, 0⟩⟩ =
            .ok () programmed ∧
          (rxsRioRtProbeAll ⟨.rxs2448, 24⟩ (fun _ => none) 0).run programmed = .ok () final ∧
            (final.rt.mcMasks 0).tt = .ttDev8 ∧ ¬Recovers rt final.rt := by
  have setAll := @portZeroRt_setAll maskForDomain (by decide +kernel) (by decide +kernel)
    (by decide +kernel)
  have names : RefersTo (portZeroRt maskForDomain) true 5 0 := by decide +kernel
  have noDevMask : ∀ idx, ¬RefersTo (portZeroRt maskForDomain) false idx 0 := by decide +kernel
  obtain ⟨final, ran, read⟩ := @rxsRioRtProbeAll_total ⟨.rxs2448, 24⟩ 0 (.inr (by decide))
    (by decide) (RxsState.program 0 true 0x00FFFFFF ⟨portZeroRt maskForDomain, ⟨0, 0, 0, 0⟩⟩)
  have holds := holds_of_setAll setAll fun _ _ _ _ => BitVec.zero_and
  have value : ((portZeroRt maskForDomain).target true 5).rteVal = 0x100 := by decide +kernel
  have known : KnownBits ((portZeroRt maskForDomain).target true 5).rteVal := by rw [value]; decide
  refine ⟨portZeroRt_reachable maskForDomain, names, _, final, setAll, ran, ?_, ?_⟩
  · exact read.ttDev8 (holds.namedBy names known)
  · intro recovers
    obtain ⟨at_, devEntry⟩ := devNames_of_recovers read recovers names
    exact noDevMask at_ devEntry

end RioFabric.RouteTable

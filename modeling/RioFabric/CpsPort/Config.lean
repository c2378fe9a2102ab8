import RioFabric.CpsPort.Tables
import RioFabric.PortConfig.Calls

/-!
# The configuration of CPS ports

Which lanes and PLLs a port has is read from the configuration of its quadrant.  The port is powered
up if they are; then its own registers say how it is configured.
-/

namespace RioFabric.CpsPort

open Lib Dar PortConfig
open RxsPort (RioPcPw RioPcLs RioPcFc RioPcIdleSeq RioPcOnePortConfig unknownConfig
  pcGetConfig rioMaxPortLanes PcGetConfigOut)

/-- `CPS1848_LANE_X_CTL_LANE_DIS`. -/
def laneCtlLaneDis : BitVec 32 := 0x00000001

/-- `CPS1848_LANE_X_CTL_RX_RATE`. -/
def laneCtlRxRate : BitVec 32 := 0x00000006

/-- `CPS1616_LANE_X_CTL_RX_PLL_SEL`. -/
def laneCtlRxPllSel : BitVec 32 := 0x40000000

/-- `CPS1848_PLL_X_CTL_1_PLL_DIV_SEL`. -/
def pllCtl1PllDivSel : BitVec 32 := 0x00000001

/-- `CPS1848_PLL_X_CTL_1_PLL_PWR_DOWN`. -/
def pllCtl1PllPwrDown : BitVec 32 := 0x00000002

/-- `CPS1848_PORT_X_ERR_STAT_CSR_IDLE2_EN`. -/
def errStatIdle2En : BitVec 32 := 0x40000000

/-- `CPS1848_PORT_X_OPS_TX_FLOW_CTL_DIS`. -/
def opsTxFlowCtlDis : BitVec 32 := 0x00080000

/-- `RIO_SPX_CTL_LOCKOUT`, which is `CPS1848_PORT_X_CTL_1_CSR_PORT_LOCKOUT`. -/
def ctl1PortLockout : BitVec 32 := 0x00000002

/-- `CPS1848_PORT_X_CTL_1_CSR_INPUT_PORT_EN`. -/
def ctl1InputPortEn : BitVec 32 := 0x00200000

/-- `CPS1848_PORT_X_CTL_1_CSR_OUTPUT_PORT_EN`. -/
def ctl1OutputPortEn : BitVec 32 := 0x00400000

/-- `RIO_SPX_CTL_PORT_DIS`, which is `CPS1848_PORT_X_CTL_1_CSR_PORT_DIS`. -/
def ctl1PortDis : BitVec 32 := 0x00800000

/-- `RIO_SPX_CTL_PTW_OVER`. -/
def ctl1PtwOver : BitVec 32 := 0x07000000

/-- `CPS_LANE_X_CTL_1_ROOT_TX_INV`. -/
def ctl1RootTxInv : BitVec 32 := 0x00000008

/-- `CPS_LANE_X_CTL_1_ROOT_RX_INV`. -/
def ctl1RootRxInv : BitVec 32 := 0x00000002

def cpsRootAccessPasswd : BitVec 32 := 0xFABADC05

/-- The width of a port, from how many lanes it has and what overrides them; there is none for a
number of lanes that no port has. -/
def pwOf (laneCount : Nat) (ctl1 : BitVec 32) : Option RioPcPw :=
  let override := (ctl1 &&& ctl1PtwOver) >>> 24
  match laneCount with
  | 1 => some .pw1x
  | 2 =>
    -- `RIO_SPX_CTL_PTW_OVER_4X_NO_2X` is 6
    if override = 0 ∨ override = 7 ∨ override = 5 then some .pw2x
    else if override = 6 ∨ override = 2 then some .pw1xL0
    else if override = 3 then some .pw1xL1
    else some .last
  | 4 =>
    if override = 0 ∨ override = 7 ∨ override = 6 then some .pw4x
    else if override = 5 then some .pw2x
    else if override = 2 then some .pw1xL0
    else if override = 3 then some .pw1xL2
    else some .last
  | _ => none

/-- The speed of a port, from the control registers of its last lane and its PLL. -/
def lsOf (dev : CpsDevice) (laneCtl pllCtl1 : BitVec 32) : RioPcLs :=
  let rate := (laneCtl &&& laneCtlRxRate) >>> 1
  if (dev = .sps1616 ∧ laneCtl &&& laneCtlRxPllSel ≠ 0) ∨
      (dev ≠ .sps1616 ∧ pllCtl1 &&& pllCtl1PllDivSel ≠ 0) then
    if rate = 0 then .last else if rate = 1 then .ls3p125 else .ls6p25
  else if rate = 0 then .ls1p25
  else if rate = 1 then .ls2p5
  else .ls5p0

/-- Whether a port transfers packets other than maintenance packets. -/
def nmtcXferEnableOf (dev : CpsDevice) (ctl1 : BitVec 32) : Bool :=
  if dev = .sps1616 then ctl1 &&& ctl1InputPortEn ≠ 0 ∧ ctl1 &&& ctl1OutputPortEn ≠ 0
  else ctl1 &&& ctl1InputPortEn ≠ 0

/-- The configuration of a port that is available and powered up; `roots` are the root registers of
its lanes. -/
def configOf (dev : CpsDevice) (pnum : Nat) (pw : RioPcPw)
    (laneCtl pllCtl1 ctl1 errStat ops : BitVec 32) (roots : List (BitVec 32)) :
    RioPcOnePortConfig where
  pnum := pnum
  portAvailable := true
  poweredUp := true
  pw := pw
  ls := lsOf dev laneCtl pllCtl1
  fc := if ops &&& opsTxFlowCtlDis ≠ 0 then .rx else .tx
  iseq := if errStat &&& errStatIdle2En ≠ 0 then .two else .one
  xmitterDisable := ctl1 &&& ctl1PortDis ≠ 0
  portLockout := ctl1 &&& ctl1PortLockout ≠ 0
  nmtcXferEnable := nmtcXferEnableOf dev ctl1
  txLswap := .none
  txLinvert lane := roots.getD lane.val 0 &&& ctl1RootTxInv ≠ 0
  rxLswap := .none
  rxLinvert lane := roots.getD lane.val 0 &&& ctl1RootRxInv ≠ 0

section GetConfig

variable {μ δ : Type} [HasImpRc μ] (dev : CpsDevice) (device : RegDevice Reg δ)

/-- `DARrioGetPortList` within a call. -/
def getPortList (ptl : DarPtl) (impRc : Nat) : Call μ δ (List Nat) :=
  match dev.getPortList ptl with
  | .ok ports => pure ports
  | .error (.code rc) => leave impRc rc
  | .error .outOfBounds => throw .outOfBounds

/-- `init_sw_pi`, for a device that it knows: the configuration of the quadrants is read. -/
def initSwPi : EStateM Nat (Attached μ δ) (BitVec 32) := regRead device (.dev .quadCfg) id

def cpsGetLrto : EStateM Nat (Attached μ δ) Nat := do
  let lrto ← regRead device (.dev .linkToCtl) id
  pure ((lrto >>> 8).toNat * 88 / 25)

/-- Whether lanes are powered up, up to the first that is not; the value read last is returned. -/
def readLaneCtls : List Nat → BitVec 32 → Call μ δ (Bool × BitVec 32)
  | [], laneCtl => pure (true, laneCtl)
  | lane :: lanes, _ => do
      let laneCtl ← readReg device (.lane .ctl lane) (pcGetConfig 0x10)
      if laneCtl &&& laneCtlLaneDis ≠ 0 then pure (false, laneCtl)
      else readLaneCtls lanes laneCtl

/-- A turn of the loop of `CPS_rio_pc_get_config` for a port that is powered up. -/
def getUpPortConfig (pnum : Nat) (cfg : PQCfg) (laneCtl pllCtl1 : BitVec 32) :
    Call μ δ RioPcOnePortConfig := do
  let ctl1 ← readReg device (.port .ctl1 pnum) (pcGetConfig 0x20)
  let errStat ← readReg device (.port .errStat pnum) (pcGetConfig 0x21)
  let ops ← readReg device (.port .ops pnum) (pcGetConfig 0x22)
  match pwOf cfg.laneCount ctl1 with
  | none => leave (pcGetConfig 0x25) rioErrSwFailure
  | some pw => do
      writeReg device (.dev .rootAccess) cpsRootAccessPasswd (pcGetConfig 0x30)
      let roots ← cfg.lanes.mapM fun lane =>
        readReg device (.lane .ctl1Root lane) (pcGetConfig 0x40)
      pure (configOf dev pnum pw laneCtl pllCtl1 ctl1 errStat ops roots)

/-- A turn of the loop of `CPS_rio_pc_get_config`, for a configuration of the quadrants. -/
def getPortConfig (quadCfg : BitVec 32) (pnum : Nat) : Call μ δ RioPcOnePortConfig := do
  let cfg := dev.portCfg pnum (dev.quadCfgVal quadCfg (dev.quadrant pnum))
  if cfg.laneCount = 0 then pure (unknownConfig pnum)
  else do
    let (lanesUp, laneCtl) ← readLaneCtls device cfg.lanes 0
    if !lanesUp then pure { unknownConfig pnum with portAvailable := true }
    else if cfg.pll0 = invalidPll then leave (pcGetConfig 0x11) rioErrSwFailure
    else do
      let pllCtl1 ← readReg device (.pllCtl1 cfg.pll0) (pcGetConfig 0x12)
      if pllCtl1 &&& pllCtl1PllPwrDown ≠ 0 then
        pure { unknownConfig pnum with portAvailable := true }
      else getUpPortConfig dev device pnum cfg laneCtl pllCtl1

def cpsRioPcGetConfig (ptl : DarPtl) : Call μ δ PcGetConfigOut := do
  setImpRc 0
  let ports ← getPortList dev ptl (pcGetConfig 1)
  let quadCfg ← orLeave (pcGetConfig 3) (initSwPi device)
  let lrto ← orLeave (pcGetConfig 4) (cpsGetLrto device)
  let pc ← ports.mapM (getPortConfig dev device quadCfg)
  pure ⟨lrto, pc⟩

end GetConfig

section Values

variable (dev : CpsDevice) (values : Reg → BitVec 32)

/-- The lanes and PLLs that a port has, from what the registers hold. -/
def cfgAt (pnum : Nat) : PQCfg :=
  dev.portCfg pnum (dev.quadCfgVal (values (.dev .quadCfg)) (dev.quadrant pnum))

/-- The port has lanes, all of them are powered up, and so is its PLL. -/
def IsUp (pnum : Nat) : Prop :=
  (cfgAt dev values pnum).laneCount ≠ 0 ∧
    (∀ lane ∈ (cfgAt dev values pnum).lanes, values (.lane .ctl lane) &&& laneCtlLaneDis = 0) ∧
    values (.pllCtl1 (cfgAt dev values pnum).pll0) &&& pllCtl1PllPwrDown = 0

instance (pnum : Nat) : Decidable (IsUp dev values pnum) := by
  unfold IsUp
  infer_instance

/-- What the control register of the last lane of a port holds. -/
def lastLaneCtl (pnum : Nat) : BitVec 32 :=
  let cfg := cfgAt dev values pnum
  values (.lane .ctl (cfg.firstLane + cfg.laneCount - 1))

/-- The configuration of a port. -/
def configAt (pnum : Nat) : RioPcOnePortConfig :=
  let cfg := cfgAt dev values pnum
  if IsUp dev values pnum then
    configOf dev pnum ((pwOf cfg.laneCount (values (.port .ctl1 pnum))).getD .last)
      (lastLaneCtl dev values pnum) (values (.pllCtl1 cfg.pll0)) (values (.port .ctl1 pnum))
      (values (.port .errStat pnum)) (values (.port .ops pnum))
      (cfg.lanes.map fun lane => values (.lane .ctl1Root lane))
  else { unknownConfig pnum with portAvailable := cfg.laneCount ≠ 0 }

variable {dev values} in
theorem isUp_iff {pnum : Nat} :
    (configAt dev values pnum).portAvailable ∧ (configAt dev values pnum).poweredUp ↔
      IsUp dev values pnum := by
  by_cases up : IsUp dev values pnum
  · rw [configAt, if_pos up]
    exact iff_of_true ⟨rfl, rfl⟩ up
  · rw [configAt, if_neg up]
    exact iff_of_false (fun isUp => absurd isUp.2 Bool.false_ne_true) up

end Values

section Runs

variable {μ : Type} [HasImpRc μ] {dev : CpsDevice} {memory : μ} {start values : Reg → BitVec 32}
  {pnum : Nat}

theorem getLastD_lanes {cfg : PQCfg} (hasLanes : cfg.laneCount ≠ 0) (first : BitVec 32) :
    (cfg.lanes.map fun lane => values (.lane .ctl lane)).getLastD first =
      values (.lane .ctl (cfg.firstLane + cfg.laneCount - 1)) := by
  rw [List.getLastD_eq_getLast?, List.getLast?_map, PQCfg.lanes, List.getLast?_range',
    if_neg hasLanes]
  rfl

/-- The registers hold what they did, apart from the one that gives access to the root registers. -/
def AgreeOffRoot (start values : Reg → BitVec 32) : Prop :=
  ∀ reg, reg ≠ .dev .rootAccess → values reg = start reg

theorem getPortList_yields {ptl : DarPtl} {impRc : Nat}
    {Post : List Nat → μ → (Reg → BitVec 32) → Prop}
    (made : ∀ ports, dev.getPortList ptl = .ok ports → Post ports memory values) :
    Yields memory values (getPortList dev ptl impRc) Post := by
  unfold getPortList
  split
  next ports isMade => exact Yields.pure (made ports isMade)
  next => exact leave_yields
  next => exact Yields.throw

section

variable (agree : AgreeOffRoot start values)
include agree

theorem readLaneCtls_yields (lanes : List Nat) (laneCtl : BitVec 32) :
    Yields memory values (readLaneCtls (registerFile store) lanes laneCtl)
      fun read after registers =>
        (read.1 = true ↔ ∀ lane ∈ lanes, start (.lane .ctl lane) &&& laneCtlLaneDis = 0) ∧
          (read.1 = true →
            read.2 = (lanes.map fun lane => start (.lane .ctl lane)).getLastD laneCtl) ∧
              after = memory ∧ registers = values := by
  induction lanes generalizing laneCtl with
  | nil =>
    apply Yields.pure
    exact ⟨iff_of_true rfl (List.forall_mem_nil _), fun _ => rfl, rfl, rfl⟩
  | cons lane lanes ih =>
    apply readReg_bind
    rw [agree (.lane .ctl lane) nofun]
    apply Yields.ite
    · intro down
      apply Yields.pure
      refine ⟨iff_of_false Bool.false_ne_true fun up => down ?_, ?_, rfl, rfl⟩
      · exact up lane List.mem_cons_self
      · exact fun up => absurd up Bool.false_ne_true
    · intro up
      apply (ih (start (.lane .ctl lane))).weaken
      rintro read after registers ⟨isUp, isLast, same⟩
      refine ⟨isUp.trans ?_, ?_, same⟩
      · rw [List.forall_mem_cons, and_iff_right (not_not.mp up)]
      · intro allUp
        rw [isLast allUp, List.map_cons, List.getLastD_cons]

theorem AgreeOffRoot.rootAccess (value : BitVec 32) :
    AgreeOffRoot start (store (.dev .rootAccess) value values) := by
  intro reg notRoot
  rw [store, Function.update_of_ne notRoot]
  exact agree reg notRoot

theorem getUpPortConfig_yields (up : IsUp dev start pnum) :
    Yields memory values
      (getUpPortConfig dev (registerFile store) pnum (cfgAt dev start pnum)
        (lastLaneCtl dev start pnum) (start (.pllCtl1 (cfgAt dev start pnum).pll0)))
      fun pc after registers =>
        pc = configAt dev start pnum ∧ after = memory ∧ AgreeOffRoot start registers := by
  apply readReg_bind
  apply readReg_bind
  apply readReg_bind
  rw [agree (.port .ctl1 pnum) nofun, agree (.port .errStat pnum) nofun,
    agree (.port .ops pnum) nofun]
  split
  next => exact leave_yields
  next pw isPw =>
    apply writeReg_bind
    have reads : ∀ lane ∈ (cfgAt dev start pnum).lanes, ∀ after registers,
        (after = memory ∧ AgreeOffRoot start registers) →
        Yields after registers
          (readReg (registerFile store) (.lane .ctl1Root lane) (pcGetConfig 0x40))
          fun root after registers => root = start (.lane .ctl1Root lane) ∧
            after = memory ∧ AgreeOffRoot start registers := by
      rintro lane _ after registers ⟨rfl, agree⟩
      exact orLeave_yields (Yields.regRead ⟨agree _ nofun, rfl, agree⟩)
    apply (Yields.mapM reads ⟨rfl, agree.rootAccess _⟩).bind
    rintro roots after registers ⟨rfl, rfl, agree⟩
    refine Yields.pure ⟨?_, rfl, agree⟩
    rw [configAt, if_pos up, isPw]
    rfl

end

theorem configAt_of_noLanes (noLanes : (cfgAt dev start pnum).laneCount = 0) :
    configAt dev start pnum = unknownConfig pnum := by
  have notUp : ¬IsUp dev start pnum := fun up => up.1 noLanes
  simp only [configAt, if_neg notUp, noLanes]
  rfl

theorem configAt_of_down (hasLanes : (cfgAt dev start pnum).laneCount ≠ 0)
    (notUp : ¬IsUp dev start pnum) :
    configAt dev start pnum = { unknownConfig pnum with portAvailable := true } := by
  simp only [configAt, if_neg notUp, decide_eq_true hasLanes]

/-- One port is reported as the registers configure it. -/
theorem getPortConfig_yields (agree : AgreeOffRoot start values) :
    Yields memory values
      (getPortConfig dev (registerFile store) (start (.dev .quadCfg)) pnum)
      fun pc after registers =>
        pc = configAt dev start pnum ∧ after = memory ∧ AgreeOffRoot start registers := by
  apply Yields.ite
  · intro noLanes
    exact Yields.pure ⟨(configAt_of_noLanes noLanes).symm, rfl, agree⟩
  · intro hasLanes
    apply (readLaneCtls_yields agree _ 0).bind
    rintro ⟨lanesUp, laneCtl⟩ after registers ⟨isUp, isLast, rfl, rfl⟩
    apply Yields.ite
    · intro laneDown
      have notUp : ¬IsUp dev start pnum := by
        intro up
        rw [show lanesUp = true from isUp.mpr up.2.1] at laneDown
        cases laneDown
      exact Yields.pure ⟨(configAt_of_down hasLanes notUp).symm, rfl, agree⟩
    · intro lanesAreUp
      have allUp : lanesUp = true := by simpa using lanesAreUp
      apply Yields.ite
      · exact fun _ => leave_yields
      · intro _
        apply readReg_bind
        rw [agree (.pllCtl1 _) nofun]
        apply Yields.ite
        · intro pllDown
          have notUp : ¬IsUp dev start pnum := fun up => pllDown up.2.2
          exact Yields.pure ⟨(configAt_of_down hasLanes notUp).symm, rfl, agree⟩
        · intro pllUp
          have up : IsUp dev start pnum := ⟨hasLanes, isUp.mp allUp, not_not.mp pllUp⟩
          rw [show laneCtl = lastLaneCtl dev start pnum from
            (isLast allUp).trans (getLastD_lanes hasLanes 0)]
          exact getUpPortConfig_yields agree up

/-- A call that succeeds reports each port of its list as it is configured. -/
theorem cpsRioPcGetConfig_yields {ptl : DarPtl} :
    Yields memory start (cpsRioPcGetConfig dev (registerFile store) ptl) fun out _ registers =>
      AgreeOffRoot start registers ∧
        ∃ ports, dev.getPortList ptl = .ok ports ∧ out.pc = ports.map (configAt dev start) := by
  apply Yields.bindTo (fun _ _ values => values = start) (setImpRc_yields rfl)
  rintro _ memory values rfl
  apply Yields.bindTo (fun ports _ registers =>
    dev.getPortList ptl = .ok ports ∧ registers = values)
      (getPortList_yields fun ports made => ⟨made, rfl⟩)
  rintro ports memory registers ⟨made, rfl⟩
  apply Yields.known (orLeave_yields (Yields.regRead ⟨rfl, rfl, rfl⟩))
  have lrto : Yields memory registers (cpsGetLrto (registerFile store)) fun _ after final =>
      after = memory ∧ final = registers := by
    apply Yields.known (Yields.regRead ⟨rfl, rfl, rfl⟩)
    exact Yields.pure ⟨rfl, rfl⟩
  apply (orLeave_yields lrto).bind
  rintro lrto after final ⟨rfl, rfl⟩
  have turns : ∀ pnum ∈ ports, ∀ memory values, (memory = after ∧ AgreeOffRoot final values) →
      Yields memory values
        (getPortConfig dev (registerFile store) (final (.dev .quadCfg)) pnum)
        fun pc memory values =>
          pc = configAt dev final pnum ∧ memory = after ∧ AgreeOffRoot final values := by
    rintro pnum _ memory values ⟨rfl, agree⟩
    exact getPortConfig_yields agree
  apply (Yields.mapM turns ⟨rfl, fun _ _ => rfl⟩).bind
  rintro pc memory values ⟨rfl, rfl, agree⟩
  exact Yields.pure ⟨agree, ports, made, rfl⟩

end Runs

end RioFabric.CpsPort

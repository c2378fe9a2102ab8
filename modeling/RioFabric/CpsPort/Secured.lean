import Mathlib.Tactic.IntervalCases
import RioFabric.CpsPort.Secure
import RioFabric.Lib.Masks

/-!
# What securing CPS ports comes to

A call that succeeds leaves the registers as a function of what they held before.  The values of the
filter are not among those that it programs.
-/

namespace RioFabric.CpsPort

open Lib Dar PortConfig

namespace PcSecurePortIn

variable (dev : CpsDevice) (inParms : PcSecurePortIn)

/-- Requests to reset are to be ignored, at best. -/
def asksToIgnore : Bool :=
  match inParms.rst with
  | .int | .pw | .ignore => true
  | .device | .port | .last => false

/-- The handling of requests to reset that is reported for a port that was secured. -/
def handling : RioPcRstHandling :=
  if inParms.asksToIgnore then if dev.is1616 then .ignore else .port else inParms.rst

/-- The new value of `CPS1616_PORT_X_STATUS_AND_CTL`. -/
def newStatus (regVal : BitVec 32) : BitVec 32 :=
  let mecs := setBits statusIgnoreMcCs (!inParms.mecsAcceptance) regVal
  if inParms.asksToIgnore then setBits statusIgnoreRstCs true mecs else mecs

/-- What the registers hold once some ports were secured. -/
def secured (up : List Nat) (start : Reg → BitVec 32) : Reg → BitVec 32
  | .port .statusAndCtl pnum =>
    if dev.is1616 ∧ pnum ∈ up then inParms.newStatus (start (.port .statusAndCtl pnum))
    else start (.port .statusAndCtl pnum)
  | .port .ctl1 pnum =>
    if pnum ∈ up then setBits ctl1McastCs inParms.mecsParticipant (start (.port .ctl1 pnum))
    else start (.port .ctl1 pnum)
  | .port .ops pnum =>
    if pnum ∈ up then setBits opsFilter0En (!inParms.mtcPktsAllowed) (start (.port .ops pnum))
    else start (.port .ops pnum)
  | .traceMask pnum inst idx =>
    if pnum ∈ up ∧ inst = 0 ∧ idx < portMaxTraceRegs then (inParms.block idx).mask
    else start (.traceMask pnum inst idx)
  | .dev .deviceCtl1 =>
    if up ≠ [] ∧ ¬(dev.is1616 ∧ inParms.asksToIgnore) then
      setBits deviceCtl1PortRstCtl (inParms.handling dev = .port) (start (.dev .deviceCtl1))
    else start (.dev .deviceCtl1)
  | reg => start reg

end PcSecurePortIn

section Turn

variable {μ : Type} [HasImpRc μ] {dev : CpsDevice} {inParms : PcSecurePortIn} {pnum : Nat}
  {values start : Reg → BitVec 32} {change : BitVec 32 → BitVec 32} {memory : PcSecurePortOut}

theorem setBits_setBits {mask regVal : BitVec 32} {isSet : Bool} :
    setBits mask isSet (setBits mask isSet regVal) = setBits mask isSet regVal := by
  cases isSet with
  | false =>
    change (regVal &&& ~~~mask) &&& ~~~mask = regVal &&& ~~~mask
    rw [BitVec.and_assoc, BitVec.and_self]
  | true =>
    change (regVal ||| mask) ||| mask = regVal ||| mask
    rw [BitVec.or_assoc, BitVec.or_self]

/-- The registers after one of them is read and written back with a change. -/
def changed (reg : Reg) (change : BitVec 32 → BitVec 32) (values : Reg → BitVec 32) :
    Reg → BitVec 32 :=
  Function.update values reg (change (values reg))

theorem changeReg_yields {memory : μ} {reg : Reg} {readRc writeRc : Nat}
    {Post : Unit → μ → (Reg → BitVec 32) → Prop}
    (holds : Post () memory (changed reg change values)) :
    Yields memory values (changeReg (registerFile store) reg change readRc writeRc) Post := by
  apply readReg_bind
  exact writeReg_yields holds

theorem changeReg_bind {α : Type} {memory : μ} {reg : Reg} {readRc writeRc : Nat}
    {next : Unit → Call μ (RegisterFile Reg) α} {Post : α → μ → (Reg → BitVec 32) → Prop}
    (rest : Yields memory (changed reg change values) (next ()) Post) :
    Yields memory values
      (changeReg (registerFile store) reg change readRc writeRc >>= next) Post := by
  exact Yields.known (changeReg_yields ⟨rfl, rfl, rfl⟩) rest

/-- The registers after a filter is written. -/
def filtered (inParms : PcSecurePortIn) (pnum count : Nat) (values : Reg → BitVec 32) :
    Reg → BitVec 32
  | .traceMask other inst idx =>
    if other = pnum ∧ inst = 0 ∧ idx < count then (inParms.block idx).mask
    else values (.traceMask other inst idx)
  | reg => values reg

theorem writeFilter_yields :
    Yields memory values (writeFilter (registerFile store) inParms pnum)
      fun _ after registers =>
        after = memory ∧ registers = filtered inParms pnum portMaxTraceRegs values := by
  apply Yields.forM_range fun count after registers =>
    after = memory ∧ registers = filtered inParms pnum count values
  · rintro idx _ _ _ ⟨rfl, rfl⟩
    apply writeReg_bind
    apply writeReg_yields
    refine ⟨rfl, ?_⟩
    funext reg
    by_cases isMask : reg = .traceMask pnum 0 idx
    · subst isMask
      rw [store, Function.update_self, filtered, if_pos ⟨rfl, rfl, Nat.lt_succ_self idx⟩]
    · rw [store, Function.update_of_ne isMask, store, Function.update_of_ne isMask]
      cases reg with
      | traceMask other inst idx' =>
        refine if_congr (and_congr_right fun samePort => and_congr_right fun sameInst => ?_) rfl rfl
        subst samePort sameInst
        exact (Nat.lt_succ_iff_lt_or_eq.trans (or_iff_left fun same =>
          isMask (congrArg (Reg.traceMask other 0) same))).symm
      | _ => rfl
  · refine ⟨rfl, ?_⟩
    funext reg
    cases reg with
    | traceMask other inst idx => exact (if_neg fun is => Nat.not_lt_zero idx is.2.2).symm
    | _ => rfl

/-- The registers after a port is secured. -/
def securedPort (dev : CpsDevice) (inParms : PcSecurePortIn) (pnum : Nat)
    (values : Reg → BitVec 32) : Reg → BitVec 32 :=
  let values :=
    if dev.is1616 then
      changed (.port .statusAndCtl pnum) (setBits statusIgnoreMcCs (!inParms.mecsAcceptance)) values
    else values
  let values := changed (.port .ctl1 pnum) (setBits ctl1McastCs inParms.mecsParticipant) values
  let values :=
    if dev.is1616 ∧ inParms.asksToIgnore then
      changed (.port .statusAndCtl pnum) (setBits statusIgnoreRstCs true) values
    else
      changed (.dev .deviceCtl1) (setBits deviceCtl1PortRstCtl (inParms.handling dev = .port))
        values
  let values := filtered inParms pnum portMaxTraceRegs values
  changed (.port .ops pnum) (setBits opsFilter0En (!inParms.mtcPktsAllowed)) values

theorem secured_nil : inParms.secured dev [] start = start := by
  funext reg
  rcases reg with ⟨⟨⟩⟩ | ⟨⟨⟩, _⟩ | _ | _ | _ | _ | _ <;> simp [PcSecurePortIn.secured]

theorem securedPort_secured {up : List Nat} (fresh : pnum ∉ up) :
    securedPort dev inParms pnum (inParms.secured dev up start) =
      inParms.secured dev (up ++ [pnum]) start := by
  funext reg
  cases is1616 : dev.is1616 <;> cases ignore : inParms.asksToIgnore
  all_goals
    cases reg with
    | dev reg =>
      by_cases none : up = []
      · cases reg <;>
          simp [securedPort, changed, filtered, PcSecurePortIn.secured, is1616, ignore, none]
      · cases reg <;>
          simp [securedPort, changed, filtered, PcSecurePortIn.secured, is1616, ignore, none,
            setBits_setBits]
    | port reg other =>
      by_cases same : other = pnum
      · subst same
        cases reg <;>
          simp [securedPort, changed, filtered, PcSecurePortIn.secured, is1616, ignore, fresh,
            PcSecurePortIn.newStatus]
      · cases reg <;>
          simp [securedPort, changed, filtered, PcSecurePortIn.secured, is1616, ignore, same]
    | traceMask other inst idx =>
      by_cases same : other = pnum
      · simp [securedPort, changed, filtered, PcSecurePortIn.secured, is1616, ignore, same, fresh]
      · simp [securedPort, changed, filtered, PcSecurePortIn.secured, is1616, ignore, same]
    | _ => simp [securedPort, changed, filtered, PcSecurePortIn.secured, is1616, ignore]

theorem setMecsAcceptance_yields :
    Yields memory values (setMecsAcceptance dev (registerFile store) inParms pnum)
      fun _ after registers => after.rst = memory.rst ∧
        registers =
          if dev.is1616 then
            changed (.port .statusAndCtl pnum) (setBits statusIgnoreMcCs (!inParms.mecsAcceptance))
              values
          else values := by
  apply Yields.ite
  · intro is1616
    rw [if_pos is1616]
    exact changeReg_yields ⟨rfl, rfl⟩
  · intro not1616
    rw [if_neg not1616]
    exact Yields.modifyMemory ⟨rfl, rfl⟩

section

variable (isPort : pnum ≠ rioAllPorts)
include isPort

theorem cpsSetIntPwIgnoreReset_yields {imp : Nat → Nat} :
    Yields memory values
      (cpsSetIntPwIgnoreReset dev (registerFile store) pnum (fun rst out => { out with rst }) imp)
      fun _ after registers =>
        after.rst = (if dev.is1616 then .ignore else .port) ∧
        registers =
          if dev.is1616 then
            changed (.port .statusAndCtl pnum) (setBits statusIgnoreRstCs true) values
          else changed (.dev .deviceCtl1) (setBits deviceCtl1PortRstCtl true) values := by
  apply Yields.ite
  · intro is1616
    rw [if_pos is1616, if_neg isPort, if_pos is1616]
    apply Yields.bindTo (fun _ after registers => after.rst = .ignore ∧ registers = values)
      (Yields.modifyMemory ⟨rfl, rfl⟩)
    rintro _ after _ ⟨policy, rfl⟩
    apply changeReg_bind
    exact Yields.pure ⟨policy, rfl⟩
  · intro not1616
    rw [if_neg not1616, if_neg not1616]
    apply Yields.bindTo (fun _ after registers => after.rst = .port ∧ registers = values)
      (Yields.modifyMemory ⟨rfl, rfl⟩)
    rintro _ after _ ⟨policy, rfl⟩
    exact changeReg_yields ⟨policy, rfl⟩

/-- What setting the handling of reset requests leaves behind. -/
structure RstHandled (dev : CpsDevice) (inParms : PcSecurePortIn) (pnum : Nat)
    (memory after : PcSecurePortOut) (values registers : Reg → BitVec 32) : Prop where
  notLast : inParms.rst ≠ .last
  rst : after.rst = if inParms.asksToIgnore then inParms.handling dev else memory.rst
  registers : registers =
    if dev.is1616 ∧ inParms.asksToIgnore then
      changed (.port .statusAndCtl pnum) (setBits statusIgnoreRstCs true) values
    else changed (.dev .deviceCtl1) (setBits deviceCtl1PortRstCtl (inParms.handling dev = .port))
      values

theorem setRstHandling_yields :
    Yields memory values (setRstHandling dev (registerFile store) inParms pnum)
      fun _ after registers => RstHandled dev inParms pnum memory after values registers := by
  have ignores (ignore : inParms.asksToIgnore = true) :
      Yields memory values
        (cpsSetIntPwIgnoreReset dev (registerFile store) pnum (fun rst out => { out with rst })
          fun failPt => pcSecurePort (0x22 + failPt))
        fun _ after registers => RstHandled dev inParms pnum memory after values registers := by
    have notLast : inParms.rst ≠ .last := by
      intro last
      rw [PcSecurePortIn.asksToIgnore, last] at ignore
      cases ignore
    apply (cpsSetIntPwIgnoreReset_yields isPort).weaken
    rintro _ after registers ⟨policy, isChanged⟩
    refine ⟨notLast, ?_, ?_⟩
    · rw [policy, PcSecurePortIn.handling, if_pos ignore, if_pos ignore]
    · rw [isChanged, PcSecurePortIn.handling, if_pos ignore]
      cases is1616 : dev.is1616 <;> simp [ignore]
  have changes (byDevice : inParms.rst = .device ∨ inParms.rst = .port) :
      Yields memory values
        (changeReg (registerFile store) (.dev .deviceCtl1)
          (setBits deviceCtl1PortRstCtl (inParms.rst = .port)) (pcSecurePort 0x20)
          (pcSecurePort 0x21))
        fun _ after registers => RstHandled dev inParms pnum memory after values registers := by
    apply changeReg_yields
    rcases byDevice with rst | rst <;> constructor <;>
      simp [PcSecurePortIn.handling, PcSecurePortIn.asksToIgnore, rst]
  unfold setRstHandling
  split
  next rst => exact changes (.inl rst)
  next rst => exact changes (.inr rst)
  next rst => exact ignores (by rw [PcSecurePortIn.asksToIgnore, rst])
  next rst => exact ignores (by rw [PcSecurePortIn.asksToIgnore, rst])
  next rst => exact ignores (by rw [PcSecurePortIn.asksToIgnore, rst])
  next => exact leave_yields

/-- One turn of the loop secures one port. -/
theorem securePort_yields :
    Yields memory values (securePort dev (registerFile store) inParms pnum)
      fun _ after registers => inParms.rst ≠ .last ∧
        after.rst = (if inParms.asksToIgnore then inParms.handling dev else memory.rst) ∧
        registers = securedPort dev inParms pnum values := by
  apply setMecsAcceptance_yields.bind
  rintro _ after registers ⟨sameRst, mecs⟩
  apply changeReg_bind
  apply (setRstHandling_yields isPort).bind
  rintro _ after' registers' ⟨notLast, rst, handled⟩
  apply writeFilter_yields.bind
  rintro _ _ _ ⟨rfl, rfl⟩
  apply changeReg_yields
  rw [rst, sameRst, handled, mecs]
  exact ⟨notLast, rfl, rfl⟩

end

/-- The call secures the ports of its list that are up. -/
theorem cpsRioPcSecurePort_yields :
    Yields memory start (cpsRioPcSecurePort dev (registerFile store) inParms)
      fun _ after registers => ∃ ports agreed, dev.getPortList inParms.ptl = .ok ports ∧
        AgreeOffRoot start agreed ∧
        registers = inParms.secured dev (ports.filter fun pnum => IsUp dev start pnum) agreed ∧
        ((ports.filter fun pnum => IsUp dev start pnum) ≠ [] →
          inParms.rst ≠ .last ∧ after.rst = inParms.handling dev) := by
  apply Yields.bindTo (fun ports _ registers =>
    dev.getPortList inParms.ptl = .ok ports ∧ registers = start)
      (getPortList_yields fun ports made => ⟨made, rfl⟩)
  rintro ports memory registers ⟨made, same⟩
  subst registers
  apply (taking_yields cpsRioPcGetConfig_yields).bind
  rintro cfgOut _ agreed ⟨rfl, agree, again, madeAgain, configs⟩
  rw [getPortList_goodPtl made madeAgain] at configs
  apply Yields.ite
  · exact fun _ => leave_yields
  intro _
  apply Yields.bindTo (fun _ after registers => after.rst = inParms.rst ∧ registers = agreed)
    (Yields.modifyMemory ⟨rfl, rfl⟩)
  rintro _ after registers ⟨sameRst, same⟩
  subst registers
  rw [configs, ← List.map_prod_left_eq_zip, List.forM_eq_forM, List.forM_map, ← List.forM_eq_forM]
  obtain ⟨nodup, arePorts⟩ := getPortList_ok made
  let up (ports : List Nat) := ports.filter fun pnum => IsUp dev start pnum
  have loop : Yields after agreed
      (ports.forM fun pnum =>
        if (configAt dev start pnum).portAvailable ∧ (configAt dev start pnum).poweredUp then
          securePort dev (registerFile store) inParms pnum
        else pure ())
      fun _ after registers => registers = inParms.secured dev (up ports) agreed ∧
        (up ports ≠ [] → inParms.rst ≠ .last) ∧
        after.rst = if up ports = [] then inParms.rst else inParms.handling dev := by
    apply Yields.forM fun done (after : PcSecurePortOut) registers =>
      registers = inParms.secured dev (up done) agreed ∧ (up done ≠ [] → inParms.rst ≠ .last) ∧
        after.rst = if up done = [] then inParms.rst else inParms.handling dev
    · rintro done pnum left after registers all ⟨rfl, notLast, rst⟩
      have isPort : pnum ≠ rioAllPorts := by
        have isMember : pnum ∈ ports := by simp [all]
        have few : dev.numPorts < rioAllPorts := by cases dev <;> decide
        exact Nat.ne_of_lt (Nat.lt_trans (arePorts pnum isMember) few)
      have fresh : pnum ∉ up done := by
        intro isMember
        rw [all] at nodup
        have disjoint := (List.nodup_append.mp nodup).2.2
        exact disjoint pnum (List.mem_of_mem_filter isMember) pnum List.mem_cons_self rfl
      apply Yields.ite
      · intro isUp
        have added : up (done ++ [pnum]) = up done ++ [pnum] := by
          simp [up, List.filter_append, isUp_iff.mp isUp]
        apply (securePort_yields isPort).weaken
        rintro _ after' _ ⟨notLast', rst', rfl⟩
        rw [added]
        refine ⟨securedPort_secured fresh, fun _ => notLast', rst'.trans ?_⟩
        rw [if_neg (List.append_ne_nil_of_right_ne_nil _ (List.cons_ne_nil pnum [])), rst]
        by_cases ignore : inParms.asksToIgnore = true
        · rw [if_pos ignore]
        · rw [if_neg ignore, PcSecurePortIn.handling, if_neg ignore, ite_self]
      · intro notUp
        have same : up (done ++ [pnum]) = up done := by
          simp [up, List.filter_append, mt isUp_iff.mpr notUp]
        rw [same]
        exact Yields.pure ⟨rfl, notLast, rst⟩
    · exact ⟨secured_nil.symm, fun some => absurd rfl some, sameRst⟩
  apply loop.weaken
  rintro _ after registers ⟨isSecured, notLast, rst⟩
  exact ⟨ports, agreed, made, agree, isSecured, fun some =>
    ⟨notLast some, rst.trans (if_neg some)⟩⟩

end Turn

/-- The port that a register belongs to. -/
def Reg.portOf : Reg → Option Nat
  | .port _ pnum | .traceVal pnum _ _ | .traceMask pnum _ _ => some pnum
  | .dev _ | .lane _ _ | .pllCtl1 _ | .other _ => none

/-- How a port handles requests to reset. -/
def resetHandling (dev : CpsDevice) (values : Reg → BitVec 32) (pnum : Nat) : RioPcRstHandling :=
  if dev.is1616 ∧ values (.port .statusAndCtl pnum) &&& statusIgnoreRstCs ≠ 0 then .ignore
  else if values (.dev .deviceCtl1) &&& deviceCtl1PortRstCtl ≠ 0 then .port
  else .device

/-- A packet, as words, matches the filter of a port that has these registers. -/
def MatchesFilter (values : Reg → BitVec 32) (pnum : Nat) (packet : Nat → BitVec 32) : Prop :=
  ∀ idx < portMaxTraceRegs,
    packet idx &&& values (.traceMask pnum 0 idx) =
      values (.traceVal pnum 0 idx) &&& values (.traceMask pnum 0 idx)

def ftype (packet : Nat → BitVec 32) : BitVec 32 := (packet 0 >>> 16) &&& 0xF

section Effect

variable (dev : CpsDevice) (inParms : PcSecurePortIn) (ports : List Nat)
  (start final : Reg → BitVec 32) (out : PcSecurePortOut)

/-- A port is secured as was asked for. -/
structure PortSecured (pnum : Nat) : Prop where
  filterEn : final (.port .ops pnum) &&& opsFilter0En ≠ 0 ↔ inParms.mtcPktsAllowed = false
  value : ∀ idx < portMaxTraceRegs, final (.traceVal pnum 0 idx) = (inParms.block idx).value
  mask : ∀ idx < portMaxTraceRegs, final (.traceMask pnum 0 idx) = (inParms.block idx).mask
  mcast : final (.port .ctl1 pnum) &&& ctl1McastCs ≠ 0 ↔ inParms.mecsParticipant = true
  rst : resetHandling dev final pnum = out.rst

/-- The ports of a list that are up are secured, and the registers of other ports are left as they
are. -/
structure TakesEffect : Prop where
  secured : ∀ pnum ∈ ports, IsUp dev start pnum → PortSecured dev inParms final out pnum
  others : ∀ reg, reg ≠ .dev .deviceCtl1 → reg ≠ .dev .rootAccess →
    (∀ pnum ∈ ports, reg.portOf ≠ some pnum) → final reg = start reg

/-- What a call does not program is as was asked for already. -/
structure PortPrepared (pnum : Nat) : Prop where
  value : ∀ idx < portMaxTraceRegs, start (.traceVal pnum 0 idx) = (inParms.block idx).value
  notIgnored : dev.is1616 = true → inParms.asksToIgnore = false →
    start (.port .statusAndCtl pnum) &&& statusIgnoreRstCs = 0

end Effect

section Effect

variable {dev : CpsDevice} {inParms : PcSecurePortIn} {start final agreed : Reg → BitVec 32}
  {out : PcSecurePortOut} {pnum : Nat} {mask regVal : BitVec 32} {up : List Nat}

theorem and_ftypeMask (word : BitVec 32) :
    word &&& 0x000F0000#32 = ((word >>> 16) &&& 0xF#32) <<< 16 := by
  rw [show 0x000F0000#32 = 0xF#32 <<< 16 from rfl]
  ext idx inWord
  simp only [BitVec.getElem_and, BitVec.getElem_shiftLeft]
  by_cases low : idx < 16
  · simp [low]
  · simp [low, Nat.add_sub_cancel' (Nat.le_of_not_lt low), BitVec.getLsbD_eq_getElem inWord]

theorem and_ftypeMask_eq_iff (word other : BitVec 32) :
    word &&& 0x000F0000#32 = other &&& 0x000F0000#32 ↔
      (word >>> 16) &&& 0xF = (other >>> 16) &&& 0xF := by
  constructor
  · intro same
    have shifted := congrArg (fun word : BitVec 32 => word >>> (16 : Nat)) same
    rwa [BitVec.ushiftRight_and_distrib, BitVec.ushiftRight_and_distrib] at shifted
  · intro same
    rw [and_ftypeMask, and_ftypeMask]
    exact congrArg (fun word : BitVec 32 => word <<< (16 : Nat)) same

theorem matchesFilter_iff (notAllowed : inParms.mtcPktsAllowed = false)
    (mask : ∀ idx < portMaxTraceRegs, final (.traceMask pnum 0 idx) = (inParms.block idx).mask)
    (packet : Nat → BitVec 32) :
    MatchesFilter final pnum packet ↔
      ftype packet = ftype fun _ => final (.traceVal pnum 0 0) := by
  have isOn : inParms.filter = mtcFilterOn := if_neg (ne_true_of_eq_false notAllowed)
  refine Iff.trans ?_ (and_ftypeMask_eq_iff (packet 0) (final (.traceVal pnum 0 0)))
  constructor
  · intro isMatch
    have same := isMatch 0 (by decide)
    rwa [mask 0 (by decide), PcSecurePortIn.block, isOn] at same
  · intro same idx inFilter
    rw [mask idx inFilter, PcSecurePortIn.block, isOn]
    cases idx with
    | zero => exact same
    | succ idx =>
      have noMask : (mtcFilterOn.getD (idx + 1) ⟨0, 0⟩).mask = 0 := by
        have inTail : idx < 4 := Nat.lt_of_succ_lt_succ inFilter
        interval_cases idx <;> rfl
      rw [noMask]
      exact BitVec.and_zero.trans BitVec.and_zero.symm

theorem setBits_and_ne_zero_iff {isSet : Bool} (some : mask ≠ 0) :
    setBits mask isSet regVal &&& mask ≠ 0 ↔ isSet = true := by
  cases isSet with
  | false =>
    exact iff_of_false (not_not.mpr (cleared_within (BitVec.and_self))) Bool.false_ne_true
  | true =>
    refine iff_of_true ?_ rfl
    change (regVal ||| mask) &&& mask ≠ 0
    rwa [BitVec.or_comm, or_and_cancel]

theorem setBits_and_apart {field : BitVec 32} {isSet : Bool} (apart : mask &&& field = 0) :
    setBits mask isSet regVal &&& field = regVal &&& field := by
  cases isSet with
  | false => exact cleared_apart apart
  | true =>
    change (regVal ||| mask) &&& field = regVal &&& field
    rw [BitVec.and_or_distrib_right, apart]
    exact BitVec.or_zero

theorem handling_byDevice (notLast : inParms.rst ≠ .last)
    (notIgnored : ¬(dev.is1616 = true ∧ inParms.asksToIgnore = true)) :
    inParms.handling dev = .device ∨ inParms.handling dev = .port := by
  cases is1616 : dev.is1616 <;> cases rst : inParms.rst <;>
    simp_all [PcSecurePortIn.handling, PcSecurePortIn.asksToIgnore]

theorem resetHandling_of_not_ignored {handling : RioPcRstHandling}
    (notIgnored : ¬(dev.is1616 = true ∧
      final (.port .statusAndCtl pnum) &&& statusIgnoreRstCs ≠ 0))
    (byDevice : handling = .device ∨ handling = .port)
    (deviceCtl1 : final (.dev .deviceCtl1) =
      setBits deviceCtl1PortRstCtl (handling = .port) (start (.dev .deviceCtl1))) :
    resetHandling dev final pnum = handling := by
  have isSet : final (.dev .deviceCtl1) &&& deviceCtl1PortRstCtl ≠ 0 ↔ handling = .port := by
    rw [deviceCtl1, setBits_and_ne_zero_iff (by decide), decide_eq_true_iff]
  rw [resetHandling, if_neg notIgnored]
  rcases byDevice with rfl | rfl
  · exact if_neg (mt isSet.mp nofun)
  · exact if_pos (isSet.mpr rfl)

theorem resetHandling_eq_iff (notLast : inParms.rst ≠ .last)
    (status : final (.port .statusAndCtl pnum) =
      if dev.is1616 then inParms.newStatus (start (.port .statusAndCtl pnum))
      else start (.port .statusAndCtl pnum))
    (deviceCtl1 : ¬(dev.is1616 = true ∧ inParms.asksToIgnore = true) →
      final (.dev .deviceCtl1) =
        setBits deviceCtl1PortRstCtl (inParms.handling dev = .port) (start (.dev .deviceCtl1))) :
    resetHandling dev final pnum = inParms.handling dev ↔
      (dev.is1616 = true → inParms.asksToIgnore = false →
        start (.port .statusAndCtl pnum) &&& statusIgnoreRstCs = 0) := by
  have statusOf (is1616 : dev.is1616 = true) : final (.port .statusAndCtl pnum) =
      inParms.newStatus (start (.port .statusAndCtl pnum)) := status.trans (if_pos is1616)
  by_cases both : dev.is1616 = true ∧ inParms.asksToIgnore = true
  · refine iff_of_true ?_ fun _ notIgnore => absurd (both.2.symm.trans notIgnore) nofun
    have isIgnored : final (.port .statusAndCtl pnum) &&& statusIgnoreRstCs ≠ 0 := by
      rw [statusOf both.1, PcSecurePortIn.newStatus, if_pos both.2]
      exact (setBits_and_ne_zero_iff (by decide)).mpr rfl
    rw [resetHandling, if_pos ⟨both.1, isIgnored⟩, PcSecurePortIn.handling, if_pos both.2,
      if_pos both.1]
  have byDevice := handling_byDevice notLast both
  have isKept (is1616 : dev.is1616 = true) :
      final (.port .statusAndCtl pnum) &&& statusIgnoreRstCs =
        start (.port .statusAndCtl pnum) &&& statusIgnoreRstCs := by
    rw [statusOf is1616, PcSecurePortIn.newStatus, if_neg fun ignore => both ⟨is1616, ignore⟩]
    exact setBits_and_apart (by decide)
  constructor
  · intro same is1616 _
    by_contra isIgnored
    rw [resetHandling, if_pos ⟨is1616, isKept is1616 ▸ isIgnored⟩] at same
    rcases byDevice with isDevice | isPort
    · cases same.trans isDevice
    · cases same.trans isPort
  · intro notIgnored
    refine resetHandling_of_not_ignored ?_ byDevice (deviceCtl1 both)
    rintro ⟨is1616, isIgnored⟩
    have notIgnore : inParms.asksToIgnore = false :=
      Bool.eq_false_iff.mpr fun ignore => both ⟨is1616, ignore⟩
    rw [isKept is1616] at isIgnored
    exact isIgnored (notIgnored is1616 notIgnore)

theorem secured_of_portOf {reg : Reg} (notCtl1 : reg ≠ .dev .deviceCtl1)
    (notListed : ∀ pnum ∈ up, reg.portOf ≠ some pnum) :
    inParms.secured dev up start reg = start reg := by
  cases reg with
  | port reg other =>
    have notUp : other ∉ up := fun isUp => notListed other isUp rfl
    cases reg <;> simp [PcSecurePortIn.secured, notUp]
  | traceMask other inst idx =>
    exact if_neg fun both => notListed other both.1 rfl
  | dev reg => cases reg <;> first | rfl | exact absurd rfl notCtl1
  | _ => rfl

theorem AgreeOffRoot.secured (agree : AgreeOffRoot start agreed) :
    AgreeOffRoot (inParms.secured dev up start) (inParms.secured dev up agreed) := by
  intro reg notRoot
  have same := agree reg notRoot
  rcases reg with ⟨⟨⟩⟩ | ⟨⟨⟩, _⟩ | _ | _ | _ | _ | _ <;> simp only [PcSecurePortIn.secured, same]

theorem portSecured_iff (isUp : pnum ∈ up) (notLast : inParms.rst ≠ .last)
    (rst : out.rst = inParms.handling dev)
    (isSecured : AgreeOffRoot (inParms.secured dev up start) final) :
    PortSecured dev inParms final out pnum ↔ PortPrepared dev inParms start pnum := by
  have values (idx : Nat) : final (.traceVal pnum 0 idx) = start (.traceVal pnum 0 idx) :=
    isSecured _ nofun
  have handling : resetHandling dev final pnum = inParms.handling dev ↔
      (dev.is1616 = true → inParms.asksToIgnore = false →
        start (.port .statusAndCtl pnum) &&& statusIgnoreRstCs = 0) := by
    apply resetHandling_eq_iff notLast
    · refine (isSecured (.port .statusAndCtl pnum) nofun).trans ?_
      exact if_congr (and_iff_left isUp) rfl rfl
    · intro byDevice
      refine (isSecured (.dev .deviceCtl1) nofun).trans ?_
      exact if_pos ⟨List.ne_nil_of_mem isUp, byDevice⟩
  constructor
  · intro secured
    refine ⟨fun idx inFilter => (values idx).symm.trans (secured.value idx inFilter), ?_⟩
    exact handling.mp (secured.rst.trans rst)
  · intro prepared
    refine ⟨?_, fun idx inFilter => (values idx).trans (prepared.value idx inFilter), ?_, ?_, ?_⟩
    · rw [isSecured (.port .ops pnum) nofun, PcSecurePortIn.secured, if_pos isUp,
        setBits_and_ne_zero_iff (by decide), Bool.not_eq_true']
    · intro idx inFilter
      refine (isSecured (.traceMask pnum 0 idx) nofun).trans ?_
      exact if_pos ⟨isUp, rfl, inFilter⟩
    · rw [isSecured (.port .ctl1 pnum) nofun, PcSecurePortIn.secured, if_pos isUp,
        setBits_and_ne_zero_iff (by decide)]
    · exact (handling.mpr prepared.notIgnored).trans rst.symm

end Effect

section Secured

variable {dev : CpsDevice} {inParms : PcSecurePortIn}
  {start final : Attached PcSecurePortOut (RegisterFile Reg)}

/-- A call that succeeds secures the ports of its list that are up exactly where the values of the
filter, and that requests to reset are not ignored, need not be programmed. -/
theorem takesEffect_iff
    (ran : (cpsRioPcSecurePort dev (registerFile store) inParms).run start = .ok () final) :
    ∃ ports, dev.getPortList inParms.ptl = .ok ports ∧
      (TakesEffect dev inParms ports start.device.value final.device.value final.memory ↔
        ∀ pnum ∈ ports, IsUp dev start.device.value pnum →
          PortPrepared dev inParms start.device.value pnum) := by
  obtain ⟨ports, agreed, made, agree, isSecured, rst⟩ :=
    cpsRioPcSecurePort_yields.ended rfl rfl ran
  refine ⟨ports, made, ?_⟩
  have final_eq : AgreeOffRoot
      (inParms.secured dev (ports.filter fun pnum => IsUp dev start.device.value pnum)
        start.device.value) final.device.value := by
    rw [isSecured]
    exact agree.secured
  have isUp_iff (pnum : Nat) : pnum ∈ (ports.filter fun pnum => IsUp dev start.device.value pnum) ↔
      pnum ∈ ports ∧ IsUp dev start.device.value pnum := by
    rw [List.mem_filter, decide_eq_true_iff]
  have each (pnum : Nat) (isPort : pnum ∈ ports) (isUp : IsUp dev start.device.value pnum) :
      PortSecured dev inParms final.device.value final.memory pnum ↔
        PortPrepared dev inParms start.device.value pnum := by
    have isMember := (isUp_iff pnum).mpr ⟨isPort, isUp⟩
    obtain ⟨notLast, handling⟩ := rst (List.ne_nil_of_mem isMember)
    exact portSecured_iff isMember notLast handling final_eq
  constructor
  · intro effect pnum isPort isUp
    exact (each pnum isPort isUp).mp (effect.secured pnum isPort isUp)
  · intro prepared
    refine ⟨fun pnum isPort isUp => (each pnum isPort isUp).mpr (prepared pnum isPort isUp), ?_⟩
    intro reg notCtl1 notRoot notListed
    refine (final_eq reg notRoot).trans (secured_of_portOf notCtl1 ?_)
    exact fun pnum isUp => notListed pnum ((isUp_iff pnum).mp isUp).1

end Secured

/-- The registers of a CPS1848 that hold zeros; no access to them fails. -/
def blankDevice : RegisterFile Reg := ⟨fun _ => 0, fun _ _ => 0⟩

/-- A request to filter out the maintenance packets of port 0. -/
def filterPort0 : PcSecurePortIn := ⟨⟨1, fun _ => 0⟩, false, true, true, .port⟩

/-- The memory and the device before a call. -/
def beforeSecure : Attached PcSecurePortOut (RegisterFile Reg) :=
  ⟨⟨0, false, false, false, .last⟩, blankDevice⟩

/-- The call succeeds, and the port is up, but the filter has no values. -/
theorem filter_has_no_values :
    ∃ final, (cpsRioPcSecurePort .cps1848 (registerFile store) filterPort0).run beforeSecure =
        .ok () final ∧
      CpsDevice.cps1848.getPortList filterPort0.ptl = .ok [0] ∧
      ¬TakesEffect .cps1848 filterPort0 [0] blankDevice.value final.device.value final.memory := by
  have ends : endsWith (fun _ final => final.device.value (.traceVal 0 0 0) = 0)
      ((cpsRioPcSecurePort .cps1848 (registerFile store) filterPort0).run beforeSecure) = true := by
    decide +kernel
  obtain ⟨_, final, ran, zero⟩ := exists_of_endsWith ends
  refine ⟨final, ran, by decide +kernel, ?_⟩
  intro effect
  have isUp : IsUp .cps1848 blankDevice.value 0 := by decide +kernel
  have value := (effect.secured 0 List.mem_cons_self isUp).value 0 (by decide)
  rw [of_decide_eq_true zero] at value
  exact absurd value (by decide)

/-- What it takes for this call to have its effect. -/
theorem takesEffect_iff_prepared :
    ∃ start final, ∃ ports,
      (cpsRioPcSecurePort .cps1848 (registerFile store) filterPort0).run start = .ok () final ∧
      CpsDevice.cps1848.getPortList filterPort0.ptl = .ok ports ∧
      (TakesEffect .cps1848 filterPort0 ports start.device.value final.device.value final.memory ↔
        ∀ pnum ∈ ports, IsUp .cps1848 start.device.value pnum →
          PortPrepared .cps1848 filterPort0 start.device.value pnum) := by
  have ends : endsWith (fun _ _ => true)
      ((cpsRioPcSecurePort .cps1848 (registerFile store) filterPort0).run beforeSecure) = true := by
    decide +kernel
  obtain ⟨_, final, ran, _⟩ := exists_of_endsWith ends
  obtain ⟨ports, made, iff⟩ := takesEffect_iff ran
  exact ⟨beforeSecure, final, ports, ran, made, iff⟩

/-- After a call that does not allow maintenance packets the filter of a port is on, and it matches
these and no others exactly if its first value asked for them before the call. -/
theorem filters_maintenance_iff {dev : CpsDevice} {inParms : PcSecurePortIn}
    {start final : Attached PcSecurePortOut (RegisterFile Reg)} {ports : List Nat} {pnum : Nat}
    (made : dev.getPortList inParms.ptl = .ok ports)
    (ran : (cpsRioPcSecurePort dev (registerFile store) inParms).run start = .ok () final)
    (notAllowed : inParms.mtcPktsAllowed = false) (isPort : pnum ∈ ports)
    (isUp : IsUp dev start.device.value pnum) :
    final.device.value (.port .ops pnum) &&& opsFilter0En ≠ 0 ∧
      ((∀ packet, MatchesFilter final.device.value pnum packet ↔ ftype packet = 8) ↔
        ftype (fun _ => start.device.value (.traceVal pnum 0 0)) = 8) := by
  obtain ⟨others, agreed, madeToo, agree, isSecured, -⟩ :=
    cpsRioPcSecurePort_yields.ended rfl rfl ran
  cases made.symm.trans madeToo
  have isMember : pnum ∈ ports.filter fun pnum => IsUp dev start.device.value pnum :=
    List.mem_filter.mpr ⟨isPort, decide_eq_true isUp⟩
  have value : final.device.value (.traceVal pnum 0 0) = start.device.value (.traceVal pnum 0 0) :=
    isSecured ▸ agree (.traceVal pnum 0 0) nofun
  have mask (idx : Nat) (inFilter : idx < portMaxTraceRegs) :
      final.device.value (.traceMask pnum 0 idx) = (inParms.block idx).mask := by
    rw [isSecured]
    exact if_pos ⟨isMember, rfl, inFilter⟩
  constructor
  · rw [isSecured, PcSecurePortIn.secured, if_pos isMember, setBits_and_ne_zero_iff (by decide),
      notAllowed]
    rfl
  · simp only [matchesFilter_iff notAllowed mask, value]
    exact ⟨fun exactly => (exactly fun _ => _).mp rfl, fun isMaintenance packet => by
      rw [isMaintenance]⟩

theorem filters_maintenance_iff_port0 :
    ∃ final, (cpsRioPcSecurePort .cps1848 (registerFile store) filterPort0).run beforeSecure =
        .ok () final ∧
      ((∀ packet, MatchesFilter final.device.value 0 packet ↔ ftype packet = 8) ↔
        ftype (fun _ => blankDevice.value (.traceVal 0 0 0)) = 8) := by
  have ends : endsWith (fun _ _ => true)
      ((cpsRioPcSecurePort .cps1848 (registerFile store) filterPort0).run beforeSecure) = true := by
    decide +kernel
  obtain ⟨_, final, ran, _⟩ := exists_of_endsWith ends
  have made : CpsDevice.cps1848.getPortList filterPort0.ptl = .ok [0] := by decide +kernel
  have isUp : IsUp .cps1848 beforeSecure.device.value 0 := by decide +kernel
  exact ⟨final, ran, (filters_maintenance_iff made ran rfl List.mem_cons_self isUp).2⟩

end RioFabric.CpsPort

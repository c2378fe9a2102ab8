import RioFabric.Lib.Masks
import RioFabric.Tsi57xPort.AccessPort
import RioFabric.Tsi57xPort.SetConfig

/-!
# What a configuration of Tsi57x ports changes

What is to be written is a function of the request and of what the registers hold.
-/

namespace RioFabric.Tsi57xPort

open Lib Dar PortConfig
open RxsPort (PcStop RioPcPw RioPcOnePortConfig)

section Values

variable (dev : Tsi57xDevice) (values : Reg → BitVec 32)

/-- The registers of the lanes. -/
def lanesAt : LaneRegs where
  regs mac lane :=
    (((laneCells dev).zip ((laneCells dev).map fun cell => values (.serdes cell.1 cell.2))).lookup
      (mac, lane)).getD 0
  changed _ _ := false

/-- The configuration of all ports. -/
def currentAt (pnum : Nat) : RioPcOnePortConfig :=
  ((List.range dev.numPorts).map (configAt dev values)).getD pnum (downConfig pnum)

/-- The registers of the MACs and the ports. -/
def ctlAt : CtlRegs where
  dloopCtl mac := ((List.range tsi578MaxMac).map fun mac => values (.dloop (mac * 2))).getD mac 0
  spxCtl pnum :=
    ((List.range dev.numPorts).map fun pnum => values (.port .ctl pnum)).getD pnum 0

/-- What is to be written. -/
def changesAt (uninit : Uninit) (oobRegAcc : Bool) (sorted : Sorted) : PortCfgChg :=
  computePortConfigChanges dev uninit.padding (currentAt dev values)
    (without (skipAt dev values oobRegAcc false) sorted) (ctlAt dev values) (lanesAt dev values)

variable {dev values}

theorem getD_map_range {α : Type} {f : Nat → α} {count idx : Nat} {last : α}
    (smaller : idx < count) : ((List.range count).map f).getD idx last = f idx := by
  rw [List.getD_eq_getElem?_getD, List.getElem?_map, List.getElem?_range smaller]
  rfl

theorem ctlAt_spxCtl {pnum : Nat} (isPort : pnum < dev.numPorts) :
    (ctlAt dev values).spxCtl pnum = values (.port .ctl pnum) :=
  getD_map_range isPort

theorem ctlAt_dloopCtl {mac : Nat} (isMac : mac < tsi578MaxMac) :
    (ctlAt dev values).dloopCtl mac = values (.dloop (mac * 2)) :=
  getD_map_range isMac

end Values

section Reads

variable {μ δ : Type} [HasImpRc μ] {dev : Tsi57xDevice} {device : RegDevice Reg δ}
  {Inv : δ → Prop} {values : Reg → BitVec 32} {uninit : Uninit} {inParms : PcSetConfigIn} {α : Type}
  {rc : Nat}

theorem takingWith_reads {value : α} {program : Call Nat δ α}
    (reads : Reads Inv True program value) :
    Reads Inv True (takingWith rc program : Call μ δ α) value := by
  refine Meets.called reads (fun state => ⟨0, state.device⟩) (fun _ before => before) ?_
  intro state
  unfold takingWith
  cases program ⟨0, state.device⟩ with
  | ok result after => exact fun ends => ends
  | error stop after => cases stop <;> exact fun ends => ends

theorem orSwap_reads {value : α} {program : EStateM Nat (Attached μ δ) α}
    (reads : Reads Inv True program value) :
    Reads Inv True (orSwap rc program : Call μ δ α) value := by
  apply Meets.called reads (fun state => state) fun _ before => before
  intro state
  unfold orSwap
  cases program state with
  | ok result after => exact fun ends => ends
  | error code after => exact fun ends => ends

variable (tells : device.Tells Inv values True)

include tells

theorem readLaneRegs_reads :
    Reads Inv True (readLaneRegs dev device : Call μ δ _) (lanesAt dev values) := by
  apply (Reads.mapM fun cell _ => readReg_reads tells).bind
  exact Reads.pure _

theorem readConfigs_reads :
    Reads Inv True (readConfigs dev device : Call μ δ _) (currentAt dev values) := by
  have made : darDbRioGetPortList dev.numPorts ⟨rioAllPorts, fun _ => 0⟩ =
      .ok (List.range dev.numPorts) := by
    cases dev <;> rfl
  apply (takingWith_reads (tsi57xRioPcGetConfig_reads tells made)).bind
  exact Reads.pure _

theorem readCtlRegs_reads :
    Reads Inv True (readCtlRegs dev device : Call μ δ _) (ctlAt dev values) := by
  apply (Reads.mapM fun mac _ => readReg_reads tells).bind
  apply (Reads.mapM fun pnum _ => orSwap_reads tells.regRead).bind
  exact Reads.pure _

omit tells in
theorem leave_ends {β : Type} {impRc : Nat} {next : α → Call μ δ β} {P F : δ → Prop}
    {Post : β → Attached μ δ → Prop} (early : ∀ device, P device → F device) :
    Meets (fun state => P state.device) ((leave impRc rc : Call μ δ α) >>= next) Post
      fun _ state => F state.device := by
  have leaves : Meets (fun state => P state.device) (leave impRc rc : Call μ δ α)
      (fun _ _ => False) fun _ state => F state.device := leave_meets early
  exact Meets.bind leaves fun _ => Meets.unreached

theorem statusOf_reads (pnum : Nat) :
    Reads Inv True (tsi57xRioPcGetStatus dev device (onePort pnum) : Call μ δ _)
      [statusAt dev values pnum] := by
  by_cases isPort : pnum < dev.numPorts
  · exact tsi57xRioPcGetStatus_reads tells isPort
  · have notMade : darDbRioGetPortList dev.numPorts (onePort pnum) =
        .error (.code (rioErrPortIllegal 0)) := by
      have few : ¬1 > dev.numPorts := by cases dev <;> decide
      simp [darDbRioGetPortList, onePort, DarPtl.illegal, few, Nat.le_of_not_lt isPort, rioMaxPorts,
        rioAllPorts]
    apply setImpRc_reads.bind
    rw [getPortList, notMade]
    exact leave_ends (F := fun device => True ∧ Inv device) fun _ before => ⟨trivial, before⟩

/-- The changes are those that the sorted request asks for. -/
theorem computeChanges_meets :
    Meets (fun state => Inv state.device) (computeChanges dev device uninit inParms : Call μ δ _)
      (fun chg state => (∃ sorted, sortParms dev uninit.config inParms = .ok sorted ∧
        chg = changesAt dev values uninit inParms.oobRegAcc sorted) ∧ Inv state.device)
      fun _ _ => True := by
  apply (readLaneRegs_reads tells).bindMeets fun _ _ _ _ => trivial
  unfold orLeaveSort
  split
  next sorted valid =>
    rw [pure_bind]
    apply (determinePortsToSkip_reads tells (statusOf_reads tells _)).bindMeets fun _ _ _ _ =>
      trivial
    apply (readConfigs_reads tells).bindMeets fun _ _ _ _ => trivial
    apply (readCtlRegs_reads tells).bindMeets fun _ _ _ _ => trivial
    exact Meets.pure fun state before => ⟨⟨sorted, valid, rfl⟩, before⟩
  next => exact leave_ends (F := fun _ => True) fun _ _ => trivial

end Reads

section Requests

/-- The request is about the port. -/
def Named (inParms : PcSetConfigIn) (pnum : Nat) : Prop :=
  inParms.numPorts = rioAllPorts ∨ ∃ idx < inParms.numPorts, (inParms.pc idx).pnum = pnum

instance (inParms : PcSetConfigIn) (pnum : Nat) : Decidable (Named inParms pnum) :=
  inferInstanceAs (Decidable (_ ∨ _))

variable {dev : Tsi57xDevice} {uninit : Nat → RioPcOnePortConfig} {inParms : PcSetConfigIn}
  {pcs : List RioPcOnePortConfig} {sorted final : Sorted} {pnum : Nat} {pc : RioPcOnePortConfig}

theorem sortPorts_asked (made : sortPorts dev pcs sorted = some final)
    (asked : final pnum = some pc) :
    sorted pnum = some pc ∨ (pc ∈ pcs ∧ pc.pnum = pnum ∧ pnum < dev.numPorts) := by
  induction pcs generalizing sorted with
  | nil =>
    cases made
    exact .inl asked
  | cons first rest ih =>
    rw [sortPorts] at made
    split at made
    next => cases made
    next legal =>
      rcases ih made with before | ⟨isMember, same, isPort⟩
      · by_cases same : pnum = first.pnum
        · subst same
          rw [Function.update_self] at before
          cases before
          exact .inr ⟨List.mem_cons_self, rfl, Nat.lt_of_not_le (not_or.mp legal).1⟩
        · rw [Function.update_of_ne same] at before
          exact .inl before
      · exact .inr ⟨List.mem_cons_of_mem first isMember, same, isPort⟩

theorem orVerdict_ok {verdict : Verdict} (valid : orVerdict verdict sorted = .ok final) :
    verdict = none ∧ sorted = final := by
  unfold orVerdict at valid
  split at valid
  · cases valid
  · cases valid
    exact ⟨rfl, rfl⟩

theorem sortParms_asked (valid : sortParms dev uninit inParms = .ok sorted)
    (asked : sorted pnum = some pc) : Named inParms pnum ∧ pnum < dev.numPorts := by
  unfold sortParms at valid
  split at valid
  next all =>
    obtain ⟨-, rfl⟩ := orVerdict_ok valid
    refine ⟨.inl all, ?_⟩
    by_contra notPort
    rw [sortAllPorts, if_pos (Nat.le_of_not_lt notPort)] at asked
    cases asked
  next =>
    split at valid
    next => cases valid
    next =>
      split at valid
      next => cases valid
      next made =>
        obtain ⟨-, rfl⟩ := orVerdict_ok valid
        rcases sortPorts_asked made asked with none | ⟨isMember, same, isPort⟩
        · cases none
        · obtain ⟨idx, smaller, rfl⟩ := List.mem_map.mp isMember
          exact ⟨.inr ⟨idx, List.mem_range.mp smaller, same⟩, isPort⟩

theorem without_asked {skip : List Nat} (asked : without skip sorted pnum = some pc) :
    sorted pnum = some pc := by
  unfold without at asked
  split at asked
  · cases asked
  · exact asked

end Requests

section Fields

variable {on : Bool} {mask field value : BitVec 32} {pc : RioPcOnePortConfig}

theorem setBits_and_self : setBits on mask value &&& mask = if on then mask else 0 := by
  cases on with
  | false => exact cleared_within (BitVec.and_self)
  | true => exact (congrArg (· &&& mask) (BitVec.or_comm _ _)).trans or_and_cancel

theorem setBits_and_apart (apart : mask &&& field = 0) :
    setBits on mask value &&& field = value &&& field := by
  cases on with
  | false => exact cleared_apart apart
  | true =>
    rw [setBits, if_pos rfl, BitVec.and_or_distrib_right, apart]
    exact BitVec.or_zero

/-- The bits of the register of a MAC that say how a 4x port is set. -/
def macField : BitVec 32 := dloopMacMode ||| dloopSwapRx ||| dloopSwapTx ||| dloopClkSel

theorem macBits_and_apart (apart : macField &&& field = 0) :
    macBits pc value &&& field = value &&& field := by
  have within : ∀ part, macField &&& part = part → part &&& field = 0 := by
    intro part isPart
    rw [← isPart, BitVec.and_comm macField, BitVec.and_assoc, apart]
    exact BitVec.and_zero
  have lsWithin : lsBits pc.ls &&& dloopClkSel = lsBits pc.ls := by
    cases pc.ls <;> decide
  rw [macBits, replaced_and_apart lsWithin (within _ (by decide))]
  split
  · rw [setBits_and_apart (within _ (by decide)), setBits_and_apart (within _ (by decide)),
      setBits_and_apart (within _ (by decide))]
  · rw [cleared_apart (within _ (by decide)), setBits_and_apart (within _ (by decide))]

/-- The bits of the control register of a port that a request sets. -/
def ctlField : BitVec 32 :=
  ctlPtwOver ||| ctlPortDis ||| ctlPortLockout ||| ctlInputEn ||| ctlOutputEn

theorem ctlBits_and_apart (apart : ctlField &&& field = 0) :
    ctlBits pc value &&& field = value &&& field := by
  have within : ∀ part, ctlField &&& part = part → part &&& field = 0 := by
    intro part isPart
    rw [← isPart, BitVec.and_comm ctlField, BitVec.and_assoc, apart]
    exact BitVec.and_zero
  rw [ctlBits, setBits_and_apart (within _ (by decide)), setBits_and_apart (within _ (by decide)),
    setBits_and_apart (within _ (by decide))]

theorem over_and_apart (apart : ctlField &&& field = 0) {pw : RioPcPw} :
    (value &&& ~~~ctlPtwOver ||| overBits pw) &&& field = value &&& field := by
  apply replaced_and_apart
  · cases pw <;> decide
  · have isPart : ctlField &&& ctlPtwOver = ctlPtwOver := by decide
    rw [← isPart, BitVec.and_comm ctlField, BitVec.and_assoc, apart]
    exact BitVec.and_zero

end Fields

section Power

variable {dev : Tsi57xDevice} {padding : Nat → Bool} {current : Nat → RioPcOnePortConfig}
  {sorted : Sorted} {ctl : CtlRegs} {pnum mac : Nat} {mask : BitVec 32} {ports : List Nat}
  {pc : RioPcOnePortConfig}

/-- A port has its power-down bit in the register that is computed for a MAC. -/
def SharesBit (dev : Tsi57xDevice) (mac : Nat) (mask : BitVec 32) (pnum : Nat) : Prop :=
  (dev.pmr pnum).macNum = mac ∧ (dev.pmr pnum).pwrDownMask = mask

instance (dev : Tsi57xDevice) (mac : Nat) (mask : BitVec 32) (pnum : Nat) :
    Decidable (SharesBit dev mac mask pnum) :=
  inferInstanceAs (Decidable (_ ∧ _))

theorem pwrDownMask_cases (pnum : Nat) :
    (dev.pmr pnum).pwrDownMask = pwdnX4 ∨ (dev.pmr pnum).pwrDownMask = pwdnX1 := by
  apply pmr_of_mem (P := fun pmr => pmr.pwrDownMask = pwdnX4 ∨ pmr.pwrDownMask = pwdnX1)
  · cases dev <;> decide
  · exact .inr rfl

theorem macField_apart (isBit : mask = pwdnX4 ∨ mask = pwdnX1) : macField &&& mask = 0 := by
  rcases isBit with rfl | rfl <;> decide

theorem newDloop_and (pc : RioPcOnePortConfig) (dloop : BitVec 32)
    (isBit : mask = pwdnX4 ∨ mask = pwdnX1) :
    newDloop dev pnum pc dloop &&& mask = powerBits dev pnum pc dloop &&& mask := by
  unfold newDloop
  split
  · exact macBits_and_apart (macField_apart isBit)
  · rfl

theorem newDloop_and_self (pc : RioPcOnePortConfig) (dloop : BitVec 32) :
    newDloop dev pnum pc dloop &&& (dev.pmr pnum).pwrDownMask =
      if pc.poweredUp then 0 else (dev.pmr pnum).pwrDownMask := by
  rw [newDloop_and pc dloop (pwrDownMask_cases pnum), powerBits, setBits_and_self]
  cases pc.poweredUp <;> rfl

theorem newDloop_and_other (pc : RioPcOnePortConfig) (dloop : BitVec 32)
    (isBit : mask = pwdnX4 ∨ mask = pwdnX1) (different : (dev.pmr pnum).pwrDownMask ≠ mask) :
    newDloop dev pnum pc dloop &&& mask = dloop &&& mask := by
  rw [newDloop_and pc dloop isBit]
  apply setBits_and_apart
  rcases @pwrDownMask_cases dev pnum with is4x | is1x <;> rcases isBit with rfl | rfl
  · exact absurd is4x different
  · rw [is4x]
    rfl
  · rw [is1x]
    rfl
  · exact absurd is1x different

theorem changePort_bit {other : Nat} (isBit : mask = pwdnX4 ∨ mask = pwdnX1)
    (alone : ¬SharesBit dev mac mask other) :
    (changePort dev padding current sorted ctl other).dloopCtl mac &&& mask =
      ctl.dloopCtl mac &&& mask := by
  unfold changePort
  split
  next otherPc isOther =>
    by_cases changed : changeRequested padding current other otherPc
    · rw [if_pos changed]
      by_cases sameMac : (dev.pmr other).macNum = mac
      · simp only [applyPort, sameMac, Function.update_self]
        exact newDloop_and_other otherPc _ isBit fun sameMask => alone ⟨sameMac, sameMask⟩
      · simp only [applyPort]
        rw [Function.update_of_ne (Ne.symm sameMac)]
    · rw [if_neg changed]
  next => rfl

theorem foldl_changePort_bit (isBit : mask = pwdnX4 ∨ mask = pwdnX1)
    (alone : ∀ other ∈ ports, ¬SharesBit dev mac mask other) :
    (ports.foldl (changePort dev padding current sorted) ctl).dloopCtl mac &&& mask =
      ctl.dloopCtl mac &&& mask := by
  induction ports generalizing ctl with
  | nil => rfl
  | cons other ports ih =>
    rw [List.forall_mem_cons] at alone
    exact (ih alone.2).trans (changePort_bit isBit alone.1)

theorem changePort_spxCtl {other : Nat} (different : other ≠ pnum) :
    (changePort dev padding current sorted ctl other).spxCtl pnum = ctl.spxCtl pnum := by
  unfold changePort
  split
  · split
    · exact Function.update_of_ne different.symm _ _
    · rfl
  · rfl

theorem foldl_changePort_spxCtl (others : pnum ∉ ports) :
    (ports.foldl (changePort dev padding current sorted) ctl).spxCtl pnum = ctl.spxCtl pnum := by
  induction ports generalizing ctl with
  | nil => rfl
  | cons other ports ih =>
    rw [List.mem_cons, not_or] at others
    exact (ih others.2).trans (changePort_spxCtl (Ne.symm others.1))

theorem range_split {count : Nat} (smaller : pnum < count) :
    ∃ after : List Nat, (∀ other ∈ after, pnum < other ∧ other < count) ∧
      List.range count = List.range pnum ++ pnum :: after := by
  obtain ⟨left, rfl⟩ := Nat.exists_eq_add_of_lt smaller
  refine ⟨List.range' (pnum + 1) left, ?_, ?_⟩
  · intro other isMember
    rw [List.mem_range'_1] at isMember
    omega
  · rw [List.range_eq_range', List.range_eq_range', Nat.add_assoc, ← List.range'_append_1,
      List.range'_succ, Nat.zero_add]

theorem powerBits_of_clear (up : pc.poweredUp = true) {dloop : BitVec 32}
    (clear : dloop &&& (dev.pmr pnum).pwrDownMask = 0) :
    powerBits dev pnum pc dloop = dloop := by
  rw [powerBits, up]
  exact within_of_and_not_eq_zero (by rw [BitVec.not_not, clear])

theorem newSpxCtl_and {start field : BitVec 32} (apart : ctlField &&& field = 0) :
    newSpxCtl dev pnum pc start &&& field = start &&& field := by
  unfold newSpxCtl
  split
  · rw [ctlBits_and_apart apart, over_and_apart apart]
  · exact ctlBits_and_apart apart

end Power

/-- The registers of a port are written back: its MAC is set, and a port of the MAC is powered up
then. -/
def Restores (dev : Tsi57xDevice) (chg : PortCfgChg) (pnum : Nat) : Prop :=
  chg.macChanged (dev.pmr pnum).macNum ∧
    (chg.ctl.dloopCtl (dev.pmr pnum).macNum &&& pwdnX4 = 0 ∨
      chg.ctl.dloopCtl (dev.pmr pnum).macNum &&& pwdnX1 = 0)

section Restores

variable {dev : Tsi57xDevice} {padding : Nat → Bool} {current : Nat → RioPcOnePortConfig}
  {sorted : Sorted} {orig : CtlRegs} {lanes : LaneRegs} {pnum : Nat} {field : BitVec 32}
  {chg : PortCfgChg}

/-- The control register of a port is replaced where the port is powered up. -/
theorem powered_of_replaced {ctl : CtlRegs} (apart : ctlField &&& field = 0)
    (replaced : (changePort dev padding current sorted ctl pnum).spxCtl pnum &&& field ≠
      ctl.spxCtl pnum &&& field) :
    (sorted pnum).isSome = true ∧
      ctl.dloopCtl (dev.pmr pnum).macNum &&& (dev.pmr pnum).pwrDownMask ≠ 0 ∧
      (changePort dev padding current sorted ctl pnum).dloopCtl (dev.pmr pnum).macNum &&&
        (dev.pmr pnum).pwrDownMask = 0 := by
  unfold changePort at replaced ⊢
  split at replaced
  next pc asked =>
    split at replaced
    next changed =>
      rw [asked]
      simp only [if_pos changed]
      simp only [applyPort, Function.update_self] at replaced ⊢
      rw [newSpxCtl_and apart, startSpxCtl] at replaced
      split at replaced
      next powered =>
        refine ⟨rfl, fun clear => powered.1 (powerBits_of_clear powered.2 clear), ?_⟩
        rw [newDloop_and_self, powered.2]
        rfl
      next => exact absurd rfl replaced
    next => exact absurd rfl replaced
  next => exact absurd rfl replaced

theorem computePortConfigChanges_replaced (isPort : pnum < dev.numPorts)
    (apart : ctlField &&& field = 0)
    (replaced : (computePortConfigChanges dev padding current sorted orig lanes).ctl.spxCtl pnum &&&
      field ≠ orig.spxCtl pnum &&& field) :
    (sorted pnum).isSome = true ∧
      ((∀ other < pnum, ¬SharesBit dev (dev.pmr pnum).macNum (dev.pmr pnum).pwrDownMask other) →
        orig.dloopCtl (dev.pmr pnum).macNum &&& (dev.pmr pnum).pwrDownMask ≠ 0) ∧
      ((∀ other < dev.numPorts, pnum < other →
          ¬SharesBit dev (dev.pmr pnum).macNum (dev.pmr pnum).pwrDownMask other) →
        (computePortConfigChanges dev padding current sorted orig lanes).ctl.dloopCtl
          (dev.pmr pnum).macNum &&& (dev.pmr pnum).pwrDownMask = 0) := by
  obtain ⟨after, isAfter, split⟩ := range_split isPort
  have isBit := @pwrDownMask_cases dev pnum
  simp only [computePortConfigChanges, split, List.foldl_append, List.foldl_cons] at replaced ⊢
  rw [foldl_changePort_spxCtl fun isLater => Nat.lt_irrefl _ (isAfter pnum isLater).1] at replaced
  have kept : ((List.range pnum).foldl (changePort dev padding current sorted) orig).spxCtl pnum =
      orig.spxCtl pnum := foldl_changePort_spxCtl (by simp)
  rw [← kept] at replaced
  obtain ⟨asked, wasDown, isUp⟩ := powered_of_replaced apart replaced
  refine ⟨asked, fun alone => ?_, fun alone => ?_⟩
  · rwa [foldl_changePort_bit isBit fun other isBefore => alone other (List.mem_range.mp isBefore)]
      at wasDown
  · rw [foldl_changePort_bit isBit fun other isLater => alone other (isAfter other isLater).2
      (isAfter other isLater).1]
    exact isUp

theorem Restores.of_up (changed : chg.macChanged (dev.pmr pnum).macNum)
    (up : chg.ctl.dloopCtl (dev.pmr pnum).macNum &&& (dev.pmr pnum).pwrDownMask = 0) :
    Restores dev chg pnum := by
  refine ⟨changed, ?_⟩
  rcases @pwrDownMask_cases dev pnum with is4x | is1x
  · exact .inl (is4x ▸ up)
  · exact .inr (is1x ▸ up)

/-- The control register that is computed for a port differs only in what a request sets. -/
def KeepsCtl (values : Reg → BitVec 32) (chg : PortCfgChg) (pnum : Nat) : Prop :=
  chg.ctl.spxCtl pnum &&& ~~~ctlField = values (.port .ctl pnum) &&& ~~~ctlField

variable {values : Reg → BitVec 32} {uninit : Uninit} {oobRegAcc : Bool}

/-- Other than on the Tsi577, a control register is replaced only where registers are written
back. -/
theorem keepsCtl_of_not_restores (not577 : dev ≠ .tsi577) (isPort : pnum < dev.numPorts)
    (notRestored : ¬Restores dev (changesAt dev values uninit oobRegAcc sorted) pnum) :
    KeepsCtl values (changesAt dev values uninit oobRegAcc sorted) pnum := by
  have alone : ∀ dev : Tsi57xDevice, dev ≠ .tsi577 → ∀ pnum < dev.numPorts, ∀ other < dev.numPorts,
      other ≠ pnum → ¬SharesBit dev (dev.pmr pnum).macNum (dev.pmr pnum).pwrDownMask other := by
    intro dev
    cases dev <;> decide +kernel
  by_contra replaced
  rw [KeepsCtl, ← @ctlAt_spxCtl dev values pnum isPort] at replaced
  obtain ⟨-, wasDown, isUp⟩ := computePortConfigChanges_replaced isPort (by decide) replaced
  have up := isUp fun other isOther later => alone dev not577 pnum isPort other isOther later.ne'
  have down := wasDown fun other earlier =>
    alone dev not577 pnum isPort other (earlier.trans isPort) earlier.ne
  apply notRestored
  apply Restores.of_up _ up
  left
  intro unchanged
  apply down
  rw [← up, ← unchanged]
  rfl

/-- A port whose control register is replaced was powered down if its MAC is set and stays down. -/
theorem replaced_cases (isChg : changesAt dev values uninit oobRegAcc sorted = chg)
    (isPort : pnum < dev.numPorts) (notRestored : ¬Restores dev chg pnum)
    (replaced : ¬KeepsCtl values chg pnum) :
    (chg.sorted pnum).isSome = true ∧ chg.ctl.spxCtl pnum ≠ chg.orig.spxCtl pnum ∧
      (chg.macChanged (dev.pmr pnum).macNum →
        pwrAt dev values pnum &&& (dev.pmr pnum).pwrDownMask ≠ 0) := by
  have first : ∀ dev : Tsi57xDevice, ∀ pnum < dev.numPorts, ∀ later < dev.numPorts,
      SharesBit dev (dev.pmr pnum).macNum (dev.pmr pnum).pwrDownMask later →
        later ≤ pnum ∨ pnum < tsi578MaxMac := by
    intro dev
    cases dev <;> decide +kernel
  have own : ∀ dev : Tsi57xDevice, ∀ pnum < tsi578MaxMac,
      (dev.pmr pnum).pwrMacNum = (dev.pmr pnum).macNum ∧ (dev.pmr pnum).macNum < tsi578MaxMac ∧
        ∀ other < pnum, ¬SharesBit dev (dev.pmr pnum).macNum (dev.pmr pnum).pwrDownMask other := by
    intro dev
    cases dev <;> decide +kernel
  subst isChg
  rw [KeepsCtl, ← @ctlAt_spxCtl dev values pnum isPort] at replaced
  obtain ⟨asked, wasDown, isUp⟩ := computePortConfigChanges_replaced isPort (by decide) replaced
  refine ⟨asked, fun same => replaced (congrArg (· &&& ~~~ctlField) same), fun changed => ?_⟩
  by_cases alone : ∀ other < dev.numPorts, pnum < other →
      ¬SharesBit dev (dev.pmr pnum).macNum (dev.pmr pnum).pwrDownMask other
  · exact absurd (Restores.of_up changed (isUp alone)) notRestored
  · push Not at alone
    obtain ⟨later, isLater, after, shares⟩ := alone
    have isFirst := (first dev pnum isPort later isLater shares).resolve_left (Nat.not_le.mpr after)
    obtain ⟨sameMac, isMac, noneBefore⟩ := own dev pnum isFirst
    rw [pwrAt, sameMac, ← @ctlAt_dloopCtl dev values _ isMac]
    exact wasDown noneBefore

end Restores

end RioFabric.Tsi57xPort

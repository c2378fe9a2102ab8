import RioFabric.Tsi57xPort.Changes

/-!
# Registers of Tsi57x ports across a loss of power

A port that loses its power may have anything in its registers afterwards.  The registers that are
saved are written back, but the loop over the scratchpad does not end where its table does, so that
registers are written that are not in the table.
-/

namespace RioFabric.Tsi57xPort

open Lib Dar PortConfig
open RxsPort (PcStop RioPcOnePortConfig)

instance (dev : Tsi57xDevice) (pnum : Nat) (reg : Reg) (value : BitVec 32) :
    Decidable (TakesPower dev pnum reg value) :=
  inferInstanceAs (Decidable (_ ∧ _))

/-- A write that takes the power of ports away may leave anything in their registers. -/
structure PowersDown (dev : Tsi57xDevice) (effect : WriteEffect Reg) : Prop where
  self : ∀ reg value values, effect reg value values reg = value
  others : ∀ reg value values other, other ≠ reg →
    (∀ preg pnum, other = .port preg pnum → ¬TakesPower dev pnum reg value) →
      effect reg value values other = values other

/-- The port is powered up. -/
def IsUp (dev : Tsi57xDevice) (values : Reg → BitVec 32) (pnum : Nat) : Prop :=
  pwrAt dev values pnum &&& (dev.pmr pnum).pwrDownMask = 0

/-- The registers of `scratchpad_const` before its end marker. -/
def scratchpadOffsets : List (BitVec 32) :=
  (scratchpadGiven.takeWhile fun info => info.offset ≠ scrpadEofOffset).map (·.offset)

/-- Which registers of ports keep their values, and which are written: `set` says which fields the
request itself sets. -/
structure KeepsRegs (dev : Tsi57xDevice) (set : PortReg → Nat → BitVec 32)
    (before after : Reg → BitVec 32) (log : List (RegEvent Reg)) : Prop where
  kept : ∀ pnum < dev.numPorts, IsUp dev before pnum → IsUp dev after pnum →
    ∀ entry ∈ regOffsets,
      after (.port entry.1 pnum) &&& (entry.2 &&& ~~~set entry.1 pnum) =
        before (.port entry.1 pnum) &&& (entry.2 &&& ~~~set entry.1 pnum)
  down : ∀ pnum < dev.numPorts, ¬IsUp dev before pnum → ∀ entry ∈ regOffsets, ∀ value,
    .write (.port entry.1 pnum) value ∈ log →
      value &&& (entry.2 &&& ~~~set entry.1 pnum) =
        before (.port entry.1 pnum) &&& (entry.2 &&& ~~~set entry.1 pnum)
  scratchpad : ∀ offset value, .write (.dev offset) value ∈ log → offset ∈ scratchpadOffsets

/-- The end marker of the scratchpad is written. -/
def WritesEof (log : List (RegEvent Reg)) : Prop :=
  ∃ value, .write (.dev scrpadEofOffset) value ∈ log

theorem KeepsRegs.not_writesEof {dev : Tsi57xDevice} {set : PortReg → Nat → BitVec 32}
    {before after : Reg → BitVec 32} {log : List (RegEvent Reg)}
    (keeps : KeepsRegs dev set before after log) : ¬WritesEof log := by
  rintro ⟨value, isWrite⟩
  exact absurd (keeps.scratchpad _ value isWrite) (by decide)

section Steps

variable {μ δ : Type} [HasImpRc μ] {device : RegDevice Reg δ} {scratchpad : δ → Nat → BitVec 32}
  {Inv F : δ → Prop} {allowed : Reg → BitVec 32 → Prop} {uninit : Uninit} {chg : PortCfgChg}
  {up all : Bool} {pnum impRc mac : Nat} {saved : List (BitVec 32)}

theorem preserveIf_holds (holds : device.Holds Inv allowed F) :
    Holds Inv F (preserveIf device uninit up pnum impRc : Call μ δ _) := by
  apply Holds.ite
  · exact fun _ => orLeave_holds (preserveRegsForPowerup_holds holds)
  · exact fun _ => Holds.pure _

theorem restoreIf_holds (holds : device.Holds Inv allowed F)
    (restores : up = true → ∀ reg value, IsRestored reg → allowed reg value) :
    Holds Inv F (restoreIf device scratchpad up all pnum saved impRc : Call μ δ Unit) := by
  apply Holds.ite
  · exact fun isUp => orLeave_holds (restoreRegsFromPowerup_holds holds (restores isUp))
  · exact fun _ => Holds.pure _

theorem restoreIf_down :
    (restoreIf device scratchpad false all pnum saved impRc : Call μ δ Unit) = pure () :=
  rfl

omit [HasImpRc μ] in
theorem updateLaneInversions_holds (holds : device.Holds Inv allowed F)
    (lanes : ∀ mac lane value, allowed (.serdes mac lane) value) :
    Holds Inv F (updateLaneInversions device chg mac : EStateM Nat (Attached μ δ) Unit) := by
  apply Holds.forM
  intro lane _
  apply Holds.ite
  · exact fun _ => holds.regWrite (lanes _ _ _)
  · exact fun _ => Holds.pure _

theorem writeSpxCtl_holds (holds : device.Holds Inv allowed F)
    (ctl : (chg.sorted pnum).isSome = true → allowed (.port .ctl pnum) (chg.ctl.spxCtl pnum)) :
    Holds Inv F (writeSpxCtl device chg pnum : Call μ δ Unit) := by
  apply Holds.ite
  · exact fun differs => writeReg_holds holds (ctl differs.1)
  · exact fun _ => Holds.pure _

variable {dev : Tsi57xDevice} {restoreAll : RestoreAll} {portNum : Nat}

section

variable (holds : device.Holds Inv allowed F)
include holds

theorem setMac_holds (macs : ∀ value, allowed (.dloop portNum) value)
    (restores : chg.ctl.dloopCtl (dev.pmr portNum).macNum &&& pwdnX4 = 0 ∨
        chg.ctl.dloopCtl (dev.pmr portNum).macNum &&& pwdnX1 = 0 →
      ∀ reg value, IsRestored reg → allowed reg value)
    (lanes : ∀ mac lane value, allowed (.serdes mac lane) value) :
    Holds Inv F (setMac dev device scratchpad uninit chg restoreAll portNum :
      Call μ δ RestoreAll) := by
  apply (preserveIf_holds holds).bind
  intro evenRegs
  apply (preserveIf_holds holds).bind
  intro oddRegs
  apply (writeReg_holds holds (macs _)).bind
  intro _
  apply (writeReg_holds holds (macs _)).bind
  intro _
  apply (writeReg_holds holds (macs _)).bind
  intro _
  apply (restoreIf_holds holds fun up4x => restores (.inl (of_decide_eq_true up4x))).bind
  intro _
  apply (orLeave_holds (updateLaneInversions_holds holds lanes)).bind
  intro _
  apply (restoreIf_holds holds fun up1x => restores (.inr (of_decide_eq_true up1x))).bind
  exact fun _ => Holds.pure _

theorem setMacIf_holds
    (macs : chg.macChanged (dev.pmr portNum).macNum → ∀ value, allowed (.dloop portNum) value)
    (restores : Restores dev chg portNum → ∀ reg value, IsRestored reg → allowed reg value)
    (lanes : ∀ mac lane value, allowed (.serdes mac lane) value) :
    Holds Inv F
      (setMacIf dev device scratchpad uninit chg restoreAll portNum : Call μ δ RestoreAll) := by
  apply Holds.ite
  · exact fun changed => setMac_holds holds (macs changed) (fun up => restores ⟨changed, up⟩) lanes
  · exact fun _ => Holds.pure _

theorem setPorts_holds
    (macs : chg.macChanged (dev.pmr portNum).macNum → ∀ value, allowed (.dloop portNum) value)
    (restores : Restores dev chg portNum → ∀ reg value, IsRestored reg → allowed reg value)
    (lanes : ∀ mac lane value, allowed (.serdes mac lane) value)
    (ctl : ∀ pnum, (chg.sorted pnum).isSome = true →
      allowed (.port .ctl pnum) (chg.ctl.spxCtl pnum)) :
    Holds Inv F
      (setPorts dev device scratchpad uninit chg restoreAll portNum : Call μ δ RestoreAll) := by
  apply (setMacIf_holds holds macs restores lanes).bind
  intro _
  apply (writeSpxCtl_holds holds (ctl portNum)).bind
  intro _
  exact (writeSpxCtl_holds holds (ctl (portNum + 1))).bind fun _ => Holds.pure _

end

instance (pnum : Nat) : Decidable (Restores dev chg pnum) :=
  inferInstanceAs (Decidable (_ ∧ _))

/-- What the loop over the MACs leaves, the writes after it keep. -/
theorem setConfig_meets {values : Reg → BitVec 32} {inParms : PcSetConfigIn}
    {P : δ → Prop} (tells : device.Tells Inv values True)
    (loop : ∀ sorted, sortParms dev uninit.config inParms = .ok sorted →
      Meets (fun state => Inv state.device)
        ((evenPorts dev).foldlM (setPorts dev device scratchpad uninit
          (changesAt dev values uninit inParms.oobRegAcc sorted)) ⟨false, false⟩ : Call μ δ _)
        (fun _ state => P state.device) fun _ _ => True)
    (keeps : device.Keeps P allowed) (lrto : ∀ value, allowed (.dev rioSwLtCtl) value) :
    Meets (fun state => Inv state.device)
      (tsi57xRioPcSetConfig dev device scratchpad uninit inParms : Call μ δ _)
      (fun _ state => P state.device) fun _ _ => True := by
  apply setImpRc_bind
  apply Meets.ite
  · exact fun _ => leave_meets (F := fun _ => True) fun _ _ => trivial
  intro _
  apply Meets.bind (computeChanges_meets tells)
  intro chg
  apply Meets.assume
  rintro ⟨sorted, valid, rfl⟩
  apply Meets.bind (loop sorted valid)
  intro _
  have setLrto : Preserves P (orLeave (pcSetConfig 0x42) (tsi57xSetLrto device inParms.lrto) :
      Call μ δ Unit) := orLeave_preserves (keeps.regWrite (lrto _))
  exact (setLrto.bind fun _ => tsi57xRioPcGetConfig_preserves keeps).weakenFail fun _ _ _ => trivial

end Steps

section Eof

variable {μ : Type} [HasImpRc μ] {dev : Tsi57xDevice} {effect : WriteEffect Reg}
  {scratchpad : LoggedFile Reg → Nat → BitVec 32}
  {P : LoggedFile Reg → Prop}

theorem logged_writesEof :
    (logged (registerFile effect)).Keeps (fun state => WritesEof state.2) fun _ _ => True :=
  logged_grows fun _ _ writes => writes.imp fun _ isMember => List.mem_append_left _ isMember

omit [HasImpRc μ] in
theorem restoreTurn_preserves {Inv : LoggedFile Reg → Prop}
    (keeps : (logged (registerFile effect)).Keeps Inv fun _ _ => True) (idx : Nat) :
    Preserves Inv (restoreTurn (logged (registerFile effect)) scratchpad idx :
      EStateM Nat (Attached μ _) Unit) := by
  apply Preserves.ite (fun _ => Preserves.pure _)
  intro _
  apply Meets.getBind
  intro state _
  exact keeps.regWrite trivial

omit [HasImpRc μ] in
theorem restoreScratchpad_writesEof :
    Meets (fun _ => True)
      (restoreScratchpad (logged (registerFile effect)) scratchpad :
        EStateM Nat (Attached μ _) Unit)
      (fun _ state => WritesEof state.device.2) fun _ _ => True := by
  have isMarker : 25 ∈ List.range maxDarScrpadIdx := by decide
  apply Meets.forM_once (I := fun _ => True)
    (J := fun state : Attached μ (LoggedFile Reg) => WritesEof state.device.2)
    List.nodup_range isMarker
  · exact fun _ _ _ => Meets.anything _ _
  · apply Meets.getBind
    intro state _
    apply regWrite_logged_meets
    · exact fun _ _ _ => ⟨_, List.mem_append_right _ (List.mem_singleton_self _)⟩
    · exact fun _ _ _ _ => trivial
  · exact fun idx _ _ => (restoreTurn_preserves logged_writesEof idx).weakenFail fun _ _ _ =>
      trivial

omit [HasImpRc μ] in
theorem restoreRegsFromPowerup_writesEof {pnum : Nat} {saved : Option (List (BitVec 32))} :
    Meets (fun _ => True)
      (restoreRegsFromPowerup (logged (registerFile effect)) scratchpad pnum saved :
        EStateM Nat (Attached μ (LoggedFile Reg)) Unit)
      (fun _ state => WritesEof state.device.2) fun _ _ => True := by
  apply Meets.bind restoreScratchpad_writesEof
  intro _
  have rest : ∀ writeBack : (PortReg × BitVec 32) × BitVec 32 → EStateM Nat (Attached μ _) Unit,
      (∀ entry, Preserves (fun state : LoggedFile Reg => WritesEof state.2) (writeBack entry)) →
      Preserves (fun state : LoggedFile Reg => WritesEof state.2)
        ((regOffsets.zip (saved.getD [])).forM writeBack) :=
    fun _ turn => Preserves.forM fun entry _ => turn entry
  exact (rest _ fun entry => logged_writesEof.regWrite trivial).weakenFail fun _ _ _ => trivial

theorem restoreIf_writesEof {all : Bool} {pnum impRc : Nat} {saved : List (BitVec 32)} :
    Meets (fun _ => True)
      (restoreIf (logged (registerFile effect)) scratchpad true all pnum saved impRc :
        Call μ (LoggedFile Reg) Unit)
      (fun _ state => WritesEof state.device.2) fun _ _ => True :=
  orLeave_meets (F := fun _ => True) restoreRegsFromPowerup_writesEof

variable {dev : Tsi57xDevice} {uninit : Uninit} {chg : PortCfgChg} {restoreAll : RestoreAll}
  {portNum : Nat}

theorem setMac_writesEof (up : chg.ctl.dloopCtl (dev.pmr portNum).macNum &&& pwdnX4 = 0 ∨
      chg.ctl.dloopCtl (dev.pmr portNum).macNum &&& pwdnX1 = 0) :
    Meets (fun _ => True)
      (setMac dev (logged (registerFile effect)) scratchpad uninit chg restoreAll portNum :
        Call μ (LoggedFile Reg) RestoreAll)
      (fun _ state => WritesEof state.device.2) fun _ _ => True := by
  apply Meets.bind (Meets.anything _ _)
  intro evenRegs
  apply Meets.bind (Meets.anything _ _)
  intro oddRegs
  apply Meets.bind (Meets.anything _ _)
  intro _
  apply Meets.bind (Meets.anything _ _)
  intro _
  apply Meets.bind (Meets.anything _ _)
  intro _
  rcases up with up4x | up1x
  · rw [decide_eq_true up4x]
    apply Meets.bind restoreIf_writesEof
    intro _
    apply Meets.weakenFail _ fun _ _ _ => trivial
    · exact fun _ state => WritesEof state.device.2
    apply (orLeave_holds
      (updateLaneInversions_holds logged_writesEof.holds fun _ _ _ => trivial)).bind
    intro _
    exact (restoreIf_holds logged_writesEof.holds fun _ _ _ _ => trivial).bind fun _ => Holds.pure _
  · apply Meets.bind (Meets.anything _ _)
    intro _
    apply Meets.bind (Meets.anything _ _)
    intro _
    rw [decide_eq_true up1x]
    apply Meets.bind restoreIf_writesEof
    exact fun _ => Meets.pure fun _ writes => writes

theorem setPorts_writesEof (restores : Restores dev chg portNum) :
    Meets (fun _ => True)
      (setPorts dev (logged (registerFile effect)) scratchpad uninit chg restoreAll portNum :
        Call μ (LoggedFile Reg) RestoreAll)
      (fun _ state => WritesEof state.device.2) fun _ _ => True := by
  rw [setPorts, setMacIf, if_pos restores.1]
  apply Meets.bind (setMac_writesEof restores.2)
  intro _
  apply Meets.weakenFail _ fun _ _ _ => trivial
  · exact fun _ state => WritesEof state.device.2
  apply (writeSpxCtl_holds logged_writesEof.holds fun _ => trivial).bind
  intro _
  exact (writeSpxCtl_holds logged_writesEof.holds fun _ => trivial).bind fun _ => Holds.pure _

/-- Where a MAC comes up again, the saved registers are written back. -/
theorem foldlM_setPorts_writesEof {ports : List Nat} (isMember : portNum ∈ ports)
    (restores : Restores dev chg portNum) :
    Meets (fun _ => True)
      (ports.foldlM (setPorts dev (logged (registerFile effect)) scratchpad uninit chg) restoreAll :
        Call μ (LoggedFile Reg) RestoreAll)
      (fun _ state => WritesEof state.device.2) fun _ _ => True := by
  apply Meets.foldlM_of_mem (I := fun _ => True)
    (J := fun state : Attached μ (LoggedFile Reg) => WritesEof state.device.2) isMember
  · exact fun _ _ _ => Meets.anything _ _
  · exact fun _ => setPorts_writesEof restores
  · exact fun _ _ _ => setPorts_holds logged_writesEof.holds.mayFail (fun _ _ => trivial)
      (fun _ _ _ _ => trivial) (fun _ _ _ => trivial) fun _ _ => trivial

end Eof

section Sound

variable (dev : Tsi57xDevice) (values : Reg → BitVec 32) (set : PortReg → Nat → BitVec 32)

/-- A value of a register of a port that differs only in what the request sets. -/
def Agrees (preg : PortReg) (pnum : Nat) (value : BitVec 32) : Prop :=
  value &&& ~~~set preg pnum = values (.port preg pnum) &&& ~~~set preg pnum

/-- The writes other than those to MACs. -/
def Modest : Reg → BitVec 32 → Prop
  | .port preg pnum, value => Agrees values set preg pnum value
  | .dev offset, _ => offset ∈ scratchpadOffsets
  | _, _ => True

/-- Between turns the ports of a MAC are powered down, or their registers were not lost; except of
MACs whose turn it is. -/
structure Sound (skip : Nat → Prop) (state : LoggedFile Reg) : Prop where
  macs : ∀ num, ¬skip num →
    (state.1.value (.dloop num) &&& pwdnX4 ≠ 0 ∧ state.1.value (.dloop num) &&& pwdnX1 ≠ 0) ∨
      ∀ pnum, (dev.pmr pnum).pwrMacNum * 2 = num → ∀ preg,
        Agrees values set preg pnum (state.1.value (.port preg pnum))
  writes : WritesOnly (Modest values set) state

variable {dev values set} {effect : WriteEffect Reg} (powersDown : PowersDown dev effect)
  {skip : Nat → Prop}

include powersDown

theorem logged_sound :
    (logged (registerFile effect)).Keeps (Sound dev values set skip)
      (OffMacs (Modest values set)) := by
  apply RegDevice.Holds.keeps
  constructor
  · intro reg state value after sound answered
    obtain ⟨rfl, rfl⟩ := read_logged_file_ok answered
    exact ⟨sound.macs, sound.writes.append nofun⟩
  · intro reg state failure after sound answered
    obtain ⟨-, rfl⟩ := read_logged_file_error answered
    exact ⟨sound.macs, sound.writes⟩
  · intro reg value state after isAllowed sound answered
    obtain rfl := write_logged_file_ok answered
    constructor
    · intro num notSkipped
      have kept : ∀ other, other ≠ reg →
          effect reg value state.1.value other = state.1.value other := by
        intro other different
        apply powersDown.others reg value _ other different
        exact fun _ pnum _ takes => isAllowed.2 _ takes.1
      apply (sound.macs num notSkipped).imp
      · intro down
        simp only [kept _ (Ne.symm (isAllowed.2 num))]
        exact down
      · intro agrees pnum onMac preg
        by_cases same : reg = .port preg pnum
        · subst same
          simp only [powersDown.self]
          exact isAllowed.1
        · simp only [kept _ (Ne.symm same)]
          exact agrees pnum onMac preg
    · apply sound.writes.append
      rintro _ _ ⟨⟩
      exact isAllowed.1
  · intro reg value state failure after isAllowed sound answered
    obtain ⟨-, rfl⟩ := write_logged_file_error answered
    refine ⟨sound.macs, sound.writes.append ?_⟩
    rintro _ _ ⟨⟩
    exact isAllowed.1

theorem writeMac_sound {μ : Type} [HasImpRc μ] {num impRc : Nat} {value : BitVec 32} :
    Meets (fun state => Sound dev values set (· = num) state.device)
      (writeReg (logged (registerFile effect)) (.dloop num) value impRc :
        Call μ (LoggedFile Reg) Unit)
      (fun _ state => state.device.1.value (.dloop num) = value ∧
        Sound dev values set (· = num) state.device) fun _ _ => True := by
  apply orLeave_meets (F := fun _ => True)
  apply regWrite_meets
  · intro start final sound answered
    obtain same := write_logged_file_ok answered
    rw [same]
    refine ⟨powersDown.self _ _ _, ?_, ?_⟩
    · intro other different
      have kept : ∀ reg, reg ≠ .dloop num →
          (∀ preg pnum, reg = .port preg pnum → (dev.pmr pnum).pwrMacNum * 2 = other) →
          effect (.dloop num) value start.device.1.value reg = start.device.1.value reg := by
        intro reg notMac onOther
        apply powersDown.others _ _ _ reg notMac
        intro preg pnum isPort takes
        exact different ((onOther preg pnum isPort).symm.trans (Reg.dloop.inj takes.1).symm)
      apply (sound.macs other different).imp
      · intro down
        simp only [kept (.dloop other) (fun same => different (Reg.dloop.inj same)) nofun]
        exact down
      · intro agrees pnum onMac preg
        simp only [kept (.port preg pnum) nofun fun _ _ isPort => (Reg.port.inj isPort).2 ▸ onMac]
        exact agrees pnum onMac preg
    · apply sound.writes.append
      rintro _ _ ⟨⟩
      trivial
  · exact fun _ _ _ _ _ => trivial

section Turns

variable {μ : Type} [HasImpRc μ] {scratchpad : LoggedFile Reg → Nat → BitVec 32} {uninit : Uninit}
  {chg : PortCfgChg} {restoreAll : RestoreAll} {portNum : Nat}

theorem setMac_sound (down : chg.ctl.dloopCtl (dev.pmr portNum).macNum &&& pwdnX4 ≠ 0 ∧
      chg.ctl.dloopCtl (dev.pmr portNum).macNum &&& pwdnX1 ≠ 0) :
    Meets (fun state => Sound dev values set (fun _ => False) state.device)
      (setMac dev (logged (registerFile effect)) scratchpad uninit chg restoreAll portNum :
        Call μ (LoggedFile Reg) RestoreAll)
      (fun _ state => Sound dev values set (fun _ => False) state.device) fun _ _ => True := by
  have holds : (logged (registerFile effect)).Holds (Sound dev values set fun _ => False)
      (OffMacs (Modest values set)) fun _ => True := (logged_sound powersDown).holds.mayFail
  apply (preserveIf_holds holds).bind
  intro evenRegs
  apply (preserveIf_holds holds).bind
  intro oddRegs
  have opened : ∀ state : LoggedFile Reg, Sound dev values set (fun _ => False) state →
      Sound dev values set (· = portNum) state :=
    fun state sound => ⟨fun num _ => sound.macs num id, sound.writes⟩
  have closed : ∀ state : LoggedFile Reg,
      state.1.value (.dloop portNum) = chg.ctl.dloopCtl (dev.pmr portNum).macNum ∧
        Sound dev values set (· = portNum) state → Sound dev values set (fun _ => False) state := by
    rintro state ⟨isSet, sound⟩
    refine ⟨fun num _ => ?_, sound.writes⟩
    by_cases same : num = portNum
    · rw [same, isSet]
      exact .inl down
    · exact sound.macs num same
  apply Meets.bind ((writeMac_sound powersDown).weakenPre fun state => opened state.device)
  intro _
  apply Meets.bind ((writeMac_sound powersDown).weakenPre fun _ => And.right)
  intro _
  apply Meets.bind (((writeMac_sound powersDown).weakenPre fun _ => And.right).weakenPost
    fun _ state => closed state.device)
  intro _
  rw [decide_eq_false down.1, decide_eq_false down.2, restoreIf_down, restoreIf_down, pure_bind]
  apply (orLeave_holds (updateLaneInversions_holds holds fun _ _ _ => ⟨trivial, nofun⟩)).bind
  intro _
  exact Meets.pure fun _ sound => sound

theorem setPorts_sound (notRestored : ¬Restores dev chg portNum)
    (ctl : ∀ pnum, (chg.sorted pnum).isSome = true →
      Agrees values set .ctl pnum (chg.ctl.spxCtl pnum)) :
    Meets (fun state => Sound dev values set (fun _ => False) state.device)
      (setPorts dev (logged (registerFile effect)) scratchpad uninit chg restoreAll portNum :
        Call μ (LoggedFile Reg) RestoreAll)
      (fun _ state => Sound dev values set (fun _ => False) state.device) fun _ _ => True := by
  have holds : (logged (registerFile effect)).Holds (Sound dev values set fun _ => False)
      (OffMacs (Modest values set)) fun _ => True := (logged_sound powersDown).holds.mayFail
  have macIf : Meets (fun state => Sound dev values set (fun _ => False) state.device)
      (setMacIf dev (logged (registerFile effect)) scratchpad uninit chg restoreAll portNum :
        Call μ (LoggedFile Reg) RestoreAll)
      (fun _ state => Sound dev values set (fun _ => False) state.device) fun _ _ => True := by
    apply Meets.ite
    · intro changed
      apply setMac_sound powersDown
      have bothDown := not_and.mp notRestored changed
      exact not_or.mp bothDown
    · exact fun _ => Meets.pure fun _ sound => sound
  apply Meets.bind macIf
  intro _
  apply (writeSpxCtl_holds holds fun asked => ⟨ctl _ asked, nofun⟩).bind
  intro _
  exact (writeSpxCtl_holds holds fun asked => ⟨ctl _ asked, nofun⟩).bind fun _ => Holds.pure _

end Turns

end Sound

section Ctl

variable {dev : Tsi57xDevice} {pnum : Nat} {value : BitVec 32} {effect : WriteEffect Reg}

theorem evenPort_mac (isPort : pnum < dev.numPorts) :
    pnum / 2 * 2 ∈ evenPorts dev ∧ (dev.pmr (pnum / 2 * 2)).macNum = (dev.pmr pnum).macNum := by
  have all : ∀ dev : Tsi57xDevice, ∀ pnum < dev.numPorts,
      pnum / 2 * 2 ∈ evenPorts dev ∧ (dev.pmr (pnum / 2 * 2)).macNum = (dev.pmr pnum).macNum := by
    intro dev
    cases dev <;> decide +kernel
  exact all dev pnum isPort

theorem evenPorts_lt {portNum : Nat} (isMember : portNum ∈ evenPorts dev) :
    portNum < dev.numPorts := by
  have all : ∀ dev : Tsi57xDevice, ∀ portNum ∈ evenPorts dev, portNum < dev.numPorts := by
    intro dev
    cases dev <;> decide +kernel
  exact all dev portNum isMember

theorem evenPort_own {portNum : Nat} (isPort : pnum < dev.numPorts)
    (isEven : portNum ∈ evenPorts dev) (own : portNum = (dev.pmr pnum).pwrMacNum * 2) :
    (dev.pmr portNum).macNum = (dev.pmr pnum).macNum := by
  have all : ∀ dev : Tsi57xDevice, ∀ pnum < dev.numPorts, ∀ portNum ∈ evenPorts dev,
      portNum = (dev.pmr pnum).pwrMacNum * 2 →
        (dev.pmr portNum).macNum = (dev.pmr pnum).macNum := by
    intro dev
    cases dev <;> decide +kernel
  exact all dev pnum isPort portNum isEven own

/-- A port has power, and its control register holds what was written once it was. -/
structure CtlAt (dev : Tsi57xDevice) (pnum : Nat) (value : BitVec 32) (written : Prop)
    (state : LoggedFile Reg) : Prop where
  isUp : IsUp dev state.1.value pnum
  ctl : written → state.1.value (.port .ctl pnum) = value

/-- Writes that leave the power of a port and its control register alone. -/
def OffPort (dev : Tsi57xDevice) (pnum : Nat) (value : BitVec 32) (reg : Reg) (other : BitVec 32) :
    Prop :=
  (reg = .port .ctl pnum → other = value) ∧ reg ≠ .dloop ((dev.pmr pnum).pwrMacNum * 2)

theorem logged_ctlAt (powersDown : PowersDown dev effect) {written : Prop} :
    (logged (registerFile effect)).Keeps (CtlAt dev pnum value written)
      (OffPort dev pnum value) := by
  apply RegDevice.Holds.keeps
  constructor
  · intro reg state read after ctlAt answered
    obtain ⟨rfl, rfl⟩ := read_logged_file_ok answered
    exact ⟨ctlAt.isUp, ctlAt.ctl⟩
  · intro reg state failure after ctlAt answered
    obtain ⟨-, rfl⟩ := read_logged_file_error answered
    exact ⟨ctlAt.isUp, ctlAt.ctl⟩
  · intro reg other state after isAllowed ctlAt answered
    obtain rfl := write_logged_file_ok answered
    constructor
    · have kept : pwrAt dev (effect reg other state.1.value) pnum = pwrAt dev state.1.value pnum :=
        powersDown.others reg other _ _ isAllowed.2.symm fun _ _ isPort => by cases isPort
      exact (congrArg (· &&& (dev.pmr pnum).pwrDownMask) kept).trans ctlAt.isUp
    · intro isWritten
      by_cases same : reg = .port .ctl pnum
      · subst same
        exact (powersDown.self _ _ _).trans (isAllowed.1 rfl)
      · refine (powersDown.others reg other _ _ (Ne.symm same) ?_).trans (ctlAt.ctl isWritten)
        rintro _ _ ⟨⟩ takes
        exact isAllowed.2 takes.1
  · intro reg other state failure after isAllowed ctlAt answered
    obtain ⟨-, rfl⟩ := write_logged_file_error answered
    exact ⟨ctlAt.isUp, ctlAt.ctl⟩

theorem writeReg_ctlAt {μ : Type} [HasImpRc μ] (powersDown : PowersDown dev effect) {impRc : Nat} :
    Meets (fun state => CtlAt dev pnum value False state.device)
      (writeReg (logged (registerFile effect)) (.port .ctl pnum) value impRc : Call μ _ Unit)
      (fun _ state => CtlAt dev pnum value True state.device) fun _ _ => True := by
  apply orLeave_meets (F := fun _ => True)
  apply regWrite_meets
  · intro start final ctlAt answered
    have kept := (logged_ctlAt powersDown).holds.write (.port .ctl pnum) value start.device
      final ⟨fun _ => rfl, nofun⟩ ctlAt answered
    refine ⟨kept.isUp, fun _ => ?_⟩
    obtain same := write_logged_file_ok answered
    rw [same]
    exact powersDown.self _ _ _
  · exact fun _ _ _ _ _ => trivial

section Turns

variable {μ δ : Type} [HasImpRc μ] {device : RegDevice Reg δ} {scratchpad : δ → Nat → BitVec 32}
  {uninit : Uninit} {chg : PortCfgChg} {restoreAll : RestoreAll} {allowed : Reg → BitVec 32 → Prop}
  {P Q : δ → Prop}

/-- The control register of a port is written in the turn for the MAC of the port. -/
theorem foldlM_setPorts_writesCtl (isPort : pnum < dev.numPorts)
    (asked : (chg.sorted pnum).isSome = true) (differs : chg.ctl.spxCtl pnum ≠ chg.orig.spxCtl pnum)
    (notRestored : ∀ pnum < dev.numPorts, ¬Restores dev chg pnum)
    (before : device.Keeps P allowed) (after : device.Keeps Q allowed)
    (macs : ∀ portNum ∈ evenPorts dev, chg.macChanged (dev.pmr portNum).macNum →
      ∀ value, allowed (.dloop portNum) value)
    (lanes : ∀ mac lane value, allowed (.serdes mac lane) value)
    (ctl : ∀ pnum, allowed (.port .ctl pnum) (chg.ctl.spxCtl pnum))
    (write : Meets (fun state => P state.device)
      (writeReg device (.port .ctl pnum) (chg.ctl.spxCtl pnum) (pcSetConfig 0x4C) : Call μ δ Unit)
      (fun _ state => Q state.device) fun _ _ => True) :
    Meets (fun state => P state.device)
      ((evenPorts dev).foldlM (setPorts dev device scratchpad uninit chg) restoreAll :
        Call μ δ RestoreAll)
      (fun _ state => Q state.device) fun _ _ => True := by
  have notRestores : ∀ portNum ∈ evenPorts dev, Restores dev chg portNum →
      ∀ reg value, IsRestored reg → allowed reg value :=
    fun portNum isEven restores => absurd restores (notRestored portNum (evenPorts_lt isEven))
  obtain ⟨isEven, -⟩ := evenPort_mac isPort
  apply Meets.foldlM_of_mem (I := fun state : Attached μ δ => P state.device)
    (J := fun state : Attached μ δ => Q state.device) isEven
  · exact fun _ portNum isMember => setPorts_holds before.holds.mayFail (macs portNum isMember)
      (notRestores portNum isMember) lanes fun pnum _ => ctl pnum
  · intro restoreAll
    apply Meets.bind
      (setMacIf_holds before.holds.mayFail (macs _ isEven) (notRestores _ isEven) lanes)
    intro _
    rcases Nat.mod_two_eq_zero_or_one pnum with even | odd
    · rw [Nat.div_mul_cancel (Nat.dvd_of_mod_eq_zero even), writeSpxCtl, if_pos ⟨asked, differs⟩]
      apply Meets.bind write
      intro _
      exact (writeSpxCtl_holds after.holds.mayFail fun _ => ctl _).bind fun _ => Holds.pure _
    · apply Meets.bind (writeSpxCtl_holds before.holds.mayFail fun _ => ctl _)
      intro _
      have isOdd : pnum / 2 * 2 + 1 = pnum := by omega
      rw [isOdd, writeSpxCtl, if_pos ⟨asked, differs⟩]
      apply Meets.bind write
      exact fun _ => Meets.pure fun _ written => written
  · exact fun _ portNum isMember => setPorts_holds after.holds.mayFail (macs portNum isMember)
      (notRestores portNum isMember) lanes fun pnum _ => ctl pnum

end Turns

end Ctl

/-- The fields that a request sets. -/
def setFields (inParms : PcSetConfigIn) (preg : PortReg) (pnum : Nat) : BitVec 32 :=
  if preg = .ctl ∧ Named inParms pnum then ctlField else 0

section Calls

variable {dev : Tsi57xDevice} {effect : WriteEffect Reg} {start : RegisterFile Reg}
  {scratchpad : LoggedFile Reg → Nat → BitVec 32} {uninit : Uninit} {impRc : Nat}
  {values : Reg → BitVec 32} {set : PortReg → Nat → BitVec 32}

theorem Agrees.masked {preg : PortReg} {pnum : Nat} {value : BitVec 32}
    (agrees : Agrees values set preg pnum value) (mask : BitVec 32) :
    value &&& (mask &&& ~~~set preg pnum) =
      values (.port preg pnum) &&& (mask &&& ~~~set preg pnum) := by
  rw [BitVec.and_comm mask, ← BitVec.and_assoc, agrees, BitVec.and_assoc]

theorem Sound.keepsRegs {state : LoggedFile Reg}
    (sound : Sound dev values set (fun _ => False) state) :
    KeepsRegs dev set values state.1.value state.2 where
  kept pnum _ _ isUp entry _ := by
    rcases sound.macs ((dev.pmr pnum).pwrMacNum * 2) id with down | agrees
    · rcases @pwrDownMask_cases dev pnum with is4x | is1x
      · exact absurd (is4x ▸ isUp) down.1
      · exact absurd (is1x ▸ isUp) down.2
    · exact (agrees pnum rfl entry.1).masked entry.2
  down pnum _ _ entry _ value isWrite :=
    Agrees.masked (sound.writes _ value isWrite) entry.2
  scratchpad offset value isWrite := sound.writes _ value isWrite

variable {inParms : PcSetConfigIn} {sorted : Sorted} {chg : PortCfgChg} {pnum : Nat}
  {out : RxsPort.PcGetConfigOut} {final : Attached Nat (LoggedFile Reg)}
  (ran : (tsi57xRioPcSetConfig dev (logged (registerFile effect)) scratchpad uninit inParms).run
    ⟨impRc, (start, [])⟩ = .ok out final)
  (valid : sortParms dev uninit.config inParms = .ok sorted)
  (isChg : changesAt dev start.value uninit inParms.oobRegAcc sorted = chg)

include ran valid isChg

/-- What the loop over the ports establishes holds at the end of the call. -/
theorem setConfig_ends {P : LoggedFile Reg → Prop} {allowed : Reg → BitVec 32 → Prop}
    (loop : Meets (fun state => Calm start.value state.device)
      ((evenPorts dev).foldlM
        (setPorts dev (logged (registerFile effect)) scratchpad uninit chg) ⟨false, false⟩ :
          Call Nat (LoggedFile Reg) RestoreAll)
      (fun _ state => P state.device) fun _ _ => True)
    (keeps : (logged (registerFile effect)).Keeps P allowed)
    (lrto : ∀ value, allowed (.dev rioSwLtCtl) value) : P final.device := by
  have meets : Meets (fun state => Calm start.value state.device)
      (tsi57xRioPcSetConfig dev (logged (registerFile effect)) scratchpad uninit inParms :
        Call Nat (LoggedFile Reg) _)
      (fun _ state => P state.device) fun _ _ => True := by
    apply setConfig_meets logged_tells _ keeps lrto
    intro other isOther
    rw [valid] at isOther
    cases isOther
    rw [isChg]
    exact loop
  exact (meets Calm.start).1 ran

theorem tsi57xRioPcSetConfig_not_keepsRegs {before : Reg → BitVec 32} (isPort : pnum < dev.numPorts)
    (restores : Restores dev chg pnum) :
    ¬KeepsRegs dev set before final.device.1.value final.device.2 := by
  have writes : WritesEof final.device.2 := by
    apply setConfig_ends ran valid isChg (P := fun state => WritesEof state.2) _ logged_writesEof
      fun _ => trivial
    obtain ⟨isEven, sameMac⟩ := evenPort_mac isPort
    apply (foldlM_setPorts_writesEof isEven _).weakenPre fun _ _ => trivial
    unfold Restores
    rw [sameMac]
    exact restores
  exact fun keeps => keeps.not_writesEof writes

theorem tsi57xRioPcSetConfig_keepsRegs (powersDown : PowersDown dev effect)
    (keepsCtl : ∀ pnum < dev.numPorts, KeepsCtl start.value chg pnum)
    (notRestored : ∀ pnum < dev.numPorts, ¬Restores dev chg pnum) :
    KeepsRegs dev (setFields inParms) start.value final.device.1.value final.device.2 := by
  have isScratchpad : rioSwLtCtl ∈ scratchpadOffsets := by decide
  have sound : Sound dev start.value (setFields inParms) (fun _ => False) final.device := by
    apply setConfig_ends ran valid isChg _ (logged_sound powersDown) fun _ => ⟨isScratchpad, nofun⟩
    have ctl : ∀ pnum, (chg.sorted pnum).isSome = true →
        Agrees start.value (setFields inParms) .ctl pnum (chg.ctl.spxCtl pnum) := by
      intro pnum isAsked
      rw [← isChg] at isAsked
      obtain ⟨pc, asked⟩ := Option.isSome_iff_exists.mp isAsked
      obtain ⟨named, isPort⟩ := sortParms_asked valid (without_asked asked)
      rw [Agrees, setFields, if_pos ⟨rfl, named⟩]
      exact keepsCtl pnum isPort
    have turns : Holds (Sound dev start.value (setFields inParms) fun _ => False) (fun _ => True)
        ((evenPorts dev).foldlM (setPorts dev (logged (registerFile effect)) scratchpad uninit chg)
          ⟨false, false⟩ : Call Nat (LoggedFile Reg) RestoreAll) := by
      apply Holds.foldlM
      intro restoreAll portNum isMember
      exact setPorts_sound powersDown (notRestored portNum (evenPorts_lt isMember)) ctl
    apply turns.weakenPre
    intro state calm
    refine ⟨fun num _ => .inr fun pnum _ preg => ?_, calm.steady.writes⟩
    rw [Agrees, calm.values]
  exact sound.keepsRegs

/-- Where no registers are written back, what is kept includes the control registers. -/
theorem tsi57xRioPcSetConfig_keepsCtl (powersDown : PowersDown dev effect)
    (keeps : KeepsRegs dev (setFields inParms) start.value final.device.1.value final.device.2)
    (notRestored : ∀ pnum < dev.numPorts, ¬Restores dev chg pnum) (isPort : pnum < dev.numPorts) :
    KeepsCtl start.value chg pnum := by
  by_contra replaced
  obtain ⟨asked, differs, down⟩ := replaced_cases isChg isPort (notRestored pnum isPort) replaced
  have named : Named inParms pnum := by
    rw [← isChg] at asked
    obtain ⟨pc, isAsked⟩ := Option.isSome_iff_exists.mp asked
    exact (sortParms_asked valid (without_asked isAsked)).1
  have mask : 0xFFFFFFFF &&& ~~~setFields inParms .ctl pnum = ~~~ctlField := by
    rw [setFields, if_pos ⟨rfl, named⟩]
    decide
  have isKept : (PortReg.ctl, (0xFFFFFFFF : BitVec 32)) ∈ regOffsets := List.mem_cons_self
  by_cases isUp : IsUp dev start.value pnum
  · have ctlAt : CtlAt dev pnum (chg.ctl.spxCtl pnum) True final.device := by
      apply setConfig_ends ran valid isChg _ (logged_ctlAt powersDown) fun _ => ⟨nofun, nofun⟩
      apply (foldlM_setPorts_writesCtl isPort asked differs notRestored (logged_ctlAt powersDown)
        (logged_ctlAt powersDown) _ (fun _ _ _ => ⟨nofun, nofun⟩)
        (fun other => ⟨fun same => (Reg.port.inj same).2 ▸ rfl, nofun⟩)
        (writeReg_ctlAt powersDown)).weakenPre
      · exact fun state calm => ⟨by rw [calm.values]; exact isUp, False.elim⟩
      · refine fun portNum isEven changed value => ⟨nofun, fun own => ?_⟩
        rw [evenPort_own isPort isEven (Reg.dloop.inj own)] at changed
        exact down changed isUp
    have kept := keeps.kept pnum isPort isUp ctlAt.isUp _ isKept
    rw [ctlAt.ctl trivial, mask] at kept
    exact replaced kept
  · have wrote : Wrote (.port .ctl pnum) (chg.ctl.spxCtl pnum) final.device := by
      apply setConfig_ends ran valid isChg _ logged_wrote fun _ => trivial
      exact (foldlM_setPorts_writesCtl isPort asked differs notRestored
        (logged_grows (P := fun _ => True) fun _ _ _ => trivial) logged_wrote
        (fun _ _ _ _ => trivial)
        (fun _ _ _ => trivial) (fun _ => trivial)
        (writeReg_wrote.weakenFail fun _ _ _ => trivial)).weakenPre fun _ _ => trivial
    have same := keeps.down pnum isPort isUp _ isKept _ wrote
    rw [mask] at same
    exact replaced same

end Calls

section Resets

variable {dev : Tsi57xDevice} {effect : WriteEffect Reg} {start : RegisterFile Reg}
  {scratchpad : LoggedFile Reg → Nat → BitVec 32} {inParms : PcResetPortIn} {impRc : Nat}
  {final : Attached Nat (LoggedFile Reg)} {pcs : List RioPcOnePortConfig}

/-- No port of a request is reset. -/
def ResetsNone (dev : Tsi57xDevice) (values : Reg → BitVec 32) (inParms : PcResetPortIn) : Prop :=
  ∀ pnum ∈ requestedPorts dev inParms.portNum, (configAt dev values pnum).portAvailable = true →
    (configAt dev values pnum).poweredUp = true → pnum ∈ skipAt dev values inParms.oobRegAcc true

theorem resetUpPort_writesEof {pnum : Nat} :
    Meets (fun _ => True)
      (resetUpPort dev (logged (registerFile effect)) scratchpad inParms pcs pnum :
        Call Nat (LoggedFile Reg) Nat)
      (fun _ state => WritesEof state.device.2) fun _ _ => True := by
  apply Meets.bind (Meets.anything _ _)
  intro saved
  apply Meets.bind (Meets.anything _ _)
  intro _
  apply Meets.bind (Meets.anything _ _)
  intro _
  have restored : Meets (fun _ => True)
      (orLeave (pcResetPort 9)
        (restoreRegsFromPowerup (logged (registerFile effect)) scratchpad pnum (saved.map (·.1))) :
        Call Nat (LoggedFile Reg) Unit)
      (fun _ state => WritesEof state.device.2) fun _ _ => True :=
    orLeave_meets (F := fun _ => True) restoreRegsFromPowerup_writesEof
  apply Meets.bind restored
  intro _
  have rest : Holds (fun state : LoggedFile Reg => WritesEof state.2) (fun _ => True)
      (restoreDep (logged (registerFile effect)) scratchpad saved : Call Nat _ Nat) :=
    restoreDep_holds logged_writesEof.holds fun _ _ _ => trivial
  exact rest

/-- Where a port is reset, the saved registers are written back. -/
theorem foldlM_resetTurn_writesEof {skip : List Nat} {turns : List RioPcOnePortConfig}
    {pc : RioPcOnePortConfig} (isMember : pc ∈ turns) (notSkipped : pc.pnum ∉ skip)
    (available : pc.portAvailable = true) (up : pc.poweredUp = true) (rc : Nat) :
    Meets (fun _ => True)
      (turns.foldlM (resetTurn dev (logged (registerFile effect)) scratchpad inParms skip pcs) rc :
        Call Nat (LoggedFile Reg) Nat)
      (fun _ state => WritesEof state.device.2) fun _ _ => True := by
  apply Meets.foldlM_of_mem (I := fun _ => True)
    (J := fun state : Attached Nat (LoggedFile Reg) => WritesEof state.device.2) isMember
  · exact fun _ _ _ => Meets.anything _ _
  · intro rc
    rw [resetTurn, if_neg (by simp [notSkipped, available, up])]
    exact resetUpPort_writesEof
  · intro rc other _
    apply Meets.ite
    · exact fun _ => Meets.pure fun _ writes => writes
    · intro _
      have keeps := (@logged_writesEof effect).holds
      apply resetUpPort_meets keeps.mayFail keeps.mayFail keeps
      · exact fun _ _ _ => trivial
      · exact fun _ _ => trivial
      · exact .inr fun _ _ => trivial
      · exact (powerCycle_preserves logged_writesEof fun _ _ => trivial).weakenFail fun _ _ _ =>
          trivial

theorem tsi57xRioPcResetPort_keepsRegs_iff
    (ran : (tsi57xRioPcResetPort dev (logged (registerFile effect)) scratchpad inParms).run
      ⟨impRc, (start, [])⟩ = .ok () final) :
    KeepsRegs dev (fun _ _ => 0) start.value final.device.1.value final.device.2 ↔
      ResetsNone dev start.value inParms := by
  have tells : (logged (registerFile effect)).Tells (Calm start.value) start.value True :=
    logged_tells
  constructor
  · intro keeps pnum isRequested available up
    by_contra notSkipped
    have meets : Meets (fun state => Calm start.value state.device)
        (tsi57xRioPcResetPort dev (logged (registerFile effect)) scratchpad inParms :
          Call Nat _ Unit)
        (fun _ state => WritesEof state.device.2) fun _ _ => True := by
      apply resetPort_meets (P := fun state : LoggedFile Reg => WritesEof state.2)
        (F := fun _ => True) tells (statusOf_reads tells _)
      · exact fun _ _ _ => trivial
      · exact fun _ _ => trivial
      · have isTurn := List.mem_map_of_mem (f := configAt dev start.value) isRequested
        apply (foldlM_resetTurn_writesEof isTurn _ available up 0).weakenPre fun _ _ => trivial
        rwa [configAt_pnum]
    exact keeps.not_writesEof ((meets Calm.start).1 ran)
  · intro none
    have meets : Meets (fun state => Calm start.value state.device)
        (tsi57xRioPcResetPort dev (logged (registerFile effect)) scratchpad inParms :
          Call Nat _ Unit)
        (fun _ state => Calm start.value state.device) fun _ _ => True := by
      apply resetPort_meets (P := Calm start.value) (F := fun _ => True) tells
        (statusOf_reads tells _)
      · exact fun _ _ _ => trivial
      · exact fun _ _ => trivial
      · apply @Holds.foldlM _ _ _ _ _ (Calm start.value) fun _ => True
        intro rc pc isMember
        obtain ⟨pnum, isRequested, rfl⟩ := List.mem_map.mp isMember
        rw [resetTurn, configAt_pnum, if_pos]
        · exact Holds.pure _
        · by_cases available : (configAt dev start.value pnum).portAvailable = true
          · by_cases up : (configAt dev start.value pnum).poweredUp = true
            · exact .inl (none pnum isRequested available up)
            · simp [up]
          · simp [available]
    have calm := (meets Calm.start).1 ran
    constructor
    · intro pnum _ _ _ entry _
      rw [calm.values]
    · exact fun _ _ _ _ _ value isWrite => absurd isWrite (calm.noWrites _ _)
    · exact fun _ value isWrite => absurd isWrite (calm.noWrites _ _)

end Resets

section Both

variable (dev : Tsi57xDevice) (effect : WriteEffect Reg)
  (scratchpad : LoggedFile Reg → Nat → BitVec 32) (uninit : Uninit) (start : RegisterFile Reg)
  (impRc : Nat)

/-- A call that succeeds preserves the registers exactly if it writes none back: a configuration if
no MAC that it sets has a port that is powered up then, and, on a Tsi577, if no control register is
replaced by that of a port that powers up; a reset if it resets no port. -/
theorem keepsRegs_iff (powersDown : PowersDown dev effect) :
    (∀ inParms sorted out final,
      (tsi57xRioPcSetConfig dev (logged (registerFile effect)) scratchpad uninit inParms).run
        ⟨impRc, (start, [])⟩ = .ok out final →
      sortParms dev uninit.config inParms = .ok sorted →
      (KeepsRegs dev (setFields inParms) start.value final.device.1.value final.device.2 ↔
        ∀ pnum < dev.numPorts,
          ¬Restores dev (changesAt dev start.value uninit inParms.oobRegAcc sorted) pnum ∧
            (dev = .tsi577 → KeepsCtl start.value
              (changesAt dev start.value uninit inParms.oobRegAcc sorted) pnum))) ∧
    ∀ inParms final,
      (tsi57xRioPcResetPort dev (logged (registerFile effect)) scratchpad inParms).run
        ⟨impRc, (start, [])⟩ = .ok () final →
      (KeepsRegs dev (fun _ _ => 0) start.value final.device.1.value final.device.2 ↔
        ResetsNone dev start.value inParms) := by
  constructor
  · intro inParms sorted out final ran valid
    constructor
    · intro keeps
      have notRestored : ∀ pnum < dev.numPorts,
          ¬Restores dev (changesAt dev start.value uninit inParms.oobRegAcc sorted) pnum :=
        fun pnum isPort restores =>
          tsi57xRioPcSetConfig_not_keepsRegs ran valid rfl isPort restores keeps
      exact fun pnum isPort => ⟨notRestored pnum isPort,
        fun _ => tsi57xRioPcSetConfig_keepsCtl ran valid rfl powersDown keeps notRestored isPort⟩
    · intro condition
      apply tsi57xRioPcSetConfig_keepsRegs ran valid rfl powersDown _ fun pnum isPort =>
        (condition pnum isPort).1
      intro pnum isPort
      by_cases is577 : dev = .tsi577
      · exact (condition pnum isPort).2 is577
      · exact keepsCtl_of_not_restores is577 isPort (condition pnum isPort).1
  · exact fun inParms final ran => tsi57xRioPcResetPort_keepsRegs_iff ran

end Both

/-- The registers of a port that loses its power hold `0xDEADBEEF`. -/
def loseRegs (dev : Tsi57xDevice) : WriteEffect Reg := fun reg value values other =>
  if other = reg then value
  else match other with
    | .port _ pnum => if TakesPower dev pnum reg value then 0xDEADBEEF else values other
    | _ => values other

theorem loseRegs_powersDown (dev : Tsi57xDevice) : PowersDown dev (loseRegs dev) where
  self _ _ _ := if_pos rfl
  others reg value values other different spares := by
    unfold loseRegs
    rw [if_neg different]
    split
    next preg pnum => exact if_neg (spares preg pnum rfl)
    next => rfl

/-- The registers of ports hold the value that control registers have when ports are powered up, all
others zero, and no access fails. -/
def upRegs : RegisterFile Reg where
  value
    | .port _ _ => spxCtlPowerup
    | _ => 0
  faults _ _ := 0

/-- Port 0 is to be reset with its configuration preserved, out of band. -/
def preservePort0 : PcResetPortIn := ⟨0, true, 0, false, true⟩

theorem preservePort0_ends :
    ∃ final, (tsi57xRioPcResetPort .tsi578 (logged (registerFile (loseRegs .tsi578))) (fun _ _ => 0)
      preservePort0).run ⟨0, (upRegs, [])⟩ = .ok () final := by
  have ends : endsWith (fun _ _ => true) ((tsi57xRioPcResetPort .tsi578
      (logged (registerFile (loseRegs .tsi578))) (fun _ _ => 0) preservePort0).run
        ⟨0, (upRegs, [])⟩) = true := by
    decide +kernel
  obtain ⟨_, final, ran, -⟩ := exists_of_endsWith ends
  exact ⟨final, ran⟩

/-- The end marker is written. -/
theorem preservePort0_not_keepsRegs :
    ∃ final, (tsi57xRioPcResetPort .tsi578 (logged (registerFile (loseRegs .tsi578))) (fun _ _ => 0)
        preservePort0).run ⟨0, (upRegs, [])⟩ = .ok () final ∧
      ¬KeepsRegs .tsi578 (fun _ _ => 0) upRegs.value final.device.1.value final.device.2 := by
  obtain ⟨final, ran⟩ := preservePort0_ends
  refine ⟨final, ran, fun keeps => ?_⟩
  have none := (tsi57xRioPcResetPort_keepsRegs_iff ran).mp keeps 0 (by decide) (by decide +kernel)
    (by decide +kernel)
  exact absurd none (by decide)

/-- The ports of MAC 0 are to be powered down, out of band. -/
def powerDownMac0 : PcSetConfigIn where
  lrto := 0
  oobRegAcc := true
  numPorts := 2
  pc pnum := { downConfig pnum with pw := .pw4x, ls := .ls1p25 }

theorem powerDownMac0_ends :
    ∃ out final, (tsi57xRioPcSetConfig .tsi578 (logged (registerFile (loseRegs .tsi578)))
        (fun _ _ => 0) ⟨downConfig, fun _ => false, fun _ => []⟩ powerDownMac0).run
          ⟨0, (upRegs, [])⟩ = .ok out final ∧
      final.device.1.value (.port .mode 0) = 0xDEADBEEF := by
  have ends : endsWith (fun _ final => final.device.1.value (.port .mode 0) = 0xDEADBEEF)
      ((tsi57xRioPcSetConfig .tsi578 (logged (registerFile (loseRegs .tsi578))) (fun _ _ => 0)
        ⟨downConfig, fun _ => false, fun _ => []⟩ powerDownMac0).run ⟨0, (upRegs, [])⟩) = true := by
    decide +kernel
  obtain ⟨out, final, ran, lost⟩ := exists_of_endsWith ends
  exact ⟨out, final, ran, of_decide_eq_true lost⟩

/-- The ports that are powered down lose their registers, and the others keep theirs; a reset of a
port does not keep to the registers of the scratchpad. -/
theorem keepsRegs_iff_loseRegs :
    (∃ out final, (tsi57xRioPcSetConfig .tsi578 (logged (registerFile (loseRegs .tsi578)))
        (fun _ _ => 0) ⟨downConfig, fun _ => false, fun _ => []⟩ powerDownMac0).run
          ⟨0, (upRegs, [])⟩ = .ok out final ∧
      final.device.1.value (.port .mode 0) = 0xDEADBEEF ∧
      KeepsRegs .tsi578 (setFields powerDownMac0) upRegs.value final.device.1.value
        final.device.2) ∧
    ∃ final, (tsi57xRioPcResetPort .tsi578 (logged (registerFile (loseRegs .tsi578))) (fun _ _ => 0)
        preservePort0).run ⟨0, (upRegs, [])⟩ = .ok () final ∧
      (KeepsRegs .tsi578 (fun _ _ => 0) upRegs.value final.device.1.value final.device.2 ↔
        ResetsNone .tsi578 upRegs.value preservePort0) := by
  obtain ⟨configures, resets⟩ := keepsRegs_iff .tsi578 (loseRegs .tsi578) (fun _ _ => 0)
    ⟨downConfig, fun _ => false, fun _ => []⟩ upRegs 0 (loseRegs_powersDown _)
  constructor
  · obtain ⟨out, final, ran, lost⟩ := powerDownMac0_ends
    have notRestored : ∀ pnum < 16, ¬Restores .tsi578 (changesAt .tsi578 upRegs.value
        ⟨downConfig, fun _ => false, fun _ => []⟩ true
          ((sortParms .tsi578 downConfig powerDownMac0).toOption.getD fun _ => none)) pnum := by
      decide +kernel
    refine ⟨out, final, ran, lost, ?_⟩
    exact (configures _ _ _ _ ran rfl).mpr fun pnum isPort => ⟨notRestored pnum isPort, nofun⟩
  · obtain ⟨final, ran⟩ := preservePort0_ends
    exact ⟨final, ran, resets _ _ ran⟩

end RioFabric.Tsi57xPort

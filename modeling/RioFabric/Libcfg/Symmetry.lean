import RioFabric.Libcfg.File

/-!
# Symmetry of the connections

`cfg_get_conn_dev` follows the pointer of a port to the last connection that names the port.
Asked for the other end it need not lead back: a later `CONNECT` statement may have given that
end to another port.
-/

namespace RioFabric.Libcfg

open Lib

namespace IntCfgParms

variable {cfg : IntCfgParms} {ct pt : Nat} {port : Port}

/-- Asked for the other end of a connection, `cfg_get_conn_dev` leads back to the device and
port that it was asked for first. -/
def Symmetric (cfg : IntCfgParms) : Prop :=
  ∀ ct pt dev connPt, cfg.cfgGetConnDev ct pt = some (dev, connPt) →
    ∃ asked, cfg.cfgFindDevByCt ct = some asked ∧
      cfg.cfgGetConnDev dev.ct connPt = some (asked, pt)

/-- The component tag of the device of a port. -/
def deviceCt (cfg : IntCfgParms) : Port → Nat
  | .ep idx _ => ((cfg.eps idx).ports 0).ct
  | .sw idx _ => (cfg.sws idx).ct

/-- Where a port can be asked for, the port that is found by the tag and number of the other
end of its connection is itself joined to a port of the same device with the same number. -/
def JoinsBack (cfg : IntCfgParms) : Prop :=
  ∀ ct pt port other, cfg.connPort ct pt = some port → cfg.Joined port other →
    ∃ there back, cfg.connPort (cfg.deviceCt other) other.number = some there ∧
      cfg.Joined there back ∧ cfg.fillInDev back = cfg.fillInDev port ∧ back.number = pt

/-- Ports that are named by a connection are found by the tag of their device. -/
def TagsIdentify (cfg : IntCfgParms) : Prop :=
  ∀ port ref, cfg.Names port ref → cfg.connPort (cfg.deviceCt port) port.number = some port

instance (cfg : IntCfgParms) : Decidable cfg.TagsIdentify :=
  decidable_of_iff (∀ conn : Fin 480, conn.val < cfg.connCnt → ∀ idx : Fin 2,
      ∀ port ∈ (cfg.cons conn).ends idx,
        cfg.connPort (cfg.deviceCt port) port.number = some port)
    ⟨fun holds port ref names => holds ref.1 names.1 ref.2 port names.2,
      fun tags conn counts idx port isEnd => tags port (conn, idx) ⟨counts, isEnd⟩⟩

/-- The last connection that names a port is also the last one that names the other end. -/
def LastForBoth (cfg : IntCfgParms) : Prop :=
  ∀ port ref other later, cfg.IsLast port ref →
    (cfg.cons ref.1).ends (otherEnd ref.2) = some other → cfg.Names other later → later.1 ≤ ref.1

theorem number_of_connPort (found : cfg.connPort ct pt = some port) :
    port.number = pt := by
  unfold connPort at found
  split at found
  · split at found
    · next isZero =>
        cases found
        exact isZero.symm
    · cases found
  · split at found
    · cases found
    · split at found
      · simp only at found
        split at found
        · cases found
          rfl
        · cases found
      · cases found

theorem cfgFindDevByCt_of_connPort (found : cfg.connPort ct pt = some port) :
    cfg.cfgFindDevByCt ct = cfg.fillInDev port := by
  unfold connPort at found
  unfold cfgFindDevByCt
  split at found
  · split at found
    · cases found
      rfl
    · cases found
  · split at found
    · cases found
    · next isSw =>
        rw [isSw]
        split at found
        · simp only at found
          split at found
          · cases found
            rfl
          · cases found
        · cases found

theorem fillInDev_of_ready (ready : cfg.Ready port) :
    ∃ dev, cfg.fillInDev port = some dev ∧ dev.ct = cfg.deviceCt port := by
  cases port with
  | sw idx port => exact ⟨_, rfl, rfl⟩
  | ep idx port =>
    have isFirst : port = 0 := Subsingleton.elim port 0
    subst isFirst
    refine ⟨_, if_pos ready, rfl⟩

theorem Names.other {other : Port} {ref : ConnRef} (names : cfg.Names port ref)
    (isOther : (cfg.cons ref.1).ends (otherEnd ref.2) = some other) :
    cfg.Names other (ref.1, otherEnd ref.2) :=
  ⟨names.1, isOther⟩

section

variable (linked : cfg.Linked)
include linked

theorem Linked.ready_of_names {ref : ConnRef} (names : cfg.Names port ref) :
    cfg.Ready port := by
  obtain ⟨named, isEnd, ready⟩ := linked.ends ref.1 names.1 ref.2
  rw [names.2] at isEnd
  cases isEnd
  exact ready

theorem Linked.ready_of_joined {other : Port}
    (joined : cfg.Joined port other) : cfg.Ready port ∧ cfg.Ready other := by
  obtain ⟨ref, isLast, isOther⟩ := joined
  exact ⟨linked.ready_of_names isLast.1, linked.ready_of_names (isLast.1.other isOther)⟩

theorem cfgGetConnDev_eq_some {dev : CfgDev} {connPt : Nat} :
    cfg.cfgGetConnDev ct pt = some (dev, connPt) ↔
      ∃ port other, cfg.connPort ct pt = some port ∧ cfg.Joined port other ∧
        cfg.fillInDev other = some dev ∧ other.number = connPt := by
  unfold cfgGetConnDev
  constructor
  · intro found
    split at found
    · cases found
    · next conn connEnd isLink =>
        obtain ⟨port, asked, points⟩ := Option.bind_eq_some_iff.mp isLink
        have isLast := (linked.link port _).mp points
        split at found
        · split at found
          · cases found
          · next other isOther =>
              obtain ⟨found, isDev, same⟩ := Option.map_eq_some_iff.mp found
              cases same
              exact ⟨port, other, asked, ⟨_, isLast, isOther⟩, isDev, rfl⟩
        · cases found
  · rintro ⟨port, other, asked, ⟨ref, isLast, isOther⟩, isDev, rfl⟩
    have points := (linked.link port ref).mpr isLast
    simp [asked, points, linked.valid ref.1 isLast.1.1, isOther, isDev]

theorem symmetric_iff_joinsBack : cfg.Symmetric ↔ cfg.JoinsBack := by
  constructor
  · intro symmetric ct pt port other asked joined
    obtain ⟨dev, isDev, hasTag⟩ := fillInDev_of_ready (linked.ready_of_joined joined).2
    obtain ⟨first, isFirst, leadsBack⟩ := symmetric ct pt dev other.number
      ((cfgGetConnDev_eq_some linked).mpr ⟨port, other, asked, joined, isDev, rfl⟩)
    rw [cfgFindDevByCt_of_connPort asked] at isFirst
    obtain ⟨there, back, found, joinedBack, isBack, number⟩ :=
      (cfgGetConnDev_eq_some linked).mp leadsBack
    exact ⟨there, back, hasTag ▸ found, joinedBack, isBack.trans isFirst.symm, number⟩
  · intro joinsBack ct pt dev connPt found
    obtain ⟨port, other, asked, joined, isDev, rfl⟩ := (cfgGetConnDev_eq_some linked).mp found
    obtain ⟨there, back, isThere, joinedBack, sameDev, number⟩ :=
      joinsBack ct pt port other asked joined
    obtain ⟨first, isFirst, -⟩ := fillInDev_of_ready (linked.ready_of_joined joined).1
    obtain ⟨same, isSame, hasTag⟩ := fillInDev_of_ready (linked.ready_of_joined joined).2
    cases isDev.symm.trans isSame
    refine ⟨first, (cfgFindDevByCt_of_connPort asked).trans isFirst, ?_⟩
    exact (cfgGetConnDev_eq_some linked).mpr
      ⟨there, back, hasTag ▸ isThere, joinedBack, sameDev.trans isFirst, number⟩

end

theorem lastForBoth_iff :
    cfg.LastForBoth ↔ ∀ port other, cfg.Joined port other → cfg.Joined other port := by
  constructor
  · rintro lastForBoth port other ⟨⟨conn, idx⟩, isLast, isOther⟩
    have noLater : ∀ later, cfg.Names other later → later.1 ≤ conn :=
      fun later => lastForBoth port _ other later isLast isOther
    obtain ⟨counts, isPort⟩ := isLast.1
    obtain rfl | rfl : idx = 0 ∨ idx = 1 := by omega
    · refine ⟨(conn, 1), ⟨⟨counts, isOther⟩, fun later named => ?_⟩, isPort⟩
      have notLater := noLater later named
      simp only [place]
      omega
    · by_cases same : other = port
      · subst same
        exact ⟨(conn, 1), isLast, isOther⟩
      · refine ⟨(conn, 0), ⟨⟨counts, isOther⟩, fun later named => ?_⟩, isPort⟩
        obtain ⟨laterConn, laterIdx⟩ := later
        have notLater : laterConn ≤ conn := noLater _ named
        obtain rfl | rfl : laterIdx = 0 ∨ laterIdx = 1 := by omega
        · simp only [place]
          omega
        · -- the second end of this connection is the other port
          have isOlder : laterConn ≠ conn := by
            rintro rfl
            exact same (Option.some.inj (named.2.symm.trans isPort))
          simp only [place]
          omega
  · rintro back port ref other later isLast isOther named
    obtain ⟨otherRef, otherLast, isBack⟩ := back port other ⟨ref, isLast, isOther⟩
    have first := isLast.2 _ (otherLast.1.other isBack)
    have second := otherLast.2 _ named
    simp only [place] at first second
    omega

theorem joinsBack_iff_of_tagsIdentify (linked : cfg.Linked) (tags : cfg.TagsIdentify) :
    cfg.JoinsBack ↔ ∀ port other, cfg.Joined port other → cfg.Joined other port := by
  have isNamed : ∀ {port other}, cfg.Joined port other →
      cfg.connPort (cfg.deviceCt port) port.number = some port ∧
        cfg.connPort (cfg.deviceCt other) other.number = some other := by
    rintro port other ⟨ref, isLast, isOther⟩
    exact ⟨tags port ref isLast.1, tags other _ (isLast.1.other isOther)⟩
  constructor
  · intro joinsBack port other joined
    obtain ⟨there, back, isThere, joinedBack, sameDev, number⟩ :=
      joinsBack _ _ port other (isNamed joined).1 joined
    obtain rfl : there = other := Option.some.inj (isThere.symm.trans (isNamed joined).2)
    obtain ⟨dev, isDev, hasTag⟩ := fillInDev_of_ready (linked.ready_of_joined joined).1
    obtain ⟨backDev, isBack, backTag⟩ := fillInDev_of_ready (linked.ready_of_joined joinedBack).2
    have sameTag : cfg.deviceCt back = cfg.deviceCt port := by
      rw [isBack, isDev] at sameDev
      rw [← backTag, ← hasTag, Option.some.inj sameDev]
    have isPort := (isNamed joinedBack).2
    rw [sameTag, number, (isNamed joined).1] at isPort
    obtain rfl : port = back := Option.some.inj isPort
    exact joinedBack
  · intro back ct pt port other asked joined
    exact ⟨other, port, (isNamed joined).2, back port other joined, rfl, number_of_connPort asked⟩

end IntCfgParms

/-- The parser accepts the text and leaves the configuration. -/
def Accepts (text : List Char) (start : CfgState) (cfg : IntCfgParms) : Prop :=
  ∃ fuel master, ((cfgParseFile text).run fuel start).ending = .done master ∧
    ((cfgParseFile text).run fuel start).state.cfg = cfg

theorem Accepts.linked {text : List Char} {start : CfgState} {cfg : IntCfgParms}
    (accepts : Accepts text start cfg) : cfg.Linked := by
  obtain ⟨fuel, master, accepted, rfl⟩ := accepts
  have satisfies := @cfgParseFile_meets text start fuel start rfl
  simp only [Outcome.Satisfies, accepted] at satisfies
  obtain ⟨-, -, sound, running⟩ := satisfies
  exact sound.linked running

/-- The connections of an accepted text are symmetric exactly if they join back, and where
component tags identify the devices exactly if the last `CONNECT` statement that names a port
is also the last one that names the port at its other end. -/
theorem symmetric_iff {text : List Char} {start : CfgState} {cfg : IntCfgParms}
    (accepts : Accepts text start cfg) :
    (cfg.Symmetric ↔ cfg.JoinsBack) ∧
      (cfg.TagsIdentify → (cfg.Symmetric ↔ cfg.LastForBoth)) := by
  have linked := accepts.linked
  have general := IntCfgParms.symmetric_iff_joinsBack linked
  refine ⟨general, fun tags => ?_⟩
  exact general.trans ((IntCfgParms.joinsBack_iff_of_tagsIdentify linked tags).trans
    IntCfgParms.lastForBoth_iff.symm)

/-- Three endpoints, of which the first is connected to the second and then to the third. -/
def threeEndpoints : List Char :=
  "ENDPOINT a PORT 0 00010001 1x 1x 5p0 IDLE1 EM_OFF END PEND
ENDPOINT b PORT 0 00020002 1x 1x 5p0 IDLE1 EM_OFF END PEND
ENDPOINT c PORT 0 00030003 1x 1x 5p0 IDLE1 EM_OFF END PEND
CONNECT a.0 b.0
CONNECT a.0 c.0
EOF".toList

set_option maxRecDepth 4000 in
theorem threeEndpoints_run :
    let outcome := (cfgParseFile threeEndpoints).run 20 .fresh
    outcome.ending.value.isSome = true ∧ outcome.state.cfg.TagsIdentify ∧
      (outcome.state.cfg.cfgGetConnDev 0x20002 0).map (fun found => (found.1.ct, found.2)) =
        some (0x10001, 0) ∧
      (outcome.state.cfg.cfgGetConnDev 0x10001 0).map (fun found => (found.1.ct, found.2)) =
        some (0x30003, 0) ∧
      (outcome.state.cfg.cfgFindDevByCt 0x20002).map (·.ct) = some 0x20002 := by
  -- the kernel takes long to get the characters out of a string
  have characters : threeEndpoints = _ := String.toList_ofList
  rw [characters]
  decide +kernel

theorem accepts_threeEndpoints :
    Accepts threeEndpoints .fresh ((cfgParseFile threeEndpoints).run 20 .fresh).state.cfg := by
  obtain ⟨master, accepted⟩ := Ending.eq_done threeEndpoints_run.1
  exact ⟨20, master, accepted, rfl⟩

theorem symmetric_iff_threeEndpoints :
    ∃ cfg, Accepts threeEndpoints .fresh cfg ∧ cfg.TagsIdentify ∧
      (cfg.Symmetric ↔ cfg.LastForBoth) :=
  ⟨_, accepts_threeEndpoints, threeEndpoints_run.2.1,
    (symmetric_iff accepts_threeEndpoints).2 threeEndpoints_run.2.1⟩

/-- The second endpoint is connected to the first, but the first is connected to the third. -/
theorem not_symmetric_threeEndpoints :
    ¬∀ cfg, Accepts threeEndpoints .fresh cfg → cfg.Symmetric := by
  intro symmetric
  obtain ⟨-, -, second, first, tag⟩ := threeEndpoints_run
  obtain ⟨⟨dev, connPt⟩, found, isFirst⟩ := Option.map_eq_some_iff.mp second
  obtain ⟨hasTag, rfl⟩ := Prod.mk.inj isFirst
  obtain ⟨asked, isAsked, back⟩ := symmetric _ accepts_threeEndpoints 0x20002 0 dev 0 found
  rw [show dev.ct = 0x10001 from hasTag] at back
  rw [back] at first
  rw [isAsked] at tag
  have isThird : asked.ct = 0x30003 := (Prod.mk.inj (Option.some.inj first)).1
  have isSecond : asked.ct = 0x20002 := Option.some.inj tag
  rw [isThird] at isSecond
  cases isSecond

end RioFabric.Libcfg

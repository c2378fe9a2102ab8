import RioFabric.Libcfg.Tokens

/-!
# What parsing leaves alone

Most functions of the parser only fill in one device: they touch neither the connections nor
the counts of devices, take their tokens one after another and use indices within bounds.
This is said once for each function, and holds of everything that is put together from them.
-/

namespace RioFabric.Libcfg

open Lib RouteTable

variable {α β : Type} {start state : CfgState} {array : CfgArray} {idx : Nat}
  {Post : β → CfgState → Prop} {Fail : CfgStop → CfgState → Prop}

namespace IntCfgParms

/-- A port that is defined, so that it can be connected. -/
def Ready (cfg : IntCfgParms) : Port → Prop
  | .ep idx port => ((cfg.eps idx).ports port).valid = true
  | .sw idx port => ((cfg.sws idx).ports port).valid = true

/-- The ports of a switch that are defined have their own numbers. -/
def Numbered (sw : IntCfgSw) : Prop :=
  ∀ port, (sw.ports port).valid = true → (sw.ports port).port = port.val

/-- No count exceeds the size of its array, nor does the size of device IDs that is used as
an index as long as there was no error; ports of switches are numbered. -/
structure Bounded (cfg : IntCfgParms) : Prop where
  epCnt : cfg.epCnt ≤ 70
  swCnt : cfg.swCnt ≤ 20
  maxMportInfoIdx : cfg.maxMportInfoIdx ≤ 4
  connCnt : cfg.connCnt ≤ 480
  mastDidSzIdx : cfg.initErr = false → cfg.mastDidSzIdx < 3
  numbered : ∀ idx, Numbered (cfg.sws idx)

/-- The connections are the same, and ports that are defined stay so. -/
structure KeepsLinks (before after : IntCfgParms) : Prop where
  connCnt : after.connCnt = before.connCnt
  cons : after.cons = before.cons
  link : after.link = before.link
  ready : ∀ port, before.Ready port → after.Ready port

/-- There are as many devices as before. -/
structure SameCounts (before after : IntCfgParms) : Prop where
  epCnt : after.epCnt = before.epCnt
  swCnt : after.swCnt = before.swCnt
  maxMportInfoIdx : after.maxMportInfoIdx = before.maxMportInfoIdx

theorem KeepsLinks.refl (cfg : IntCfgParms) : cfg.KeepsLinks cfg :=
  ⟨rfl, rfl, rfl, fun _ ready => ready⟩

variable {first second third : IntCfgParms}

theorem KeepsLinks.trans (head : first.KeepsLinks second) (tail : second.KeepsLinks third) :
    first.KeepsLinks third :=
  ⟨tail.connCnt.trans head.connCnt, tail.cons.trans head.cons, tail.link.trans head.link,
    fun port ready => tail.ready port (head.ready port ready)⟩

theorem SameCounts.refl (cfg : IntCfgParms) : cfg.SameCounts cfg := ⟨rfl, rfl, rfl⟩

theorem SameCounts.trans (head : first.SameCounts second) (tail : second.SameCounts third) :
    first.SameCounts third :=
  ⟨tail.epCnt.trans head.epCnt, tail.swCnt.trans head.swCnt,
    tail.maxMportInfoIdx.trans head.maxMportInfoIdx⟩

/-- A change that touches no connection, no count and no error flag. -/
structure Quiet (f : IntCfgParms → IntCfgParms) : Prop where
  links : ∀ cfg : IntCfgParms, cfg.KeepsLinks (f cfg)
  counts : ∀ cfg : IntCfgParms, cfg.SameCounts (f cfg)
  initErr : ∀ cfg, (f cfg).initErr = cfg.initErr
  mastDidSzIdx : ∀ cfg, cfg.mastDidSzIdx < 3 → (f cfg).mastDidSzIdx < 3
  numbered : ∀ cfg, (∀ idx, Numbered (cfg.sws idx)) → ∀ idx, Numbered ((f cfg).sws idx)

theorem Quiet.bounded {f : IntCfgParms → IntCfgParms} (quiet : Quiet f) {cfg : IntCfgParms}
    (bounded : cfg.Bounded) : (f cfg).Bounded where
  epCnt := (quiet.counts cfg).epCnt ▸ bounded.epCnt
  swCnt := (quiet.counts cfg).swCnt ▸ bounded.swCnt
  maxMportInfoIdx := (quiet.counts cfg).maxMportInfoIdx ▸ bounded.maxMportInfoIdx
  connCnt := (quiet.links cfg).connCnt ▸ bounded.connCnt
  mastDidSzIdx running :=
    quiet.mastDidSzIdx cfg (bounded.mastDidSzIdx (quiet.initErr cfg ▸ running))
  numbered := quiet.numbered cfg bounded.numbered

/-! ### Changes that are quiet -/

theorem quiet_setMport (idx : Fin 4) (f : IntMportInfo → IntMportInfo) :
    Quiet (·.setMport idx f) :=
  ⟨fun _ => ⟨rfl, rfl, rfl, fun _ ready => ready⟩, fun _ => ⟨rfl, rfl, rfl⟩, fun _ => rfl,
    fun _ small => small, fun _ numbered => numbered⟩

theorem ports_setEp (cfg : IntCfgParms) (idx other : Fin 70) (f : IntCfgEp → IntCfgEp) :
    ((cfg.setEp idx f).eps other).ports =
      if other = idx then (f (cfg.eps idx)).ports else (cfg.eps other).ports := by
  simp only [setEp, Function.update_apply]
  split <;> rfl

theorem ports_setSw (cfg : IntCfgParms) (idx other : Fin 20) (f : IntCfgSw → IntCfgSw) :
    ((cfg.setSw idx f).sws other).ports =
      if other = idx then (f (cfg.sws idx)).ports else (cfg.sws other).ports := by
  simp only [setSw, Function.update_apply]
  split <;> rfl

theorem quiet_setEp (idx : Fin 70) {f : IntCfgEp → IntCfgEp}
    (conn : ∀ ep port, ((f ep).ports port).conn = (ep.ports port).conn)
    (valid : ∀ ep port, (ep.ports port).valid = true → ((f ep).ports port).valid = true) :
    Quiet (·.setEp idx f) := by
  refine ⟨fun cfg => ⟨rfl, rfl, funext fun port => ?_, fun port isReady => ?_⟩,
    fun _ => ⟨rfl, rfl, rfl⟩, fun _ => rfl, fun _ small => small, fun _ numbered => numbered⟩
  · cases port with
    | sw idx port => rfl
    | ep other port =>
      simp only [link, ports_setEp]
      split
      · next same => rw [same, conn]
      · rfl
  · cases port with
    | sw idx port => exact isReady
    | ep other port =>
      simp only [Ready, ports_setEp] at isReady ⊢
      split
      · next same => exact valid _ _ (same ▸ isReady)
      · exact isReady

theorem quiet_setEpPort (idx : Fin 70) (port : Fin 1) {f : IntCfgEpPort → IntCfgEpPort}
    (conn : ∀ prt, (f prt).conn = prt.conn)
    (valid : ∀ prt, prt.valid = true → (f prt).valid = true) :
    Quiet (·.setEpPort idx port f) := by
  refine quiet_setEp idx (fun ep other => ?_) fun ep other isValid => ?_
  · simp only [Function.update_apply]
    split
    · next same => rw [same, conn]
    · rfl
  · simp only [Function.update_apply]
    split
    · next same => exact valid _ (same ▸ isValid)
    · exact isValid

theorem quiet_setSw (idx : Fin 20) {f : IntCfgSw → IntCfgSw}
    (conn : ∀ sw port, ((f sw).ports port).conn = (sw.ports port).conn)
    (valid : ∀ sw port, (sw.ports port).valid = true → ((f sw).ports port).valid = true)
    (numbered : ∀ sw, Numbered sw → Numbered (f sw)) : Quiet (·.setSw idx f) := by
  refine ⟨fun cfg => ⟨rfl, rfl, funext fun port => ?_, fun port isReady => ?_⟩,
    fun _ => ⟨rfl, rfl, rfl⟩, fun _ => rfl, fun _ small => small, fun cfg before other => ?_⟩
  · cases port with
    | ep idx port => rfl
    | sw other port =>
      simp only [link, ports_setSw]
      split
      · next same => rw [same, conn]
      · rfl
  · cases port with
    | ep idx port => exact isReady
    | sw other port =>
      simp only [Ready, ports_setSw] at isReady ⊢
      split
      · next same => exact valid _ _ (same ▸ isReady)
      · exact isReady
  · simp only [Numbered, ports_setSw]
    split
    · exact numbered _ (before idx)
    · exact before other

theorem quiet_setSwPort (idx : Fin 20) (port : Fin 24) {f : IntCfgSwPort → IntCfgSwPort}
    (conn : ∀ prt, (f prt).conn = prt.conn)
    (valid : ∀ prt, prt.valid = true → (f prt).valid = true)
    (number : ∀ prt, (prt.valid = true → prt.port = port.val) → (f prt).valid = true →
      (f prt).port = port.val) : Quiet (·.setSwPort idx port f) := by
  refine quiet_setSw idx (fun sw other => ?_) (fun sw other isValid => ?_) fun sw before other => ?_
  · simp only [Function.update_apply]
    split
    · next same => rw [same, conn]
    · rfl
  · simp only [Function.update_apply]
    split
    · next same => exact valid _ (same ▸ isValid)
    · exact isValid
  · simp only [Function.update_apply]
    split
    · next same =>
        subst same
        exact number _ (before other)
    · exact before other

theorem quiet_setRt (i : Fin 20) (ref : RtRef) (f : RioRtState → RioRtState) :
    Quiet (·.setRt i ref f) := by
  cases ref with
  | global size =>
    exact quiet_setSw i
      (f := fun sw => { sw with rt := Function.update sw.rt size (f (sw.rt size)) })
      (fun _ _ => rfl) (fun _ _ isValid => isValid) fun _ numbered => numbered
  | port port size =>
    exact quiet_setSwPort i port
      (f := fun prt => { prt with rt := Function.update prt.rt size (f (prt.rt size)) })
      (fun _ => rfl) (fun _ isValid => isValid) fun _ numbered => numbered

theorem quiet_setMcMask (i : Fin 20) (ref : RtRef) (idx : Fin 256)
    (f : RioRtMcInfo → RioRtMcInfo) : Quiet (·.setMcMask i ref idx f) :=
  quiet_setRt i ref _

theorem quiet_usePortTable (i : Fin 20) (port : Fin 24) (size : Fin 3) :
    Quiet (usePortTable i port size) := by
  -- what is copied depends on the switch, but the copy touches one port
  have copied : ∀ cfg : IntCfgParms, Quiet (·.setSwPort i port fun prt =>
      { prt with
        rtValid := Function.update prt.rtValid size true
        rt := if (cfg.sws i).rtValid size then Function.update prt.rt size ((cfg.sws i).rt size)
          else prt.rt }) :=
    fun cfg => quiet_setSwPort i port (fun _ => rfl) (fun _ isValid => isValid)
      fun _ numbered => numbered
  exact ⟨fun cfg => (copied cfg).links cfg, fun cfg => (copied cfg).counts cfg,
    fun cfg => (copied cfg).initErr cfg, fun cfg => (copied cfg).mastDidSzIdx cfg,
    fun cfg => (copied cfg).numbered cfg⟩

end IntCfgParms

/-- What holds after a function of the parser however it ended. -/
structure Settled (start state : CfgState) : Prop where
  links : start.cfg.KeepsLinks state.cfg
  bounded : state.cfg.Bounded
  remaining : state.src.remaining ≤ start.src.remaining
  flagged : state.exceeded = true → state.cfg.initErr = true

/-- What holds while a device is parsed without an error. -/
structure Calm (start state : CfgState) : Prop extends Settled start state where
  counts : start.cfg.SameCounts state.cfg
  running : state.cfg.initErr = false

theorem Settled.trans {first second third : CfgState} (head : Settled first second)
    (tail : Settled second third) : Settled first third :=
  ⟨head.links.trans tail.links, tail.bounded, tail.remaining.trans head.remaining, tail.flagged⟩

theorem Settled.calm (settled : Settled start state) (running : state.cfg.initErr = false) :
    Calm state state :=
  ⟨⟨.refl _, settled.bounded, Nat.le_refl _, settled.flagged⟩, .refl _, running⟩

theorem Calm.setCfg {f : IntCfgParms → IntCfgParms} (calm : Calm start state)
    (quiet : IntCfgParms.Quiet f) : Calm start { state with cfg := f state.cfg } where
  links := calm.links.trans (quiet.links _)
  bounded := quiet.bounded calm.bounded
  remaining := calm.remaining
  flagged exceeded := (quiet.initErr _).trans (calm.flagged exceeded)
  counts := calm.counts.trans (quiet.counts _)
  running := (quiet.initErr _).trans calm.running

theorem Calm.setSource {src : Source} (calm : Calm start state)
    (fewer : src.remaining ≤ state.src.remaining) : Calm start { state with src := src } where
  links := calm.links
  bounded := calm.bounded
  remaining := fewer.trans calm.remaining
  flagged := calm.flagged
  counts := calm.counts
  running := calm.running

theorem Settled.parseErr (settled : Settled start state) (exceeded : Bool) :
    Settled start ⟨{ state.cfg with initErr := true }, state.src, exceeded, state.tags⟩ where
  links := settled.links.trans ⟨rfl, rfl, rfl, fun _ ready => ready⟩
  bounded := ⟨settled.bounded.epCnt, settled.bounded.swCnt, settled.bounded.maxMportInfoIdx,
    settled.bounded.connCnt, nofun, settled.bounded.numbered⟩
  remaining := settled.remaining
  flagged _ := rfl

theorem access_run_of_lt (inBounds : idx < array.size) (fuel : Nat) (state : CfgState) :
    (access array idx).run fuel state =
      ⟨.done ⟨idx, inBounds⟩, state, [.access array idx]⟩ := by
  simp only [access, Bind.bind, Prog.run, Outcome.andThen, dif_pos inBounds]
  rfl

theorem access_run_of_not_lt (outside : ¬idx < array.size) (fuel : Nat) (state : CfgState) :
    (access array idx).run fuel state = ⟨.stopped .outOfBounds, state, [.access array idx]⟩ := by
  simp only [access, Bind.bind, Prog.run, Outcome.andThen, dif_neg outside]
  rfl

/-- There was an error, and the error flag says so. -/
def Flagged (start state : CfgState) : Prop := Settled start state ∧ state.cfg.initErr = true

theorem Calm.flag (calm : Calm start state) (exceeded : Bool) :
    Flagged start ⟨{ state.cfg with initErr := true }, state.src, exceeded, state.tags⟩ :=
  ⟨calm.toSettled.parseErr exceeded, rfl⟩

/-! ### Programs that are not left early -/

/-- The program goes through, and leaves counts and connections alone. -/
abbrev Smooth (start : CfgState) (program : CfgProg α) : Prop :=
  Prog.Meets cfgSpec (Calm start) program (fun _ => Calm start) fun _ _ => False

namespace Smooth

variable {start : CfgState} {program : CfgProg α}

theorem meets {Fail : CfgStop → CfgState → Prop} (smooth : Smooth start program) :
    Prog.Meets cfgSpec (Calm start) program (fun _ => Calm start) Fail :=
  smooth.weaken (fun _ calm => calm) (fun _ _ calm => calm) fun _ _ => False.elim

theorem pure (value : α) : Smooth start (Pure.pure value : CfgProg α) :=
  Prog.Meets.pure fun _ calm => calm

theorem bind {next : α → CfgProg β} (head : Smooth start program)
    (tail : ∀ value, Smooth start (next value)) : Smooth start (program >>= next) :=
  Prog.Meets.bind head tail

theorem access {array : CfgArray} {idx : Nat} (inBounds : idx < array.size) :
    Smooth start (access array idx) := by
  intro fuel state calm
  rw [access_run_of_lt inBounds]
  exact ⟨cfgSpec_always_of trivial inBounds, cfgSpec_atEnd_of trivial, calm⟩

end Smooth

theorem access_meets (inBounds : idx < array.size) {next : Fin array.size → CfgProg β}
    (tail : Prog.Meets cfgSpec (Calm start) (next ⟨idx, inBounds⟩) Post Fail) :
    Prog.Meets cfgSpec (Calm start) (access array idx >>= next) Post Fail := by
  refine Prog.Meets.bind (?_ : Prog.Meets _ _ _
    (fun value state => Calm start state ∧ value = ⟨idx, inBounds⟩) _) fun value => ?_
  · intro fuel state calm
    rw [access_run_of_lt inBounds]
    exact ⟨cfgSpec_always_of trivial inBounds, cfgSpec_atEnd_of trivial, calm, rfl⟩
  · exact Prog.Meets.assume fun same => same ▸ tail

theorem getCfg_meets {next : IntCfgParms → CfgProg β}
    (tail : ∀ cfg : IntCfgParms, cfg.Bounded → start.cfg.SameCounts cfg → cfg.initErr = false →
      Prog.Meets cfgSpec (Calm start) (next cfg) Post Fail) :
    Prog.Meets cfgSpec (Calm start) (getCfg >>= next) Post Fail := by
  refine Prog.Meets.readBind fun cfg => ?_
  rintro fuel state ⟨calm, rfl⟩
  exact tail state.cfg calm.bounded calm.counts calm.running calm

/-! ### Checks that set the error flag -/

namespace Flagged

variable {start : CfgState} {Post : α → CfgState → Prop}

theorem parseFail :
    Prog.Meets cfgSpec (Calm start) (parseFail : CfgProg α) Post fun _ => Flagged start :=
  Prog.Meets.bind (Prog.Meets.change fun _ calm => calm.flag _) fun _ =>
    Prog.Meets.stop fun _ flagged => flagged

theorem exceedFail :
    Prog.Meets cfgSpec (Calm start) (exceedFail : CfgProg α) Post fun _ => Flagged start :=
  fun _ _ calm => ⟨cfgSpec.always_nil, cfgSpec.atEnd_nil, calm.flag true⟩

end Flagged

section Checks

variable {start : CfgState} {Post : β → CfgState → Prop} {Fail : CfgStop → CfgState → Prop}

theorem exceedIf_meets {condition : Prop} [Decidable condition] {next : Unit → CfgProg β}
    (flags : ∀ code state, Flagged start state → Fail code state)
    (tail : ¬condition → Prog.Meets cfgSpec (Calm start) (next ()) Post Fail) :
    Prog.Meets cfgSpec (Calm start) (exceedIf condition >>= next) Post Fail := by
  refine Prog.Meets.bind (?_ : Prog.Meets _ _ _
    (fun _ state => Calm start state ∧ ¬condition) _) fun _ => Prog.Meets.assume tail
  refine Prog.Meets.ite (fun _ => ?_) fun passes => Prog.Meets.pure fun _ calm => ⟨calm, passes⟩
  exact Flagged.exceedFail.weaken (fun _ calm => calm) (fun _ _ after => after) flags

theorem orElseExceed_meets {result : Option α} {next : α → CfgProg β}
    (flags : ∀ code state, Flagged start state → Fail code state)
    (tail : ∀ value, result = some value →
      Prog.Meets cfgSpec (Calm start) (next value) Post Fail) :
    Prog.Meets cfgSpec (Calm start) (orElseExceed result >>= next) Post Fail := by
  refine Prog.Meets.bind (?_ : Prog.Meets _ _ _
    (fun value state => Calm start state ∧ result = some value) _) fun value =>
      Prog.Meets.assume (tail value)
  cases result with
  | some value => exact Prog.Meets.pure fun _ calm => ⟨calm, rfl⟩
  | none => exact Flagged.exceedFail.weaken (fun _ calm => calm) (fun _ _ after => after) flags

end Checks

/-! ### Programs that fill in a device -/

/-- The program fills in a device: it leaves counts and connections alone. -/
abbrev Harmless (start : CfgState) (program : CfgProg α) : Prop :=
  Prog.Meets cfgSpec (Calm start) program (fun _ => Calm start) fun _ => Settled start

namespace Harmless

variable {start : CfgState} {program : CfgProg α} {condition : Prop} {next : Unit → CfgProg β}
  {array : CfgArray}

theorem pure (value : α) : Harmless start (Pure.pure value : CfgProg α) :=
  Prog.Meets.pure fun _ calm => calm

theorem bind {next : α → CfgProg β} (head : Harmless start program)
    (tail : ∀ value, Harmless start (next value)) : Harmless start (program >>= next) :=
  Prog.Meets.bind head tail

theorem ite [Decidable condition] {other : CfgProg α} (yes : condition → Harmless start program)
    (no : ¬condition → Harmless start other) :
    Harmless start (if condition then program else other) :=
  Prog.Meets.ite yes no

section Fail

variable {Post : α → CfgState → Prop}

theorem fail : Prog.Meets cfgSpec (Calm start) (fail : CfgProg α) Post fun _ => Settled start :=
  Prog.Meets.stop fun _ calm => calm.toSettled

theorem parseFail :
    Prog.Meets cfgSpec (Calm start) (parseFail : CfgProg α) Post fun _ => Settled start :=
  Flagged.parseFail.weaken (fun _ calm => calm) (fun _ _ after => after)
    fun _ _ flagged => flagged.1

theorem exceedFail :
    Prog.Meets cfgSpec (Calm start) (exceedFail : CfgProg α) Post fun _ => Settled start :=
  Flagged.exceedFail.weaken (fun _ calm => calm) (fun _ _ after => after) fun _ _ flagged =>
    flagged.1

end Fail

theorem failIf_bind [Decidable condition] (tail : ¬condition → Harmless start (next ())) :
    Harmless start (failIf condition >>= next) :=
  Prog.Meets.bind (Prog.Meets.ite (fun _ => fail) fun passes =>
    Prog.Meets.pure fun _ calm => And.intro calm passes) fun _ => Prog.Meets.assume tail

theorem exceedIf_bind [Decidable condition] (tail : ¬condition → Harmless start (next ())) :
    Harmless start (exceedIf condition >>= next) :=
  exceedIf_meets (fun _ _ flagged => flagged.1) tail

theorem orElseExceed_bind {result : Option α} {next : α → CfgProg β}
    (tail : ∀ value, result = some value → Harmless start (next value)) :
    Harmless start (orElseExceed result >>= next) :=
  orElseExceed_meets (fun _ _ flagged => flagged.1) tail

theorem getCfg_bind {next : IntCfgParms → CfgProg β}
    (tail : ∀ cfg : IntCfgParms, cfg.Bounded → start.cfg.SameCounts cfg → cfg.initErr = false →
      Harmless start (next cfg)) : Harmless start (getCfg >>= next) :=
  getCfg_meets tail

theorem exceedIf [Decidable condition] :
    Harmless start (exceedIf condition) :=
  ite (fun _ => exceedFail) fun _ => pure ()

theorem orElseFail (result : Option α) : Harmless start (orElseFail result) := by
  cases result with
  | none => exact fail
  | some value => exact pure value

theorem setCfg {f : IntCfgParms → IntCfgParms} (quiet : IntCfgParms.Quiet f) :
    Harmless start (setCfg f) :=
  Prog.Meets.change fun _ calm => calm.setCfg quiet

theorem access {idx : Nat} (inBounds : idx < array.size) :
    Harmless start (access array idx) :=
  (Smooth.access inBounds).meets

theorem failLabel (body : Harmless start program) : Harmless start (failLabel program) := by
  refine Prog.Meets.handle body fun code => ?_
  cases code with
  | failed =>
    exact Prog.Meets.bind (Prog.Meets.change fun _ settled => settled.parseErr _) fun _ =>
      Prog.Meets.stop fun _ settled => settled
  | outOfBounds => exact Prog.Meets.stop fun _ settled => settled

theorem forM {ι : Type} {body : ι → CfgProg PUnit} {cells : List ι}
    (turn : ∀ idx ∈ cells, Harmless start (body idx)) : Harmless start (cells.forM body) :=
  Prog.Meets.forM turn

theorem loop {body : β → CfgProg (β ⊕ α)} (turn : ∀ carried, Harmless start (body carried))
    (carried : β) : Harmless start (Prog.loop body carried) :=
  Prog.Meets.loop (I := fun _ => Calm start) (fun carried => (turn carried).weakenPost
    fun result _ calm => by cases result <;> exact calm) carried

theorem emit_access {event : CfgEvent} {idx : Nat} (allowed : event.Allowed ↔ idx < array.size)
    (noAccess : event.InBounds) (guarded : event.Guarded) :
    Harmless start (Prog.emit event >>= fun _ => Libcfg.access array idx) := by
  intro fuel state calm
  have always : cfgSpec.always [event, .access array idx] := by
    have noPort : (CfgEvent.access array idx).Allowed := trivial
    have isAccess : (CfgEvent.access array idx).InBounds ↔ idx < array.size := Iff.rfl
    simp only [cfgSpec, List.forall_mem_cons, allowed, noAccess, noPort, isAccess]
    simp
  have atEnd : cfgSpec.atEnd [event, .access array idx] := by
    have noEnd : (CfgEvent.access array idx).Guarded := trivial
    simp [cfgSpec, guarded, noEnd]
  have run_eq : (Prog.emit event >>= fun _ => Libcfg.access array idx).run fuel state =
      ⟨((Libcfg.access array idx).run fuel state).ending,
        ((Libcfg.access array idx).run fuel state).state,
        event :: ((Libcfg.access array idx).run fuel state).trace⟩ := rfl
  rw [run_eq]
  by_cases inBounds : idx < array.size
  · rw [access_run_of_lt inBounds]
    exact ⟨always, atEnd, calm⟩
  · rw [access_run_of_not_lt inBounds]
    exact ⟨always, atEnd, calm.toSettled⟩

theorem accessSwPort (port : Nat) : Harmless start (accessSwPort port) :=
  emit_access Iff.rfl trivial trivial

theorem accessEpPort (port : Nat) : Harmless start (accessEpPort port) :=
  emit_access Iff.rfl trivial trivial

end Harmless

end RioFabric.Libcfg

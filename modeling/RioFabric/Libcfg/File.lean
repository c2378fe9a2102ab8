import RioFabric.Libcfg.Connections

/-!
# The whole file

`fmd_parse_cfg` reads statement after statement.  What each statement keeps, the loop keeps; a
run that ends has not taken up `AUTO` or `AUTO16` as the last word of the file.
-/

namespace RioFabric.Libcfg

open Lib

variable {start : CfgState}

theorem parseStatement_sound (linked : start.cfg.Linked) (tok : Token) (idx : Nat) :
    Prog.Meets cfgSpec (Calm start) (parseStatement tok idx) (fun _ => Sound start)
      fun _ => Sound start := by
  by_cases isConnect : idx = 7
  · subst isConnect
    exact ignoreFail_meets (parseConnect_sound linked)
  · exact (parseStatement_settles tok isConnect).weaken (fun _ calm => calm)
      (fun _ _ settled => settled.sound linked) fun _ _ settled => settled.sound linked

theorem Sound.calm {state : CfgState} (sound : Sound start state)
    (running : state.cfg.initErr = false) : Calm state state :=
  ⟨⟨.refl _, sound.bounded, Nat.le_refl _, sound.flagged⟩, .refl _, running⟩

theorem Sound.trans {first second third : CfgState} (head : Sound first second)
    (tail : Sound second third) : Sound first third :=
  ⟨tail.bounded, tail.remaining.trans head.remaining, tail.flagged, tail.linked⟩

/-- The variable `tok` of `fmd_parse_cfg` between two statements. -/
def StatementLoop (start : CfgState) (tok : Option Token) (state : CfgState) : Prop :=
  Sound start state ∧ ∀ word, tok = some word → isComment word = false

/-- The keyword of the next statement is no comment. -/
theorem nextStatement_meets :
    Prog.Meets cfgSpec (Sound start) tryGetNextToken (StatementLoop start)
      fun _ => Sound start := by
  refine Prog.Meets.startingAt fun state sound => ?_
  cases flag : state.cfg.initErr with
  | true =>
    refine (tryGetNextToken_of_initErr flag).weaken (fun _ same => same) ?_ fun _ _ => False.elim
    rintro _ _ ⟨rfl, rfl⟩
    exact ⟨sound, nofun⟩
  | false =>
    refine (tryGetNextToken_takes flag).weaken (fun _ same => same) ?_ fun _ _ => False.elim
    rintro _ _ ⟨tok, rfl, noComment, src, rfl, fewer, -⟩
    refine ⟨⟨sound.bounded, fewer.trans sound.remaining, sound.flagged, sound.linked⟩, ?_⟩
    rintro _ ⟨⟩
    exact noComment

/-- The loop of `fmd_parse_cfg` is about to take up `AUTO` or `AUTO16` for ever. -/
def StatementEndless (tok : Option Token) (state : CfgState) : Prop :=
  ∃ last, tok = some last ∧ (parmIdx last statements = 8 ∨ parmIdx last statements = 9) ∧
    state.src.AtEnd last ∧ state.cfg.initErr = false

theorem noComment_of_auto {tok : Token}
    (isAuto : parmIdx tok statements = 8 ∨ parmIdx tok statements = 9) : isComment tok = false := by
  obtain isAuto | isAuto := isAuto
  · rw [eq_of_parmIdx isAuto (by decide)]
    decide
  · rw [eq_of_parmIdx isAuto (by decide)]
    decide

theorem parseStatement_auto {spec : TraceSpec CfgEvent} {Fail : CfgStop → CfgState → Prop}
    {tok : Token} {idx : Nat} (isAuto : idx = 8 ∨ idx = 9) :
    Prog.Meets spec (fun state => state = start) (parseStatement tok idx)
      (fun _ state => state.src = start.src ∧ state.cfg.initErr = start.cfg.initErr) Fail := by
  obtain rfl | rfl := isAuto
  · exact Prog.Meets.change fun _ same => same ▸ ⟨rfl, rfl⟩
  · exact Prog.Meets.change fun _ same => same ▸ ⟨rfl, rfl⟩

theorem statementTurn_endless (tok : Option Token) :
    Prog.Meets cfgSpec.lax (StatementEndless tok) (statementTurn tok)
      (Sum.elim StatementEndless fun _ _ => False) fun _ _ => False := by
  refine Prog.Meets.startingAt ?_
  rintro start ⟨last, rfl, isAuto, atEnd, running⟩
  refine Prog.Meets.readBind fun state => ?_
  refine Prog.Meets.startingAt ?_
  rintro start ⟨rfl, rfl⟩
  rw [if_neg (by simp [running])]
  refine Prog.Meets.bind (?_ : Prog.Meets _ _ _ (fun _ state => state = start) _) fun _ => ?_
  · exact Prog.Meets.emit (cfgSpec_always_of trivial trivial) trivial fun _ same => same
  refine Prog.Meets.ite (fun _ => ?_) fun large => absurd isAuto (by omega)
  refine Prog.Meets.bind (parseStatement_auto isAuto) fun _ => ?_
  refine Prog.Meets.startingAt ?_
  rintro state ⟨sameSource, sameFlag⟩
  refine Prog.Meets.bind ((tryGetNextToken_atEnd permitsGetline_lax (sameFlag.trans running)
    (noComment_of_auto isAuto)).weakenPre fun _ same => ⟨state.src, same, sameSource ▸ atEnd⟩)
    fun next => Prog.Meets.pure ?_
  rintro _ ⟨rfl, src, rfl, atEnd⟩
  exact ⟨last, rfl, isAuto, atEnd, sameFlag.trans running⟩

/-- One statement is parsed, or the parser stops there. -/
theorem statementTurn_meets (tok : Option Token) :
    Prog.Meets cfgSpec
      (fun state => StatementLoop start tok state ∧ ¬StatementEndless tok state)
      (statementTurn tok) (Sum.elim (StatementLoop start) fun _ => Sound start)
      fun _ => Sound start := by
  cases tok with
  | none => exact Prog.Meets.pure fun _ before => before.1.1
  | some tok =>
    refine Prog.Meets.readBind fun state => ?_
    refine Prog.Meets.startingAt ?_
    rintro state ⟨⟨⟨sound, -⟩, good⟩, rfl⟩
    refine Prog.Meets.ite (fun _ => Prog.Meets.pure fun _ same => same ▸ sound) fun flag => ?_
    have running : state.cfg.initErr = false := by simpa using flag
    refine Prog.Meets.bind (?_ : Prog.Meets _ _ _ (fun _ => Calm state) _) fun _ => ?_
    · refine Prog.Meets.emit (cfgSpec_always_of trivial trivial)
        (cfgSpec_atEnd_of fun atEnd isAuto => good ⟨tok, rfl, isAuto, atEnd, running⟩)
        fun _ same => same ▸ sound.calm running
    have after : ∀ other, Sound state other → Sound start other := fun _ => sound.trans
    refine Prog.Meets.ite (fun _ => ?_) fun _ => Prog.Meets.ite (fun _ => ?_) fun _ => ?_
    · refine Prog.Meets.bind ((parseStatement_sound (sound.linked running) tok _).weaken
        (fun _ calm => calm) (fun _ => after) fun _ => after) fun _ => ?_
      exact Prog.Meets.bind nextStatement_meets fun next => Prog.Meets.pure fun _ before => before
    · exact Prog.Meets.pure fun _ calm =>
        after _ (calm.toSettled.sound (sound.linked running))
    · refine Prog.Meets.bind (?_ : Prog.Meets _ _ _ (fun _ => Flagged state) _) fun _ => ?_
      · exact Prog.Meets.change fun _ calm => calm.flag _
      · exact Prog.Meets.pure fun _ flagged => after _ (flagged.1.sound (sound.linked running))

/-- The loop over the statements keeps the configuration sound. -/
theorem statementLoop_meets (tok : Option Token) :
    Prog.Meets cfgSpec (StatementLoop start tok) (Prog.loop statementTurn tok)
      (fun _ => Sound start) fun _ => Sound start :=
  Prog.Meets.loop_unless statementTurn_meets statementTurn_endless tok

/-- The state of a process that has parsed nothing yet. -/
def CfgState.fresh : CfgState := ⟨initCfgPtr, .opened [], false, .zeroed⟩

/-- The state in which `cfg_parse_file` starts to parse. -/
def opened (text : List Char) (state : CfgState) : CfgState :=
  ⟨initCfgPtr, .opened text, false, state.tags⟩

theorem sound_opened (text : List Char) (state : CfgState) :
    Sound (opened text state) (opened text state) where
  bounded := by
    refine ⟨Nat.zero_le _, Nat.zero_le _, Nat.zero_le _, Nat.zero_le _, fun _ => ?_, ?_⟩
    · exact Nat.zero_lt_succ 2
    · exact fun _ _ never => by cases never
  remaining := Nat.le_refl _
  flagged := nofun
  linked _ := IntCfgParms.linked_initCfgPtr

theorem fmdParseCfg_meets :
    Prog.Meets cfgSpec (Sound start) fmdParseCfg
      (fun initErr state => Sound start state ∧ state.cfg.initErr = initErr)
      fun _ => Sound start := by
  refine Prog.Meets.bind nextStatement_meets fun tok => ?_
  refine Prog.Meets.bind (statementLoop_meets tok) fun _ => ?_
  refine Prog.Meets.bind (?_ : Prog.Meets _ _ _ (fun _ => Sound start) _) fun _ => ?_
  · exact fun _ _ sound => ⟨cfgSpec.always_nil, cfgSpec.atEnd_nil, sound.bounded, sound.remaining,
      sound.flagged, sound.linked⟩
  · exact Prog.Meets.readBind fun cfg => Prog.Meets.pure fun _ ⟨sound, same⟩ =>
      ⟨sound, congrArg _ same⟩

/-- Any text leaves the configuration sound, and without error if parsing succeeds. -/
theorem cfgParseFile_meets (text : List Char) (start : CfgState) :
    Prog.Meets cfgSpec (fun state => state = start) (cfgParseFile text)
      (fun _ state => Sound (opened text start) state ∧ state.cfg.initErr = false)
      fun _ => Sound (opened text start) := by
  refine Prog.Meets.bind (?_ : Prog.Meets _ _ _ (fun _ => Sound (opened text start)) _) fun _ => ?_
  · exact Prog.Meets.change fun _ same => same ▸ sound_opened text start
  refine Prog.Meets.bind fmdParseCfg_meets fun initErr => ?_
  refine Prog.Meets.bind (?_ : Prog.Meets _ _ _
    (fun _ state => Sound (opened text start) state ∧ state.cfg.initErr = false) _) fun _ => ?_
  · refine Prog.Meets.ite (fun _ => Prog.Meets.stop fun _ before => before.1) fun accepted => ?_
    exact Prog.Meets.pure fun _ before => ⟨before.1, before.2.trans (by simpa using accepted)⟩
  · rintro fuel state ⟨sound, running⟩
    simp only [useCfg, Prog.run, EStateM.run]
    split
    · next found =>
        split at found
        · cases found
        · cases found
          exact ⟨cfgSpec.always_nil, cfgSpec.atEnd_nil, ⟨sound.bounded, sound.remaining,
            sound.flagged, sound.linked⟩, running⟩
    · next found =>
        split at found
        · cases found
          exact ⟨cfgSpec.always_nil, cfgSpec.atEnd_nil, sound⟩
        · cases found

section Indices

/-- While the text is parsed every index is smaller than the size of its array, and a text with
an index that was refused for its size is not accepted. -/
def IndexSafe (text : List Char) (start : CfgState) : Prop :=
  ∀ fuel,
    (∀ event ∈ ((cfgParseFile text).run fuel start).trace, event.InBounds) ∧
      (((cfgParseFile text).run fuel start).state.exceeded = true →
        ∀ master, ((cfgParseFile text).run fuel start).ending ≠ .done master)

/-- The text gives a switch no port from the 24th on, and asks for the device ID of no port of
an endpoint but the first. -/
def PortsExist (text : List Char) (start : CfgState) : Prop :=
  ∀ event, (cfgParseFile text).Records start event → event.Allowed

theorem refused_of_exceeded {text : List Char} {start : CfgState} {fuel : Nat}
    (exceeded : ((cfgParseFile text).run fuel start).state.exceeded = true) (master : CfgMaster) :
    ((cfgParseFile text).run fuel start).ending ≠ .done master := by
  intro accepted
  have satisfies := @cfgParseFile_meets text start fuel start rfl
  simp only [Outcome.Satisfies, accepted] at satisfies
  obtain ⟨-, -, sound, running⟩ := satisfies
  have flagged := sound.flagged exceeded
  rw [running] at flagged
  cases flagged

/-- Accesses are in bounds exactly for texts whose ports exist. -/
theorem indexSafe_iff (text : List Char) (start : CfgState) :
    IndexSafe text start ↔ PortsExist text start := by
  -- along each run the accesses are in bounds if and only if the port numbers were
  have along : ∀ fuel, cfgSpec.always ((cfgParseFile text).run fuel start).trace :=
    fun fuel => (@cfgParseFile_meets text start fuel start rfl).1
  constructor
  · rintro safe event ⟨fuel, recorded⟩
    exact (along fuel).mpr (safe fuel).1 event recorded
  · intro ports fuel
    refine ⟨(along fuel).mp fun event recorded => ports event ⟨fuel, recorded⟩, ?_⟩
    exact fun exceeded master => refused_of_exceeded exceeded master

/-- The 25th port of a switch is stored past the end of its ports. -/
theorem not_indexSafe_port24 :
    ¬IndexSafe "SWITCH t s dev08 1 1 00010001 PORT 24 1x 1x 5p0 IDLE1 EM_OFF END\nEOF".toList
      .fresh := by
  intro safe
  have recorded : CfgEvent.access .swPorts 24 ∈ ((cfgParseFile
      "SWITCH t s dev08 1 1 00010001 PORT 24 1x 1x 5p0 IDLE1 EM_OFF END\nEOF".toList).run 12
        .fresh).trace := by
    decide +kernel
  exact Nat.lt_irrefl 24 ((safe 12).1 _ recorded)

end Indices

end RioFabric.Libcfg

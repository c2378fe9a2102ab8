import RioFabric.Libcfg.Ending

/-!
# Termination of the parser

At the end of the file `try_get_next_token` returns the first word of the last line again and
again.  Most keywords do not accept themselves as an argument, so the parser stops with an
error; where nothing stops it, it does not end.
-/

namespace RioFabric.Libcfg

open Lib RouteTable

variable {α β : Type} {Post : β → CfgState → Prop} {Fail : CfgStop → CfgState → Prop}
  {start state : CfgState}

/-- Nothing is left to read but the last word, which is no comment, and there was no error. -/
def AtLast (last : Token) (state : CfgState) : Prop :=
  state.src.AtEnd last ∧ state.cfg.initErr = false ∧ isComment last = false

/-- A function that has failed has set the error flag. -/
def FlagSet (code : CfgStop) (state : CfgState) : Prop :=
  code = .failed → state.cfg.initErr = true

/-- At the end of the file the program fails. -/
abbrev Rejects (last : Token) (program : CfgProg α) : Prop :=
  Prog.Meets .any (AtLast last) program (fun _ _ => False) FlagSet

/-- At the end of the file the program goes on with the same word left. -/
abbrev Passes (last : Token) (program : CfgProg α) : Prop :=
  Prog.Meets .any (AtLast last) program (fun _ => AtLast last) FlagSet

variable {last : Token}

namespace Rejects

variable {program : CfgProg α} {next : α → CfgProg β}

theorem bind (head : Rejects last program) :
    Rejects last (program >>= next) :=
  Prog.Meets.bind head fun _ _ _ => False.elim

theorem after (head : Passes last program) (tail : ∀ value, Rejects last (next value)) :
    Rejects last (program >>= next) :=
  Prog.Meets.bind head tail

theorem parseFail : Rejects last (parseFail : CfgProg α) :=
  fun _ _ _ => ⟨trivial, trivial, fun _ => rfl⟩

theorem exceedFail : Rejects last (exceedFail : CfgProg α) :=
  fun _ _ _ => ⟨trivial, trivial, fun _ => rfl⟩

theorem failLabel {body : CfgProg α}
    (fails : Prog.Meets .any (AtLast last) body (fun _ _ => False) fun _ _ => True) :
    Rejects last (failLabel body) := by
  refine Prog.Meets.handle fails fun code => ?_
  cases code with
  | failed => exact fun _ _ _ => ⟨trivial, trivial, fun _ => rfl⟩
  | outOfBounds => exact Prog.Meets.stop fun _ _ => nofun

theorem never (rejects : Rejects last program) :
    Prog.Meets .any (AtLast last) program (fun _ _ => False) fun _ _ => True :=
  rejects.weaken (fun _ before => before) (fun _ _ never => never) fun _ _ _ => trivial

theorem ignoreFail {program : CfgProg Unit} (rejects : Rejects last program) :
    Prog.Meets .any (AtLast last) (ignoreFail program) (fun _ state => state.cfg.initErr = true)
      FlagSet := by
  refine Prog.Meets.handle (rejects.weakenPost fun _ _ => False.elim) fun code => ?_
  cases code with
  | failed => exact Prog.Meets.pure fun _ flagged => flagged rfl
  | outOfBounds => exact Prog.Meets.stop fun _ flagged => flagged

end Rejects

namespace Passes

theorem getCfg : Passes last getCfg := Prog.Meets.read fun _ before => before

theorem setCfg {f : IntCfgParms → IntCfgParms} (same : ∀ cfg, (f cfg).initErr = cfg.initErr) :
    Passes last (setCfg f) :=
  Prog.Meets.change fun _ before => ⟨before.1, (same _).trans before.2.1, before.2.2⟩

theorem exceedIf {condition : Prop} [Decidable condition] : Passes last (exceedIf condition) :=
  Prog.Meets.ite (fun _ => Rejects.exceedFail.weakenPost fun _ _ => False.elim)
    fun _ => Prog.Meets.pure fun _ before => before

theorem access (array : CfgArray) (idx : Nat) : Passes last (access array idx) := by
  refine Prog.Meets.emitBind trivial trivial ?_
  split
  · exact Prog.Meets.pure fun _ before => before
  · exact Prog.Meets.stop fun _ _ => nofun

end Passes

section Last

variable {Fail : CfgStop → CfgState → Prop}

theorem getNextToken_last :
    Prog.Meets .any (AtLast last) getNextToken
      (fun rc state => rc = some last ∧ AtLast last state) Fail := by
  refine Prog.Meets.startingAt fun start ⟨atEnd, running, noComment⟩ => ?_
  refine (getNextToken_atEnd permitsGetline_any running noComment).weaken
    (fun _ same => ⟨start.src, same, atEnd⟩) ?_ fun _ _ fails => fails
  rintro _ _ ⟨rfl, src, rfl, atEnd⟩
  exact ⟨rfl, atEnd, running, noComment⟩

theorem requireToken_last :
    Prog.Meets .any (AtLast last) requireToken
      (fun tok state => AtLast last state ∧ tok = last) Fail := by
  refine Prog.Meets.bind getNextToken_last fun rc => Prog.Meets.startingAt ?_
  rintro state ⟨rfl, atLast⟩
  exact Prog.Meets.pure fun _ same => ⟨same ▸ atLast, rfl⟩

theorem getParmIdx_last (parmList : List String) :
    Prog.Meets .any (AtLast last) (getParmIdx parmList)
      (fun idx state => AtLast last state ∧ idx = some (parmIdx last parmList)) Fail := by
  refine Prog.Meets.bind getNextToken_last fun rc => Prog.Meets.startingAt ?_
  rintro state ⟨rfl, atLast⟩
  exact Prog.Meets.pure fun _ same => ⟨same ▸ atLast, rfl⟩

end Last

theorem requireToken_passes : Passes last requireToken :=
  requireToken_last.weakenPost fun _ _ after => after.1

theorem requireToken_then {next : Token → CfgProg β}
    (tail : Prog.Meets .any (AtLast last) (next last) Post Fail) :
    Prog.Meets .any (AtLast last) (requireToken >>= next) Post Fail :=
  Prog.Meets.bind requireToken_last fun _ => Prog.Meets.assume fun same => same ▸ tail

theorem getParmIdx_then {parmList : List String} {next : Option Nat → CfgProg β}
    (tail : Prog.Meets .any (AtLast last) (next (some (parmIdx last parmList))) Post Fail) :
    Prog.Meets .any (AtLast last) (getParmIdx parmList >>= next) Post Fail :=
  Prog.Meets.bind (getParmIdx_last parmList) fun _ => Prog.Meets.assume fun same => same ▸ tail

theorem getCfg_then {next : IntCfgParms → CfgProg β}
    (tail : ∀ cfg, Prog.Meets .any (AtLast last) (next cfg) Post Fail) :
    Prog.Meets .any (AtLast last) (getCfg >>= next) Post Fail :=
  Prog.Meets.readBind fun cfg => (tail cfg).weakenPre fun _ before => before.1

theorem failIf_never {condition : Prop} [Decidable condition] {next : Unit → CfgProg β}
    (tail : Prog.Meets .any (AtLast last) (next ()) (fun _ _ => False) fun _ _ => True) :
    Prog.Meets .any (AtLast last) (failIf condition >>= next) (fun _ _ => False)
      fun _ _ => True := by
  refine Prog.Meets.bind (?_ : Prog.Meets _ _ _ (fun _ => AtLast last) _) fun _ => tail
  exact Prog.Meets.ite (fun _ => Prog.Meets.stop fun _ _ => trivial) fun _ =>
    Prog.Meets.pure fun _ before => before

theorem orElseFail_never {result : Option α} (isNone : result = none) (Pre : CfgState → Prop) :
    Prog.Meets .any Pre (orElseFail result) (fun _ _ => False) fun _ _ => True := by
  rw [isNone]
  exact Prog.Meets.stop fun _ _ => trivial

theorem getInt_rejects {base : Nat} (noNumber : tokParseUl last base = none) :
    Rejects last (getInt base) := by
  refine Rejects.failLabel <| getCfg_then fun _ => ?_
  exact failIf_never (requireToken_then (orElseFail_never noNumber _))

theorem getDevidSz_rejects {store : Nat → IntCfgParms → IntCfgParms}
    (noSize : parmIdx last devidSzTokens > 2) : Rejects last (getDevidSz store) := by
  refine Rejects.failLabel <| getCfg_then fun _ => ?_
  refine failIf_never (requireToken_then (Prog.Meets.bind (.any _ _) fun _ => ?_))
  exact Prog.Meets.ite (fun _ _ _ _ => ⟨trivial, trivial, trivial⟩) fun small => absurd noSize small

/-! ### Parameters of a switch -/

theorem getRtV_rejects (noKeyword : parmIdx last ["MC", "NEXT_BYTE", "DEFAULT", "DROP"] = 4)
    (noPort : tokParsePortNum last 0 = none) : Rejects last getRtV := by
  refine Rejects.failLabel (requireToken_then ?_)
  unfold rtVOf
  rw [noKeyword, noPort]
  exact fun _ _ _ => ⟨trivial, trivial, trivial⟩

theorem cfgGetDestid_rejects {devidSz : Nat} (noDot : splitAtDot last = none)
    (noDid : tokParseDid (last.takeWhile (· ≠ '.')) 16 = none) :
    Rejects last (cfgGetDestid devidSz) := by
  refine Rejects.failLabel (requireToken_then ?_)
  unfold findEpAndPort
  rw [noDot]
  exact getCfg_then fun _ => failIf_never (orElseFail_never noDid _)

theorem requireTable_passes (rt : Option RtRef) : Passes last (requireTable rt) := by
  cases rt with
  | some ref => exact Prog.Meets.pure fun _ before => before
  | none => exact Rejects.parseFail.weakenPost fun _ _ => False.elim

theorem parseMcMask_rejects {i : Fin 20} {ref : RtRef} (noNumber : tokParseUl last 10 = none) :
    Rejects last (parseMcMask i ref) :=
  Rejects.failLabel (Rejects.bind (getInt_rejects noNumber)).never

theorem switchParm_last (i : Fin 20) (vars : RtVars) :
    Prog.Meets .any (AtLast last) (switchParm i vars (parmIdx last switchTokens))
      (Sum.elim (fun _ _ => False) fun _ _ => True) fun _ _ => True := by
  have rejects : ∀ {program : CfgProg (RtVars ⊕ Unit)}, Rejects last program →
      Prog.Meets .any (AtLast last) program (Sum.elim (fun _ _ => False) fun _ _ => True)
        fun _ _ => True :=
    fun rejected => rejected.weaken (fun _ before => before) (fun _ _ => False.elim)
      fun _ _ _ => trivial
  have isLast : ∀ idx (inList : idx < switchTokens.length), parmIdx last switchTokens = idx →
      last = (switchTokens.get ⟨idx, inList⟩).toList := fun _ inList found =>
    eq_of_parmIdx found inList
  unfold switchParm
  split
  · next found =>
      obtain rfl := isLast 0 (by decide) found
      exact rejects (.bind (.after .getCfg fun _ => .bind (getInt_rejects (by decide))))
  · next found =>
      obtain rfl := isLast 1 (by decide) found
      exact rejects (.bind (getParmIdx_then (Rejects.bind Rejects.exceedFail)))
  · next found =>
      obtain rfl := isLast 2 (by decide) found
      exact rejects (.bind (.bind (getRtV_rejects (by decide) (by decide))))
  · next found =>
      obtain rfl := isLast 3 (by decide) found
      exact rejects (.bind (.bind (cfgGetDestid_rejects (by decide) (by decide))))
  · next found =>
      obtain rfl := isLast 4 (by decide) found
      exact rejects (.bind (.bind (cfgGetDestid_rejects (by decide) (by decide))))
  · next found =>
      obtain rfl := isLast 5 (by decide) found
      exact rejects (.bind (.after (requireTable_passes _) fun _ =>
        parseMcMask_rejects (by decide)))
  · exact Prog.Meets.pure fun _ _ => trivial
  · exact rejects .parseFail

theorem switchParm_ends (i : Fin 20) (vars : RtVars) (idx : Nat) :
    Finite (switchParm i vars idx) := by
  unfold switchParm
  split
  · exact .bind parseSwPort_ends fun _ => .pure _
  · exact .bind (parseRoutingTable_ends i) fun _ => .pure _
  · exact .bind (.bind getRtV_ends fun _ => .bind (requireTable_ends _) fun _ => .setCfg _)
      fun _ => .pure _
  · exact .bind (.bind (cfgGetDestid_ends _) fun _ => .bind getRtV_ends fun _ =>
      .bind (requireTable_ends _) fun _ => .failLabel (assignRtV_ends _ _ _ _ _ _)) fun _ => .pure _
  · exact .bind (.bind (cfgGetDestid_ends _) fun _ => .bind (cfgGetDestid_ends _) fun _ =>
      .bind getRtV_ends fun _ => .bind (requireTable_ends _) fun _ =>
        .failLabel (assignRtV_ends _ _ _ _ _ _)) fun _ => .pure _
  · exact .bind (.bind (requireTable_ends _) fun _ => parseMcMask_ends i _) fun _ => .pure _
  · exact .pure _
  · exact .parseFail

theorem switchTurn_ends (i : Fin 20) (vars : RtVars) : Finite (switchTurn i vars) := by
  refine .bind (getParmIdx_ends _) fun idx => ?_
  cases idx with
  | some idx => exact switchParm_ends i vars idx
  | none => exact .parseFail

theorem switchTurn_takes (few : start.cfg.swCnt < 20) (i : Fin 20) (vars : RtVars)
    (inv : SwitchLoop start vars state) :
    Prog.Meets .any (fun other => other = state) (switchTurn i vars)
      (Sum.elim (fun _ after => after.src.remaining < state.src.remaining) fun _ _ => True)
      fun _ _ => True := by
  refine Prog.Meets.bind (getParmIdx_takes state switchTokens).toAny fun idx => ?_
  cases idx with
  | none => exact Prog.Meets.bind (.any _ _) fun _ => Prog.Meets.stop fun _ _ => trivial
  | some idx =>
    refine Prog.Meets.startingAt fun middle taken => ?_
    obtain ⟨tok, rfl, running, noComment, src, rfl, fewer, took⟩ := taken idx rfl
    obtain less | ⟨atEnd, -⟩ := took
    · have calm : Calm start { state with src := src } := inv.1.setSource fewer
      have fewSws : state.cfg.swCnt < 20 := inv.1.counts.swCnt ▸ few
      have meets := @switchParm_meets { state with src := src } vars fewSws i inv.2
        (parmIdx tok switchTokens)
      refine meets.toAny.weaken (fun _ same => same ▸ calm.toSettled.calm running) ?_
        fun _ _ _ => trivial
      intro result after kept
      cases result with
      | inl next => exact kept.1.remaining.trans_lt less
      | inr value => trivial
    · refine (switchParm_last i vars).weaken (fun _ same => same ▸ ⟨atEnd, running, noComment⟩) ?_
        fun _ _ after => after
      intro result after never
      cases result with
      | inl next => exact never.elim
      | inr value => trivial

theorem switchLoop_ends (few : start.cfg.swCnt < 20) (i : Fin 20) :
    Prog.EndsFrom CfgEvent.Guarded (Calm start) (Prog.loop (switchTurn i) (0, none)) := by
  refine Prog.EndsFrom.weakenPre (Prog.EndsFrom.loop (I := SwitchLoop start)
    (fun _ state => state.src.remaining) (fun vars => (switchTurn_ends i vars).endsFrom)
    ?_ (0, none)) fun _ calm => ⟨calm, by decide⟩
  intro fuel vars state next inv done _
  exact ⟨(switchTurn_meets few i vars).of_done inv done,
    (switchTurn_takes few i vars inv).of_done rfl done⟩

theorem parseSwitch_ends (start : CfgState) :
    Prog.EndsFrom CfgEvent.Guarded (Calm start) parseSwitch := by
  -- what is known of the count of switches when the loop starts
  refine Prog.EndsFrom.bind Finite.getCfg.endsFrom
    (?_ : Prog.Meets .any _ _ (fun cfg state => Calm start state ∧ cfg.swCnt = start.cfg.swCnt)
      fun _ _ => True) fun cfg => ?_
  · exact Prog.Meets.read fun _ calm => ⟨calm, calm.counts.swCnt⟩
  refine Prog.EndsFrom.bind Finite.exceedIf.endsFrom
    (?_ : Prog.Meets .any _ _ (fun _ state => Calm start state ∧ start.cfg.swCnt < 20)
      fun _ _ => True) fun _ => ?_
  · refine Prog.Meets.ite (fun _ => fun _ _ _ => ⟨trivial, trivial, trivial⟩) fun full => ?_
    exact Prog.Meets.pure fun _ ⟨calm, same⟩ => ⟨calm, same ▸ Nat.lt_of_not_le full⟩
  intro state ⟨calm, few⟩
  have rest : Prog.EndsFrom CfgEvent.Guarded (Calm start) (access .sws cfg.swCnt >>= fun i =>
      parseSwitchHead i >>= fun _ => Prog.loop (switchTurn i) (0, none) >>= fun _ =>
        setCfg fun cfg =>
          { cfg.setSw i fun sw => { sw with valid := true } with swCnt := cfg.swCnt + 1 }) := by
    refine Prog.EndsFrom.bind (Finite.access _ _).endsFrom (access_any _ _ _) fun i => ?_
    refine Prog.EndsFrom.bind (parseSwitchHead_ends i).endsFrom (parseSwitchHead_harmless i)
      fun _ => ?_
    exact Prog.EndsFrom.bind (switchLoop_ends few i) (switchLoop_harmless few i) fun _ =>
      (Finite.setCfg _).endsFrom
  exact rest calm

/-! ### Statements -/

theorem parseDir_last {store : Token → IntCfgParms → IntCfgParms} (noName : getVStr last = none) :
    Prog.Meets .any (AtLast last) (parseDir store) (fun _ state => state.cfg.initErr = true)
      FlagSet := by
  refine Prog.Meets.bind getNextToken_last fun rc => Prog.Meets.startingAt ?_
  rintro state ⟨rfl, -⟩
  dsimp only
  rw [noName]
  exact Prog.Meets.change fun _ _ => rfl

theorem parseMportInfo_rejects (noNumber : tokParseUl last 10 = none) :
    Rejects last parseMportInfo :=
  Rejects.failLabel (Rejects.after .getCfg fun _ => .after .exceedIf fun _ =>
    .after (.access _ _) fun _ => .bind (getInt_rejects noNumber)).never

theorem parseMasterInfo_rejects (noSize : parmIdx last devidSzTokens > 2) :
    Rejects last parseMasterInfo :=
  Rejects.failLabel (Rejects.bind (getDevidSz_rejects noSize)).never

theorem parseSwitch_rejects (noSize : parmIdx last devidSzTokens > 2) :
    Rejects last parseSwitch :=
  .after .getCfg fun _ => .after .exceedIf fun _ => .after (.access _ _) fun _ => .bind <|
    .after requireToken_passes fun _ => .after (.setCfg fun _ => rfl) fun _ =>
      .after requireToken_passes fun _ => .after (.setCfg fun _ => rfl) fun _ =>
        .bind (getDevidSz_rejects noSize)

theorem endpointLoop_rejects {i : Fin 70} (noParm : parmIdx last ["PORT", "PEND"] = 2) :
    Prog.Meets .any (fun state => AtLast last state ∧ (state.cfg.eps i).portCnt = 0)
      (Prog.loop (fun _ => endpointTurn i) ()) (fun _ _ => False) FlagSet := by
  refine Prog.Meets.loop (I := fun _ state => AtLast last state ∧ (state.cfg.eps i).portCnt = 0)
    (fun _ => ?_) ()
  refine Prog.Meets.readBind fun cfg => Prog.Meets.startingAt ?_
  rintro state ⟨⟨atLast, noPort⟩, rfl⟩
  refine Prog.Meets.ite (fun many => absurd many (by omega)) fun _ => ?_
  refine Prog.Meets.weakenPre (getParmIdx_then ?_) fun _ same => same ▸ atLast
  rw [noParm]
  exact Rejects.parseFail.weakenPost fun _ _ => False.elim

theorem parseEndpoint_rejects (noParm : parmIdx last ["PORT", "PEND"] = 2) :
    Rejects last parseEndpoint := by
  refine .after .getCfg fun _ => .after .exceedIf fun _ => .after (.access _ _) fun i => ?_
  refine .after requireToken_passes fun name => Prog.Meets.bind
    (?_ : Prog.Meets _ _ _ (fun _ state => AtLast last state ∧ (state.cfg.eps i).portCnt = 0) _)
    fun _ => ?_
  · refine Prog.Meets.change fun _ atLast => ⟨atLast, ?_⟩
    simp [IntCfgParms.setEp]
  · exact Prog.Meets.bind (endpointLoop_rejects noParm) fun _ _ _ => False.elim

theorem parseConnect_rejects (noDot : splitAtDot last = none) : Rejects last parseConnect := by
  refine .after .getCfg fun _ => .after .exceedIf fun _ => .after (.access _ _) fun i => .bind ?_
  refine Prog.Meets.bind getNextToken_last fun rc => Prog.Meets.startingAt ?_
  rintro state ⟨rfl, atLast⟩
  refine Prog.Meets.weakenPre (?_ : Rejects last _) fun _ same => same ▸ atLast
  dsimp only
  rw [noDot]
  exact Rejects.parseFail

theorem parseStatement_last {idx : Nat} (isLast : parmIdx last statements = idx)
    (noAuto : ¬(idx = 8 ∨ idx = 9)) (known : idx < 10) :
    Prog.Meets .any (AtLast last) (parseStatement last idx)
      (fun _ state => state.cfg.initErr = true) FlagSet := by
  match idx with
  | 0 =>
    obtain rfl := eq_of_parmIdx isLast (by decide)
    exact fun _ _ atLast => absurd atLast.2.2 (by decide)
  | 1 =>
    obtain rfl := eq_of_parmIdx isLast (by decide)
    exact parseDir_last (by decide)
  | 2 =>
    obtain rfl := eq_of_parmIdx isLast (by decide)
    exact parseDir_last (by decide)
  | 3 =>
    obtain rfl := eq_of_parmIdx isLast (by decide)
    exact (parseMportInfo_rejects (by decide)).ignoreFail
  | 4 =>
    obtain rfl := eq_of_parmIdx isLast (by decide)
    exact (parseMasterInfo_rejects (by decide)).ignoreFail
  | 5 =>
    obtain rfl := eq_of_parmIdx isLast (by decide)
    exact (parseEndpoint_rejects (by decide)).ignoreFail
  | 6 =>
    obtain rfl := eq_of_parmIdx isLast (by decide)
    exact (parseSwitch_rejects (by decide)).ignoreFail
  | 7 =>
    obtain rfl := eq_of_parmIdx isLast (by decide)
    exact (parseConnect_rejects (by decide)).ignoreFail
  | 8 => exact absurd (.inl rfl) noAuto
  | 9 => exact absurd (.inr rfl) noAuto
  | _ + 10 => omega

theorem parseStatement_ends (start : CfgState) (tok : Token) (idx : Nat) :
    Prog.EndsFrom CfgEvent.Guarded (Calm start) (parseStatement tok idx) := by
  unfold parseStatement
  split
  · exact (flushComment_ends _).endsFrom
  · exact (parseDir_ends _).endsFrom
  · exact (parseDir_ends _).endsFrom
  · exact Finite.ignoreFail parseMportInfo_ends.endsFrom
  · exact Finite.ignoreFail parseMasterInfo_ends.endsFrom
  · exact Finite.ignoreFail parseEndpoint_ends.endsFrom
  · exact Finite.ignoreFail (parseSwitch_ends start)
  · exact Finite.ignoreFail parseConnect_ends.endsFrom
  · exact (Finite.setCfg _).endsFrom
  · exact (Finite.setCfg _).endsFrom

/-- What the loop of `fmd_parse_cfg` has left to read; it takes up the last word once. -/
def statementVariant (tok : Option Token) (state : CfgState) : Nat :=
  match tok with
  | none => 0
  | some word => if state.src.AtEnd word then 1 else state.src.remaining + 2

theorem statement_mem_trace {tok : Token} (running : state.cfg.initErr = false) (fuel : Nat) :
    .statement tok state.src ∈ ((statementTurn (some tok)).run fuel state).trace := by
  have run_eq : (statementTurn (some tok)).run fuel state =
      (Prog.read id >>= fun state : CfgState =>
        if state.cfg.initErr then pure (.inr ())
        else do
          Prog.emit (.statement tok state.src)
          let idx := parmIdx tok statements
          if idx < 10 then do
            parseStatement tok idx
            let next ← tryGetNextToken
            pure (.inl next)
          else if idx = 10 then pure (.inr ())
          else do
            parseErr
            pure (.inr ()) : CfgProg (Option Token ⊕ Unit)).run fuel state := rfl
  rw [run_eq]
  refine List.mem_append_right [] ?_
  show _ ∈ (Prog.run fuel (if state.cfg.initErr = true then _ else _) state).trace
  rw [if_neg (by simp [running])]
  exact (Outcome.trace_prefix_andThen
    ⟨.done (), state, [CfgEvent.statement tok state.src]⟩ _).subset (List.mem_singleton_self _)

theorem statementTurn_ends (start : CfgState) (tok : Option Token) :
    Prog.EndsFrom CfgEvent.Guarded (StatementLoop start tok) (statementTurn tok) := by
  cases tok with
  | none => exact (Finite.pure _).endsFrom
  | some tok =>
    refine Prog.EndsFrom.bind (Prog.Ends.act _).endsFrom (?_ : Prog.Meets .any _ _
      (fun value state => Sound start state ∧ state = value) fun _ _ => True) fun value => ?_
    · exact Prog.Meets.read fun _ inv => ⟨inv.1, rfl⟩
    refine Prog.EndsFrom.ite (fun _ => (Finite.pure _).endsFrom) fun flag => ?_
    refine Prog.EndsFrom.bind (Prog.Ends.emit _).endsFrom (?_ : Prog.Meets .any _ _
      (fun _ => Calm value) fun _ _ => True) fun _ => ?_
    · refine Prog.Meets.emit trivial trivial ?_
      rintro state ⟨sound, rfl⟩
      exact sound.calm (by simpa using flag)
    refine Prog.EndsFrom.ite (fun _ => ?_) fun _ => Prog.EndsFrom.ite (fun _ => ?_) fun _ => ?_
    · exact Prog.EndsFrom.bind (parseStatement_ends value tok _) (.any _ _) fun _ =>
        (Finite.bind tryGetNextToken_ends fun _ => .pure _).endsFrom
    · exact (Finite.pure _).endsFrom
    · exact (Finite.bind .parseErr fun _ => .pure _).endsFrom

theorem statementTurn_decreases {tok : Token} (inv : StatementLoop start (some tok) state)
    (running : state.cfg.initErr = false) (guarded : (CfgEvent.statement tok state.src).Guarded) :
    Prog.Meets .any (fun other => other = state) (statementTurn (some tok))
      (Sum.elim (fun next after => statementVariant next after < statementVariant (some tok) state)
        fun _ _ => True)
      fun _ _ => True := by
  refine Prog.Meets.readBind fun value => Prog.Meets.startingAt ?_
  rintro state ⟨rfl, rfl⟩
  rw [if_neg (by simp [running])]
  refine Prog.Meets.emitBind trivial trivial ?_
  refine Prog.Meets.ite (fun known => ?_) fun _ => Prog.Meets.ite (fun _ => ?_) fun _ => ?_
  · by_cases atEnd : state.src.AtEnd tok
    · -- the keyword is read again and not accepted
      refine Prog.Meets.bind ((parseStatement_last rfl (guarded atEnd) known).weaken
        (fun _ same => same ▸ ⟨atEnd, running, inv.2 tok rfl⟩) (fun _ _ after => after)
        fun _ _ _ => trivial) fun _ => ?_
      refine Prog.Meets.startingAt fun after flagged => ?_
      refine Prog.Meets.bind ((tryGetNextToken_of_initErr flagged).weaken (fun _ same => same)
        (fun _ _ after => after) fun _ _ => False.elim) fun next => Prog.Meets.pure ?_
      rintro _ ⟨rfl, rfl⟩
      simp [statementVariant, atEnd]
    · have variant : statementVariant (some tok) state = state.src.remaining + 2 := by
        simp [statementVariant, atEnd]
      refine Prog.Meets.bind ((parseStatement_sound (inv.1.linked running) tok _).toAny.weaken
        (fun _ same => same ▸ inv.1.calm running) (fun _ _ sound => sound)
        fun _ _ _ => trivial) fun _ => ?_
      refine Prog.Meets.startingAt fun middle sound => ?_
      cases flag : middle.cfg.initErr with
      | true =>
        refine Prog.Meets.bind ((tryGetNextToken_of_initErr flag).weaken (fun _ same => same)
          (fun _ _ after => after) fun _ _ => False.elim) fun next => Prog.Meets.pure ?_
        rintro _ ⟨rfl, rfl⟩
        simp [statementVariant, atEnd]
      | false =>
        refine Prog.Meets.bind ((tryGetNextToken_takes flag).toAny.weaken (fun _ same => same)
          (fun _ _ after => after) fun _ _ => False.elim) fun next => Prog.Meets.pure ?_
        rintro _ ⟨word, rfl, -, src, rfl, -, took⟩
        have fewer := sound.remaining
        show (if src.AtEnd word then 1 else src.remaining + 2) < _
        rw [variant]
        obtain less | ⟨isLast, -⟩ := took
        · split <;> omega
        · rw [if_pos isLast]
          omega
  · exact Prog.Meets.pure fun _ _ => trivial
  · exact Prog.Meets.bind (.any _ _) fun _ => Prog.Meets.pure fun _ _ => trivial

theorem statementLoop_ends (start : CfgState) (tok : Option Token) :
    Prog.EndsFrom CfgEvent.Guarded (StatementLoop start tok) (Prog.loop statementTurn tok) := by
  refine Prog.EndsFrom.loop statementVariant (statementTurn_ends start) ?_ tok
  intro fuel tok state next inv done accepted
  cases tok with
  | none => cases done
  | some tok =>
    have running : state.cfg.initErr = false := by
      by_contra flag
      have leaves : Prog.Meets .any (fun other => other = state) (statementTurn (some tok))
          (Sum.elim (fun _ _ => False) fun _ _ => True) fun _ _ => True := by
        refine Prog.Meets.readBind fun value => Prog.Meets.startingAt ?_
        rintro state ⟨rfl, rfl⟩
        rw [if_pos (by simpa using flag)]
        exact Prog.Meets.pure fun _ _ => trivial
      exact leaves.of_done rfl done
    have guarded := accepted _ (statement_mem_trace running fuel)
    have good : ¬StatementEndless (some tok) state := by
      rintro ⟨last, same, isAuto, atEnd, -⟩
      cases same
      exact guarded atEnd isAuto
    exact ⟨(statementTurn_meets (some tok)).of_done ⟨inv, good⟩ done,
      (statementTurn_decreases inv running guarded).of_done rfl done⟩

theorem cfgParseFile_ends (text : List Char) (start : CfgState) :
    Prog.EndsFrom CfgEvent.Guarded (fun state => state = start) (cfgParseFile text) := by
  refine Prog.EndsFrom.bind (Prog.Ends.act _).endsFrom (?_ : Prog.Meets .any _ _
    (fun _ => Sound (opened text start)) fun _ _ => True) fun _ => ?_
  · exact Prog.Meets.change fun _ same => same ▸ sound_opened text start
  refine Prog.EndsFrom.bind ?_ (.any _ _) fun _ =>
    (Finite.bind .failIf fun _ => Prog.Ends.act _).endsFrom
  refine Prog.EndsFrom.bind tryGetNextToken_ends.endsFrom nextStatement_meets fun tok => ?_
  refine Prog.EndsFrom.bind (statementLoop_ends _ tok) (.any _ _) fun _ => ?_
  exact (Finite.bind (Prog.Ends.act _) fun _ => .bind .getCfg fun _ => .pure _).endsFrom

theorem guarded_of_stops {text : List Char} (stops : (cfgParseFile text).Stops start)
    {event : CfgEvent} (records : (cfgParseFile text).Records start event) : event.Guarded := by
  obtain ⟨fuel, ended⟩ := stops
  have satisfies := @cfgParseFile_meets text start fuel start rfl
  have recorded := Prog.mem_trace_of_records ended records
  unfold Outcome.Satisfies at satisfies
  unfold Outcome.Ended at ended
  cases ending : ((cfgParseFile text).run fuel start).ending with
  | done master =>
    rw [ending] at satisfies
    exact satisfies.2.1 event recorded
  | stopped code =>
    rw [ending] at satisfies
    exact satisfies.2.1 event recorded
  | unfinished =>
    rw [ending] at ended
    exact ended.elim

/-- `cfg_parse_file` ends exactly for the texts at whose end it does not go round in a
circle. -/
theorem cfgParseFile_stops_iff (text : List Char) (start : CfgState) :
    (cfgParseFile text).Stops start ↔
      ∀ event, (cfgParseFile text).Records start event → event.Guarded :=
  ⟨fun stops _ records => guarded_of_stops stops records,
    fun guarded => cfgParseFile_ends text start rfl guarded⟩

/-- An empty file is read for ever. -/
theorem not_stops_empty : ¬(cfgParseFile []).Stops .fresh := by
  intro stops
  have recorded : CfgEvent.getline ⟨[], some [], [], false⟩ ∈
      ((cfgParseFile []).run 1 .fresh).trace := by
    decide +kernel
  obtain ⟨tok, word, -⟩ := guarded_of_stops stops ⟨1, recorded⟩ rfl
  cases word

end RioFabric.Libcfg

import RioFabric.Libcfg.Frame

/-!
# The functions of the parser

For each function of the parser that fills in a part of a device, that it is harmless.
-/

namespace RioFabric.Libcfg

open Lib RouteTable

variable {α : Type} {start : CfgState} {devidSz first last : Nat}

theorem tryGetNextToken_some :
    Prog.Meets cfgSpec (Calm start) tryGetNextToken
      (fun rc state => Calm start state ∧ ∃ tok, rc = some tok) fun _ _ => False := by
  refine Prog.Meets.startingAt fun state calm => ?_
  refine (tryGetNextToken_takes calm.running).weakenPost ?_
  rintro rc _ ⟨tok, found, -, src, rfl, fewer, -⟩
  exact ⟨calm.setSource fewer, tok, found⟩

theorem getNextToken_some :
    Prog.Meets cfgSpec (Calm start) getNextToken
      (fun rc state => Calm start state ∧ ∃ tok, rc = some tok) fun _ _ => False := by
  refine Prog.Meets.readBind fun cfg => ?_
  refine Prog.Meets.startingAt ?_
  rintro state ⟨calm, rfl⟩
  rw [if_neg (by simp [calm.running])]
  refine Prog.Meets.bind (tryGetNextToken_some.weakenPre fun _ same => same ▸ calm) fun rc => ?_
  cases rc with
  | some tok => exact Prog.Meets.pure fun _ after => after
  | none => exact fun _ _ ⟨_, _, never⟩ => by cases never

theorem getNextToken_smooth : Smooth start getNextToken :=
  getNextToken_some.weakenPost fun _ _ after => after.1

theorem getNextToken_harmless : Harmless start getNextToken := getNextToken_smooth.meets

theorem requireToken_harmless : Harmless start requireToken :=
  .bind getNextToken_harmless fun _ => .orElseFail _

theorem getInt_harmless (base : Nat) : Harmless start (getInt base) :=
  .failLabel <| .getCfg_bind fun _ _ _ _ => .failIf_bind fun _ =>
    .bind requireToken_harmless fun _ => .orElseFail _

theorem getDecInt_harmless : Harmless start getDecInt := getInt_harmless 10

theorem getHexInt_harmless : Harmless start getHexInt := getInt_harmless 16

theorem getParmIdx_harmless (parmList : List String) : Harmless start (getParmIdx parmList) :=
  .bind getNextToken_harmless fun _ => .pure _

theorem getDevidSz_harmless {store : Nat → IntCfgParms → IntCfgParms}
    (quiet : ∀ size, size ≤ 2 → IntCfgParms.Quiet (store size))
    (links : ∀ size (cfg : IntCfgParms), cfg.KeepsLinks (store size cfg))
    (counts : ∀ size (cfg : IntCfgParms), cfg.SameCounts (store size cfg))
    (numbered : ∀ size (cfg : IntCfgParms), (∀ idx, IntCfgParms.Numbered (cfg.sws idx)) →
      ∀ idx, IntCfgParms.Numbered ((store size cfg).sws idx)) :
    Harmless start (getDevidSz store) := by
  refine .failLabel <| .getCfg_bind fun _ _ _ _ => .failIf_bind fun _ =>
    .bind requireToken_harmless fun tok => ?_
  by_cases small : parmIdx tok devidSzTokens ≤ 2
  · exact .bind (.setCfg (quiet _ small)) fun _ => .exceedIf
  · intro fuel state calm
    have bounded : IntCfgParms.Bounded
        { store (parmIdx tok devidSzTokens) state.cfg with initErr := true } := by
      have same := counts (parmIdx tok devidSzTokens) state.cfg
      have sameConn := (links (parmIdx tok devidSzTokens) state.cfg).connCnt
      exact ⟨same.epCnt ▸ calm.bounded.epCnt, same.swCnt ▸ calm.bounded.swCnt,
        same.maxMportInfoIdx ▸ calm.bounded.maxMportInfoIdx, sameConn ▸ calm.bounded.connCnt, nofun,
        numbered _ state.cfg calm.bounded.numbered⟩
    have settled : Settled start
        ⟨{ store (parmIdx tok devidSzTokens) state.cfg with initErr := true }, state.src, true,
          state.tags⟩ :=
      ⟨calm.links.trans ((links _ _).trans ⟨rfl, rfl, rfl, fun _ ready => ready⟩), bounded,
        calm.remaining, fun _ => rfl⟩
    have run_eq : (setCfg (store (parmIdx tok devidSzTokens)) >>= fun _ =>
        exceedIf (parmIdx tok devidSzTokens > 2)).run fuel state =
        ⟨.stopped .failed, ⟨{ store (parmIdx tok devidSzTokens) state.cfg with initErr := true },
          state.src, true, state.tags⟩, []⟩ := by
      rw [show exceedIf (parmIdx tok devidSzTokens > 2) = exceedFail from if_pos (by omega)]
      rfl
    rw [run_eq]
    exact ⟨cfgSpec.always_nil, cfgSpec.atEnd_nil, settled⟩

theorem rtVOf_harmless (tok : Token) : Harmless start (rtVOf tok) := by
  unfold rtVOf
  split
  · exact .bind getDecInt_harmless fun _ => .exceedIf_bind fun _ => .pure _
  · exact .pure _
  · exact .pure _
  · exact .pure _
  · exact .orElseExceed_bind fun _ _ => .pure _

theorem getRtV_harmless : Harmless start getRtV :=
  .failLabel <| .bind requireToken_harmless fun tok => rtVOf_harmless tok

theorem getChoice_harmless (parmList : List String) (values : List α) :
    Harmless start (getChoice parmList values) := by
  refine .bind (getParmIdx_harmless parmList) fun idx => ?_
  cases idx with
  | none => exact Harmless.parseFail
  | some idx =>
    dsimp only
    cases values[idx]? with
    | none => exact Harmless.parseFail
    | some value => exact .pure value

theorem findFirst_smooth {array : CfgArray} {test : Fin array.size → Bool} {cells : List Nat}
    (inBounds : ∀ i ∈ cells, i < array.size) : Smooth start (findFirst array test cells) := by
  induction cells with
  | nil => exact .pure _
  | cons i cells ih =>
    refine .bind (.access (inBounds i List.mem_cons_self)) fun idx => ?_
    refine Prog.Meets.ite (fun _ => Smooth.pure _) fun _ => ?_
    exact ih fun other isMember => inBounds other (List.mem_cons_of_mem i isMember)

theorem findEpName_smooth (name : Token) : Smooth start (findEpName name) :=
  getCfg_meets fun _ bounded _ _ => findFirst_smooth fun _ isMember =>
    (List.mem_range.mp isMember).trans_le bounded.epCnt

theorem findSwName_smooth (name : Token) : Smooth start (findSwName name) :=
  getCfg_meets fun _ bounded _ _ => findFirst_smooth fun _ isMember =>
    (List.mem_range.mp isMember).trans_le bounded.swCnt

theorem Source.remaining_cutAtDot (src : Source) : src.cutAtDot.remaining = src.remaining := by
  unfold cutAtDot
  split <;> rfl

theorem cutAtDot_smooth : Smooth start cutAtDot :=
  fun _ state calm => ⟨cfgSpec.always_nil, cfgSpec.atEnd_nil,
    calm.setSource (Nat.le_of_eq state.src.remaining_cutAtDot)⟩

theorem checkEpPort_meets (ep : Fin 70) (port : Nat) :
    Prog.Meets cfgSpec (Calm start) (checkEpPort ep port)
      (fun found state => Calm start state ∨ found = none ∧ Flagged start state)
      fun _ => Settled start := by
  refine Prog.Meets.bind (Harmless.accessEpPort port) fun port => ?_
  refine Prog.Meets.readBind fun cfg => Prog.Meets.ite (fun _ => ?_) fun _ => ?_
  · exact Prog.Meets.pure fun _ before => .inl before.1
  · exact fun _ state before => ⟨cfgSpec.always_nil, cfgSpec.atEnd_nil,
      .inr ⟨rfl, before.1.flag _⟩⟩

/-- Finding an endpoint links nothing; what is not found is flagged. -/
theorem findEpAndPort_meets (tok : Token) :
    Prog.Meets cfgSpec (Calm start) (findEpAndPort tok)
      (fun found state => Calm start state ∨ found = none ∧ Flagged start state)
      fun _ => Settled start := by
  unfold findEpAndPort
  split
  · exact Prog.Meets.pure fun _ calm => .inl calm
  · refine Prog.Meets.bind cutAtDot_smooth.meets fun _ => ?_
    split
    · exact fun _ state calm => ⟨cfgSpec.always_nil, cfgSpec.atEnd_nil,
        .inr ⟨rfl, calm.flag true⟩⟩
    · refine Prog.Meets.bind (findEpName_smooth _).meets fun found => ?_
      cases found with
      | none => exact Prog.Meets.pure fun _ calm => .inl calm
      | some ep => exact checkEpPort_meets ep _

theorem epDestid_harmless (small : devidSz < 3) (ep : Fin 70) (port : Fin 1) :
    Harmless start (epDestid devidSz ep port) :=
  .bind (.access small) fun _ => .getCfg_bind fun _ _ _ _ =>
    .ite (fun _ => .pure _) fun _ => Harmless.parseFail

theorem cfgGetDestid_harmless (small : devidSz < 3) :
    Harmless start (cfgGetDestid devidSz) := by
  refine .failLabel <| .bind requireToken_harmless fun tok => ?_
  refine Prog.Meets.bind (findEpAndPort_meets tok) fun found => ?_
  cases found with
  | some found =>
    refine (epDestid_harmless small found.1 found.2).weakenPre fun state before => ?_
    obtain calm | ⟨never, -⟩ := before
    · exact calm
    · cases never
  | none =>
    refine Prog.Meets.startingAt fun state before => ?_
    obtain calm | ⟨-, settled, flagged⟩ := before
    · have number : Harmless start (getCfg >>= fun cfg => failIf (cfg.initErr = true) >>= fun _ =>
          orElseFail (tokParseDid (tok.takeWhile (· ≠ '.')) 16)) :=
        .getCfg_bind fun _ _ _ _ => .failIf_bind fun _ => .orElseFail _
      exact number.weakenPre fun _ same => same ▸ calm
    · refine Prog.Meets.readBind fun cfg => ?_
      refine Prog.Meets.bind (?_ : Prog.Meets _ _ _ (fun _ _ => False) _) fun _ _ _ => False.elim
      rintro fuel other ⟨rfl, rfl⟩
      rw [show failIf (other.cfg.initErr = true) = (fail : CfgProg Unit) from if_pos flagged]
      exact ⟨cfgSpec.always_nil, cfgSpec.atEnd_nil, settled⟩

theorem parseDevid_harmless (devids : Fin 3 → DevId) (small : devidSz < 3) :
    Harmless start (parseDevid devids devidSz) :=
  .bind (.access small) fun _ => .failIf_bind fun _ => .bind getHexInt_harmless fun _ =>
    .bind getDecInt_harmless fun _ => .failIf_bind fun _ => .pure _

theorem devidsTurn_harmless (devids : Fin 3 → DevId) : Harmless start (devidsTurn devids) := by
  refine .bind (getParmIdx_harmless _) fun idx => ?_
  cases idx with
  | none => exact Harmless.fail
  | some devidSz =>
    refine .ite (fun small => .bind (parseDevid_harmless devids small) fun _ => .pure _) ?_
    exact fun _ => .ite (fun _ => .pure _) fun _ => Harmless.fail

theorem parseEpDevids_harmless : Harmless start parseEpDevids :=
  .failLabel <| .loop devidsTurn_harmless _

theorem checkMatch_harmless (mport : Fin 4) (size : Fin 3) (ep : Fin 70) (port : Fin 1) :
    Harmless start (checkMatch mport size ep port) :=
  .getCfg_bind fun _ _ _ _ => .ite (fun _ => .ite (fun _ => Harmless.parseFail) fun _ =>
    .setCfg (IntCfgParms.quiet_setMport _ _)) fun _ => .pure _

theorem matchEpToMports_harmless (ep : Fin 70) (port : Fin 1) :
    Harmless start (matchEpToMports ep port) :=
  .getCfg_bind fun _ bounded _ running => .forM fun _ isMember =>
    .bind (.access ((List.mem_range.mp isMember).trans_le bounded.maxMportInfoIdx)) fun mport =>
      .bind (.access (bounded.mastDidSzIdx running)) fun size =>
        checkMatch_harmless mport size ep port

theorem checkMportNumbers_harmless (idx : Fin 4) : Harmless start (checkMportNumbers idx) :=
  .forM fun _ isMember => .bind (.access ((List.mem_range.mp isMember).trans idx.isLt)) fun _ =>
    .getCfg_bind fun _ _ _ _ => .ite (fun _ => Harmless.parseFail) fun _ => .pure _

theorem parseOpMode_harmless (idx : Fin 4) : Harmless start (parseOpMode idx) := by
  refine .bind (getParmIdx_harmless _) fun found => ?_
  split
  · refine .getCfg_bind fun _ _ _ _ => .ite (fun _ => Harmless.parseFail) fun _ => .setCfg ?_
    exact ⟨fun _ => ⟨rfl, rfl, rfl, fun _ ready => ready⟩, fun _ => ⟨rfl, rfl, rfl⟩, fun _ => rfl,
      fun _ small => small, fun _ numbered => numbered⟩
  · exact .setCfg (IntCfgParms.quiet_setMport _ _)
  · exact Harmless.parseFail

theorem parseRapidio_harmless : Harmless start parseRapidio :=
  .bind (getChoice_harmless _ _) fun _ => .bind (getChoice_harmless _ _) fun _ =>
    .bind (getChoice_harmless _ _) fun _ => .bind (getChoice_harmless _ _) fun _ =>
      .bind (getChoice_harmless _ _) fun _ => .pure _

theorem parseEpPort_harmless (ep : Fin 70) (port : Fin 1) : Harmless start (parseEpPort ep port) :=
  .bind getDecInt_harmless fun _ => .bind getHexInt_harmless fun _ =>
    .bind parseRapidio_harmless fun _ => .bind parseEpDevids_harmless fun _ =>
      .setCfg (IntCfgParms.quiet_setEpPort ep port (fun _ => rfl) fun _ _ => rfl)

theorem parseEndpointPort_harmless (i : Fin 70) : Harmless start (parseEndpointPort i) :=
  .getCfg_bind fun _ _ _ _ => .exceedIf_bind fun few => .bind (.access (Nat.lt_of_not_le few))
    fun port => .bind (parseEpPort_harmless i port) fun _ =>
      .bind (.setCfg (IntCfgParms.quiet_setEp i (fun _ _ => rfl) fun _ _ valid => valid)) fun _ =>
        matchEpToMports_harmless i port

theorem endpointTurn_harmless (i : Fin 70) : Harmless start (endpointTurn i) := by
  refine .getCfg_bind fun _ _ _ _ => .ite (fun _ => .pure _) fun _ =>
    .bind (getParmIdx_harmless _) fun found => ?_
  split
  · exact .bind (parseEndpointPort_harmless i) fun _ => .pure _
  · exact .pure _
  · exact Harmless.parseFail

theorem lt_of_mem_range' {i : Nat} (isMember : i ∈ List.range' first (last + 1 - first)) :
    i ≤ last := by
  rw [List.mem_range'_1] at isMember
  omega

theorem assignDevEntries_harmless (i : Fin 20) (ref : RtRef) (rtv : PeRtVal) (small : last < 256) :
    Harmless start (assignDevEntries i ref rtv first last) :=
  .forM fun _ isMember => .bind (.access ((lt_of_mem_range' isMember).trans_lt small)) fun _ =>
    .setCfg (IntCfgParms.quiet_setRt i ref _)

theorem assignDomEntries_harmless (i : Fin 20) (ref : RtRef) (rtv : PeRtVal) (small : last < 256) :
    Harmless start (assignDomEntries i ref rtv first last) :=
  .forM fun _ isMember => .bind (.access ((lt_of_mem_range' isMember).trans_lt small)) fun _ =>
    .setCfg (IntCfgParms.quiet_setRt i ref _)

theorem assignMcDestid_harmless (i : Fin 20) (ref : RtRef) (rtv : PeRtVal) (did : Nat) :
    Harmless start (assignMcDestid i ref rtv did) :=
  .ite (fun _ => .bind (.access (rioRteIdx rtv).isLt) fun _ =>
    .setCfg (IntCfgParms.quiet_setMcMask i ref _ _)) fun _ => .pure _

theorem assignDev16RtV_harmless (stDidVal endDidVal : Nat) (rtv : PeRtVal) (i : Fin 20)
    (ref : RtRef) : Harmless start (assignDev16RtV stDidVal endDidVal rtv i ref) := by
  refine .exceedIf_bind fun _ => .bind (assignMcDestid_harmless i ref rtv _) fun _ => ?_
  refine .bind (assignDomEntries_harmless i ref _ (by omega)) fun _ => ?_
  exact .ite (fun _ => assignDevEntries_harmless i ref _ (by omega)) fun _ => .pure _

theorem assignRtV_harmless (rtSz stDidVal endDidVal : Nat) (rtv : PeRtVal) (i : Fin 20)
    (ref : RtRef) : Harmless start (assignRtV rtSz stDidVal endDidVal rtv i ref) := by
  unfold assignRtV
  split
  · exact .exceedIf_bind fun small => .bind (assignDevEntries_harmless i ref rtv (by omega))
      fun _ => assignMcDestid_harmless i ref rtv _
  · exact assignDev16RtV_harmless _ _ rtv i ref
  · exact Harmless.parseFail

/-! ### At the end of the file -/

section AtEnd

variable {spec : TraceSpec CfgEvent} {last : Token} {Fail : CfgStop → CfgState → Prop}

theorem getNextToken_atEnd (permits : PermitsGetline spec) (running : start.cfg.initErr = false)
    (noComment : isComment last = false) :
    Prog.Meets spec (At start (Source.AtEnd · last)) getNextToken
      (fun rc state => rc = some last ∧ At start (Source.AtEnd · last) state) Fail := by
  refine Prog.Meets.readBind fun cfg => ?_
  refine Prog.Meets.startingAt ?_
  rintro _ ⟨⟨src, rfl, atEnd⟩, rfl⟩
  rw [if_neg (by simp [running])]
  refine Prog.Meets.bind ((tryGetNextToken_atEnd permits running noComment).weakenPre
    fun _ same => ⟨src, same, atEnd⟩) fun rc => ?_
  cases rc with
  | some tok => exact Prog.Meets.pure fun _ after => after
  | none => exact fun _ _ ⟨never, _⟩ => by cases never

theorem requireToken_atEnd (permits : PermitsGetline spec) (running : start.cfg.initErr = false)
    (noComment : isComment last = false) :
    Prog.Meets spec (At start (Source.AtEnd · last)) requireToken
      (fun tok state => tok = last ∧ At start (Source.AtEnd · last) state) Fail := by
  refine Prog.Meets.bind (getNextToken_atEnd permits running noComment) fun rc => ?_
  refine Prog.Meets.startingAt ?_
  rintro state ⟨rfl, atEnd⟩
  exact Prog.Meets.pure fun _ same => ⟨rfl, same ▸ atEnd⟩

end AtEnd

/-! ### The loop of `parse_mc_mask` -/

theorem noComment_of_portNum {tok : Token} (isPort : tokParsePortNum tok 0 ≠ none) :
    isComment tok = false := by
  by_contra comment
  apply isPort
  match tok with
  | [] => exact absurd rfl comment
  | [_] => simp [isComment] at comment
  | first :: second :: rest =>
    obtain ⟨rfl, rfl⟩ : first = '/' ∧ second = '/' := by simpa [isComment] using comment
    rfl

theorem notEnd_of_portNum {tok : Token} (isPort : tokParsePortNum tok 0 ≠ none) :
    parmIdx tok ["END"] ≠ 0 := by
  intro isEnd
  rw [eq_of_parmIdx isEnd (by decide)] at isPort
  exact isPort (by decide)

/-- The loop of `parse_mc_mask` is about to read the same port number for ever. -/
def McMaskEndless (tok : Option Token) (state : CfgState) : Prop :=
  ∃ last, tok = some last ∧ tokParsePortNum last 0 ≠ none ∧ state.src.AtEnd last ∧
    state.cfg.initErr = false

theorem mcMaskTurn_endless (i : Fin 20) (ref : RtRef) (idx : Fin 256) (tok : Option Token) :
    Prog.Meets cfgSpec.lax (McMaskEndless tok) (mcMaskTurn i ref idx tok)
      (Sum.elim McMaskEndless fun _ _ => False) fun _ _ => False := by
  refine Prog.Meets.startingAt ?_
  rintro start ⟨last, rfl, isPort, atEnd, running⟩
  refine Prog.Meets.readBind fun src => Prog.Meets.bind
    (?_ : Prog.Meets _ _ _ (fun _ state => state = start) _) fun _ => ?_
  · exact Prog.Meets.emit (cfgSpec_always_of trivial trivial) trivial fun _ same => same.1
  refine Prog.Meets.bind ((requireToken_atEnd permitsGetline_lax running
    (noComment_of_portNum isPort)).weakenPre fun _ same => ⟨start.src, same, atEnd⟩) fun tok => ?_
  refine Prog.Meets.startingAt ?_
  rintro state ⟨rfl, other, rfl, atEnd⟩
  rw [if_neg (notEnd_of_portNum isPort)]
  obtain ⟨pnum, parsed⟩ := Option.ne_none_iff_exists'.mp isPort
  rw [parsed]
  rintro fuel _ rfl
  exact ⟨cfgSpec.always_nil, trivial, tok, rfl, isPort, atEnd,
    ((IntCfgParms.quiet_setMcMask i ref idx _).initErr start.cfg).trans running⟩

theorem mcMaskLoop_harmless (i : Fin 20) (ref : RtRef) (idx : Fin 256) :
    Harmless start (Prog.loop (mcMaskTurn i ref idx) none) := by
  refine Prog.Meets.loop_unless (I := fun _ => Calm start) (B := McMaskEndless) (fun tok => ?_)
    (mcMaskTurn_endless i ref idx) none
  refine Prog.Meets.readBind fun src => ?_
  refine Prog.Meets.startingAt ?_
  rintro state ⟨⟨calm, good⟩, rfl⟩
  refine Prog.Meets.bind (?_ : Prog.Meets _ _ _ (fun _ => Calm start) _) fun _ => ?_
  · refine Prog.Meets.emit (cfgSpec_always_of trivial trivial) (cfgSpec_atEnd_of ?_)
      fun _ same => same ▸ calm
    intro last isLast atEnd
    by_contra isPort
    exact good ⟨last, isLast, isPort, atEnd, calm.running⟩
  · refine Prog.Meets.bind requireToken_harmless fun tok => ?_
    refine Prog.Meets.ite (fun _ => Prog.Meets.pure fun _ calm => calm) fun _ => ?_
    have rest : Harmless start (orElseExceed (tokParsePortNum tok 0) >>= fun pnum =>
        setCfg (·.setMcMask i ref idx fun mask =>
          { mask with mcMask := mask.mcMask ||| 1#32 <<< pnum }) >>= fun _ =>
            (pure (.inl (some tok)) : CfgProg (Option Token ⊕ Unit))) :=
      .orElseExceed_bind fun _ _ => .bind (.setCfg (IntCfgParms.quiet_setMcMask i ref idx _))
        fun _ => .pure _
    exact rest.weakenPost fun result _ calm => by cases result <;> exact calm

theorem parseMcMask_harmless (i : Fin 20) (ref : RtRef) : Harmless start (parseMcMask i ref) :=
  .failLabel <| .bind getDecInt_harmless fun _ => .exceedIf_bind fun small =>
    .bind (.access (Nat.lt_of_not_le small)) fun idx =>
      .bind (.setCfg (IntCfgParms.quiet_setMcMask i ref idx _)) fun _ =>
        .bind (mcMaskLoop_harmless i ref idx) fun _ =>
          .setCfg (IntCfgParms.quiet_setMcMask i ref idx _)

end RioFabric.Libcfg

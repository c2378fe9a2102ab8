import RioFabric.Libcfg.Functions

/-!
# The statements of a configuration file

A statement other than `CONNECT` adds at most one device, in bounds, and leaves the connections
alone, whether it succeeds or fails.
-/

namespace RioFabric.Libcfg

open Lib RouteTable

variable {α : Type} {start : CfgState} {vars : RtVars} {program : CfgProg α}

theorem parseSwPort_harmless (few : start.cfg.swCnt < 20) : Harmless start parseSwPort :=
  .getCfg_bind fun _ _ counts _ => .bind getDecInt_harmless fun _ =>
    .bind (.access (counts.swCnt ▸ few)) fun sw => .bind (.accessSwPort _) fun port =>
      .bind parseRapidio_harmless fun _ => .setCfg (IntCfgParms.quiet_setSwPort sw port
        (fun _ => rfl) (fun _ _ => rfl) fun _ _ _ => rfl)

theorem selectTable_harmless (i : Fin 20) {rtSz : Nat} (small : rtSz < 3) (token : Token) :
    Harmless start (selectTable i rtSz token) := by
  refine .bind (.access small) fun size => .ite (fun _ => ?_) fun _ => ?_
  · exact .bind (.setCfg (IntCfgParms.quiet_setSw i (fun _ _ => rfl) (fun _ _ isValid => isValid)
      fun _ numbered => numbered)) fun _ => .pure _
  · exact .orElseExceed_bind fun _ parsed => .bind (.access (tokParsePortNum_lt parsed)) fun port =>
      .bind (.setCfg (IntCfgParms.quiet_usePortTable i port size)) fun _ => .pure _

theorem parseRoutingTable_meets (i : Fin 20) :
    Prog.Meets cfgSpec (Calm start) (parseRoutingTable i)
      (fun vars state => Calm start state ∧ vars.1 < 3) fun _ => Settled start := by
  refine Prog.Meets.bind (getParmIdx_harmless _) fun found => ?_
  refine orElseExceed_meets (fun _ _ flagged => flagged.1) fun rtSz isSize => ?_
  have small : rtSz < 3 := by
    have atMost := (Option.filter_eq_some_iff.mp isSize).2
    simp only [decide_eq_true_eq] at atMost
    omega
  refine Prog.Meets.bind requireToken_harmless fun token => ?_
  refine Prog.Meets.bind (selectTable_harmless i small token) fun ref => ?_
  exact Prog.Meets.pure fun _ calm => ⟨calm, small⟩

theorem requireTable_harmless (rt : Option RtRef) : Harmless start (requireTable rt) := by
  cases rt with
  | some ref => exact .pure ref
  | none => exact Harmless.parseFail

theorem parseDfltport_harmless (i : Fin 20) (rt : Option RtRef) :
    Harmless start (parseDfltport i rt) :=
  .bind getRtV_harmless fun _ => .bind (requireTable_harmless rt) fun ref =>
    .setCfg (IntCfgParms.quiet_setRt i ref _)

theorem parseDestid_harmless (i : Fin 20) (small : vars.1 < 3) :
    Harmless start (parseDestid i vars) :=
  .bind (cfgGetDestid_harmless small) fun _ => .bind getRtV_harmless fun _ =>
    .bind (requireTable_harmless vars.2) fun ref =>
      .failLabel (assignRtV_harmless _ _ _ _ i ref)

theorem parseRange_harmless (i : Fin 20) (small : vars.1 < 3) :
    Harmless start (parseRange i vars) :=
  .bind (cfgGetDestid_harmless small) fun _ => .bind (cfgGetDestid_harmless small) fun _ =>
    .bind getRtV_harmless fun _ => .bind (requireTable_harmless vars.2) fun ref =>
      .failLabel (assignRtV_harmless _ _ _ _ i ref)

theorem parseMcmask_harmless (i : Fin 20) (rt : Option RtRef) :
    Harmless start (parseMcmask i rt) :=
  .bind (requireTable_harmless rt) fun ref => parseMcMask_harmless i ref

/-- While the parameters of a switch are parsed, the size of device IDs is one there is. -/
def SwitchLoop (start : CfgState) (vars : RtVars) (state : CfgState) : Prop :=
  Calm start state ∧ vars.1 < 3

theorem switchParm_same (small : vars.1 < 3) {program : CfgProg Unit}
    (harmless : Harmless start program) :
    Prog.Meets cfgSpec (Calm start)
      (program >>= fun _ => (pure (.inl vars) : CfgProg (RtVars ⊕ Unit)))
      (Sum.elim (SwitchLoop start) fun _ => Calm start) fun _ => Settled start :=
  Prog.Meets.bind harmless fun _ => Prog.Meets.pure fun _ calm => ⟨calm, small⟩

theorem switchParm_meets (few : start.cfg.swCnt < 20) (i : Fin 20) (small : vars.1 < 3)
    (idx : Nat) :
    Prog.Meets cfgSpec (Calm start) (switchParm i vars idx)
      (Sum.elim (SwitchLoop start) fun _ => Calm start) fun _ => Settled start := by
  unfold switchParm
  split
  · exact switchParm_same small (parseSwPort_harmless few)
  · exact Prog.Meets.bind (parseRoutingTable_meets i) fun _ => Prog.Meets.pure fun _ after => after
  · exact switchParm_same small (parseDfltport_harmless i vars.2)
  · exact switchParm_same small (parseDestid_harmless i small)
  · exact switchParm_same small (parseRange_harmless i small)
  · exact switchParm_same small (parseMcmask_harmless i vars.2)
  · exact Prog.Meets.pure fun _ calm => calm
  · exact Harmless.parseFail

/-- One parameter of a switch is parsed. -/
theorem switchTurn_meets (few : start.cfg.swCnt < 20) (i : Fin 20) (vars : RtVars) :
    Prog.Meets cfgSpec (SwitchLoop start vars) (switchTurn i vars)
      (Sum.elim (SwitchLoop start) fun _ => Calm start) fun _ => Settled start := by
  refine Prog.Meets.assume fun small => ?_
  refine Prog.Meets.bind (getParmIdx_harmless switchTokens) fun idx => ?_
  cases idx with
  | some idx => exact switchParm_meets few i small idx
  | none => exact Harmless.parseFail

theorem switchLoop_harmless (few : start.cfg.swCnt < 20) (i : Fin 20) :
    Harmless start (Prog.loop (switchTurn i) (0, none)) :=
  Prog.Meets.weakenPre (Prog.Meets.loop (switchTurn_meets few i) (0, none)) fun _ calm =>
    ⟨calm, by decide⟩

theorem parseSwitchHead_harmless (i : Fin 20) : Harmless start (parseSwitchHead i) := by
  have quiet : ∀ {f : IntCfgSw → IntCfgSw}, (∀ sw, (f sw).ports = sw.ports) →
      IntCfgParms.Quiet (·.setSw i f) := fun same =>
    IntCfgParms.quiet_setSw i (fun sw port => by rw [same]) (fun sw port isValid => by rwa [same])
      fun sw numbered => by
        unfold IntCfgParms.Numbered
        rwa [same]
  have quietSize : ∀ size, IntCfgParms.Quiet fun cfg =>
      cfg.setSw i fun sw => { sw with didSzIdx := size } := fun _ => quiet fun _ => rfl
  refine .bind requireToken_harmless fun _ => .bind (.setCfg (quiet fun _ => rfl)) fun _ => ?_
  refine .bind requireToken_harmless fun _ => .bind (.setCfg (quiet fun _ => rfl)) fun _ => ?_
  refine .bind (getDevidSz_harmless (fun size _ => quietSize size)
    (fun size => (quietSize size).links) (fun size => (quietSize size).counts)
    fun size => (quietSize size).numbered) fun _ => ?_
  refine .bind getHexInt_harmless fun _ => .bind (.setCfg (quiet fun _ => rfl)) fun _ => ?_
  refine .bind getDecInt_harmless fun _ => .failIf_bind fun _ => ?_
  refine .bind (.setCfg (quiet fun _ => rfl)) fun _ => ?_
  exact .bind getHexInt_harmless fun _ => .setCfg (quiet fun _ => rfl)

/-- The program adds a device or fails, in any case without touching a connection. -/
abbrev Settles (start : CfgState) (program : CfgProg α) : Prop :=
  Prog.Meets cfgSpec (Calm start) program (fun _ => Settled start) fun _ => Settled start

theorem Harmless.settles (harmless : Harmless start program) :
    Settles start program :=
  harmless.weakenPost fun _ _ calm => calm.toSettled

theorem Settles.of_harmless (harmless : ∀ middle, Harmless middle program) :
    Prog.Meets cfgSpec (fun state => Settled start state ∧ state.cfg.initErr = false) program
      (fun _ => Settled start) fun _ => Settled start := by
  refine Prog.Meets.startingAt fun middle ⟨settled, running⟩ => ?_
  exact (harmless middle).weaken (fun _ same => same ▸ settled.calm running)
    (fun _ _ calm => settled.trans calm.toSettled) fun _ _ after => settled.trans after

theorem Settles.failLabel (body : Settles start program) :
    Settles start (failLabel program) := by
  refine Prog.Meets.handle body fun code => ?_
  cases code with
  | failed =>
    exact Prog.Meets.bind (Prog.Meets.change fun _ settled => settled.parseErr _) fun _ =>
      Prog.Meets.stop fun _ settled => settled
  | outOfBounds => exact Prog.Meets.stop fun _ settled => settled

theorem ignoreFail_meets {spec : TraceSpec CfgEvent} {Pre Q : CfgState → Prop}
    {program : CfgProg Unit} (body : Prog.Meets spec Pre program (fun _ => Q) fun _ => Q) :
    Prog.Meets spec Pre (ignoreFail program) (fun _ => Q) fun _ => Q := by
  refine Prog.Meets.handle body fun code => ?_
  cases code with
  | failed => exact Prog.Meets.pure fun _ after => after
  | outOfBounds => exact Prog.Meets.stop fun _ after => after

theorem parseSwitch_settles : Settles start parseSwitch := by
  refine getCfg_meets fun cfg _ counts _ => exceedIf_meets (fun _ _ flagged => flagged.1)
    fun full => ?_
  have few : start.cfg.swCnt < 20 := counts.swCnt ▸ Nat.lt_of_not_le full
  refine Prog.Meets.bind (Harmless.access (Nat.lt_of_not_le full)) fun i => ?_
  refine Prog.Meets.bind (parseSwitchHead_harmless i) fun _ => ?_
  refine Prog.Meets.bind (switchLoop_harmless few i) fun _ => Prog.Meets.change fun state calm => ?_
  have quiet : IntCfgParms.Quiet (·.setSw i fun sw => { sw with valid := true }) :=
    IntCfgParms.quiet_setSw i (fun _ _ => rfl) (fun _ _ isValid => isValid)
      fun _ numbered => numbered
  have after := calm.setCfg quiet
  refine ⟨after.links.trans ⟨rfl, rfl, rfl, fun _ ready => ready⟩, ?_, after.remaining,
    after.flagged⟩
  have room : state.cfg.swCnt + 1 ≤ 20 := by
    rw [calm.counts.swCnt]
    exact few
  exact ⟨after.bounded.epCnt, room, after.bounded.maxMportInfoIdx, after.bounded.connCnt,
    after.bounded.mastDidSzIdx, after.bounded.numbered⟩

theorem parseEndpoint_settles : Settles start parseEndpoint := by
  refine getCfg_meets fun cfg _ counts _ => exceedIf_meets (fun _ _ flagged => flagged.1)
    fun full => ?_
  have few : start.cfg.epCnt < 70 := counts.epCnt ▸ Nat.lt_of_not_le full
  refine Prog.Meets.bind (Harmless.access (Nat.lt_of_not_le full)) fun i => ?_
  refine Prog.Meets.bind requireToken_harmless fun name => ?_
  refine Prog.Meets.bind (Harmless.setCfg (IntCfgParms.quiet_setEp i (fun _ _ => rfl)
    fun _ _ isValid => isValid)) fun _ => ?_
  refine Prog.Meets.bind (Harmless.loop (fun _ => endpointTurn_harmless i) ()) fun _ =>
    Prog.Meets.change fun state calm => ?_
  have quiet : IntCfgParms.Quiet (·.setEp i fun ep => { ep with valid := true }) :=
    IntCfgParms.quiet_setEp i (fun _ _ => rfl) fun _ _ isValid => isValid
  have after := calm.setCfg quiet
  refine ⟨after.links.trans ⟨rfl, rfl, rfl, fun _ ready => ready⟩, ?_, after.remaining,
    after.flagged⟩
  have room : state.cfg.epCnt + 1 ≤ 70 := by
    rw [calm.counts.epCnt]
    exact few
  exact ⟨room, after.bounded.swCnt, after.bounded.maxMportInfoIdx, after.bounded.connCnt,
    after.bounded.mastDidSzIdx, after.bounded.numbered⟩

theorem parseMportInfo_settles : Settles start parseMportInfo := by
  refine Settles.failLabel ?_
  refine getCfg_meets fun cfg _ counts _ => exceedIf_meets (fun _ _ flagged => flagged.1)
    fun full => ?_
  have few : start.cfg.maxMportInfoIdx < 4 := counts.maxMportInfoIdx ▸ Nat.lt_of_not_le full
  refine Prog.Meets.bind (Harmless.access (Nat.lt_of_not_le full)) fun idx => ?_
  refine Prog.Meets.bind getDecInt_harmless fun num => ?_
  refine Prog.Meets.bind (?_ : Prog.Meets _ _ _
    (fun _ state => Settled start state ∧ state.cfg.initErr = false) _) fun _ => ?_
  · refine Prog.Meets.change fun state calm => ?_
    have after := calm.setCfg (IntCfgParms.quiet_setMport idx fun mpi => { mpi with num := num })
    have room : state.cfg.maxMportInfoIdx + 1 ≤ 4 := by
      rw [calm.counts.maxMportInfoIdx]
      exact few
    refine ⟨⟨after.links.trans ⟨rfl, rfl, rfl, fun _ ready => ready⟩, ?_, after.remaining,
      after.flagged⟩, calm.running⟩
    exact ⟨after.bounded.epCnt, after.bounded.swCnt, room, after.bounded.connCnt,
      after.bounded.mastDidSzIdx, after.bounded.numbered⟩
  · refine Settles.of_harmless fun middle => ?_
    exact .bind (checkMportNumbers_harmless idx) fun _ => .bind (parseOpMode_harmless idx) fun _ =>
      .bind (getChoice_harmless _ _) fun _ => .bind (.setCfg (IntCfgParms.quiet_setMport idx _))
        fun _ => .bind parseEpDevids_harmless fun _ => .setCfg (IntCfgParms.quiet_setMport idx _)

theorem quiet_setMaster (didVal sizeIdx cmPort : IntCfgParms → Nat)
    (small : ∀ cfg, cfg.mastDidSzIdx < 3 → sizeIdx cfg < 3) :
    IntCfgParms.Quiet fun cfg =>
      { cfg with
        mastDidVal := didVal cfg
        mastDidSzIdx := sizeIdx cfg
        mastCmPort := cmPort cfg } :=
  ⟨fun _ => ⟨rfl, rfl, rfl, fun _ ready => ready⟩, fun _ => ⟨rfl, rfl, rfl⟩, fun _ => rfl, small,
    fun _ numbered => numbered⟩

theorem parseMasterInfo_harmless : Harmless start parseMasterInfo := by
  refine .failLabel <| .bind (getDevidSz_harmless (fun size small => ?_) (fun _ _ => ?_)
    (fun _ _ => ⟨rfl, rfl, rfl⟩) fun _ _ numbered => numbered) fun _ => ?_
  · exact quiet_setMaster (·.mastDidVal) (fun _ => size) (·.mastCmPort) fun _ _ => by omega
  · exact ⟨rfl, rfl, rfl, fun _ ready => ready⟩
  · exact .bind getHexInt_harmless fun didVal => .bind
      (.setCfg (quiet_setMaster (fun _ => didVal) (·.mastDidSzIdx) (·.mastCmPort)
        fun _ small => small)) fun _ =>
      .bind getDecInt_harmless fun cmPort => .setCfg
        (quiet_setMaster (·.mastDidVal) (·.mastDidSzIdx) (fun _ => cmPort) fun _ small => small)

theorem flushComment_harmless (tok : Token) : Harmless start (flushComment (some tok)) := by
  refine Prog.Meets.startingAt fun state calm => ?_
  refine (flushComment_at cfgSpec state state.src.text state.src.word (some tok)).weaken ?_ ?_
    fun _ _ => False.elim
  · rintro _ rfl
    exact ⟨_, rfl, rfl, rfl, nofun⟩
  · rintro _ _ ⟨src, rfl, sameText, -, read⟩
    refine calm.setSource ?_
    simp [Source.remaining, sameText, read]

theorem parseDir_settles {store : Token → IntCfgParms → IntCfgParms}
    (quiet : ∀ name, IntCfgParms.Quiet (store name)) : Settles start (parseDir store) := by
  refine Prog.Meets.bind getNextToken_harmless fun tok => ?_
  cases tok with
  | none => exact Prog.Meets.pure fun _ calm => calm.toSettled
  | some tok =>
    dsimp only
    cases getVStr tok with
    | some name => exact (Harmless.setCfg (quiet name)).settles
    | none => exact Prog.Meets.change fun _ calm => calm.toSettled.parseErr _

theorem parseStatement_settles (tok : Token) {idx : Nat} (noConnect : idx ≠ 7) :
    Settles start (parseStatement tok idx) := by
  unfold parseStatement
  split
  · exact (flushComment_harmless tok).settles
  · exact parseDir_settles fun name => ⟨fun _ => ⟨rfl, rfl, rfl, fun _ ready => ready⟩,
      fun _ => ⟨rfl, rfl, rfl⟩, fun _ => rfl, fun _ small => small, fun _ numbered => numbered⟩
  · exact parseDir_settles fun name => ⟨fun _ => ⟨rfl, rfl, rfl, fun _ ready => ready⟩,
      fun _ => ⟨rfl, rfl, rfl⟩, fun _ => rfl, fun _ small => small, fun _ numbered => numbered⟩
  · exact ignoreFail_meets parseMportInfo_settles
  · exact ignoreFail_meets parseMasterInfo_harmless.settles
  · exact ignoreFail_meets parseEndpoint_settles
  · exact ignoreFail_meets parseSwitch_settles
  · exact absurd rfl noConnect
  · refine Harmless.settles (.setCfg ?_)
    exact ⟨fun _ => ⟨rfl, rfl, rfl, fun _ ready => ready⟩, fun _ => ⟨rfl, rfl, rfl⟩, fun _ => rfl,
      fun _ small => small, fun _ numbered => numbered⟩
  · refine Harmless.settles (.setCfg ?_)
    exact ⟨fun _ => ⟨rfl, rfl, rfl, fun _ ready => ready⟩, fun _ => ⟨rfl, rfl, rfl⟩, fun _ => rfl,
      fun _ _ => Nat.one_lt_ofNat, fun _ numbered => numbered⟩

end RioFabric.Libcfg

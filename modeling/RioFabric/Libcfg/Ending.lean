import RioFabric.Libcfg.File

/-!
# Functions of the parser that end

Most functions of the parser have no loop of their own, and end because reading a token does.
The loops over device IDs and over the ports of an endpoint fill in one more element with each
turn; the loops over the parameters of a switch and over the ports of a multicast mask read one
more word.
-/

namespace RioFabric.Libcfg

open Lib RouteTable

variable {α β : Type} {start : CfgState}

/-- The program ends, provided that its loops do not go round in a circle at the end of the
file. -/
abbrev Finite (program : CfgProg α) : Prop := Prog.Ends CfgEvent.Guarded program

namespace Finite

theorem pure (value : α) : Finite (Pure.pure value : CfgProg α) := Prog.Ends.act _

theorem bind {program : CfgProg α} {next : α → CfgProg β} (head : Finite program)
    (tail : ∀ value, Finite (next value)) : Finite (program >>= next) :=
  Prog.Ends.bind head tail

theorem ite {condition : Prop} [Decidable condition] {program other : CfgProg α}
    (yes : Finite program) (no : Finite other) : Finite (if condition then program else other) :=
  Prog.Ends.ite yes no

theorem getCfg : Finite getCfg := Prog.Ends.act _

theorem setCfg (f : IntCfgParms → IntCfgParms) : Finite (setCfg f) := Prog.Ends.act _

theorem parseErr : Finite parseErr := Prog.Ends.act _

theorem fail : Finite (fail : CfgProg α) := Prog.Ends.act _

theorem parseFail : Finite (parseFail : CfgProg α) := bind parseErr fun _ => fail

theorem exceedErr : Finite exceedErr := bind (Prog.Ends.act _) fun _ => parseErr

theorem exceedFail : Finite (exceedFail : CfgProg α) := bind exceedErr fun _ => fail

theorem failIf {condition : Prop} [Decidable condition] : Finite (failIf condition) :=
  ite fail (pure ())

theorem exceedIf {condition : Prop} [Decidable condition] : Finite (exceedIf condition) :=
  ite exceedFail (pure ())

theorem orElseFail (result : Option α) : Finite (orElseFail result) := by
  cases result with
  | some value => exact pure value
  | none => exact fail

theorem orElseExceed (result : Option α) : Finite (orElseExceed result) := by
  cases result with
  | some value => exact pure value
  | none => exact exceedFail

theorem access (array : CfgArray) (idx : Nat) : Finite (access array idx) := by
  refine bind (Prog.Ends.emit _) fun _ => ?_
  split
  · exact pure _
  · exact Prog.Ends.act _

theorem failLabel {body : CfgProg α} (ends : Finite body) : Finite (failLabel body) := by
  refine Prog.Ends.handle ends fun code => ?_
  cases code with
  | failed => exact parseFail
  | outOfBounds => exact Prog.Ends.act _

theorem forM {ι : Type} {body : ι → CfgProg PUnit} (turn : ∀ idx, Finite (body idx))
    (cells : List ι) : Finite (cells.forM body) :=
  Prog.Ends.forM turn cells

theorem ignoreFail {Pre : CfgState → Prop} {body : CfgProg Unit}
    (ends : Prog.EndsFrom CfgEvent.Guarded Pre body) :
    Prog.EndsFrom CfgEvent.Guarded Pre (ignoreFail body) := by
  refine Prog.EndsFrom.handle ends fun code => ?_
  cases code with
  | failed => exact pure ()
  | outOfBounds => exact Prog.Ends.act _

end Finite

theorem getNextToken_ends : Finite getNextToken := by
  refine .bind .getCfg fun _ => .ite (.pure _) (.bind tryGetNextToken_ends fun rc => ?_)
  cases rc with
  | some tok => exact .pure _
  | none => exact .bind .parseErr fun _ => .pure _

theorem requireToken_ends : Finite requireToken :=
  .bind getNextToken_ends fun _ => .orElseFail _

theorem getParmIdx_ends (parmList : List String) : Finite (getParmIdx parmList) :=
  .bind getNextToken_ends fun _ => .pure _

theorem getInt_ends (base : Nat) : Finite (getInt base) :=
  .failLabel <| .bind .getCfg fun _ => .bind .failIf fun _ => .bind requireToken_ends fun _ =>
    .orElseFail _

theorem getDevidSz_ends (store : Nat → IntCfgParms → IntCfgParms) : Finite (getDevidSz store) :=
  .failLabel <| .bind .getCfg fun _ => .bind .failIf fun _ => .bind requireToken_ends fun _ =>
    .bind (.setCfg _) fun _ => .exceedIf

theorem getRtV_ends : Finite getRtV := by
  refine .failLabel <| .bind requireToken_ends fun tok => ?_
  unfold rtVOf
  split
  · exact .bind (getInt_ends 10) fun _ => .bind .exceedIf fun _ => .pure _
  · exact .pure _
  · exact .pure _
  · exact .pure _
  · exact .bind (.orElseExceed _) fun _ => .pure _

theorem getChoice_ends (parmList : List String) (values : List α) :
    Finite (getChoice parmList values) := by
  refine .bind (getParmIdx_ends parmList) fun idx => ?_
  cases idx with
  | none => exact .parseFail
  | some idx =>
    dsimp only
    cases values[idx]? with
    | none => exact .parseFail
    | some value => exact .pure value

theorem findFirst_ends (array : CfgArray) (test : Fin array.size → Bool) (cells : List Nat) :
    Finite (findFirst array test cells) := by
  induction cells with
  | nil => exact .pure _
  | cons i cells ih => exact .bind (.access array i) fun _ => .ite (.pure _) ih

theorem findEpName_ends (name : Token) : Finite (findEpName name) :=
  .bind .getCfg fun _ => findFirst_ends _ _ _

theorem findSwName_ends (name : Token) : Finite (findSwName name) :=
  .bind .getCfg fun _ => findFirst_ends _ _ _

theorem accessSwPort_ends (port : Nat) : Finite (accessSwPort port) :=
  .bind (Prog.Ends.emit _) fun _ => .access _ _

theorem accessEpPort_ends (port : Nat) : Finite (accessEpPort port) :=
  .bind (Prog.Ends.emit _) fun _ => .access _ _

theorem checkEpPort_ends (ep : Fin 70) (port : Nat) : Finite (checkEpPort ep port) :=
  .bind (accessEpPort_ends port) fun _ => .bind .getCfg fun _ => .ite (.pure _)
    (.bind .parseErr fun _ => .pure _)

theorem findEpAndPort_ends (tok : Token) : Finite (findEpAndPort tok) := by
  unfold findEpAndPort
  split
  · exact .pure _
  · refine .bind (Prog.Ends.act _) fun _ => ?_
    split
    · exact .bind .exceedErr fun _ => .pure _
    · refine .bind (findEpName_ends _) fun found => ?_
      cases found with
      | none => exact .pure _
      | some ep => exact checkEpPort_ends ep _

theorem cfgGetDestid_ends (devidSz : Nat) : Finite (cfgGetDestid devidSz) := by
  refine .failLabel <| .bind requireToken_ends fun tok => .bind (findEpAndPort_ends tok)
    fun found => ?_
  cases found with
  | some found =>
    exact .bind (.access _ _) fun _ => .bind .getCfg fun _ => .ite (.pure _) .parseFail
  | none => exact .bind .getCfg fun _ => .bind .failIf fun _ => .orElseFail _

theorem parseRapidio_ends : Finite parseRapidio :=
  .bind (getChoice_ends _ _) fun _ => .bind (getChoice_ends _ _) fun _ =>
    .bind (getChoice_ends _ _) fun _ => .bind (getChoice_ends _ _) fun _ =>
      .bind (getChoice_ends _ _) fun _ => .pure _

theorem checkMatch_ends (mport : Fin 4) (size : Fin 3) (ep : Fin 70) (port : Fin 1) :
    Finite (checkMatch mport size ep port) :=
  .bind .getCfg fun _ => .ite (.ite .parseFail (.setCfg _)) (.pure _)

theorem matchEpToMports_ends (ep : Fin 70) (port : Fin 1) : Finite (matchEpToMports ep port) :=
  .bind .getCfg fun _ => .forM (fun _ => .bind (.access _ _) fun _ =>
    .bind (.access _ _) fun _ => checkMatch_ends _ _ ep port) _

theorem checkMportNumbers_ends (idx : Fin 4) : Finite (checkMportNumbers idx) :=
  Finite.forM (fun _ => .bind (.access _ _) fun _ => .bind .getCfg fun _ =>
    .ite .parseFail (.pure _)) _

theorem parseOpMode_ends (idx : Fin 4) : Finite (parseOpMode idx) := by
  refine .bind (getParmIdx_ends _) fun found => ?_
  split
  · exact .bind .getCfg fun _ => .ite .parseFail (.setCfg _)
  · exact .setCfg _
  · exact .parseFail

theorem assignEntries_ends {array : CfgArray} (store : Fin array.size → IntCfgParms → IntCfgParms)
    (cells : List Nat) :
    Finite (cells.forM fun i => access array i >>= fun idx => setCfg (store idx)) :=
  Finite.forM (fun _ => .bind (.access _ _) fun _ => .setCfg _) cells

theorem assignMcDestid_ends (i : Fin 20) (ref : RtRef) (rtv : PeRtVal) (did : Nat) :
    Finite (assignMcDestid i ref rtv did) :=
  .ite (.bind (.access _ _) fun _ => .setCfg _) (.pure _)

theorem assignRtV_ends (rtSz stDidVal endDidVal : Nat) (rtv : PeRtVal) (i : Fin 20) (ref : RtRef) :
    Finite (assignRtV rtSz stDidVal endDidVal rtv i ref) := by
  unfold assignRtV
  split
  · exact .bind .exceedIf fun _ => .bind (assignEntries_ends _ _) fun _ =>
      assignMcDestid_ends i ref rtv _
  · exact .bind .exceedIf fun _ => .bind (assignMcDestid_ends i ref rtv _) fun _ =>
      .bind (assignEntries_ends _ _) fun _ => .ite (assignEntries_ends _ _) (.pure _)
  · exact .parseFail

theorem parseSwPort_ends : Finite parseSwPort :=
  .bind .getCfg fun _ => .bind (getInt_ends 10) fun _ => .bind (.access _ _) fun _ =>
    .bind (accessSwPort_ends _) fun _ => .bind parseRapidio_ends fun _ => .setCfg _

theorem selectTable_ends (i : Fin 20) (rtSz : Nat) (token : Token) :
    Finite (selectTable i rtSz token) :=
  .bind (.access _ _) fun _ => .ite (.bind (.setCfg _) fun _ => .pure _)
    (.bind (.orElseExceed _) fun _ => .bind (.access _ _) fun _ => .bind (.setCfg _) fun _ =>
      .pure _)

theorem parseRoutingTable_ends (i : Fin 20) : Finite (parseRoutingTable i) :=
  .bind (getParmIdx_ends _) fun _ => .bind (.orElseExceed _) fun _ =>
    .bind requireToken_ends fun _ => .bind (selectTable_ends i _ _) fun _ => .pure _

theorem requireTable_ends (rt : Option RtRef) : Finite (requireTable rt) := by
  cases rt with
  | some ref => exact .pure ref
  | none => exact .parseFail

theorem parseSwitchHead_ends (i : Fin 20) : Finite (parseSwitchHead i) :=
  .bind requireToken_ends fun _ => .bind (.setCfg _) fun _ => .bind requireToken_ends fun _ =>
    .bind (.setCfg _) fun _ => .bind (getDevidSz_ends _) fun _ => .bind (getInt_ends 16) fun _ =>
      .bind (.setCfg _) fun _ => .bind (getInt_ends 10) fun _ => .bind .failIf fun _ =>
        .bind (.setCfg _) fun _ => .bind (getInt_ends 16) fun _ => .setCfg _

theorem namedPort_ends (name : Token) (port : Nat) : Finite (namedPort name port) := by
  refine .bind (findEpName_ends name) fun foundEp => ?_
  cases foundEp with
  | some ep =>
    exact .bind .exceedIf fun _ => .bind (.access _ _) fun _ => .bind .getCfg fun _ =>
      .ite (.pure _) .parseFail
  | none =>
    refine .bind (findSwName_ends name) fun foundSw => ?_
    cases foundSw with
    | some sw =>
      exact .bind .exceedIf fun _ => .bind (.access _ _) fun _ => .bind .getCfg fun _ =>
        .ite (.pure _) .parseFail
    | none => exact .parseFail

theorem getEpSwAndPort_ends (conn : Fin 480) (idx : Fin 2) : Finite (getEpSwAndPort conn idx) := by
  refine .bind getNextToken_ends fun tok => ?_
  cases tok with
  | none => exact .parseFail
  | some tok =>
    dsimp only
    cases splitAtDot tok with
    | none => exact .parseFail
    | some parts =>
      exact .bind (Prog.Ends.act _) fun _ => .bind (.orElseExceed _) fun _ =>
        .bind (namedPort_ends _ _) fun _ => .setCfg _

theorem parseConnect_ends : Finite parseConnect :=
  .bind .getCfg fun _ => .bind .exceedIf fun _ => .bind (.access _ _) fun _ =>
    .bind (getEpSwAndPort_ends _ 0) fun _ => .bind (getEpSwAndPort_ends _ 1) fun _ => .setCfg _

theorem parseMasterInfo_ends : Finite parseMasterInfo :=
  .failLabel <| .bind (getDevidSz_ends _) fun _ => .bind (getInt_ends 16) fun _ =>
    .bind (.setCfg _) fun _ => .bind (getInt_ends 10) fun _ => .setCfg _

theorem parseDir_ends (store : Token → IntCfgParms → IntCfgParms) : Finite (parseDir store) := by
  refine .bind getNextToken_ends fun tok => ?_
  cases tok with
  | none => exact .pure _
  | some tok =>
    dsimp only
    cases getVStr tok with
    | some name => exact .setCfg _
    | none => exact .parseErr

/-- The sizes for which there is no device ID yet. -/
def missing (devids : Fin 3 → DevId) : Nat :=
  (if (devids 0).valid then 0 else 1) + (if (devids 1).valid then 0 else 1) +
    if (devids 2).valid then 0 else 1

theorem missing_update {devids : Fin 3 → DevId} {size : Fin 3} {devid : DevId}
    (unset : ¬(devids size).valid = true) (valid : devid.valid = true) :
    missing (Function.update devids size devid) < missing devids := by
  obtain rfl | rfl | rfl : size = 0 ∨ size = 1 ∨ size = 2 := by omega
  · simp [missing, unset, valid]
  · simp [missing, unset, valid]
  · simp [missing, unset, valid]

theorem failIf_any {condition : Prop} [Decidable condition] (Pre : CfgState → Prop) :
    Prog.Meets .any Pre (failIf condition) (fun _ _ => ¬condition) fun _ _ => True :=
  Prog.Meets.ite (fun _ => Prog.Meets.stop fun _ _ => trivial) fun passes =>
    Prog.Meets.pure fun _ _ => passes

theorem parseDevid_missing (devids : Fin 3 → DevId) (devidSz : Nat) (Pre : CfgState → Prop) :
    Prog.Meets .any Pre (parseDevid devids devidSz)
      (fun next _ => missing next < missing devids) fun _ _ => True := by
  refine Prog.Meets.bind (.any _ _) fun size => Prog.Meets.bind (failIf_any _) fun _ => ?_
  refine Prog.Meets.startingAt fun _ unset => ?_
  refine Prog.Meets.bind (.any _ _) fun didVal => Prog.Meets.bind (.any _ _) fun hc => ?_
  refine Prog.Meets.bind (.any _ _) fun _ => Prog.Meets.pure fun _ _ => ?_
  exact missing_update unset rfl

theorem parseEpDevids_ends : Finite parseEpDevids := by
  refine .failLabel (Prog.Ends.loop (fun devids _ => missing devids) (fun devids => ?_)
    (Prog.decreases_of_meets .any fun _ devids start _ _ => ?_) _)
  · refine .bind (getParmIdx_ends _) fun idx => ?_
    cases idx with
    | none => exact Finite.fail
    | some devidSz =>
      exact Finite.ite (.bind (.bind (.access _ _) fun _ => .bind .failIf fun _ =>
        .bind (getInt_ends 16) fun _ => .bind (getInt_ends 10) fun _ => .bind .failIf fun _ =>
          .pure _) fun _ => .pure _) (.ite (.pure _) .fail)
  · refine Prog.Meets.bind (.any _ _) fun idx => ?_
    cases idx with
    | none => exact Prog.Meets.stop fun _ _ => trivial
    | some devidSz =>
      refine Prog.Meets.ite (fun _ => ?_) fun _ => Prog.Meets.ite (fun _ => ?_) fun _ => ?_
      · refine Prog.Meets.bind (parseDevid_missing devids devidSz _) fun next => ?_
        exact Prog.Meets.pure fun _ fewer => ⟨trivial, fewer⟩
      · exact Prog.Meets.pure fun _ _ => trivial
      · exact Prog.Meets.stop fun _ _ => trivial

theorem parseMportInfo_ends : Finite parseMportInfo :=
  .failLabel <| .bind .getCfg fun _ => .bind .exceedIf fun _ => .bind (.access _ _) fun _ =>
    .bind (getInt_ends 10) fun _ => .bind (.setCfg _) fun _ => .bind (checkMportNumbers_ends _)
      fun _ => .bind (parseOpMode_ends _) fun _ => .bind (getChoice_ends _ _) fun _ =>
        .bind (.setCfg _) fun _ => .bind parseEpDevids_ends fun _ => .setCfg _

/-- A token that was found, and what it leaves to read. -/
def Taken (start : CfgState) (tok : Token) (state : CfgState) : Prop :=
  start.cfg.initErr = false ∧ isComment tok = false ∧
    At start (Source.Took start.src.remaining tok) state

theorem getNextToken_takes (start : CfgState) :
    Prog.Meets cfgSpec (fun state => state = start) getNextToken
      (fun rc state => ∀ tok, rc = some tok → Taken start tok state) fun _ _ => False := by
  refine Prog.Meets.readBind fun cfg => ?_
  refine Prog.Meets.startingAt ?_
  rintro start ⟨rfl, rfl⟩
  refine Prog.Meets.ite (fun _ => Prog.Meets.pure fun _ _ => nofun) fun flag => ?_
  have running : start.cfg.initErr = false := by simpa using flag
  refine Prog.Meets.bind (tryGetNextToken_takes running) fun rc => ?_
  cases rc with
  | none => exact fun _ _ ⟨_, never, _⟩ => by cases never
  | some tok =>
    refine Prog.Meets.pure ?_
    rintro state ⟨found, same, taken⟩ other isOther
    cases same
    cases isOther
    exact ⟨running, taken⟩

theorem requireToken_takes (start : CfgState) :
    Prog.Meets cfgSpec (fun state => state = start) requireToken (Taken start)
      fun _ _ => True := by
  refine Prog.Meets.bind ((getNextToken_takes start).weaken (fun _ same => same)
    (fun _ _ after => after) fun _ _ => False.elim) fun rc => ?_
  cases rc with
  | none => exact Prog.Meets.stop fun _ _ => trivial
  | some tok => exact Prog.Meets.pure fun _ taken => taken tok rfl

theorem getParmIdx_takes (start : CfgState) (parmList : List String) :
    Prog.Meets cfgSpec (fun state => state = start) (getParmIdx parmList)
      (fun idx state => ∀ i, idx = some i → ∃ tok, parmIdx tok parmList = i ∧ Taken start tok state)
      fun _ _ => True := by
  refine Prog.Meets.bind ((getNextToken_takes start).weaken (fun _ same => same)
    (fun _ _ after => after) fun _ _ => False.elim) fun rc => Prog.Meets.pure fun state taken => ?_
  cases rc with
  | none => exact nofun
  | some tok =>
    rintro _ ⟨⟩
    exact ⟨tok, rfl, taken tok rfl⟩

theorem access_any (array : CfgArray) (idx : Nat) (P : CfgState → Prop) :
    Prog.Meets .any P (access array idx) (fun _ => P) fun _ _ => True := by
  refine Prog.Meets.emitBind trivial trivial ?_
  split
  · exact Prog.Meets.pure fun _ before => before
  · exact Prog.Meets.stop fun _ _ => trivial

theorem matchEpToMports_eps (ep : Fin 70) (port : Fin 1) (P : (Fin 70 → IntCfgEp) → Prop) :
    Prog.Meets .any (fun state => P state.cfg.eps) (matchEpToMports ep port)
      (fun _ state => P state.cfg.eps) fun _ _ => True := by
  refine Prog.Meets.readBind fun cfg => ?_
  refine Prog.Meets.weakenPre (?_ : Prog.Meets _ (fun state => P state.cfg.eps) _ _ _)
    fun _ before => before.1
  refine Prog.Meets.forM fun _ _ => Prog.Meets.bind (access_any _ _ _) fun mport =>
    Prog.Meets.bind (access_any _ _ _) fun size => Prog.Meets.readBind fun cfg => ?_
  refine Prog.Meets.ite (fun _ => Prog.Meets.ite (fun _ => ?_) fun _ => ?_) fun _ => ?_
  · exact Prog.Meets.bind (.any _ _) fun _ => Prog.Meets.stop fun _ _ => trivial
  · exact Prog.Meets.change fun _ before => before.1
  · exact Prog.Meets.pure fun _ before => before.1

theorem parseEndpointPort_portCnt (i : Fin 70) (count : Nat) :
    Prog.Meets .any (fun state => (state.cfg.eps i).portCnt = count) (parseEndpointPort i)
      (fun _ state => count = 0 ∧ 0 < (state.cfg.eps i).portCnt) fun _ _ => True := by
  refine Prog.Meets.readBind fun cfg => Prog.Meets.bind
    (?_ : Prog.Meets _ _ _ (fun _ _ => count = 0) _) fun _ => ?_
  · refine Prog.Meets.startingAt ?_
    rintro start ⟨isCount, rfl⟩
    refine Prog.Meets.ite (fun _ => Prog.Meets.bind (.any _ _) fun _ =>
      Prog.Meets.stop fun _ _ => trivial) fun few => Prog.Meets.pure fun _ _ => ?_
    omega
  · refine Prog.Meets.startingAt fun _ isZero => ?_
    refine Prog.Meets.bind (.any _ _) fun port => Prog.Meets.bind (.any _ _) fun _ => ?_
    refine Prog.Meets.bind (?_ : Prog.Meets _ _ _
      (fun _ state => 0 < (state.cfg.eps i).portCnt) _) fun _ => ?_
    · refine Prog.Meets.change fun _ _ => ?_
      simp [IntCfgParms.setEp]
    · exact (matchEpToMports_eps i port fun eps => 0 < (eps i).portCnt).weakenPost
        fun _ _ positive => ⟨isZero, positive⟩

theorem parseEndpointPort_ends (i : Fin 70) : Finite (parseEndpointPort i) :=
  .bind .getCfg fun _ => .bind .exceedIf fun _ => .bind (.access _ _) fun _ =>
    .bind (.bind (getInt_ends 10) fun _ => .bind (getInt_ends 16) fun _ =>
      .bind parseRapidio_ends fun _ => .bind parseEpDevids_ends fun _ => .setCfg _) fun _ =>
      .bind (.setCfg _) fun _ => matchEpToMports_ends i _

theorem endpointLoop_ends (i : Fin 70) : Finite (Prog.loop (fun _ => endpointTurn i) ()) := by
  refine Prog.Ends.loop (fun _ state => 1 - (state.cfg.eps i).portCnt) (fun _ => ?_)
    (Prog.decreases_of_meets .any fun _ _ start _ _ => ?_) ()
  · refine Finite.bind .getCfg fun _ => .ite (.pure _) (.bind (getParmIdx_ends _) fun found => ?_)
    split
    · exact .bind (parseEndpointPort_ends i) fun _ => .pure _
    · exact .pure _
    · exact .parseFail
  · refine Prog.Meets.readBind fun cfg => ?_
    refine Prog.Meets.startingAt ?_
    rintro start ⟨rfl, rfl⟩
    refine Prog.Meets.ite (fun _ => Prog.Meets.pure fun _ _ => trivial) fun _ => ?_
    refine Prog.Meets.bind (getParmIdx_takes start _).toAny fun found => ?_
    split
    · refine Prog.Meets.startingAt fun state taken => ?_
      obtain ⟨tok, -, -, -, src, rfl, -⟩ := taken 0 rfl
      refine Prog.Meets.bind ((parseEndpointPort_portCnt i (start.cfg.eps i).portCnt).weakenPre
        fun _ same => same ▸ rfl) fun _ => Prog.Meets.pure fun state ⟨isZero, positive⟩ => ?_
      refine ⟨trivial, ?_⟩
      show 1 - (state.cfg.eps i).portCnt < 1 - (start.cfg.eps i).portCnt
      omega
    · exact Prog.Meets.pure fun _ _ => trivial
    · exact Prog.Meets.bind (.any _ _) fun _ => Prog.Meets.stop fun _ _ => trivial

theorem parseEndpoint_ends : Finite parseEndpoint :=
  .bind .getCfg fun _ => .bind .exceedIf fun _ => .bind (.access _ _) fun _ =>
    .bind requireToken_ends fun _ => .bind (.setCfg _) fun _ => .bind (endpointLoop_ends _)
      fun _ => .setCfg _

/-- What the loop of `parse_mc_mask` has left to read. -/
def mcMaskVariant (tok : Option Token) (state : CfgState) : Nat :=
  match tok with
  | none => state.src.remaining + 1
  | some last => if state.src.AtEnd last then 0 else state.src.remaining + 1

/-- The last token of the loop of `parse_mc_mask` was the number of a port. -/
def IsPortNum (tok : Option Token) : Prop :=
  ∀ last, tok = some last → tokParsePortNum last 0 ≠ none

theorem mcMaskTurn_takes (i : Fin 20) (ref : RtRef) (idx : Fin 256) (tok : Option Token)
    (start : CfgState) :
    Prog.Meets .any (fun state => state = start) (mcMaskTurn i ref idx tok)
      (Sum.elim (fun next state => IsPortNum next ∧
        mcMaskVariant next state < start.src.remaining + 1) fun _ _ => True)
      fun _ _ => True := by
  refine Prog.Meets.readBind fun src => Prog.Meets.emitBind trivial trivial ?_
  refine Prog.Meets.bind ((requireToken_takes start).toAny.weakenPre fun _ before => before.1)
    fun tok => Prog.Meets.ite (fun _ => Prog.Meets.pure fun _ _ => trivial) fun _ => ?_
  cases parsed : tokParsePortNum tok 0 with
  | none =>
    exact Prog.Meets.bind (Prog.Meets.bind (.any _ _) fun _ => Prog.Meets.stop fun _ _ => trivial)
      fun _ => (fun _ _ => False.elim : Prog.Meets _ (fun _ => False) _ _ _)
  | some pnum =>
    refine Prog.Meets.bind (?_ : Prog.Meets _ _ _ (fun _ => Taken start tok) _) fun _ => ?_
    · exact Prog.Meets.pure fun _ taken => taken
    rintro fuel _ ⟨-, -, src, rfl, fewer, took⟩
    refine ⟨trivial, trivial, ?_, ?_⟩
    · rintro _ ⟨⟩
      simp [parsed]
    · show (if src.AtEnd tok then 0 else src.remaining + 1) < start.src.remaining + 1
      split
      · exact Nat.succ_pos _
      · next notEnd =>
          obtain less | ⟨atEnd, -⟩ := took
          · exact Nat.succ_lt_succ less
          · exact absurd atEnd notEnd

theorem mcMaskTurn_ends (i : Fin 20) (ref : RtRef) (idx : Fin 256) (tok : Option Token) :
    Finite (mcMaskTurn i ref idx tok) :=
  .bind (Prog.Ends.act _) fun _ => .bind (Prog.Ends.emit _) fun _ => .bind requireToken_ends
    fun _ => .ite (.pure _) (.bind (.orElseExceed _) fun _ => .bind (.setCfg _) fun _ => .pure _)

theorem mcMaskLoop_ends (i : Fin 20) (ref : RtRef) (idx : Fin 256) :
    Finite (Prog.loop (mcMaskTurn i ref idx) none) := by
  refine Prog.EndsFrom.weakenPre (Prog.EndsFrom.loop (I := fun tok _ => IsPortNum tok) mcMaskVariant
    (fun tok => (mcMaskTurn_ends i ref idx tok).endsFrom) ?_ none) fun _ _ => nofun
  intro fuel tok state next isPort done accepted
  have after := (mcMaskTurn_takes i ref idx tok state).of_done rfl done
  refine ⟨after.1, after.2.trans_le ?_⟩
  -- the event says that the loop is not at the end with the port number it read last
  cases tok with
  | none => exact Nat.le_refl _
  | some last =>
    have recorded : CfgEvent.mcPort (some last) state.src ∈
        ((mcMaskTurn i ref idx (some last)).run fuel state).trace :=
      List.mem_append_right [] ((Outcome.trace_prefix_andThen
        ⟨.done (), state, [CfgEvent.mcPort (some last) state.src]⟩ _).subset
          (List.mem_singleton_self _))
    have notEnd : ¬state.src.AtEnd last := fun atEnd =>
      isPort last rfl (accepted _ recorded last rfl atEnd)
    simp [mcMaskVariant, notEnd]

theorem parseMcMask_ends (i : Fin 20) (ref : RtRef) : Finite (parseMcMask i ref) :=
  .failLabel <| .bind (getInt_ends 10) fun _ => .bind .exceedIf fun _ =>
    .bind (.access _ _) fun _ => .bind (.setCfg _) fun _ =>
    .bind (mcMaskLoop_ends i ref _) fun _ => .setCfg _

end RioFabric.Libcfg

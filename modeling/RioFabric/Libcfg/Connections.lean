import RioFabric.Libcfg.Statements

/-!
# The connections of a configuration

A connection lists the two ports that it joins, and each port points back to a connection.  Of
all the `CONNECT` statements that name a port, the last one decides what the port points to.
-/

namespace RioFabric.Libcfg

open Lib

namespace IntCfgParms

/-- The end of the connection names the port, and the connection counts. -/
def Names (cfg : IntCfgParms) (port : Port) (ref : ConnRef) : Prop :=
  ref.1.val < cfg.connCnt ∧ (cfg.cons ref.1).ends ref.2 = some port

/-- The place of the end of a connection in the text. -/
def place (ref : ConnRef) : Nat := 2 * ref.1.val + ref.2.val

theorem place_injective : Function.Injective place := by
  rintro ⟨conn, idx⟩ ⟨otherConn, otherIdx⟩ same
  simp only [place] at same
  ext
  · show conn.val = otherConn.val
    omega
  · show idx.val = otherIdx.val
    omega

/-- No later end of a connection names the port. -/
def IsLast (cfg : IntCfgParms) (port : Port) (ref : ConnRef) : Prop :=
  cfg.Names port ref ∧ ∀ other, cfg.Names port other → place other ≤ place ref

theorem IsLast.unique {cfg : IntCfgParms} {port : Port} {ref other : ConnRef}
    (isLast : cfg.IsLast port ref) (otherLast : cfg.IsLast port other) : ref = other :=
  place_injective (Nat.le_antisymm (otherLast.2 ref isLast.1) (isLast.2 other otherLast.1))

/-- The last connection that names the port joins it to the other port. -/
def Joined (cfg : IntCfgParms) (port other : Port) : Prop :=
  ∃ ref, cfg.IsLast port ref ∧ (cfg.cons ref.1).ends (otherEnd ref.2) = some other

/-- Ports point back to the last connection that names them, and connections that count are
complete. -/
structure Linked (cfg : IntCfgParms) : Prop where
  link : ∀ port ref, cfg.link port = some ref ↔ cfg.IsLast port ref
  valid : ∀ conn, conn.val < cfg.connCnt → (cfg.cons conn).valid = true
  ends : ∀ conn, conn.val < cfg.connCnt → ∀ idx,
    ∃ port, (cfg.cons conn).ends idx = some port ∧ cfg.Ready port

theorem linked_initCfgPtr : initCfgPtr.Linked where
  link port ref := by
    have noLink : initCfgPtr.link port = none := by
      cases port <;> rfl
    rw [noLink]
    exact ⟨nofun, fun isLast => absurd isLast.1.1 (Nat.not_lt_zero _)⟩
  valid conn counts := absurd counts (Nat.not_lt_zero _)
  ends conn counts := absurd counts (Nat.not_lt_zero _)

theorem Linked.keep {before after : IntCfgParms} (linked : before.Linked)
    (keeps : before.KeepsLinks after) : after.Linked := by
  have sameNames : ∀ port ref, after.Names port ref ↔ before.Names port ref := by
    intro port ref
    unfold Names
    rw [keeps.connCnt, keeps.cons]
  refine ⟨fun port ref => ?_, fun conn counts => ?_, fun conn counts idx => ?_⟩
  · simp only [keeps.link, linked.link, IsLast, sameNames]
  · rw [keeps.cons]
    exact linked.valid conn (keeps.connCnt ▸ counts)
  · rw [keeps.cons]
    obtain ⟨port, isEnd, ready⟩ := linked.ends conn (keeps.connCnt ▸ counts) idx
    exact ⟨port, isEnd, keeps.ready port ready⟩

section Connect

variable (cfg : IntCfgParms) (conn : Fin 480) (idx : Fin 2) (port : Port)

theorem link_setLink (ref : ConnRef) (other : Port) :
    (cfg.setLink port ref).link other = if other = port then some ref else cfg.link other := by
  cases port with
  | ep i p =>
    cases other with
    | sw j q => simp [setLink, link, setEpPort, setEp]
    | ep j q =>
      by_cases same : j = i
      · subst same
        have samePort : q = p := Subsingleton.elim q p
        simp [setLink, link, setEpPort, setEp, samePort]
      · simp [setLink, link, setEpPort, setEp, same]
  | sw i p =>
    cases other with
    | ep j q => simp [setLink, link, setSwPort, setSw]
    | sw j q =>
      by_cases same : j = i
      · subst same
        by_cases samePort : q = p
        · simp [setLink, link, setSwPort, setSw, samePort]
        · simp [setLink, link, setSwPort, setSw, samePort]
      · simp [setLink, link, setSwPort, setSw, same]

theorem ready_setLink (ref : ConnRef) {other : Port} (ready : cfg.Ready other) :
    (cfg.setLink port ref).Ready other := by
  cases port with
  | ep i p =>
    cases other with
    | sw j q => exact ready
    | ep j q =>
      simp only [setLink, setEpPort, Ready, ports_setEp] at ready ⊢
      split
      · next same =>
          subst same
          by_cases samePort : q = p
          · subst samePort
            simpa using ready
          · simpa [samePort] using ready
      · exact ready
  | sw i p =>
    cases other with
    | ep j q => exact ready
    | sw j q =>
      simp only [setLink, setSwPort, Ready, ports_setSw] at ready ⊢
      split
      · next same =>
          subst same
          by_cases samePort : q = p
          · subst samePort
            simpa using ready
          · simpa [samePort] using ready
      · exact ready

theorem numbered_setLink (ref : ConnRef) (numbered : ∀ idx, Numbered (cfg.sws idx))
    (other : Fin 20) : Numbered ((cfg.setLink port ref).sws other) := by
  cases port with
  | ep i p => exact numbered other
  | sw i p =>
    simp only [setLink, setSwPort, Numbered, ports_setSw]
    split
    · intro q
      by_cases samePort : q = p
      · subst samePort
        simpa using numbered i q
      · simpa [samePort] using numbered i q
    · exact numbered other

theorem counts_connectEnd :
    cfg.SameCounts (cfg.connectEnd conn idx port) ∧
      (cfg.connectEnd conn idx port).connCnt = cfg.connCnt ∧
      (cfg.connectEnd conn idx port).initErr = cfg.initErr ∧
      (cfg.connectEnd conn idx port).mastDidSzIdx = cfg.mastDidSzIdx := by
  cases port with
  | ep i p => exact ⟨⟨rfl, rfl, rfl⟩, rfl, rfl, rfl⟩
  | sw i p => exact ⟨⟨rfl, rfl, rfl⟩, rfl, rfl, rfl⟩

theorem cons_connectEnd :
    (cfg.connectEnd conn idx port).cons = Function.update cfg.cons conn
      { cfg.cons conn with ends := Function.update (cfg.cons conn).ends idx (some port) } := by
  cases port <;> rfl

theorem link_connectEnd (other : Port) :
    (cfg.connectEnd conn idx port).link other =
      if other = port then some (conn, idx) else cfg.link other :=
  link_setLink _ _ _ _

variable {cfg} in
theorem Ready.connectEnd {other : Port} (ready : cfg.Ready other) :
    (cfg.connectEnd conn idx port).Ready other :=
  ready_setLink _ _ _ ready

variable {cfg} in
theorem Bounded.connectEnd (bounded : cfg.Bounded) : (cfg.connectEnd conn idx port).Bounded := by
  obtain ⟨counts, connCnt, initErr, mastDidSzIdx⟩ := cfg.counts_connectEnd conn idx port
  refine ⟨counts.epCnt ▸ bounded.epCnt, counts.swCnt ▸ bounded.swCnt,
    counts.maxMportInfoIdx ▸ bounded.maxMportInfoIdx, connCnt ▸ bounded.connCnt,
    fun running => ?_, ?_⟩
  · rw [mastDidSzIdx]
    exact bounded.mastDidSzIdx (initErr ▸ running)
  · exact numbered_setLink _ _ _ bounded.numbered

end Connect

/-- The connection is complete and counts. -/
def addConn (cfg : IntCfgParms) (conn : Fin 480) : IntCfgParms :=
  { cfg with
    connCnt := cfg.connCnt + 1
    cons := Function.update cfg.cons conn { cfg.cons conn with valid := true } }

section Complete

variable {before middle : IntCfgParms} {conn : Fin 480} {first : Port} (second : Port)

theorem cons_addConn (keeps : (before.connectEnd conn 0 first).KeepsLinks middle) :
    ((middle.connectEnd conn 1 second).addConn conn).cons =
      Function.update before.cons conn
        ⟨true, fun idx => some (if idx = 0 then first else second)⟩ := by
  have ends : Function.update (Function.update (before.cons conn).ends 0 (some first)) 1
      (some second) = fun idx => some (if idx = 0 then first else second) := by
    funext idx
    obtain rfl | rfl : idx = 0 ∨ idx = 1 := by omega
    · simp
    · simp
  simp [addConn, cons_connectEnd, keeps.cons, ends]

theorem connCnt_addConn (keeps : (before.connectEnd conn 0 first).KeepsLinks middle) :
    ((middle.connectEnd conn 1 second).addConn conn).connCnt = before.connCnt + 1 := by
  have outer := (middle.counts_connectEnd conn 1 second).2.1
  have inner := (before.counts_connectEnd conn 0 first).2.1
  simp only [addConn, outer, keeps.connCnt, inner]

theorem names_addConn (isNext : conn.val = before.connCnt)
    (keeps : (before.connectEnd conn 0 first).KeepsLinks middle) (port : Port) (ref : ConnRef) :
    ((middle.connectEnd conn 1 second).addConn conn).Names port ref ↔
      before.Names port ref ∨ ref = (conn, 0) ∧ port = first ∨ ref = (conn, 1) ∧ port = second := by
  obtain ⟨other, idx⟩ := ref
  simp only [Names, connCnt_addConn second keeps, cons_addConn second keeps, Function.update_apply]
  by_cases same : other = conn
  · subst same
    have uncounted : ¬other.val < before.connCnt := by omega
    obtain rfl | rfl : idx = 0 ∨ idx = 1 := by omega
    · simp [isNext, eq_comm]
    · simp [isNext, eq_comm]
  · have older : other.val < before.connCnt + 1 ↔ other.val < before.connCnt := by
      have : other.val ≠ conn.val := fun eq => same (Fin.ext eq)
      omega
    simp [older, same]

theorem link_addConn (keeps : (before.connectEnd conn 0 first).KeepsLinks middle) (port : Port) :
    ((middle.connectEnd conn 1 second).addConn conn).link port =
      if port = second then some (conn, 1)
      else if port = first then some (conn, 0) else before.link port := by
  have same : ((middle.connectEnd conn 1 second).addConn conn).link =
      (middle.connectEnd conn 1 second).link := funext fun port => by cases port <;> rfl
  rw [same, link_connectEnd, keeps.link, link_connectEnd]

theorem Names.place_lt {cfg : IntCfgParms} {port : Port} {ref : ConnRef}
    (names : cfg.Names port ref) {conn : Fin 480} (isNext : conn.val = cfg.connCnt) (idx : Fin 2) :
    place ref < place (conn, idx) := by
  have older := names.1
  simp only [place]
  omega

variable {second} in
theorem Linked.addConn (linked : before.Linked) (isNext : conn.val = before.connCnt)
    (firstReady : before.Ready first) (keeps : (before.connectEnd conn 0 first).KeepsLinks middle)
    (secondReady : middle.Ready second) :
    ((middle.connectEnd conn 1 second).addConn conn).Linked := by
  have names := names_addConn second isNext keeps
  have olderOf : ∀ {other : Fin 480}, other ≠ conn →
      other.val < ((middle.connectEnd conn 1 second).addConn conn).connCnt →
        other.val < before.connCnt := by
    intro other isOther counts
    rw [connCnt_addConn second keeps] at counts
    have : other.val ≠ conn.val := fun eq => isOther (Fin.ext eq)
    omega
  have readyAfter : ∀ {port}, before.Ready port →
      ((middle.connectEnd conn 1 second).addConn conn).Ready port := by
    intro port ready
    have after := (keeps.ready port (ready.connectEnd conn 0 first)).connectEnd conn 1 second
    cases port <;> exact after
  refine ⟨fun port ref => ?_, fun other counts => ?_, fun other counts idx => ?_⟩
  · rw [link_addConn second keeps]
    by_cases isSecond : port = second
    · have isLast : ((middle.connectEnd conn 1 second).addConn conn).IsLast port (conn, 1) := by
        refine ⟨(names _ _).mpr (.inr (.inr ⟨rfl, isSecond⟩)), fun other named => ?_⟩
        obtain older | ⟨rfl, -⟩ | ⟨rfl, -⟩ := (names _ _).mp named
        · exact Nat.le_of_lt (older.place_lt isNext 1)
        · exact Nat.le_succ _
        · exact Nat.le_refl _
      rw [if_pos isSecond, Option.some.injEq]
      exact ⟨fun same => same ▸ isLast, isLast.unique⟩
    · rw [if_neg isSecond]
      by_cases isFirst : port = first
      · have isLast : ((middle.connectEnd conn 1 second).addConn conn).IsLast port (conn, 0) := by
          refine ⟨(names _ _).mpr (.inr (.inl ⟨rfl, isFirst⟩)), fun other named => ?_⟩
          obtain older | ⟨rfl, -⟩ | ⟨-, never⟩ := (names _ _).mp named
          · exact Nat.le_of_lt (older.place_lt isNext 0)
          · exact Nat.le_refl _
          · exact absurd never isSecond
        rw [if_pos isFirst, Option.some.injEq]
        exact ⟨fun same => same ▸ isLast, isLast.unique⟩
      · rw [if_neg isFirst, linked.link]
        simp [IsLast, names, isFirst, isSecond]
  · rw [cons_addConn second keeps, Function.update_apply]
    split
    · rfl
    · next isOther => exact linked.valid other (olderOf isOther counts)
  · rw [cons_addConn second keeps, Function.update_apply]
    split
    · refine ⟨_, rfl, ?_⟩
      split
      · exact readyAfter firstReady
      · have after := secondReady.connectEnd conn 1 second
        cases second <;> exact after
    · next isOther =>
        obtain ⟨port, isEnd, ready⟩ := linked.ends other (olderOf isOther counts) idx
        exact ⟨port, isEnd, readyAfter ready⟩

end Complete

end IntCfgParms

variable {start : CfgState}

theorem namedPort_meets (name : Token) (port : Nat) :
    Prog.Meets cfgSpec (Calm start) (namedPort name port)
      (fun port state => Calm start state ∧ state.cfg.Ready port) fun _ => Flagged start := by
  have ready : ∀ (port : Port) {isValid : IntCfgParms → Bool},
      (∀ cfg : IntCfgParms, isValid cfg = true → cfg.Ready port) →
      Prog.Meets cfgSpec (Calm start)
        (getCfg >>= fun cfg => if isValid cfg then pure port else parseFail)
        (fun port state => Calm start state ∧ state.cfg.Ready port) fun _ => Flagged start := by
    intro port isValid isReady
    refine Prog.Meets.readBind fun cfg => Prog.Meets.ite (fun valid => Prog.Meets.pure ?_)
      fun _ => ?_
    · rintro state ⟨calm, rfl⟩
      exact ⟨calm, isReady state.cfg valid⟩
    · exact Flagged.parseFail.weakenPre fun _ before => before.1
  refine Prog.Meets.bind (findEpName_smooth name).meets fun foundEp => ?_
  cases foundEp with
  | some ep =>
    refine exceedIf_meets (fun _ _ flagged => flagged) fun small => ?_
    refine Prog.Meets.bind (Smooth.access (Nat.lt_of_not_le small)).meets fun port => ?_
    exact ready (.ep ep port) fun _ valid => valid
  | none =>
    refine Prog.Meets.bind (findSwName_smooth name).meets fun foundSw => ?_
    cases foundSw with
    | some sw =>
      refine exceedIf_meets (fun _ _ flagged => flagged) fun small => ?_
      refine Prog.Meets.bind (Smooth.access (Nat.lt_of_not_le small)).meets fun port => ?_
      exact ready (.sw sw port) fun _ valid => valid
    | none => exact Flagged.parseFail

/-- One end of a connection is stored, at a port that is ready for it. -/
theorem getEpSwAndPort_meets (conn : Fin 480) (idx : Fin 2) :
    Prog.Meets cfgSpec (Calm start) (getEpSwAndPort conn idx)
      (fun _ state => ∃ before port, Calm start before ∧ before.cfg.Ready port ∧
        state = { before with cfg := before.cfg.connectEnd conn idx port })
      fun _ => Flagged start := by
  refine Prog.Meets.bind getNextToken_smooth.meets fun tok => ?_
  cases tok with
  | none => exact Flagged.parseFail
  | some tok =>
    dsimp only
    cases splitAtDot tok with
    | none => exact Flagged.parseFail
    | some parts =>
      refine Prog.Meets.bind cutAtDot_smooth.meets fun _ => ?_
      refine orElseExceed_meets (fun _ _ flagged => flagged) fun number _ => ?_
      refine Prog.Meets.bind (namedPort_meets parts.1 number) fun port => ?_
      apply Prog.Meets.change
      intro before ready
      exact ⟨before, port, ready.1, ready.2, rfl⟩

/-- What holds between two statements. -/
structure Sound (start state : CfgState) : Prop where
  bounded : state.cfg.Bounded
  remaining : state.src.remaining ≤ start.src.remaining
  flagged : state.exceeded = true → state.cfg.initErr = true
  linked : state.cfg.initErr = false → state.cfg.Linked

theorem Settled.sound {state : CfgState} (settled : Settled start state)
    (linked : start.cfg.Linked) : Sound start state :=
  ⟨settled.bounded, settled.remaining, settled.flagged, fun _ => linked.keep settled.links⟩

theorem Flagged.sound {middle state : CfgState} (flagged : Flagged middle state)
    (fewer : middle.src.remaining ≤ start.src.remaining) : Sound start state where
  bounded := flagged.1.bounded
  remaining := flagged.1.remaining.trans fewer
  flagged := flagged.1.flagged
  linked running := absurd flagged.2 (by simp [running])

theorem Calm.connectEnd {state : CfgState} (calm : Calm start state) (conn : Fin 480) (idx : Fin 2)
    (port : Port) :
    Calm { state with cfg := state.cfg.connectEnd conn idx port }
      { state with cfg := state.cfg.connectEnd conn idx port } := by
  obtain ⟨-, -, initErr, -⟩ := state.cfg.counts_connectEnd conn idx port
  exact ⟨⟨.refl _, calm.bounded.connectEnd conn idx port, Nat.le_refl _,
    fun exceeded => initErr.trans (calm.flagged exceeded)⟩, .refl _, initErr.trans calm.running⟩

theorem parseConnect_sound (linked : start.cfg.Linked) :
    Prog.Meets cfgSpec (Calm start) parseConnect (fun _ => Sound start) fun _ => Sound start := by
  refine Prog.Meets.readBind fun cfg => ?_
  refine Prog.Meets.startingAt ?_
  rintro origin ⟨originCalm, rfl⟩
  have flags : ∀ (_ : CfgStop) state, Flagged origin state → Sound start state :=
    fun _ _ flagged => flagged.sound originCalm.remaining
  refine Prog.Meets.weakenPre (?_ : Prog.Meets cfgSpec (Calm origin) _ _ _) fun _ same =>
    same ▸ originCalm.toSettled.calm originCalm.running
  refine exceedIf_meets flags fun full => access_meets (Nat.lt_of_not_le full) ?_
  refine Prog.Meets.bind ((getEpSwAndPort_meets _ 0).weaken (fun _ calm => calm)
    (fun _ _ after => after) flags) fun _ => ?_
  refine Prog.Meets.startingAt ?_
  rintro joined ⟨before, first, beforeCalm, firstReady, rfl⟩
  refine Prog.Meets.weakenPre (?_ : Prog.Meets cfgSpec (Calm { before with
    cfg := before.cfg.connectEnd ⟨_, Nat.lt_of_not_le full⟩ 0 first }) _ _ _) fun _ same =>
      same ▸ beforeCalm.connectEnd _ 0 first
  refine Prog.Meets.bind ((getEpSwAndPort_meets _ 1).weaken (fun _ calm => calm)
    (fun _ _ after => after) fun _ _ flagged =>
      flagged.sound (beforeCalm.remaining.trans originCalm.remaining)) fun _ => ?_
  refine Prog.Meets.change ?_
  rintro _ ⟨middle, second, middleCalm, secondReady, rfl⟩
  have isNext : origin.cfg.connCnt = before.cfg.connCnt := beforeCalm.links.connCnt.symm
  have beforeLinked := (linked.keep originCalm.links).keep beforeCalm.links
  have bounded := middleCalm.bounded.connectEnd ⟨_, Nat.lt_of_not_le full⟩ 1 second
  have initErr := (middle.cfg.counts_connectEnd ⟨_, Nat.lt_of_not_le full⟩ 1 second).2.2.1
  refine ⟨?_, ?_, ?_, fun _ => ?_⟩
  · have room := IntCfgParms.connCnt_addConn second middleCalm.links
    rw [← isNext] at room
    exact ⟨bounded.epCnt, bounded.swCnt, bounded.maxMportInfoIdx, room ▸ Nat.lt_of_not_le full,
      bounded.mastDidSzIdx, bounded.numbered⟩
  · exact (middleCalm.remaining.trans beforeCalm.remaining).trans originCalm.remaining
  · exact fun exceeded => initErr.trans (middleCalm.flagged exceeded)
  · exact beforeLinked.addConn isNext firstReady middleCalm.links secondReady

end RioFabric.Libcfg

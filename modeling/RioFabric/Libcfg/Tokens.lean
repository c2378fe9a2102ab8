import RioFabric.Libcfg.Parse

/-!
# Reading tokens

What `try_get_next_token` does to the file.  As long as there is a token left it takes one; at
the end of the file it returns the first word of the last line again, or does not return if
there is no such word or it starts a comment.
-/

namespace RioFabric.Libcfg

open Lib

variable {α : Type} {event : CfgEvent} {src : Source} {start : CfgState} {spec : TraceSpec CfgEvent}

namespace Source

/-- Nothing is left to read, and the buffer holds the given word. -/
def AtEnd (src : Source) (tok : Token) : Prop :=
  src.text = [] ∧ src.save = [] ∧ src.word = some tok

instance (src : Source) (tok : Token) : Decidable (src.AtEnd tok) :=
  inferInstanceAs (Decidable (_ ∧ _ ∧ _))

/-- The buffer starts with a word that is no comment. -/
def Readable (src : Source) : Prop := ∃ tok, src.word = some tok ∧ isComment tok = false

/-- The characters that are still to be read. -/
def remaining (src : Source) : Nat := src.text.length + src.save.length

variable {src : Source} {tok : Token}

theorem word_eq_of_line (line : src.line = some tok) (nonempty : tok ≠ []) :
    src.word = some tok := by
  unfold word
  rw [line]
  cases tok with
  | nil => exact absurd rfl nonempty
  | cons first rest => rfl

theorem line_of_word (word : src.word = some tok) :
    src.line = some tok := by
  unfold Source.word at word
  split at word
  · cases word
  · cases word
  · next other nonempty same =>
      rw [← word]
      exact same

theorem refill_of_end (atEnd : src.text = []) :
    src.refill = ((2 ^ 64 - 1, src.word), ⟨[], some (src.line.getD []), [], true⟩) := by
  simp [refill, atEnd]

theorem word_refill_of_end (atEnd : src.text = []) :
    src.refill.2.word = src.word := by
  rw [refill_of_end atEnd]
  unfold word
  cases src.line with
  | none => rfl
  | some tok => rfl

theorem length_getline {text : List Char} (more : text ≠ []) :
    (getline text).1.length + (getline text).2.length = text.length ∧
      0 < (getline text).1.length := by
  have whole := congrArg List.length (List.takeWhile_append_dropWhile (p := (· ≠ '\n')) (l := text))
  rw [List.length_append] at whole
  have positive := List.length_pos_iff.mpr more
  simp only [getline, List.length_append, List.length_take, List.length_tail]
  omega

theorem length_stripCrlf_cString (line : List Char) :
    (stripCrlf (cString line)).length ≤ line.length := by
  unfold stripCrlf cString
  have first := (List.takeWhile_prefix (· ≠ '\x00') (l := line)).length_le
  have second := (List.takeWhile_prefix (· ≠ '\n')
    (l := line.takeWhile (· ≠ '\x00'))).length_le
  have third := (List.takeWhile_prefix (· ≠ '\r')
    (l := (line.takeWhile (· ≠ '\x00')).takeWhile (· ≠ '\n'))).length_le
  omega

theorem refill_of_more (more : src.text ≠ []) :
    src.refill.2.remaining < src.text.length ∧ 0 < src.refill.1.1 ∧
      src.refill.2.word = src.refill.1.2 := by
  obtain ⟨whole, positive⟩ := length_getline more
  have short := length_stripCrlf_cString (getline src.text).1
  unfold refill
  rw [if_neg more]
  cases found : strtokR (stripCrlf (cString (getline src.text).1)) with
  | none =>
    simp only [remaining, found]
    exact ⟨by simp only [List.length_nil]; omega, positive, rfl⟩
  | some result =>
    obtain ⟨tok, save⟩ := result
    have shorter := length_strtokR found
    simp only [remaining, found]
    exact ⟨by omega, positive, word_eq_of_line rfl (strtokR_ne_nil found)⟩

theorem nextWord_text (src : Source) : src.nextWord.2.text = src.text := by
  unfold nextWord
  split <;> rfl

theorem nextWord_word (src : Source) : src.nextWord.2.word = src.word := by
  unfold nextWord
  split <;> rfl

theorem nextWord_of_none (none : src.nextWord.1 = none) :
    src.nextWord.2.save = [] := by
  unfold nextWord at none ⊢
  split
  · rfl
  · next found => simp [found] at none

theorem nextWord_of_some (some : src.nextWord.1 = some tok) :
    src.nextWord.2.save.length < src.save.length := by
  unfold nextWord at some ⊢
  split
  · next found => simp [found] at some
  · next found => exact length_strtokR found

end Source

namespace CfgEvent

/-- The numbers of ports that the parser does not check are numbers of ports there are. -/
def Allowed : CfgEvent → Prop
  | .swPort port => port < 24
  | .epPort port => port < 1
  | _ => True

/-- An index is smaller than the size of its array. -/
def InBounds : CfgEvent → Prop
  | .access array idx => idx < array.size
  | _ => True

/-- At the end of the file the parser does not go round in a circle: the last line starts with
a word that is no comment, and that is not what `fmd_parse_cfg` or `parse_mc_mask` has just
taken up and will go on with. -/
def Guarded : CfgEvent → Prop
  | .getline src => src.text = [] → src.Readable
  | .statement tok src => src.AtEnd tok → ¬(parmIdx tok statements = 8 ∨ parmIdx tok statements = 9)
  | .mcPort tok src => ∀ last, tok = some last → src.AtEnd last → tokParsePortNum last 0 = none
  | _ => True

end CfgEvent

/-- Traces of the parser: accesses are in bounds exactly if the port numbers from the text
are, and runs that end have not gone in a circle. -/
def cfgSpec : TraceSpec CfgEvent where
  always trace := (∀ event ∈ trace, event.Allowed) ↔ ∀ event ∈ trace, event.InBounds
  atEnd trace := ∀ event ∈ trace, event.Guarded
  always_nil := by simp
  always_append first rest := by
    rw [List.forall_mem_append, List.forall_mem_append, first, rest]
  atEnd_nil := by simp
  atEnd_append first rest := List.forall_mem_append.mpr ⟨first, rest⟩

theorem cfgSpec_always_of (allowed : event.Allowed) (inBounds : event.InBounds) :
    cfgSpec.always [event] := by
  simp [cfgSpec, allowed, inBounds]

theorem cfgSpec_atEnd_of (guarded : event.Guarded) : cfgSpec.atEnd [event] := by
  simpa [cfgSpec] using guarded

/-- The state has not changed but for the file, which is in a state as given. -/
def At (start : CfgState) (P : Source → Prop) (state : CfgState) : Prop :=
  ∃ src, state = { start with src := src } ∧ P src

section Rules

variable {spec : TraceSpec CfgEvent} (start : CfgState) {P : Source → Prop}
  {Fail : CfgStop → CfgState → Prop}

theorem withSource_at {f : Source → α × Source} {Q : α → Source → Prop}
    (holds : ∀ src, P src → Q (f src).1 (f src).2) :
    Prog.Meets spec (At start P) (withSource f) (fun value => At start (Q value)) Fail := by
  rintro fuel state ⟨src, rfl, before⟩
  exact ⟨spec.always_nil, spec.atEnd_nil, (f src).2, rfl, holds src before⟩

end Rules

theorem flushComment_at (spec : TraceSpec CfgEvent) (start : CfgState) (text : List Char)
    (word : Option Token) (tok : Option Token) :
    Prog.Meets spec
      (At start fun src => src.text = text ∧ src.word = word ∧ (tok = none → src.save = []))
      (flushComment tok)
      (fun _ => At start fun src => src.text = text ∧ src.word = word ∧ src.save = [])
      fun _ _ => False := by
  refine Prog.Meets.loop (I := fun tok => At start fun src =>
    src.text = text ∧ src.word = word ∧ (tok = none → src.save = [])) (fun tok => ?_) tok
  cases tok with
  | none =>
    refine Prog.Meets.pure ?_
    rintro _ ⟨src, rfl, sameText, sameWord, read⟩
    exact ⟨src, rfl, sameText, sameWord, read rfl⟩
  | some tok =>
    refine Prog.Meets.bind (withSource_at start (Q := fun tok src =>
      src.text = text ∧ src.word = word ∧ (tok = none → src.save = [])) ?_) fun next => ?_
    · rintro src ⟨sameText, sameWord, -⟩
      exact ⟨src.nextWord_text.trans sameText, src.nextWord_word.trans sameWord,
        Source.nextWord_of_none⟩
    · exact Prog.Meets.pure fun _ after => after

theorem readLine_run {byteCnt : Nat} (positive : 0 < byteCnt) (fuel : Nat) (state : CfgState) :
    (readLine (none, byteCnt)).run fuel state =
      ⟨.done (.inl (state.src.refill.1.2, state.src.refill.1.1)),
        { state with src := state.src.refill.2 }, [.getline state.src]⟩ := by
  show (if byteCnt > 0 then _ else _ : CfgProg _).run fuel state = _
  rw [if_pos positive]
  rfl

/-- A token was read: there is less to read than before, or this is the end of the file. -/
def Source.Took (before : Nat) (tok : Token) (src : Source) : Prop :=
  src.remaining ≤ before ∧
    (src.remaining < before ∨ (src.AtEnd tok ∧ isComment tok = false))

/-- At the head of the inner loop of `try_get_next_token`. -/
def Source.LineLoop (before : Nat) (rc : Option Token) (src : Source) : Prop :=
  match rc with
  | none =>
    src.remaining ≤ before ∧
      (src.text = [] → ∀ tok, src.word = some tok → isComment tok = false)
  | some tok => src.Took before tok

theorem Source.lineLoop_refill {before : Nat} (inv : src.LineLoop before none) :
    0 < src.refill.1.1 ∧ src.refill.2.LineLoop before src.refill.1.2 := by
  obtain ⟨fewer, noComment⟩ := inv
  by_cases atEnd : src.text = []
  · rw [refill_of_end atEnd]
    refine ⟨by simp, ?_⟩
    cases found : src.word with
    | none =>
      refine ⟨by simp [remaining], fun _ tok word => ?_⟩
      have same := word_refill_of_end atEnd
      rw [refill_of_end atEnd] at same
      rw [same, found] at word
      cases word
    | some tok =>
      have same := word_refill_of_end atEnd
      rw [refill_of_end atEnd] at same
      exact ⟨by simp [remaining], .inr ⟨⟨rfl, rfl, same.trans found⟩, noComment atEnd tok found⟩⟩
  · obtain ⟨less, positive, newWord⟩ := refill_of_more atEnd
    have bound : src.text.length ≤ before := by
      unfold remaining at fewer
      omega
    refine ⟨positive, ?_⟩
    cases found : src.refill.1.2 with
    | none =>
      refine ⟨by omega, fun _ tok other => ?_⟩
      rw [newWord, found] at other
      cases other
    | some tok => exact ⟨by omega, .inl (by omega)⟩

/-- The loop over the lines ends with a token of the text. -/
theorem readLine_meets (start : CfgState) (before : Nat) (carried : Option Token × Nat) :
    Prog.Meets cfgSpec
      (fun state => 0 < carried.2 ∧ At start (Source.LineLoop before carried.1) state)
      (Prog.loop readLine carried)
      (fun carried state => 0 < carried.2 ∧
        ∃ tok, carried.1 = some tok ∧ At start (Source.Took before tok) state)
      fun _ _ => False := by
  refine Prog.Meets.loop_unless
    (I := fun carried state => 0 < carried.2 ∧ At start (Source.LineLoop before carried.1) state)
    (B := fun carried state => 0 < carried.2 ∧ carried.1 = none ∧
      At start (fun src => src.text = [] ∧ src.word = none) state)
    (fun carried => ?turn) (fun carried => ?bad) carried
  case turn =>
    obtain ⟨rc, byteCnt⟩ := carried
    cases rc with
    | some tok => exact Prog.Meets.pure fun state ⟨⟨positive, inv⟩, _⟩ => ⟨positive, tok, rfl, inv⟩
    | none =>
      rintro fuel state ⟨⟨positive, src, rfl, inv⟩, good⟩
      rw [readLine_run positive]
      have after := Source.lineLoop_refill inv
      refine ⟨cfgSpec_always_of trivial trivial, cfgSpec_atEnd_of fun atEnd => ?_, after.1, _,
        rfl, after.2⟩
      cases found : src.word with
      | none => exact absurd ⟨positive, rfl, src, rfl, atEnd, found⟩ good
      | some tok => exact ⟨tok, found, inv.2 atEnd tok found⟩
  case bad =>
    obtain ⟨rc, byteCnt⟩ := carried
    rintro fuel state ⟨positive, rfl, src, rfl, atEnd, noWord⟩
    rw [readLine_run positive]
    refine ⟨cfgSpec_always_of trivial trivial, trivial, ?_⟩
    show 0 < src.refill.1.1 ∧ src.refill.1.2 = none ∧ _
    have same := Source.word_refill_of_end atEnd
    rw [Source.refill_of_end atEnd] at same ⊢
    exact ⟨by simp, noWord, _, rfl, rfl, same.trans noWord⟩

/-- Nothing more can be read: the end of the file, and no readable word in the buffer. -/
def Source.Stuck (src : Source) : Prop := src.text = [] ∧ ¬src.Readable

/-- At the head of the outer loop of `try_get_next_token`. -/
def Source.TokenLoop (before : Nat) (rc : Option Token) (src : Source) : Prop :=
  match rc with
  | none => src.remaining ≤ before
  | some _ => src.remaining < before

theorem Source.lineLoop_of_tokenLoop {before : Nat} {rc : Option Token}
    (inv : src.TokenLoop before rc) (good : rc = none → ¬src.Stuck) : src.LineLoop before rc := by
  cases rc with
  | some tok => exact ⟨Nat.le_of_lt inv, .inl inv⟩
  | none =>
    refine ⟨inv, fun atEnd tok word => ?_⟩
    by_contra comment
    refine good rfl ⟨atEnd, fun ⟨other, same, readable⟩ => comment ?_⟩
    rw [word] at same
    rwa [Option.some.inj same]

theorem readToken_stuck (start : CfgState) (carried : Option Token × Nat) :
    Prog.Meets cfgSpec.lax
      (fun state => 0 < carried.2 ∧ carried.1 = none ∧ At start Source.Stuck state)
      (readToken carried)
      (Sum.elim (fun carried state => 0 < carried.2 ∧ carried.1 = none ∧
        At start Source.Stuck state) fun _ _ => False)
      fun _ _ => False := by
  -- the inner loop goes on for ever or finds a comment
  refine Prog.Meets.bind (?loop : Prog.Meets _ _ _ (fun carried state => 0 < carried.2 ∧
    At start Source.Stuck state ∧ ∃ tok, carried.1 = some tok ∧ isComment tok = true) _)
    fun carried => ?rest
  case loop =>
    refine Prog.Meets.weakenPre (Prog.Meets.loop
      (I := fun carried state => 0 < carried.2 ∧ At start Source.Stuck state ∧
        ∀ tok, carried.1 = some tok → isComment tok = true) (fun carried => ?turn) carried) ?entry
    case entry =>
      rintro state ⟨positive, isNone, stuck⟩
      refine ⟨positive, stuck, fun tok found => ?_⟩
      rw [isNone] at found
      cases found
    case turn =>
      obtain ⟨rc, byteCnt⟩ := carried
      cases rc with
      | some tok =>
        exact Prog.Meets.pure fun state ⟨positive, stuck, comment⟩ =>
          ⟨positive, stuck, tok, rfl, comment tok rfl⟩
      | none =>
        rintro fuel state ⟨positive, ⟨src, rfl, atEnd, unreadable⟩, -⟩
        rw [readLine_run positive]
        refine ⟨cfgSpec_always_of trivial trivial, trivial, ?_⟩
        show 0 < src.refill.1.1 ∧ At start Source.Stuck { start with src := src.refill.2 } ∧
          ∀ tok, src.refill.1.2 = some tok → _
        have same := Source.word_refill_of_end atEnd
        rw [Source.refill_of_end atEnd] at same ⊢
        refine ⟨by simp, ⟨_, rfl, rfl, fun ⟨tok, word, readable⟩ => ?_⟩, fun tok found => ?_⟩
        · exact unreadable ⟨tok, same ▸ word, readable⟩
        · by_contra readable
          exact unreadable ⟨tok, found, by simpa using readable⟩
  case rest =>
    obtain ⟨rc, byteCnt⟩ := carried
    refine Prog.Meets.startingAt ?_
    rintro state ⟨positive, ⟨src, rfl, stuck⟩, tok, rfl, comment⟩
    refine Prog.Meets.ite (fun none => absurd positive (by omega)) fun _ => ?_
    show Prog.Meets _ _ (if isComment tok then _ else _) _ _
    rw [if_pos comment]
    refine Prog.Meets.bind (Prog.Meets.weakenPre
      (flushComment_at _ start src.text src.word (some tok)) ?_) fun _ => Prog.Meets.pure ?_
    · rintro _ rfl
      exact ⟨src, rfl, rfl, rfl, nofun⟩
    · rintro _ ⟨other, rfl, sameText, sameWord, -⟩
      refine ⟨positive, rfl, other, rfl, sameText.trans stuck.1, fun ⟨tok, word, readable⟩ => ?_⟩
      exact stuck.2 ⟨tok, sameWord ▸ word, readable⟩

theorem readToken_turn (start : CfgState) (before : Nat) (carried : Option Token × Nat) :
    Prog.Meets cfgSpec
      (fun state => (0 < carried.2 ∧ At start (Source.TokenLoop before carried.1) state) ∧
        ¬(0 < carried.2 ∧ carried.1 = none ∧ At start Source.Stuck state))
      (readToken carried)
      (Sum.elim
        (fun carried state => 0 < carried.2 ∧ carried.1 = none ∧
          At start (Source.remaining · < before) state)
        fun rc state => ∃ tok, rc = some tok ∧ isComment tok = false ∧
          At start (Source.Took before tok) state)
      fun _ _ => False := by
  refine Prog.Meets.bind (Prog.Meets.weakenPre (readLine_meets start before carried) ?_)
    fun carried => ?_
  · rintro state ⟨⟨positive, src, rfl, inv⟩, good⟩
    exact ⟨positive, src, rfl, Source.lineLoop_of_tokenLoop inv fun isNone stuck =>
      good ⟨positive, isNone, src, rfl, stuck⟩⟩
  · obtain ⟨rc, byteCnt⟩ := carried
    refine Prog.Meets.startingAt ?_
    rintro state ⟨positive, tok, rfl, src, rfl, fewer, took⟩
    refine Prog.Meets.ite (fun none => absurd positive (by omega)) fun _ => ?_
    refine Prog.Meets.ite (fun comment => ?_) fun noComment => Prog.Meets.pure ?_
    · have less : src.remaining < before := by
        obtain less | ⟨-, noComment⟩ := took
        · exact less
        · rw [noComment] at comment
          cases comment
      refine Prog.Meets.bind (Prog.Meets.weakenPre
        (flushComment_at _ start src.text src.word (some tok)) ?_) fun _ => Prog.Meets.pure ?_
      · rintro _ rfl
        exact ⟨src, rfl, rfl, rfl, nofun⟩
      · rintro _ ⟨other, rfl, sameText, -, read⟩
        refine ⟨positive, rfl, other, rfl, ?_⟩
        show other.remaining < before
        unfold Source.remaining at less ⊢
        rw [sameText, read, List.length_nil]
        omega
    · rintro _ rfl
      exact ⟨tok, rfl, by simpa using noComment, src, rfl, fewer, took⟩

/-- The loop over the tokens ends with one that begins no comment. -/
theorem readToken_meets (start : CfgState) (before : Nat) (carried : Option Token × Nat) :
    Prog.Meets cfgSpec
      (fun state => 0 < carried.2 ∧ At start (Source.TokenLoop before carried.1) state)
      (Prog.loop readToken carried)
      (fun rc state => ∃ tok, rc = some tok ∧ isComment tok = false ∧
        At start (Source.Took before tok) state)
      fun _ _ => False := by
  refine Prog.Meets.loop_unless
    (I := fun carried state => 0 < carried.2 ∧ At start (Source.TokenLoop before carried.1) state)
    (B := fun carried state => 0 < carried.2 ∧ carried.1 = none ∧ At start Source.Stuck state)
    (fun carried => ?_) (readToken_stuck start) carried
  refine (readToken_turn start before carried).weakenPost fun result state after => ?_
  cases result with
  | inr rc => exact after
  | inl carried =>
    obtain ⟨rc, byteCnt⟩ := carried
    obtain ⟨positive, rfl, src, rfl, less⟩ := after
    exact ⟨positive, src, rfl, Nat.le_of_lt less⟩

theorem Source.tokenLoop_start (src : Source) :
    src.start.2.TokenLoop src.remaining src.start.1 := by
  unfold start
  cases line : src.line with
  | none => exact Nat.le_refl _
  | some word =>
    show src.nextWord.2.TokenLoop src.remaining src.nextWord.1
    have sameText := src.nextWord_text
    cases found : src.nextWord.1 with
    | none =>
      have read := nextWord_of_none found
      simp only [TokenLoop, remaining, sameText, read, List.length_nil]
      omega
    | some tok =>
      have less := nextWord_of_some found
      simp only [TokenLoop, remaining, sameText]
      omega

theorem Source.start_of_atEnd {last : Token} (atEnd : src.AtEnd last) :
    src.start = (none, src) := by
  obtain ⟨text, line, save, isFirst⟩ := src
  obtain ⟨-, noSave, word⟩ := atEnd
  cases noSave
  cases line_of_word word
  rfl

theorem tryGetNextToken_takes (running : start.cfg.initErr = false) :
    Prog.Meets cfgSpec (fun state => state = start) tryGetNextToken
      (fun rc state => ∃ tok, rc = some tok ∧ isComment tok = false ∧
        At start (Source.Took start.src.remaining tok) state)
      fun _ _ => False := by
  refine Prog.Meets.readBind fun cfg => ?_
  refine Prog.Meets.startingAt ?_
  rintro start ⟨rfl, rfl⟩
  rw [if_neg (by simp [running])]
  refine Prog.Meets.bind (Prog.Meets.weakenPre (withSource_at start
    (P := fun src => src = start.src)
    (Q := fun rc src => src.TokenLoop start.src.remaining rc) ?_) ?_) fun rc => ?_
  · rintro _ rfl
    exact start.src.tokenLoop_start
  · intro state same
    exact ⟨start.src, same, rfl⟩
  · exact (readToken_meets start start.src.remaining (rc, 1)).weakenPre fun _ inv =>
      ⟨Nat.one_pos, inv⟩

theorem tryGetNextToken_of_initErr (stopped : start.cfg.initErr = true) :
    Prog.Meets spec (fun state => state = start) tryGetNextToken
      (fun rc state => rc = none ∧ state = start) fun _ _ => False := by
  refine Prog.Meets.readBind fun cfg => ?_
  refine Prog.Meets.startingAt ?_
  rintro _ ⟨rfl, rfl⟩
  rw [if_pos stopped]
  exact Prog.Meets.pure fun _ same => ⟨rfl, same⟩

/-- A specification that does not restrict calls of `getline`. -/
def PermitsGetline (spec : TraceSpec CfgEvent) : Prop :=
  ∀ src, spec.always [.getline src] ∧ spec.atEnd [.getline src]

theorem permitsGetline_lax : PermitsGetline cfgSpec.lax :=
  fun _ => ⟨cfgSpec_always_of trivial trivial, trivial⟩

theorem permitsGetline_any : PermitsGetline .any := fun _ => ⟨trivial, trivial⟩

theorem tryGetNextToken_atEnd {last : Token} {Fail : CfgStop → CfgState → Prop}
    (permits : PermitsGetline spec) (running : start.cfg.initErr = false)
    (noComment : isComment last = false) :
    Prog.Meets spec (At start (Source.AtEnd · last)) tryGetNextToken
      (fun rc state => rc = some last ∧ At start (Source.AtEnd · last) state) Fail := by
  refine Prog.Meets.readBind fun cfg => ?_
  refine Prog.Meets.startingAt ?_
  rintro _ ⟨⟨src, rfl, atEnd⟩, rfl⟩
  rw [if_neg (by simp [running])]
  have readLine_atEnd : ∀ carried : Option Token × Nat, Prog.Meets spec
      (fun state => 0 < carried.2 ∧ (carried.1 = none ∨ carried.1 = some last) ∧
        At start (Source.AtEnd · last) state)
      (Prog.loop readLine carried)
      (fun carried state => 0 < carried.2 ∧ carried.1 = some last ∧
        At start (Source.AtEnd · last) state) Fail := by
    refine Prog.Meets.loop fun carried => ?_
    obtain ⟨rc, byteCnt⟩ := carried
    cases rc with
    | some tok =>
      refine Prog.Meets.pure ?_
      rintro state ⟨positive, found, inv⟩
      exact ⟨positive, by simpa using found, inv⟩
    | none =>
      rintro fuel state ⟨positive, -, src, rfl, noText, -, word⟩
      rw [readLine_run positive]
      refine ⟨(permits _).1, (permits _).2, ?_⟩
      show 0 < src.refill.1.1 ∧ (src.refill.1.2 = none ∨ src.refill.1.2 = some last) ∧ _
      have same := Source.word_refill_of_end noText
      rw [Source.refill_of_end noText] at same ⊢
      exact ⟨by simp, .inr word, _, rfl, rfl, rfl, same.trans word⟩
  refine Prog.Meets.bind (Prog.Meets.weakenPre (withSource_at start
    (P := fun src => src.AtEnd last) (Q := fun rc src => rc = none ∧ src.AtEnd last) ?_) ?_)
    fun rc => ?_
  · intro src atEnd
    rw [Source.start_of_atEnd atEnd]
    exact ⟨rfl, atEnd⟩
  · rintro _ rfl
    exact ⟨src, rfl, atEnd⟩
  · refine Prog.Meets.weakenPre (Prog.Meets.loop (I := fun carried state =>
      0 < carried.2 ∧ carried.1 = none ∧ At start (Source.AtEnd · last) state) (fun carried => ?_)
      (rc, 1)) ?_
    · refine Prog.Meets.bind ((readLine_atEnd carried).weakenPre
        fun _ ⟨positive, isNone, inv⟩ => ⟨positive, .inl isNone, inv⟩) fun carried => ?_
      refine Prog.Meets.startingAt ?_
      obtain ⟨rc, byteCnt⟩ := carried
      rintro _ ⟨positive, rfl, inv⟩
      refine Prog.Meets.ite (fun none => absurd positive (by omega)) fun _ => ?_
      show Prog.Meets _ _ (if isComment last then _ else _) _ _
      rw [if_neg (by simp [noComment])]
      exact Prog.Meets.pure fun _ same => ⟨rfl, same ▸ inv⟩
    · rintro _ ⟨src, rfl, rfl, atEnd⟩
      exact ⟨Nat.one_pos, rfl, src, rfl, atEnd⟩

theorem flushComment_ends (tok : Option Token) :
    Prog.Ends CfgEvent.Guarded (flushComment tok) := by
  refine Prog.Ends.loop (fun tok state => if tok.isNone then 0 else state.src.save.length + 1)
    (fun tok => ?_) (Prog.decreases_of_meets .any fun _ tok start _ _ => ?_) tok
  · cases tok with
    | none => exact .act _
    | some tok => exact .bind (.act _) fun _ => .act _
  · cases tok with
    | none => exact Prog.Meets.pure fun _ _ => trivial
    | some tok =>
      refine Prog.Meets.bind (Prog.Meets.weakenPre (withSource_at start
        (P := fun src => src = start.src)
        (Q := fun tok src => tok.isNone = false → src.save.length < start.src.save.length) ?_)
        fun _ same => ⟨start.src, same, rfl⟩) fun next => Prog.Meets.pure ?_
      · rintro _ rfl found
        obtain ⟨tok, found⟩ := Option.isSome_iff_exists.mp (by simpa using found)
        exact Source.nextWord_of_some found
      · rintro _ ⟨src, rfl, less⟩
        refine ⟨trivial, ?_⟩
        cases next with
        | none => exact Nat.succ_pos _
        | some tok => exact Nat.succ_lt_succ (less rfl)

theorem readLine_ends (carried : Option Token × Nat) :
    Prog.Ends CfgEvent.Guarded (Prog.loop readLine carried) := by
  refine Prog.Ends.loop
    (fun carried state => if carried.1.isSome then 0 else state.src.text.length + 1)
    (fun carried => ?_) (fun fuel carried state next _ done accepted => ⟨trivial, ?_⟩) carried
  · obtain ⟨rc, byteCnt⟩ := carried
    cases rc with
    | some tok => exact .act _
    | none => exact .ite (.bind (.act _) fun _ => .bind (.emit _) fun _ =>
      .bind (.act _) fun _ => .act _) (.act _)
  · obtain ⟨rc, byteCnt⟩ := carried
    cases rc with
    | some tok => cases done
    | none =>
      by_cases positive : 0 < byteCnt
      · rw [readLine_run positive] at done accepted ⊢
        cases done
        have guarded := accepted _ (List.mem_singleton_self _)
        show (if state.src.refill.1.2.isSome then 0 else state.src.refill.2.text.length + 1) < _
        by_cases atEnd : state.src.text = []
        · obtain ⟨tok, word, -⟩ := guarded atEnd
          rw [Source.refill_of_end atEnd]
          simp [word]
        · obtain ⟨less, -, -⟩ := Source.refill_of_more atEnd
          unfold Source.remaining at less
          split
          · exact Nat.succ_pos _
          · exact Nat.succ_lt_succ (by omega)
      · have stays : (readLine (none, byteCnt)).run fuel state =
            ⟨.done (.inr (none, byteCnt)), state, []⟩ := by
          show (if byteCnt > 0 then _ else _ : CfgProg _).run fuel state = _
          rw [if_neg positive]
          rfl
        rw [stays] at done
        cases done

theorem getline_mem_readToken {byteCnt fuel : Nat} {state : CfgState} (positive : 0 < byteCnt)
    (ended : ((readToken (none, byteCnt)).run fuel state).Ended) :
    .getline state.src ∈ ((readToken (none, byteCnt)).run fuel state).trace := by
  cases fuel with
  | zero => exact ended.elim
  | succ fuel =>
    refine (Outcome.trace_prefix_andThen _ _).subset ?_
    rw [Prog.loop_run_succ]
    refine (Outcome.trace_prefix_andThen _ _).subset ?_
    rw [readLine_run positive]
    exact List.mem_singleton_self _

theorem readToken_of_zero (rc : Option Token) (fuel : Nat) (state : CfgState)
    (next : Option Token × Nat) :
    ((readToken (rc, 0)).run fuel state).ending ≠ .done (.inl next) := by
  cases fuel with
  | zero => nofun
  | succ fuel =>
    have leaves : ((readToken (rc, 0)).run (fuel + 1) state).ending = .done (.inr none) := by
      cases rc with
      | none => rfl
      | some tok => rfl
    rw [leaves]
    nofun

theorem readToken_ends (carried : Option Token × Nat) :
    Prog.Ends CfgEvent.Guarded (Prog.loop readToken carried) := by
  refine Prog.Ends.loop
    (fun carried state => state.src.remaining + if carried.1.isSome then 1 else 0)
    (fun carried => ?_) (fun fuel carried state next _ done accepted => ⟨trivial, ?_⟩) carried
  · refine .bind (readLine_ends carried) fun carried => ?_
    refine .ite (.act _) ?_
    obtain ⟨rc, byteCnt⟩ := carried
    cases rc with
    | none => exact .act _
    | some tok => exact .ite (.bind (flushComment_ends _) fun _ => .act _) (.act _)
  · obtain ⟨rc, byteCnt⟩ := carried
    obtain rfl | positive := Nat.eq_zero_or_pos byteCnt
    · exact absurd done (readToken_of_zero rc fuel state next)
    · have good : ¬(0 < byteCnt ∧ rc = none ∧ At state Source.Stuck state) := by
        rintro ⟨-, rfl, src, same, atEnd, unreadable⟩
        have ended : ((readToken (none, byteCnt)).run fuel state).Ended := by
          simp [Outcome.Ended, done]
        have sameSource : state.src = src := congrArg CfgState.src same
        have guarded := accepted _ (getline_mem_readToken positive ended)
        rw [sameSource] at guarded
        exact unreadable (guarded atEnd)
      have inv : At state (Source.TokenLoop
          (state.src.remaining + if rc.isSome then 1 else 0) rc) state := by
        refine ⟨state.src, rfl, ?_⟩
        cases rc with
        | none => exact Nat.le_refl _
        | some tok => exact Nat.lt_succ_self _
      have satisfies := @readToken_turn state _ (rc, byteCnt) fuel state ⟨⟨positive, inv⟩, good⟩
      simp only [Outcome.Satisfies, done] at satisfies
      obtain ⟨-, -, -, isNone, src, same, less⟩ := satisfies
      show _ + (if next.1.isSome then 1 else 0) < _
      rw [isNone, same]
      exact less

theorem tryGetNextToken_ends : Prog.Ends CfgEvent.Guarded tryGetNextToken :=
  .bind (.act _) fun _ => .ite (.act _) (.bind (.act _) fun _ => readToken_ends _)

end RioFabric.Libcfg

import RioFabric.Librsvdmem.PhysMem

/-!
# The search as one through the lines

Up to a length, `read_a_line` gives the lines of the file whole, without an empty line; it is
never given a part of a line.  So `get_phys_mem` searches the lines of the file one after the
other, until one is empty, too long, or has the name.
-/

namespace RioFabric.Librsvdmem

open Lib Libcfg Libcli

variable {max pos : Nat} {byte : Char} {text line tail : List Char}

/-- The text is the line with `tail` after it, which starts with a newline if there is any. -/
structure FirstLine (text line tail : List Char) : Prop where
  text_eq : text = line ++ tail
  free : '\n' ∉ line
  ends : tail = [] ∨ ∃ rest, tail = '\n' :: rest

theorem exists_firstLine (text : List Char) : ∃ line tail, FirstLine text line tail := by
  induction text with
  | nil => exact ⟨[], [], rfl, List.not_mem_nil, .inl rfl⟩
  | cons c text ih =>
    by_cases newline : c = '\n'
    · exact ⟨[], c :: text, rfl, List.not_mem_nil, .inr ⟨text, by rw [newline]⟩⟩
    · obtain ⟨line, tail, text_eq, free, ends⟩ := ih
      refine ⟨c :: line, tail, by rw [text_eq, List.cons_append], ?_, ends⟩
      rintro (_ | ⟨_, inLine⟩)
      · exact newline rfl
      · exact free inLine

/-- The other lines of a text. -/
def otherLines : List Char → List (List Char)
  | [] => []
  | _ :: rest => rest.splitOn '\n'

theorem FirstLine.splitOn_eq (first : FirstLine text line tail) :
    text.splitOn '\n' = line :: otherLines tail := by
  rw [first.text_eq]
  obtain rfl | ⟨rest, rfl⟩ := first.ends
  · rw [List.append_nil, List.splitOn_eq_singleton first.free]
    rfl
  · rw [List.splitOn_append_cons_self_of_not_mem first.free]
    rfl

@[simp] theorem readOn_newline (max pos : Nat) (text : List Char) :
    readOn max pos '\n' text = (pos, ['\n'], text) := by
  cases text with
  | nil => simp [readOn]
  | cons next text => simp [readOn]

theorem readOn_nil (below : pos < max - 2) (other : byte ≠ '\n') :
    readOn max pos byte [] = (pos + 1, [byte], []) := if_pos ⟨below, other⟩

theorem readOn_cons (below : pos < max - 2) (other : byte ≠ '\n') (next : Char) :
    readOn max pos byte (next :: text) =
      ((readOn max (pos + 1) next text).1, byte :: (readOn max (pos + 1) next text).2.1,
        (readOn max (pos + 1) next text).2.2) := if_pos ⟨below, other⟩

theorem readOn_full (full : max - 2 ≤ pos) : readOn max pos byte text = (pos, [byte], text) := by
  cases text with
  | nil => exact if_neg fun room => absurd room.1 (not_lt.mpr full)
  | cons next text => exact if_neg fun room => absurd room.1 (not_lt.mpr full)

theorem readOn_line (free : '\n' ∉ byte :: line) (ends : tail = [] ∨ ∃ rest, tail = '\n' :: rest)
    (short : pos + line.length < max - 2) :
    readOn max pos byte (line ++ tail) =
      (pos + line.length + 1, byte :: line ++ tail.take 1, tail.drop 1) := by
  induction line generalizing pos byte with
  | nil =>
    have other : byte ≠ '\n' := fun same => free (same ▸ List.mem_cons_self)
    obtain rfl | ⟨rest, rfl⟩ := ends
    · exact readOn_nil short other
    · have below : pos < max - 2 := short
      rw [List.nil_append, readOn_cons below other, readOn_newline]
      rfl
  | cons next line ih =>
    rw [List.length_cons] at short ⊢
    have other : byte ≠ '\n' := fun same => free (same ▸ List.mem_cons_self)
    rw [List.cons_append, readOn_cons (by omega) other,
      ih (fun inLine => free (List.mem_cons_of_mem byte inLine)) (by omega)]
    simp only [List.cons_append, Prod.mk.injEq, and_true]
    omega

theorem readOn_long (free : '\n' ∉ byte :: line) (ends : tail = [] ∨ ∃ rest, tail = '\n' :: rest)
    (room : pos ≤ max - 2) (long : max - 2 ≤ pos + line.length + 1) :
    (readOn max pos byte (line ++ tail)).1 = max - 2 ∧
      (readOn max pos byte (line ++ tail)).2.1.length + pos ≤ max - 2 + 1 := by
  induction line generalizing pos byte with
  | nil =>
    rw [List.length_nil] at long
    obtain full | below := Nat.eq_or_lt_of_le room
    · rw [readOn_full full.ge]
      exact ⟨full, by rw [List.length_singleton]; omega⟩
    · rw [readOn_line free ends below, List.length_nil, List.length_append, List.length_singleton]
      have few := List.length_take_le 1 tail
      exact ⟨by omega, by omega⟩
  | cons next line ih =>
    rw [List.length_cons] at long
    obtain full | below := Nat.eq_or_lt_of_le room
    · rw [readOn_full full.ge]
      exact ⟨full, by rw [List.length_singleton]; omega⟩
    · have other : byte ≠ '\n' := fun same => free (same ▸ List.mem_cons_self)
      rw [List.cons_append, readOn_cons below other]
      obtain ⟨last, count⟩ := @ih (pos + 1) next
        (fun inLine => free (List.mem_cons_of_mem byte inLine)) (by omega) (by omega)
      exact ⟨last, by rw [List.length_cons]; omega⟩

/-- The length of the longest line that is taken. -/
def longest : Nat := memCfgMaxLineLen - 3

theorem readALine_nil (first : FirstLine text [] tail) :
    (readALine memCfgMaxLineLen text).count = 0 := by
  rw [first.text_eq]
  obtain rfl | ⟨rest, rfl⟩ := first.ends
  · rfl
  · rw [List.nil_append, readALine, readOn_newline]
    rfl

theorem readALine_short (first : FirstLine text line tail) (nonempty : line ≠ [])
    (short : line.length ≤ longest) :
    readALine memCfgMaxLineLen text = ⟨line.length + 1, line ++ tail.take 1, tail.drop 1⟩ := by
  obtain ⟨byte, line, rfl⟩ := List.exists_cons_of_ne_nil nonempty
  rw [List.length_cons] at short
  rw [first.text_eq, List.cons_append, readALine, readOn_line first.free first.ends]
  · simp
  · unfold longest at short
    omega

theorem readALine_long (first : FirstLine text line tail) (long : longest < line.length) :
    (readALine memCfgMaxLineLen text).count = memCfgMaxLineLen - 1 ∧
      (readALine memCfgMaxLineLen text).byteAt (memCfgMaxLineLen - 1) = '\x00' := by
  obtain ⟨byte, line, rfl⟩ := List.exists_cons_of_length_pos (Nat.zero_lt_of_lt long)
  rw [List.length_cons] at long
  have size : memCfgMaxLineLen = 255 := rfl
  have most : longest = 252 := rfl
  obtain ⟨last, length⟩ := @readOn_long memCfgMaxLineLen 0 byte line tail first.free first.ends
    (Nat.zero_le _) (by omega)
  rw [first.text_eq, List.cons_append]
  unfold readALine LineRead.byteAt
  dsimp only
  have few : (readOn memCfgMaxLineLen 0 byte (line ++ tail)).2.1.length ≤ memCfgMaxLineLen - 1 := by
    omega
  rw [last, List.getD_eq_getElem?_getD, List.getElem?_eq_none few]
  exact ⟨rfl, rfl⟩

theorem strtokR_newline (line : List Char) : strtokR (line ++ ['\n']) = strtokR line := by
  unfold strtokR cString
  by_cases nul : ∀ c ∈ line, decide (c ≠ '\x00') = true
  · rw [List.takeWhile_append_of_pos nul, List.takeWhile_eq_self_iff.mpr nul]
    rw [show ['\n'].takeWhile (· ≠ '\x00') = ['\n'] from rfl,
      List.splitOnP_append_cons line [] (rfl : isDelim '\n' = true), List.splitOnP_nil,
      List.filter_append]
    simp
  · rw [List.takeWhile_append, if_neg]
    intro whole
    rw [← (List.takeWhile_prefix _).eq_of_length whole] at nul
    exact nul fun c inLine => List.mem_takeWhile_imp (p := fun c => decide (c ≠ '\x00')) inLine

variable {parmName : List Char}

theorem parseLine_newline (parmName line : List Char) (region : Region) :
    parseLine parmName (line ++ ['\n']) region = parseLine parmName line region := by
  rw [parseLine, strtokR_newline]
  rfl

section

variable (first : FirstLine text line tail)
include first

theorem FirstLine.parseLine_eq (region : Region) :
    parseLine parmName (line ++ tail.take 1) region = parseLine parmName line region := by
  obtain rfl | ⟨rest, rfl⟩ := first.ends
  · rw [List.take_nil, List.append_nil]
  · exact parseLine_newline parmName line region

/-- Search lines for the name: what is in `*sa` and `*sz` in the end, and how the search ends.
It goes on if there is no other line to search. -/
def searchLines (parmName : List Char) : List (List Char) → Region → Region × Progress
  | [], region => (region, .goesOn)
  | line :: lines, region =>
    if line = [] then (region, .goesOn)
    else if longest < line.length then (region, .fails efbig)
    else
      match parseLine parmName line region with
      | (region, .goesOn) => searchLines parmName lines region
      | found => found

/-- How the loop ends. -/
def Progress.ending : Progress → Ending Int Bool
  | .goesOn => .done false
  | .fails errno => .stopped errno
  | .isDone => .done true

/-- The line in a buffer. -/
def lineOf (buff : List Char) : List Char := buff.takeWhile (· ≠ '\n')

theorem FirstLine.lineOf_eq :
    lineOf (line ++ tail.take 1) = line := by
  have free : ∀ c ∈ line, decide (c ≠ '\n') = true := by
    intro c inLine
    exact decide_eq_true fun same => first.free (same ▸ inLine)
  unfold lineOf
  rw [List.takeWhile_append_of_pos free]
  obtain rfl | ⟨rest, rfl⟩ := first.ends
  · exact List.append_nil line
  · exact List.append_nil line

/-- The lines before the first that is empty. -/
def leadingLines (text : List Char) : List (List Char) := (text.splitOn '\n').takeWhile (· ≠ [])

/-- A loop with this outcome has searched the lines that are left, and has looked at none but
whole lines, one after the other. -/
structure Searches (parmName : List Char) (search : Search)
    (outcome : Outcome Int Search (List Char) Bool) : Prop where
  region : outcome.state.region =
    (searchLines parmName (search.text.splitOn '\n') search.region).1
  errno : outcome.state.errno = search.errno
  ending : outcome.ending =
    (searchLines parmName (search.text.splitOn '\n') search.region).2.ending
  lines : outcome.trace.map lineOf <+: leadingLines search.text

theorem FirstLine.searchLines_drop (region : Region) :
    searchLines parmName ((tail.drop 1).splitOn '\n') region =
      searchLines parmName (otherLines tail) region := by
  obtain rfl | ⟨rest, rfl⟩ := first.ends
  · rfl
  · rfl

theorem FirstLine.leadingLines_eq (nonempty : line ≠ []) :
    leadingLines text = line :: leadingLines (tail.drop 1) := by
  rw [leadingLines, first.splitOn_eq,
    List.takeWhile_cons_of_pos (p := fun line => decide (line ≠ [])) (decide_eq_true nonempty)]
  obtain rfl | ⟨rest, rfl⟩ := first.ends
  · rfl
  · rfl

end

section Turns

variable {fuel : Nat} {search : Search}

theorem lineTurn_run_blank (first : FirstLine search.text [] tail) :
    (lineTurn parmName).run fuel search =
      ⟨.done (.inr false), { search with text := (readALine memCfgMaxLineLen search.text).rest },
        []⟩ := by
  show ((nextLine).run fuel search).andThen _ = _
  simp only [nextLine, Prog.run, EStateM.run, Outcome.andThen, readALine_nil first, if_true]
  rfl

theorem lineTurn_run_long (first : FirstLine search.text line tail) (long : longest < line.length) :
    (lineTurn parmName).run fuel search =
      ⟨.stopped efbig, { search with text := (readALine memCfgMaxLineLen search.text).rest },
        []⟩ := by
  obtain ⟨count, last⟩ := readALine_long first long
  have nonempty : memCfgMaxLineLen - 1 ≠ 0 := by decide
  show ((nextLine).run fuel search).andThen _ = _
  simp only [nextLine, Prog.run, EStateM.run, Outcome.andThen, count, last, if_neg nonempty]
  rfl

/-- How a turn ends in which a line is looked at. -/
def Progress.turnEnding : Progress → Ending Int (Unit ⊕ Bool)
  | .goesOn => .done (.inl ())
  | .fails errno => .stopped errno
  | .isDone => .done (.inr true)

theorem takeLine_run (buff : List Char) :
    (takeLine parmName buff).run fuel search =
      ⟨(parseLine parmName buff search.region).2.turnEnding,
        { search with region := (parseLine parmName buff search.region).1 }, []⟩ := by
  simp only [takeLine, Prog.run, EStateM.run]
  cases (parseLine parmName buff search.region).2 with
  | goesOn => rfl
  | fails errno => rfl
  | isDone => rfl

theorem lineTurn_run_short (first : FirstLine search.text line tail) (nonempty : line ≠ [])
    (short : line.length ≤ longest) :
    (lineTurn parmName).run fuel search =
      ⟨(parseLine parmName line search.region).2.turnEnding,
        { search with
          text := tail.drop 1
          region := (parseLine parmName line search.region).1 },
        [line ++ tail.take 1]⟩ := by
  have fits : ¬(memCfgMaxLineLen - 1 = line.length + 1 ∧
      LineRead.byteAt ⟨line.length + 1, line ++ tail.take 1, tail.drop 1⟩
        (memCfgMaxLineLen - 1) ≠ '\n') := by
    rintro ⟨full, -⟩
    simp only [longest, memCfgMaxLineLen] at short full
    omega
  show ((nextLine).run fuel search).andThen _ = _
  simp only [nextLine, Prog.run, EStateM.run, Outcome.andThen, readALine_short first nonempty short,
    if_neg (Nat.succ_ne_zero _), if_neg fits]
  show Outcome.mk ((takeLine parmName _).run fuel _).ending ((takeLine parmName _).run fuel _).state
    ([] ++ ([line ++ tail.take 1] ++ ((takeLine parmName _).run fuel _).trace)) = _
  rw [takeLine_run, first.parseLine_eq]
  rfl

end Turns

theorem Searches.of_found {search : Search} {found : Region × Progress} {trace : List (List Char)}
    (rest : List Char)
    (searched : searchLines parmName (search.text.splitOn '\n') search.region = found)
    (lines : trace.map lineOf <+: leadingLines search.text) :
    Searches parmName search
      ⟨found.2.ending, { search with text := rest, region := found.1 }, trace⟩ :=
  ⟨by rw [searched], rfl, by rw [searched], lines⟩

theorem Searches.of_goesOn {search : Search} {region : Region}
    {outcome : Outcome Int Search (List Char) Bool} (first : FirstLine search.text line tail)
    (nonempty : line ≠ [])
    (searched : searchLines parmName (search.text.splitOn '\n') search.region =
      searchLines parmName (otherLines tail) region)
    (rest : Searches parmName { search with text := tail.drop 1, region := region } outcome) :
    Searches parmName search
      ⟨outcome.ending, outcome.state, [line ++ tail.take 1] ++ outcome.trace⟩ where
  region := by rw [rest.region, searched, first.searchLines_drop]
  errno := rest.errno
  ending := by rw [rest.ending, searched, first.searchLines_drop]
  lines := by
    rw [first.leadingLines_eq nonempty, List.map_append, List.map_singleton, first.lineOf_eq]
    exact (List.prefix_cons_inj line).mpr rest.lines

theorem iterate_lineTurn (fuel turns : Nat) (search : Search)
    (enough : search.text.length < turns) :
    Searches parmName search
      (iterate (fun _ => (lineTurn parmName).run fuel) turns () search) := by
  induction turns generalizing search with
  | zero => exact absurd enough (Nat.not_lt_zero _)
  | succ turns ih =>
    obtain ⟨line, tail, first⟩ := exists_firstLine search.text
    have unfolded := searchLines.eq_2 parmName search.region line (otherLines tail)
    rw [← first.splitOn_eq] at unfolded
    obtain rfl | nonempty := eq_or_ne line []
    · rw [if_pos rfl] at unfolded
      rw [iterate, lineTurn_run_blank first]
      exact .of_found _ unfolded List.nil_prefix
    rw [if_neg nonempty] at unfolded
    by_cases long : longest < line.length
    · rw [if_pos long] at unfolded
      rw [iterate, lineTurn_run_long first long]
      exact .of_found _ unfolded List.nil_prefix
    rw [if_neg long] at unfolded
    rw [iterate, lineTurn_run_short first nonempty (not_lt.mp long)]
    have looked : [line ++ tail.take 1].map lineOf <+: leadingLines search.text := by
      rw [first.leadingLines_eq nonempty, List.map_singleton, first.lineOf_eq]
      exact List.prefix_append [line] _
    generalize parseLine parmName line search.region = parsed at unfolded ⊢
    obtain ⟨region, progress⟩ := parsed
    cases progress with
    | goesOn =>
      have shorter : (tail.drop 1).length < turns := by
        have length := congrArg List.length first.text_eq
        have positive := List.length_pos_iff.mpr nonempty
        rw [List.length_append] at length
        rw [List.length_drop]
        omega
      exact .of_goesOn first nonempty unfolded (ih _ shorter)
    | fails errno => exact .of_found _ unfolded looked
    | isDone => exact .of_found _ unfolded looked

/-- What `get_phys_mem` returns. -/
def Progress.rc : Progress → Int
  | .isDone => 0
  | _ => -1

/-- The `errno` that `get_phys_mem` leaves. -/
def Progress.errno : Progress → Int
  | .fails errno => errno
  | _ => 0

/-- How the search of a file that could be opened begins. -/
def opened (text : List Char) : Search := ⟨text, ⟨rioAnyAddr, 0⟩, 0⟩

/-- What is found in the lines of a text. -/
def found (text parmName : List Char) : Region × Progress :=
  searchLines parmName (text.splitOn '\n') ⟨rioAnyAddr, 0⟩

/-- The search ends with what the lines of the text say. -/
theorem getPhysMem_run (text parmName : List Char) (start : Search) {fuel : Nat}
    (enough : text.length < fuel) :
    ∃ rest trace, trace.map lineOf <+: leadingLines text ∧
      (getPhysMem (.ok text) parmName).run fuel start =
        ⟨.done (found text parmName).2.rc,
          ⟨rest, (found text parmName).1, (found text parmName).2.errno⟩, trace⟩ := by
  have searches : Searches parmName (opened text)
      (iterate (fun _ => (lineTurn parmName).run fuel) fuel () (opened text)) :=
    iterate_lineTurn fuel fuel (opened text) enough
  have unfolded : (getPhysMem (.ok text) parmName).run fuel start =
      ((iterate (fun _ => (lineTurn parmName).run fuel) fuel () (opened text)).andThen
        fun done => (pure (if done then 0 else -1) : MemProg Int).run fuel).orElse
          fun errno state => ⟨.done (-1), { state with errno := errno }, []⟩ := rfl
  rw [unfolded]
  generalize iterate (fun _ => (lineTurn parmName).run fuel) fuel () (opened text) = outcome at *
  obtain ⟨ending, ⟨rest, region, errno⟩, trace⟩ := outcome
  obtain ⟨regionIs, errnoIs, endingIs, lines⟩ := searches
  have searched : searchLines parmName ((opened text).text.splitOn '\n') (opened text).region =
      found text parmName := rfl
  rw [searched] at regionIs endingIs
  dsimp only at regionIs errnoIs endingIs
  subst regionIs errnoIs endingIs
  refine ⟨rest, trace, lines, ?_⟩
  have same := List.append_nil trace
  cases (found text parmName).2 with
  | goesOn => exact congrArg (Outcome.mk _ _) same
  | fails errno => exact congrArg (Outcome.mk _ _) same
  | isDone => exact congrArg (Outcome.mk _ _) same

end RioFabric.Librsvdmem

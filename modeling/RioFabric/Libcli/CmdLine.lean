import Mathlib.Data.List.TakeWhile
import RioFabric.Libcli.LogMsg

/-!
# Input of a session

`cli_terminal` reads from the socket of a session into `inp`, and `process_skt_inp` hands the lines
of what was read to `process_command`.  What is behind the last newline is kept in `cmd`, with its
length, for the next read.
-/

namespace RioFabric.Libcli

def newline : UInt8 := 10

/-- The lines of some bytes that end in a newline, without it, and what is behind the last one. -/
def splitLines : List UInt8 → List (List UInt8) × List UInt8
  | [] => ([], [])
  | byte :: bytes =>
    if byte = newline then ([] :: (splitLines bytes).1, (splitLines bytes).2)
    else
      match splitLines bytes with
      | ([], rest) => ([], byte :: rest)
      | (line :: lines, rest) => ((byte :: line) :: lines, rest)

/-- The bytes before the first NUL. -/
def bufText (buf : List UInt8) : List UInt8 := buf.takeWhile (· ≠ 0)

/-- Copy bytes to a place of a buffer; there is no value if they go over its end. -/
def copyTo (buf : List UInt8) (offset : Nat) (bytes : List UInt8) : Option (List UInt8) :=
  if offset + bytes.length ≤ buf.length then
    some (buf.take offset ++ bytes ++ buf.drop (offset + bytes.length))
  else none

/-- `SAFE_STRNCPY`. -/
def safeStrncpy (dest src : List UInt8) (n : Nat) : Option (List UInt8) :=
  (copyTo dest 0 (src.take n ++ List.replicate (n - src.length) 0)).map (·.set (n - 1) 0)

/-- `cmd` and `cmdlen`, the lines that were handed to `process_command`, and `errorStat`. -/
structure Session where
  cmd : List UInt8
  cmdlen : Nat
  handed : List (List UInt8)
  errorStat : Int

namespace Session

/-- Keep what is behind the last line. -/
def keep (session : Session) (rest : List UInt8) : Option Session :=
  if rest.length > 0 then
    (safeStrncpy session.cmd rest rest.length).map fun cmd =>
      { session with cmd := cmd, cmdlen := rest.length }
  else some { session with cmdlen := 0 }

/-- `process_skt_inp`, for an input with these lines, and `rest` behind them; `status` are the
values of the calls of `process_command`. -/
def processSktInp (status : Nat → Int) (rest : List UInt8) :
    List (List UInt8) → Session → Option Session
  | [], session => session.keep rest
  | line :: lines, session =>
    if session.errorStat ≠ 0 then
      session.keep ((line :: lines).flatMap (· ++ [newline]) ++ rest)
    else
      (copyTo session.cmd session.cmdlen line).bind fun cmd =>
        processSktInp status rest lines
          { session with
            cmd := List.replicate buflen 0
            handed := session.handed ++ [bufText cmd]
            errorStat := status session.handed.length }

/-- What is in `inp` after a read, when its last byte has been set to NUL. -/
def inpLines (read : List UInt8) : List (List UInt8) × List UInt8 :=
  splitLines (bufText (read.take (buflen - 1)))

/-- `cli_terminal`, for a socket from which these reads are made. -/
def cliTerminal (status : Nat → Int) : List (List UInt8) → Session → Option Session
  | [], session => some session
  | read :: reads, session =>
    if session.errorStat ≠ 0 then some session
    else
      (processSktInp status (inpLines read).2 (inpLines read).1 session).bind
        (cliTerminal status reads)

/-- Nothing is kept. -/
def empty (handed : List (List UInt8)) : Session := ⟨List.replicate buflen 0, 0, handed, 0⟩

end Session

open Session

/-- The lines of all that is read are handed to `process_command`. -/
def Handed (status : Nat → Int) (reads : List (List UInt8)) : Prop :=
  ∃ final, cliTerminal status reads (.empty []) = some final ∧
    final.handed = (splitLines reads.flatten).1

/-- No read that fills the buffer ends in a newline, and every read before one that brings a
newline ends in a newline. -/
def Lossless : List (List UInt8) → Prop
  | [] => True
  | read :: reads =>
    if newline ∈ reads.flatten then
      read.length < buflen ∧ read.getLast? = some newline ∧ Lossless reads
    else ¬(read.length = buflen ∧ read.getLast? = some newline)

/-- The number of bytes of some lines, with their newlines. -/
def size (lines : List (List UInt8)) : Nat := (lines.map (·.length + 1)).sum

@[simp] theorem size_nil : size [] = 0 := rfl

@[simp] theorem size_cons (line : List UInt8) (lines : List (List UInt8)) :
    size (line :: lines) = line.length + 1 + size lines := by simp [size]

@[simp] theorem size_append (first second : List (List UInt8)) :
    size (first ++ second) = size first + size second := by simp [size]

theorem size_splitLines (bytes : List UInt8) :
    size (splitLines bytes).1 + (splitLines bytes).2.length = bytes.length := by
  induction bytes with
  | nil => rfl
  | cons byte bytes ih =>
    by_cases isNewline : byte = newline
    · simp only [splitLines, isNewline, if_true, size_cons, List.length_cons]
      simp only [List.length_nil]
      omega
    · rcases split : splitLines bytes with ⟨_ | ⟨line, lines⟩, rest⟩
      all_goals simp only [split] at ih
      all_goals simp only [splitLines, isNewline, if_false, split, size_cons, size_nil] at ih ⊢
      all_goals simp only [List.length_cons]
      all_goals omega

theorem lines_eq_nil_iff (bytes : List UInt8) : (splitLines bytes).1 = [] ↔ newline ∉ bytes := by
  induction bytes with
  | nil => simp [splitLines]
  | cons byte bytes ih =>
    by_cases isNewline : byte = newline
    · simp [splitLines, isNewline]
    · rcases split : splitLines bytes with ⟨_ | ⟨line, lines⟩, rest⟩
      all_goals simp only [split] at ih
      all_goals simpa [splitLines, isNewline, split, Ne.symm isNewline] using ih

variable {bytes before buf read : List UInt8} {status : Nat → Int} {lines reads : List (List UInt8)}

theorem lines_append_of_not_mem (quiet : newline ∉ bytes) (before : List UInt8) :
    (splitLines (before ++ bytes)).1 = (splitLines before).1 := by
  induction before with
  | nil => exact (lines_eq_nil_iff bytes).2 quiet
  | cons byte before ih =>
    by_cases isNewline : byte = newline
    · simp [splitLines, isNewline, ih]
    · rcases split : splitLines before with ⟨_ | ⟨line, lines⟩, rest⟩
      all_goals rcases whole : splitLines (before ++ bytes) with ⟨_ | ⟨first, others⟩, rest⟩
      all_goals simp_all [splitLines]

theorem rest_append_of_mem (later : newline ∈ bytes) (before : List UInt8) :
    (splitLines (before ++ bytes)).2 = (splitLines bytes).2 := by
  induction before with
  | nil => rfl
  | cons byte before ih =>
    by_cases isNewline : byte = newline
    · simp [splitLines, isNewline, ih]
    · rcases whole : splitLines (before ++ bytes) with ⟨_ | ⟨first, others⟩, rest⟩
      · have none := (lines_eq_nil_iff (before ++ bytes)).1 (by rw [whole])
        exact absurd (List.mem_append_right before later) none
      · rw [whole] at ih
        simpa [splitLines, isNewline, whole] using ih

theorem size_lines_append (later : newline ∈ bytes) (before : List UInt8) :
    size (splitLines (before ++ bytes)).1 = before.length + size (splitLines bytes).1 := by
  have whole := size_splitLines (before ++ bytes)
  have after := size_splitLines bytes
  rw [rest_append_of_mem later, List.length_append] at whole
  omega

theorem size_lines_take_le (n : Nat) (bytes : List UInt8) :
    size (splitLines (bytes.take n)).1 ≤ size (splitLines bytes).1 := by
  have whole := List.take_append_drop n bytes
  have first := size_splitLines (bytes.take n)
  by_cases later : newline ∈ bytes.drop n
  · have size := size_lines_append later (bytes.take n)
    rw [whole] at size
    omega
  · have same := lines_append_of_not_mem later (bytes.take n)
    rw [whole] at same
    rw [same]

theorem rest_eq_nil_iff (some : bytes ≠ []) :
    (splitLines bytes).2 = [] ↔ bytes.getLast? = .some newline := by
  obtain none | ⟨init, last, isConcat⟩ := List.eq_nil_or_concat bytes
  · exact absurd none some
  · rw [isConcat, List.concat_eq_append, List.getLast?_concat, Option.some.injEq]
    by_cases isNewline : last = newline
    · rw [rest_append_of_mem (by simp [isNewline])]
      simp [splitLines, isNewline]
    · have same := @lines_append_of_not_mem [last] (by simpa using Ne.symm isNewline) init
      have whole := size_splitLines (init ++ [last])
      have first := size_splitLines init
      rw [same, List.length_append, List.length_singleton] at whole
      rw [← List.length_eq_zero_iff, iff_false_right isNewline]
      omega

theorem lines_dropLast_iff (some : bytes ≠ []) :
    (splitLines bytes.dropLast).1 = (splitLines bytes).1 ↔ bytes.getLast? ≠ .some newline := by
  obtain none | ⟨init, last, isConcat⟩ := List.eq_nil_or_concat bytes
  · exact absurd none some
  · rw [isConcat, List.concat_eq_append, List.dropLast_concat, List.getLast?_concat, Ne,
      Option.some.injEq]
    constructor
    · intro same isNewline
      have size := @size_lines_append [last] (by simp [isNewline]) init
      have first := size_splitLines init
      rw [← same] at size
      simp [splitLines, isNewline] at size
      omega
    · exact fun other => (lines_append_of_not_mem (by simpa using Ne.symm other) init).symm

theorem lines_append_of_rest_eq_nil (whole : (splitLines before).2 = []) (bytes : List UInt8) :
    (splitLines (before ++ bytes)).1 = (splitLines before).1 ++ (splitLines bytes).1 := by
  induction before with
  | nil => rfl
  | cons byte before ih =>
    by_cases isNewline : byte = newline
    · simp_all [splitLines]
    · rcases split : splitLines before with ⟨_ | ⟨line, lines⟩, rest⟩
      · simp [splitLines, isNewline, split] at whole
      · simp only [splitLines, isNewline, if_false, split] at whole ih
        rcases both : splitLines (before ++ bytes) with ⟨_ | ⟨first, others⟩, after⟩
        · simp [both] at ih; exact absurd (ih whole) (by simp)
        · simp_all [splitLines]

theorem sublist_of_mem_lines {line : List UInt8} (mem : line ∈ (splitLines bytes).1) :
    line.Sublist bytes := by
  induction bytes generalizing line with
  | nil => simp [splitLines] at mem
  | cons byte bytes ih =>
    by_cases isNewline : byte = newline
    · simp only [splitLines, isNewline, if_true, List.mem_cons] at mem
      cases mem with
      | inl first => simp [first]
      | inr others => exact (ih others).cons byte
    · rcases split : splitLines bytes with ⟨_ | ⟨head, lines⟩, rest⟩
      · simp [splitLines, isNewline, split] at mem
      · simp only [splitLines, isNewline, if_false, split, List.mem_cons] at mem ih
        cases mem with
        | inl first => exact first ▸ (ih (.inl rfl)).cons_cons byte
        | inr others => exact (ih (.inr others)).cons byte

theorem bufText_append_of_mem (ended : (0 : UInt8) ∈ before) (after : List UInt8) :
    bufText (before ++ after) = bufText before := by
  induction before with
  | nil => simp at ended
  | cons byte before ih =>
    by_cases isNul : byte = 0
    · simp [bufText, isNul]
    · have ended' : (0 : UInt8) ∈ before := by simpa [Ne.symm isNul] using ended
      simpa [bufText, isNul] using ih ended'

theorem bufText_eq_self {line : List UInt8} (noNul : (0 : UInt8) ∉ line) : bufText line = line :=
  List.takeWhile_eq_self_iff.2 fun byte mem => by
    simpa using fun (isNul : byte = 0) => noNul (isNul ▸ mem)

theorem bufText_append_zeros (line : List UInt8) (n : Nat) :
    bufText (line ++ List.replicate n 0) = bufText line := by
  induction line with
  | nil => cases n <;> simp [bufText, List.replicate_succ]
  | cons byte line ih =>
    by_cases isNul : byte = 0
    · simp [bufText, isNul]
    · simpa [bufText, isNul] using ih

theorem zero_mem_take_blank {n : Nat} (some : n ≠ 0) :
    (0 : UInt8) ∈ (List.replicate buflen 0).take n := by
  rw [List.take_replicate, List.mem_replicate]
  exact ⟨by unfold buflen; omega, rfl⟩

theorem bufText_length_lt {n : Nat} (ended : (0 : UInt8) ∈ buf.take n) :
    (bufText buf).length < n := by
  induction buf generalizing n with
  | nil => simp at ended
  | cons byte buf ih =>
    cases n with
    | zero => simp at ended
    | succ n =>
      by_cases isNul : byte = 0
      · simp [bufText, isNul]
      · have ended' : (0 : UInt8) ∈ buf.take n := by simpa [Ne.symm isNul] using ended
        simpa [bufText, isNul] using ih ended'

theorem keep_eq {session : Session} (length : session.cmd.length = buflen) {rest : List UInt8}
    (fits : rest.length ≤ buflen) :
    ∃ cmd, session.keep rest = some { session with cmd := cmd, cmdlen := rest.length } ∧
      cmd.length = buflen ∧ (rest = [] → cmd = session.cmd) ∧
      (rest ≠ [] → (0 : UInt8) ∈ cmd.take rest.length) := by
  by_cases none : rest = []
  · exact ⟨session.cmd, by simp [keep, none], length, fun _ => rfl, fun some => absurd none some⟩
  · have positive := List.length_pos_iff.2 none
    refine ⟨(rest ++ session.cmd.drop rest.length).set (rest.length - 1) 0, ?_, ?_, ?_, ?_⟩
    · simp [keep, safeStrncpy, copyTo, positive, length, fits]
    · simp only [List.length_set, List.length_append, List.length_drop]
      omega
    · exact fun nil => absurd nil none
    · intro _
      rw [List.set_append_left _ _ (by omega), List.take_left' List.length_set]
      exact List.mem_set (by omega) 0

/-- Between reads, `cmd` is blank if nothing is kept, and else ends before all that is kept. -/
structure Session.Between (session : Session) : Prop where
  length : session.cmd.length = buflen
  going : session.errorStat = 0
  blank : session.cmdlen = 0 → session.cmd = List.replicate buflen 0
  ended : session.cmdlen ≠ 0 → (0 : UInt8) ∈ session.cmd.take session.cmdlen

/-- The bytes that were handed on, and those that can be with the next line. -/
def Session.seen (session : Session) : Nat := size session.handed + (bufText session.cmd).length

theorem between_empty (handed : List (List UInt8)) : (Session.empty handed).Between :=
  ⟨by simp [empty], rfl, fun _ => rfl, fun kept => absurd rfl kept⟩

theorem seen_empty (handed : List (List UInt8)) : (Session.empty handed).seen = size handed := by
  have none : bufText (List.replicate buflen 0) = [] := bufText_append_zeros [] buflen
  simp [seen, empty, none]

theorem Session.Between.line {session : Session} (between : session.Between) {line cmd : List UInt8}
    (copied : copyTo session.cmd session.cmdlen line = some cmd) :
    (bufText cmd).length ≤ (bufText session.cmd).length + line.length := by
  unfold copyTo at copied
  split at copied
  · cases copied
    by_cases kept : session.cmdlen = 0
    · rw [between.blank kept, kept, List.take_zero, List.nil_append, List.drop_replicate,
        bufText_append_zeros]
      exact Nat.le_trans (List.takeWhile_sublist _).length_le (Nat.le_add_left _ _)
    · have ended := between.ended kept
      rw [List.append_assoc, bufText_append_of_mem ended,
        ← bufText_append_of_mem ended (session.cmd.drop session.cmdlen), List.take_append_drop]
      exact Nat.le_add_right _ _
  · cases copied

section Reading

variable {status : Nat → Int} (ok : ∀ call, status call = 0) {lines : List (List UInt8)}
include ok

theorem processSktInp_between {rest : List UInt8} (fits : rest.length ≤ buflen)
    {session final : Session} (between : session.Between)
    (blank : lines = [] → rest = [] → session.cmd = List.replicate buflen 0)
    (ran : processSktInp status rest lines session = some final) :
    final.Between ∧ size final.handed ≤ session.seen + size lines ∧
      final.seen ≤ session.seen + size lines + (rest.length - 1) := by
  induction lines generalizing session with
  | nil =>
    obtain ⟨cmd, kept, length, same, ended⟩ := keep_eq between.length fits
    rw [processSktInp, kept] at ran
    cases ran
    refine ⟨⟨length, between.going, ?_, ?_⟩, Nat.le_add_right _ _, ?_⟩
    · intro none
      have none := List.length_eq_zero_iff.1 none
      exact (same none).trans (blank rfl none)
    · exact fun some => ended fun none => some (List.length_eq_zero_iff.2 none)
    · by_cases none : rest = []
      · simp [seen, same none]
      · have short := bufText_length_lt (ended none)
        simp only [seen, size_nil]
        omega
  | cons line lines ih =>
    rw [processSktInp, if_neg (by simp [between.going])] at ran
    obtain ⟨cmd, copied, ran⟩ := Option.bind_eq_some_iff.1 ran
    have seen := between.line copied
    obtain ⟨next, handed, left⟩ := ih ⟨by simp, ok _, fun _ => rfl, zero_mem_take_blank⟩
      (fun _ _ => rfl) ran
    have none : bufText (List.replicate buflen 0) = [] := bufText_append_zeros [] buflen
    simp only [Session.seen, size_append, size_cons, size_nil, none, List.length_nil] at *
    exact ⟨next, by omega, by omega⟩

theorem processSktInp_empty (rest : List UInt8)
    (fits : ∀ line ∈ lines, line.length ≤ buflen ∧ (0 : UInt8) ∉ line)
    (handed : List (List UInt8)) :
    processSktInp status rest lines (.empty handed) =
      (Session.empty (handed ++ lines)).keep rest := by
  induction lines generalizing handed with
  | nil => rw [List.append_nil, processSktInp]
  | cons line lines ih =>
    have first := fits line (by simp)
    have copied : copyTo (Session.empty handed).cmd (Session.empty handed).cmdlen line =
        some (line ++ List.replicate (buflen - line.length) 0) := by
      simp [copyTo, empty, first.1]
    rw [processSktInp, if_neg (by simp [empty]), copied, Option.bind_some,
      bufText_append_zeros, bufText_eq_self first.2, ok]
    have others := ih (fun line mem => fits line (by simp [mem])) (handed ++ [line])
    simpa [empty] using others

end Reading

/-- What `read` gives without NUL: at least a byte, and no more than `inp` holds. -/
structure IsRead (read : List UInt8) : Prop where
  least : read ≠ []
  most : read.length ≤ buflen
  noNul : (0 : UInt8) ∉ read

theorem IsRead.inpLines (isRead : IsRead read) :
    inpLines read = splitLines (read.take (buflen - 1)) := by
  rw [Session.inpLines, bufText_eq_self fun mem => isRead.noNul (List.mem_of_mem_take mem)]

theorem IsRead.size (isRead : IsRead read) :
    size (Session.inpLines read).1 + (Session.inpLines read).2.length =
      min (buflen - 1) read.length := by
  rw [isRead.inpLines, size_splitLines, List.length_take]

theorem IsRead.fits (isRead : IsRead read) :
    (Session.inpLines read).2.length ≤ buflen := by
  have size := isRead.size
  omega

section Terminal

variable {status : Nat → Int} (ok : ∀ call, status call = 0) {reads : List (List UInt8)}
  (isRead : ∀ read ∈ reads, IsRead read)
include isRead

theorem cliTerminal_of_quiet (quiet : newline ∉ reads.flatten) {session : Session}
    (length : session.cmd.length = buflen) (going : session.errorStat = 0) :
    ∃ final, cliTerminal status reads session = some final ∧ final.handed = session.handed := by
  induction reads generalizing session with
  | nil => exact ⟨session, rfl, rfl⟩
  | cons read reads ih =>
    have first := isRead read (by simp)
    rw [List.flatten_cons, List.mem_append, not_or] at quiet
    have noLine : (inpLines read).1 = [] := by
      rw [first.inpLines, lines_eq_nil_iff]
      exact fun mem => quiet.1 (List.mem_of_mem_take mem)
    obtain ⟨cmd, kept, length, -⟩ := keep_eq length first.fits
    rw [cliTerminal, if_neg (by simp [going]), noLine, processSktInp, kept]
    exact ih (fun read mem => isRead read (by simp [mem])) quiet.2 length going

include ok in
theorem cliTerminal_handed_le {session final : Session} (between : session.Between)
    (ran : cliTerminal status reads session = some final) :
    size final.handed ≤ session.seen + size (splitLines reads.flatten).1 := by
  induction reads generalizing session with
  | nil =>
    cases ran
    exact Nat.le_trans (Nat.le_add_right _ _) (Nat.le_add_right _ _)
  | cons read reads ih =>
    have first := isRead read (by simp)
    have others := fun other mem => isRead other (List.mem_cons_of_mem read mem)
    have whole := first.size
    rw [cliTerminal, if_neg (by simp [between.going])] at ran
    obtain ⟨next, did, ran⟩ := Option.bind_eq_some_iff.1 ran
    have some : (inpLines read).1 = [] → (inpLines read).2 = [] →
        session.cmd = List.replicate buflen 0 := by
      intro noLine noRest
      have least := List.length_pos_iff.2 first.least
      simp only [noLine, noRest, size_nil, List.length_nil, buflen] at whole
      omega
    obtain ⟨after, handed, seen⟩ := processSktInp_between ok first.fits between some did
    rw [List.flatten_cons]
    by_cases later : newline ∈ reads.flatten
    · have bound := ih others after ran
      rw [size_lines_append later]
      omega
    · obtain ⟨last, ran', same⟩ := cliTerminal_of_quiet others later after.length after.going
      cases ran'.symm.trans ran
      have less := size_lines_take_le (buflen - 1) read
      rw [same, lines_append_of_not_mem later]
      rw [← first.inpLines] at less
      omega

include ok in
omit isRead in
theorem seen_lt_of_lossy {read : List UInt8} (isRead : IsRead read)
    (lossy : ¬(read.length < buflen ∧ read.getLast? = some newline)) {handed : List (List UInt8)}
    {next : Session}
    (did : processSktInp status (inpLines read).2 (inpLines read).1 (.empty handed) = some next) :
    next.Between ∧ next.seen < size handed + read.length := by
  obtain ⟨after, -, seen⟩ := processSktInp_between ok isRead.fits (between_empty handed)
    (fun _ _ => rfl) did
  have whole := isRead.size
  have least := List.length_pos_iff.2 isRead.least
  have most := isRead.most
  rw [seen_empty] at seen
  refine ⟨after, ?_⟩
  by_cases full : read.length < buflen
  · have kept := mt (rest_eq_nil_iff isRead.least).1 fun ends => lossy ⟨full, ends⟩
    rw [isRead.inpLines, List.take_of_length_le (by omega)] at whole seen
    have positive := List.length_pos_iff.2 kept
    omega
  · omega

include ok in
theorem handed_append_iff (handed : List (List UInt8)) :
    (∃ final, cliTerminal status reads (.empty handed) = some final ∧
      final.handed = handed ++ (splitLines reads.flatten).1) ↔ Lossless reads := by
  induction reads generalizing handed with
  | nil => simp [cliTerminal, splitLines, Lossless, empty]
  | cons read reads ih =>
    have first := isRead read (by simp)
    have others := fun other mem => isRead other (List.mem_cons_of_mem read mem)
    have fits : ∀ line ∈ (inpLines read).1, line.length ≤ buflen ∧ (0 : UInt8) ∉ line := by
      intro line mem
      rw [first.inpLines] at mem
      have sublist := (sublist_of_mem_lines mem).trans (List.take_sublist _ _)
      exact ⟨Nat.le_trans sublist.length_le first.most, fun nul => first.noNul (sublist.subset nul)⟩
    have run := processSktInp_empty ok (inpLines read).2 fits handed
    rw [cliTerminal, if_neg (by simp [empty]), List.flatten_cons]
    by_cases later : newline ∈ reads.flatten
    · rw [Lossless, if_pos later]
      by_cases whole : read.length < buflen ∧ read.getLast? = some newline
      · have noRest := (rest_eq_nil_iff first.least).2 whole.2
        have blank (lines : List (List UInt8)) : (Session.empty lines).keep [] =
            some (.empty lines) := by simp [keep, empty]
        rw [run, first.inpLines, List.take_of_length_le (by omega), noRest, blank,
          Option.bind_some, lines_append_of_rest_eq_nil noRest, ← List.append_assoc, ih others]
        exact ⟨fun lossless => ⟨whole.1, whole.2, lossless⟩, fun lossless => lossless.2.2⟩
      · refine iff_of_false ?_ fun lossless => whole ⟨lossless.1, lossless.2.1⟩
        intro ⟨final, ran, same⟩
        obtain ⟨next, did, ran⟩ := Option.bind_eq_some_iff.1 ran
        obtain ⟨after, less⟩ := seen_lt_of_lossy ok first whole did
        have bound := cliTerminal_handed_le ok others after ran
        rw [same, size_append, size_lines_append later] at bound
        omega
    · obtain ⟨cmd, kept, length, -⟩ := @keep_eq (.empty (handed ++ (inpLines read).1))
        (by simp [empty]) (inpLines read).2 first.fits
      obtain ⟨final, ran, same⟩ := @cliTerminal_of_quiet status _ others later
        { Session.empty (handed ++ (inpLines read).1) with
          cmd := cmd, cmdlen := (inpLines read).2.length } length rfl
      rw [Lossless, if_neg later, run, kept, Option.bind_some, ran, lines_append_of_not_mem later]
      simp only [Option.some.injEq, exists_eq_left', same, empty, List.append_cancel_left_eq,
        first.inpLines]
      by_cases full : read.length = buflen
      · have init : read.take (buflen - 1) = read.dropLast := by rw [List.dropLast_eq_take, full]
        rw [init, lines_dropLast_iff first.least, not_and]
        exact ⟨fun other _ => other, fun other => other full⟩
      · rw [List.take_of_length_le (Nat.le_sub_one_of_lt (Nat.lt_of_le_of_ne first.most full))]
        exact ⟨fun _ both => full both.1, fun _ => rfl⟩

end Terminal

/-- The lines are handed over as they were typed exactly if no read loses any. -/
theorem handed_iff (status : Nat → Int) (ok : ∀ call, status call = 0) (reads : List (List UInt8))
    (isRead : ∀ read ∈ reads, IsRead read) : Handed status reads ↔ Lossless reads :=
  handed_append_iff ok isRead []

/-- A line for each read. -/
theorem handed_iff_lines :
    Handed (fun _ => 0) [[97, newline], [98, newline]] ↔ Lossless [[97, newline], [98, newline]] :=
  handed_iff _ (fun _ => rfl) _ fun read mem => by
    simp only [List.mem_cons, List.not_mem_nil, or_false] at mem
    obtain rfl | rfl := mem <;> exact ⟨by decide, by decide, by decide⟩

/-- The first byte of the line `ab` is lost. -/
theorem not_handed_segments : ¬Handed (fun _ => 0) [[97], [98, newline]] := by
  intro ⟨final, ran, same⟩
  have wrong : (cliTerminal (fun _ => 0) [[97], [98, newline]] (.empty [])).map Session.handed ≠
      some [[97, 98]] := by decide +kernel
  rw [ran, Option.map_some, same] at wrong
  exact wrong rfl

/-- Every line that is read has room in `cmd` behind what is kept of the read before. -/
def LinesFit : Nat → List (List UInt8) → Prop
  | _, [] => True
  | kept, read :: reads =>
    (∀ line ∈ (inpLines read).1, kept + line.length ≤ buflen) ∧
      LinesFit (inpLines read).2.length reads

theorem exists_copyTo_iff {offset : Nat} :
    (∃ copied, copyTo buf offset bytes = some copied) ↔ offset + bytes.length ≤ buf.length := by
  unfold copyTo
  split <;> simp_all

theorem length_lines (lines : List (List UInt8)) (rest : List UInt8) :
    (lines.flatMap (· ++ [newline]) ++ rest).length = size lines + rest.length := by
  simp [List.length_flatMap, size]

theorem inpLines_length_le (read : List UInt8) :
    size (inpLines read).1 + (inpLines read).2.length ≤ buflen := by
  rw [inpLines, size_splitLines]
  have part := (List.takeWhile_sublist (· ≠ 0) (l := read.take (buflen - 1))).length_le
  exact part.trans ((List.length_take_le _ _).trans (Nat.sub_le _ _))

theorem processSktInp_of_fit {rest : List UInt8} {session : Session}
    (length : session.cmd.length = buflen) (short : size lines + rest.length ≤ buflen)
    (fit : ∀ line ∈ lines, session.cmdlen + line.length ≤ buflen) :
    ∃ next, processSktInp status rest lines session = some next ∧ next.cmd.length = buflen ∧
      (next.errorStat = 0 → next.cmdlen = rest.length) := by
  induction lines generalizing session with
  | nil =>
    rw [size_nil, Nat.zero_add] at short
    obtain ⟨cmd, kept, length, -⟩ := keep_eq length short
    exact ⟨_, kept, length, fun _ => rfl⟩
  | cons line lines ih =>
    rw [processSktInp]
    by_cases stopped : session.errorStat ≠ 0
    · rw [← length_lines] at short
      obtain ⟨cmd, kept, length, -⟩ := keep_eq length short
      rw [if_pos stopped, kept]
      exact ⟨_, rfl, length, fun going => absurd going stopped⟩
    · rw [List.forall_mem_cons] at fit
      obtain ⟨cmd, copied⟩ := exists_copyTo_iff.2 (length ▸ fit.1)
      rw [if_neg stopped, copied, Option.bind_some]
      rw [size_cons] at short
      exact ih (by simp) (by omega) fit.2

theorem fit_of_processSktInp {rest : List UInt8} {session next : Session}
    (length : session.cmd.length = buflen) (going : session.errorStat = 0)
    (ran : processSktInp (fun _ => 0) rest lines session = some next) :
    (∀ line ∈ lines, session.cmdlen + line.length ≤ buflen) ∧ next.errorStat = 0 := by
  induction lines generalizing session with
  | nil =>
    rw [processSktInp, keep] at ran
    refine ⟨fun _ mem => (List.not_mem_nil mem).elim, ?_⟩
    split at ran
    · obtain ⟨cmd, -, rfl⟩ := Option.map_eq_some_iff.1 ran
      exact going
    · cases ran
      exact going
  | cons line lines ih =>
    rw [processSktInp, if_neg (not_not.2 going)] at ran
    obtain ⟨cmd, copied, ran⟩ := Option.bind_eq_some_iff.1 ran
    obtain ⟨others, going⟩ := ih (by simp) rfl ran
    exact ⟨List.forall_mem_cons.2 ⟨length ▸ exists_copyTo_iff.1 ⟨cmd, copied⟩, others⟩, going⟩

theorem cliTerminal_of_fit {session : Session} (length : session.cmd.length = buflen)
    (fit : session.errorStat = 0 → LinesFit session.cmdlen reads) :
    ∃ final, cliTerminal status reads session = some final := by
  induction reads generalizing session with
  | nil => exact ⟨session, rfl⟩
  | cons read reads ih =>
    rw [cliTerminal]
    by_cases stopped : session.errorStat ≠ 0
    · exact ⟨session, if_pos stopped⟩
    · obtain ⟨lines, others⟩ := fit (not_not.1 stopped)
      obtain ⟨next, did, length, kept⟩ :=
        @processSktInp_of_fit status _ _ _ length (inpLines_length_le read) lines
      rw [if_neg stopped, did, Option.bind_some]
      exact ih length fun going => (kept going).symm ▸ others

theorem fit_of_cliTerminal {session final : Session} (length : session.cmd.length = buflen)
    (going : session.errorStat = 0) (ran : cliTerminal (fun _ => 0) reads session = some final) :
    LinesFit session.cmdlen reads := by
  induction reads generalizing session with
  | nil => trivial
  | cons read reads ih =>
    rw [cliTerminal, if_neg (not_not.2 going)] at ran
    obtain ⟨next, did, ran⟩ := Option.bind_eq_some_iff.1 ran
    obtain ⟨lines, going'⟩ := fit_of_processSktInp length going did
    obtain ⟨after, did', length', kept⟩ :=
      @processSktInp_of_fit (fun _ => 0) _ _ _ length (inpLines_length_le read) lines
    cases did.symm.trans did'
    exact ⟨lines, kept going' ▸ ih length' going' ran⟩

/-- A session copies nothing past the end of `cmd`, whatever the commands return, exactly if all
lines fit; the bytes that are read are arbitrary. -/
theorem cliTerminal_inside_iff (reads : List (List UInt8)) :
    (∀ status, ∃ final, cliTerminal status reads (.empty []) = some final) ↔ LinesFit 0 reads := by
  have length : (Session.empty []).cmd.length = buflen := List.length_replicate
  constructor
  · intro always
    obtain ⟨final, ran⟩ := always fun _ => 0
    exact fit_of_cliTerminal length rfl ran
  · exact fun fit status => cliTerminal_of_fit length fun _ => fit

end RioFabric.Libcli

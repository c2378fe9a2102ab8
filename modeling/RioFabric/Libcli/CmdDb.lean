import Mathlib.Data.List.Infix

/-!
# Commands by name

`find_cmd` compares what was typed with the names in `cmds`, up to the end of the shorter one, and
stops at the first name that it shares `min_match` characters with.
-/

namespace RioFabric.Libcli

/-- `MAX_CMDS`. -/
def maxCmds : Nat := 100

/-- `struct cli_cmd`. -/
structure CliCmd where
  name : Option (List UInt8)
  minMatch : Nat
  deriving DecidableEq

namespace CliCmd

/-- The characters of the name. -/
def text (cmd : CliCmd) : List UInt8 := cmd.name.getD []

/-- A command that can be added: it has a name, and needs characters of the name. -/
structure Valid (cmd : CliCmd) : Prop where
  named : cmd.name = some cmd.text
  least : 1 ≤ cmd.minMatch
  most : cmd.minMatch ≤ cmd.text.length

/-- Two names have the same first characters. -/
def Agree (n : Nat) (cmd other : CliCmd) : Prop := cmd.text.take n = other.text.take n

end CliCmd

/-- `add_commands_to_cmd_db`: whether a command was left out, and the commands in `cmds`. -/
def addCommandsToCmdDb : List CliCmd → List CliCmd → Bool × List CliCmd
  | [], db => (false, db)
  | cmd :: cmds, db =>
    if db.length < maxCmds then addCommandsToCmdDb cmds (db ++ [cmd]) else (true, db)

/-- Calls of `add_commands_to_cmd_db`, when there are no commands yet. -/
def addAll (calls : List (List CliCmd)) : List CliCmd :=
  calls.foldl (fun db cmds => (addCommandsToCmdDb cmds db).2) []

/-- The loop of `find_cmd`, with `foundIndex` and `*cmd`. -/
def findFrom (cmdName : List UInt8) : List CliCmd → Int → Option CliCmd → Int × Option CliCmd
  | [], foundIndex, found => (foundIndex, found)
  | cmd :: cmds, foundIndex, found =>
    match cmd.name with
    | none => findFrom cmdName cmds foundIndex found
    | some name =>
      let numChars := min cmdName.length name.length
      if cmdName.take numChars = name.take numChars then
        if numChars ≥ cmd.minMatch then (0, some cmd)
        else if foundIndex ≠ -1 then (-2, found)
        else if cmdName = name then (0, some cmd)
        else findFrom cmdName cmds 0 (some cmd)
      else findFrom cmdName cmds foundIndex found

/-- `find_cmd`: `CMD_FOUND`, `CMD_NOT_FOUND` or `CMD_DUP_FOUND`, and `*cmd`. -/
def findCmd (cmdName : List UInt8) (cmds : List CliCmd) : Int × Option CliCmd :=
  findFrom cmdName cmds (-1) none

/-- The command counts only if it was found. -/
def outcome (result : Int × Option CliCmd) : Int × Option CliCmd :=
  (result.1, if result.1 = 0 then result.2 else none)

theorem eq_of_outcome {result : Int × Option CliCmd} {cmd : CliCmd}
    (same : outcome result = (0, some cmd)) : result = (0, some cmd) := by
  obtain ⟨foundIndex, found⟩ := result
  rw [outcome, Prod.mk.injEq] at same
  obtain ⟨rfl, isCmd⟩ := same
  rw [← isCmd, if_pos rfl]

/-- Every command is found by its name, and no outcome depends on the order of the commands. -/
def OrderFree (cmds : List CliCmd) : Prop :=
  ∀ calls, calls.flatten.Perm cmds →
    (∀ cmd ∈ cmds, findCmd cmd.text (addAll calls) = (0, some cmd)) ∧
      ∀ others, others.flatten.Perm cmds → ∀ cmdName,
        outcome (findCmd cmdName (addAll others)) = outcome (findCmd cmdName (addAll calls))

/-- No name is the beginning of another one, two names differ in the characters that both need, and
no two of the commands that need more characters than a third agree with it in those. -/
structure Distinguished (cmds : List CliCmd) : Prop where
  beginning : ∀ cmd ∈ cmds, ∀ other ∈ cmds, cmd ≠ other → ¬cmd.text <+: other.text
  needed : ∀ cmd ∈ cmds, ∀ other ∈ cmds, cmd ≠ other →
    ¬cmd.Agree (max cmd.minMatch other.minMatch) other
  longer : ∀ cmd ∈ cmds, ∀ first ∈ cmds, ∀ second ∈ cmds,
    cmd.minMatch < first.minMatch → cmd.minMatch < second.minMatch →
      cmd.Agree cmd.minMatch first → cmd.Agree cmd.minMatch second → first = second

theorem addCommandsToCmdDb_of_le {cmds db : List CliCmd}
    (room : db.length + cmds.length ≤ maxCmds) :
    addCommandsToCmdDb cmds db = (false, db ++ cmds) := by
  induction cmds generalizing db with
  | nil => rw [addCommandsToCmdDb, List.append_nil]
  | cons cmd cmds ih =>
    rw [List.length_cons] at room
    rw [addCommandsToCmdDb, if_pos (by omega), ih (by simp; omega), List.append_assoc,
      List.singleton_append]

theorem addAll_of_le {calls : List (List CliCmd)} (room : calls.flatten.length ≤ maxCmds) :
    addAll calls = calls.flatten := by
  suffices added : ∀ db : List CliCmd, db.length + calls.flatten.length ≤ maxCmds →
      calls.foldl (fun db cmds => (addCommandsToCmdDb cmds db).2) db = db ++ calls.flatten by
    exact added [] (by rwa [List.length_nil, Nat.zero_add])
  clear room
  induction calls with
  | nil => simp
  | cons cmds calls ih =>
    intro db room
    rw [List.flatten_cons, List.length_append] at room
    rw [List.foldl_cons, addCommandsToCmdDb_of_le (by omega),
      ih _ (by rw [List.length_append]; omega), List.flatten_cons, List.append_assoc]

section Names

variable {cmdName : List UInt8} {cmd other : CliCmd}

/-- What was typed has all characters that the command needs. -/
def Selects (cmdName : List UInt8) (cmd : CliCmd) : Prop :=
  (cmdName <+: cmd.text ∨ cmd.text <+: cmdName) ∧ cmd.minMatch ≤ cmdName.length

/-- What was typed is the beginning of the name, with fewer characters than the command needs. -/
def Hints (cmdName : List UInt8) (cmd : CliCmd) : Prop :=
  cmdName <+: cmd.text ∧ cmdName.length < cmd.minMatch

instance : DecidablePred (Selects cmdName) := fun _ => inferInstanceAs (Decidable (_ ∧ _))

instance : DecidablePred (Hints cmdName) := fun _ => inferInstanceAs (Decidable (_ ∧ _))

theorem take_min_eq_iff (first second : List UInt8) :
    first.take (min first.length second.length) = second.take (min first.length second.length) ↔
      first <+: second ∨ second <+: first := by
  cases Nat.le_total first.length second.length with
  | inl le =>
    rw [Nat.min_eq_left le, List.take_length, ← List.prefix_iff_eq_take]
    refine ⟨.inl, fun either => either.elim id fun longer => ?_⟩
    rw [longer.eq_of_length_le le]
  | inr le =>
    rw [Nat.min_eq_right le, List.take_length, eq_comm, ← List.prefix_iff_eq_take]
    refine ⟨.inr, fun either => either.elim (fun shorter => ?_) id⟩
    rw [shorter.eq_of_length_le le]

theorem findFrom_cons (valid : cmd.Valid) (cmds : List CliCmd) (foundIndex : Int)
    (found : Option CliCmd) :
    findFrom cmdName (cmd :: cmds) foundIndex found =
      if Selects cmdName cmd then (0, some cmd)
      else if Hints cmdName cmd then
        if foundIndex ≠ -1 then (-2, found) else findFrom cmdName cmds 0 (some cmd)
      else findFrom cmdName cmds foundIndex found := by
  have most := valid.most
  rw [findFrom, valid.named]
  simp only [take_min_eq_iff]
  by_cases selects : Selects cmdName cmd
  · have enough : min cmdName.length cmd.text.length ≥ cmd.minMatch :=
      Nat.le_min.2 ⟨selects.2, most⟩
    rw [if_pos selects.1, if_pos enough, if_pos selects]
  · by_cases hints : Hints cmdName cmd
    · have few := hints.2
      have other : cmdName ≠ cmd.text := fun same => by rw [same] at few; omega
      rw [if_pos (.inl hints.1), if_neg (by omega), if_neg other, if_neg selects, if_pos hints]
    · have differ : ¬(cmdName <+: cmd.text ∨ cmd.text <+: cmdName) := by
        intro either
        have few : cmdName.length < cmd.minMatch := Nat.not_le.1 fun le => selects ⟨either, le⟩
        cases either with
        | inl before => exact hints ⟨before, few⟩
        | inr after => exact absurd after.length_le (by omega)
      rw [if_neg differ, if_neg selects, if_neg hints]

end Names

section Search

variable {cmdName : List UInt8} {cmds : List CliCmd} (valid : ∀ cmd ∈ cmds, cmd.Valid)
include valid

theorem findFrom_of_selects {cmd : CliCmd} (mem : cmd ∈ cmds) (selects : Selects cmdName cmd)
    (unique : ∀ other ∈ cmds, Selects cmdName other → other = cmd)
    (noHint : ∀ other ∈ cmds, ¬Hints cmdName other) (foundIndex : Int) (found : Option CliCmd) :
    findFrom cmdName cmds foundIndex found = (0, some cmd) := by
  induction cmds with
  | nil => cases mem
  | cons head cmds ih =>
    rw [List.forall_mem_cons] at valid unique noHint
    rw [findFrom_cons valid.1, if_neg noHint.1]
    by_cases isHead : Selects cmdName head
    · rw [if_pos isHead, unique.1 isHead]
    · rw [if_neg isHead]
      have later := (List.mem_cons.1 mem).resolve_left fun same => isHead (same ▸ selects)
      exact ih valid.2 later unique.2 noHint.2

theorem findCmd_of_selects (nodup : cmds.Nodup) {cmd : CliCmd} (mem : cmd ∈ cmds)
    (selects : Selects cmdName cmd) (unique : ∀ other ∈ cmds, Selects cmdName other → other = cmd)
    (oneHint : ∀ first ∈ cmds, ∀ second ∈ cmds,
      Hints cmdName first → Hints cmdName second → first = second) :
    findCmd cmdName cmds = (0, some cmd) := by
  unfold findCmd
  induction cmds with
  | nil => cases mem
  | cons head cmds ih =>
    rw [List.forall_mem_cons] at valid unique
    rw [List.nodup_cons] at nodup
    rw [findFrom_cons valid.1]
    by_cases isHead : Selects cmdName head
    · rw [if_pos isHead, unique.1 isHead]
    · have later := (List.mem_cons.1 mem).resolve_left fun same => isHead (same ▸ selects)
      rw [if_neg isHead]
      by_cases hints : Hints cmdName head
      · rw [if_pos hints, if_neg (by decide)]
        refine findFrom_of_selects valid.2 later selects unique.2 (fun other mem hint => ?_) _ _
        exact nodup.1 (oneHint head (by simp) other (by simp [mem]) hints hint ▸ mem)
      · rw [if_neg hints]
        exact ih valid.2 nodup.2 later unique.2 fun first mem second mem' =>
          oneHint first (by simp [mem]) second (by simp [mem'])

/-- What is found of commands none of which has enough characters. -/
def verdict : List CliCmd → Int × Option CliCmd
  | [] => (-1, none)
  | [cmd] => (0, some cmd)
  | cmd :: _ :: _ => (-2, some cmd)

theorem findFrom_hint (noSelects : ∀ cmd ∈ cmds, ¬Selects cmdName cmd) (cmd : CliCmd) :
    findFrom cmdName cmds 0 (some cmd) = verdict (cmd :: cmds.filter (Hints cmdName)) := by
  induction cmds with
  | nil => rfl
  | cons head cmds ih =>
    rw [List.forall_mem_cons] at valid noSelects
    rw [findFrom_cons valid.1, if_neg noSelects.1]
    by_cases hints : Hints cmdName head
    · simp [hints, verdict]
    · simpa [hints] using ih valid.2 noSelects.2

theorem findCmd_hint (noSelects : ∀ cmd ∈ cmds, ¬Selects cmdName cmd) :
    findCmd cmdName cmds = verdict (cmds.filter (Hints cmdName)) := by
  unfold findCmd
  induction cmds with
  | nil => rfl
  | cons head cmds ih =>
    rw [List.forall_mem_cons] at valid noSelects
    rw [findFrom_cons valid.1, if_neg noSelects.1]
    by_cases hints : Hints cmdName head
    · simp [hints, findFrom_hint valid.2 noSelects.2]
    · simpa [hints] using ih valid.2 noSelects.2

omit valid in
theorem outcome_verdict_perm {hints others : List CliCmd} (perm : hints.Perm others) :
    outcome (verdict hints) = outcome (verdict others) := by
  match hints, others, perm.length_eq with
  | [], [], _ => rfl
  | [cmd], [other], _ => rw [List.singleton_perm_singleton.1 perm]
  | _ :: _ :: _, _ :: _ :: _, _ => rfl

end Search

section Condition

variable {cmds : List CliCmd} {cmdName : List UInt8} {cmd : CliCmd}

theorem agree_of_common {other : CliCmd} {n : Nat} (before : cmdName <+: cmd.text)
    (before' : cmdName <+: other.text) (le : n ≤ cmdName.length) : cmd.Agree n other := by
  obtain ⟨rest, isText⟩ := before
  obtain ⟨rest', isText'⟩ := before'
  rw [CliCmd.Agree, ← isText, ← isText', List.take_append_of_le_length le,
    List.take_append_of_le_length le]

theorem Distinguished.unique (distinguished : Distinguished cmds) (mem : cmd ∈ cmds)
    (selects : Selects cmdName cmd) :
    ∀ other ∈ cmds, Selects cmdName other → other = cmd := by
  intro other otherMem selects'
  by_contra differ
  have apart := distinguished.beginning cmd mem other otherMem (Ne.symm differ)
  have apart' := distinguished.beginning other otherMem cmd mem differ
  obtain ⟨before | after, enough⟩ := selects <;> obtain ⟨before' | after', enough'⟩ := selects'
  · exact distinguished.needed cmd mem other otherMem (Ne.symm differ)
      (agree_of_common before before' (Nat.max_le.2 ⟨enough, enough'⟩))
  · exact apart' (after'.trans before)
  · exact apart (after.trans before')
  · exact (List.prefix_or_prefix_of_prefix after after').elim apart apart'

theorem Distinguished.oneHint (distinguished : Distinguished cmds) (mem : cmd ∈ cmds)
    (selects : Selects cmdName cmd) : ∀ first ∈ cmds, ∀ second ∈ cmds,
      Hints cmdName first → Hints cmdName second → first = second := by
  intro first firstMem second secondMem hints hints'
  have differ : cmd ≠ first := by
    rintro rfl
    exact Nat.not_le.2 hints.2 selects.2
  have before : cmdName <+: cmd.text := selects.1.resolve_right fun after =>
    distinguished.beginning cmd mem first firstMem differ (after.trans hints.1)
  exact distinguished.longer cmd mem first firstMem second secondMem
    (Nat.lt_of_le_of_lt selects.2 hints.2) (Nat.lt_of_le_of_lt selects.2 hints'.2)
    (agree_of_common before hints.1 selects.2) (agree_of_common before hints'.1 selects.2)

theorem selects_text (valid : cmd.Valid) : Selects cmd.text cmd :=
  ⟨.inl List.prefix_rfl, valid.most⟩

theorem Distinguished.findCmd_perm (distinguished : Distinguished cmds) (cmdName : List UInt8)
    (valid : ∀ cmd ∈ cmds, cmd.Valid) (nodup : cmds.Nodup) {others : List CliCmd}
    (perm : others.Perm cmds) :
    outcome (findCmd cmdName others) = outcome (findCmd cmdName cmds) := by
  have valid' : ∀ cmd ∈ others, cmd.Valid := fun cmd mem => valid cmd (perm.mem_iff.1 mem)
  by_cases some : ∃ cmd ∈ cmds, Selects cmdName cmd
  · obtain ⟨cmd, mem, selects⟩ := some
    have unique := distinguished.unique mem selects
    have oneHint := distinguished.oneHint mem selects
    rw [findCmd_of_selects valid nodup mem selects unique oneHint,
      findCmd_of_selects valid' (perm.nodup_iff.2 nodup) (perm.mem_iff.2 mem) selects
        (fun other mem => unique other (perm.mem_iff.1 mem))
        fun first mem second mem' =>
          oneHint first (perm.mem_iff.1 mem) second (perm.mem_iff.1 mem')]
  · have noSelects : ∀ cmd ∈ cmds, ¬Selects cmdName cmd :=
      fun cmd mem selects => some ⟨cmd, mem, selects⟩
    rw [findCmd_hint valid noSelects,
      findCmd_hint valid' fun cmd mem => noSelects cmd (perm.mem_iff.1 mem)]
    exact outcome_verdict_perm (perm.filter _)

/-- The outcome does not depend on the order of the commands. -/
def Steady (cmds : List CliCmd) : Prop :=
  ∀ others, others.Perm cmds → ∀ cmdName,
    outcome (findCmd cmdName others) = outcome (findCmd cmdName cmds)

theorem findCmd_head (valid : cmd.Valid) (selects : Selects cmdName cmd) (cmds : List CliCmd) :
    findCmd cmdName (cmd :: cmds) = (0, some cmd) := by
  rw [findCmd, findFrom_cons valid, if_pos selects]

section Steady

variable (steady : Steady cmds) (valid : ∀ cmd ∈ cmds, cmd.Valid)
include steady valid

theorem Steady.found (mem : cmd ∈ cmds) (selects : Selects cmdName cmd) :
    outcome (findCmd cmdName cmds) = (0, some cmd) := by
  rw [← steady _ (List.perm_cons_erase mem).symm, findCmd_head (valid cmd mem) selects]
  rfl

theorem Steady.unique {other : CliCmd} (mem : cmd ∈ cmds) (otherMem : other ∈ cmds)
    (selects : Selects cmdName cmd) (selects' : Selects cmdName other) : cmd = other := by
  have same := (steady.found valid mem selects).symm.trans (steady.found valid otherMem selects')
  simpa using same

theorem Steady.distinguished : Distinguished cmds where
  beginning cmd mem other otherMem differ before :=
    differ (steady.unique valid mem otherMem
      ⟨.inr before, Nat.le_trans (valid cmd mem).most before.length_le⟩
      (selects_text (valid other otherMem)))
  needed cmd mem other otherMem differ agree := by
    have most := (valid cmd mem).most
    have most' := (valid other otherMem).most
    have same : (cmd.text.take (max cmd.minMatch other.minMatch)).length =
        (other.text.take (max cmd.minMatch other.minMatch)).length := by rw [agree]
    rw [List.length_take, List.length_take] at same
    have selects : Selects (cmd.text.take (max cmd.minMatch other.minMatch)) cmd :=
      ⟨.inl (List.take_prefix _ _), by rw [List.length_take]; omega⟩
    have selects' : Selects (cmd.text.take (max cmd.minMatch other.minMatch)) other :=
      ⟨.inl (agree ▸ List.take_prefix _ _), by rw [List.length_take]; omega⟩
    exact differ (steady.unique valid mem otherMem selects selects')
  longer cmd mem first firstMem second secondMem less less' agree agree' := by
    by_contra differ
    have length : (cmd.text.take cmd.minMatch).length = cmd.minMatch :=
      List.length_take_of_le (valid cmd mem).most
    have selects : Selects (cmd.text.take cmd.minMatch) cmd :=
      ⟨.inl (List.take_prefix _ _), Nat.le_of_eq length.symm⟩
    have found := steady.found valid mem selects
    have hints : Hints (cmd.text.take cmd.minMatch) first :=
      ⟨agree ▸ List.take_prefix _ _, length.symm ▸ less⟩
    have hints' : Hints (cmd.text.take cmd.minMatch) second :=
      ⟨agree' ▸ List.take_prefix _ _, length.symm ▸ less'⟩
    have perm := (List.perm_cons_erase firstMem).trans ((List.perm_cons_erase
      ((List.mem_erase_of_ne (Ne.symm differ)).2 secondMem)).cons first)
    have noSelects {cmd : CliCmd} {cmdName : List UInt8} (hints : Hints cmdName cmd) :
        ¬Selects cmdName cmd := fun selects => Nat.not_le.2 hints.2 selects.2
    rw [← steady _ perm.symm, findCmd, findFrom_cons (valid first firstMem),
      if_neg (noSelects hints), if_pos hints, if_neg (by decide),
      findFrom_cons (valid second secondMem), if_neg (noSelects hints'), if_pos hints',
      if_pos (by decide)] at found
    simp [outcome] at found

end Steady

end Condition

/-- Which commands are found does not depend on their order exactly if they are distinguished. -/
theorem orderFree_iff {cmds : List CliCmd} (room : cmds.length ≤ maxCmds)
    (valid : ∀ cmd ∈ cmds, cmd.Valid) (distinct : (cmds.map CliCmd.text).Nodup) :
    OrderFree cmds ↔ Distinguished cmds := by
  have nodup : cmds.Nodup := List.Pairwise.of_map CliCmd.text
    (fun _ _ differ same => differ (congrArg CliCmd.text same)) distinct
  have added {calls : List (List CliCmd)} (perm : calls.flatten.Perm cmds) :
      addAll calls = calls.flatten := addAll_of_le (perm.length_eq ▸ room)
  constructor
  · intro free
    have own : [cmds].flatten.Perm cmds := by simp
    refine Steady.distinguished (fun others perm cmdName => ?_) valid
    have perm' : [others].flatten.Perm cmds := by simpa using perm
    simpa [added own, added perm'] using (free [cmds] own).2 [others] perm' cmdName
  · intro distinguished calls perm
    rw [added perm]
    refine ⟨fun cmd mem => ?_, fun others perm' cmdName => ?_⟩
    · have selects := selects_text (valid cmd mem)
      have found := findCmd_of_selects valid nodup mem selects (distinguished.unique mem selects)
        (distinguished.oneHint mem selects)
      have same := distinguished.findCmd_perm cmd.text valid nodup perm
      exact eq_of_outcome (same.trans (by rw [found]; rfl))
    · rw [added perm', distinguished.findCmd_perm cmdName valid nodup perm',
        distinguished.findCmd_perm cmdName valid nodup perm]

/-- Two commands that differ in their first character. -/
def twoCmds : List CliCmd := [⟨some [97, 98], 1⟩, ⟨some [99], 1⟩]

theorem orderFree_iff_two : OrderFree twoCmds ↔ Distinguished twoCmds :=
  orderFree_iff (by decide) (fun cmd mem => by
    simp only [twoCmds, List.mem_cons, List.not_mem_nil, or_false] at mem
    obtain rfl | rfl := mem <;> exact ⟨rfl, by decide, by decide⟩) (by decide)

/-- The command `a` is selected by the name of `ab` if it comes first. -/
theorem not_orderFree_prefix : ¬OrderFree [⟨some [97], 1⟩, ⟨some [97, 98], 2⟩] := by
  intro free
  have found := (free [[⟨some [97], 1⟩, ⟨some [97, 98], 2⟩]] (by simp)).1 ⟨some [97, 98], 2⟩
    (by simp)
  exact absurd found (by decide +kernel)

section Reports

variable {cmdName : List UInt8} {cmds more : List CliCmd} {cmd first : CliCmd}

/-- What was typed and the name are the same up to the end of the shorter one. -/
def CliCmd.Comparable (cmdName : List UInt8) (cmd : CliCmd) : Prop :=
  cmd.name = some cmd.text ∧ (cmdName <+: cmd.text ∨ cmd.text <+: cmdName)

/-- What the results of `find_cmd` say about commands. -/
inductive Reports (cmdName : List UInt8) (cmds : List CliCmd) : Int × Option CliCmd → Prop where
  | found {cmd : CliCmd} (mem : cmd ∈ cmds) (comparable : cmd.Comparable cmdName) :
      Reports cmdName cmds (0, some cmd)
  | notFound (missing : ∀ cmd ∈ cmds, ¬cmd.Comparable cmdName) : Reports cmdName cmds (-1, none)
  | dupFound {first second : CliCmd} (two : [first, second].Sublist cmds)
      (comparable : first.Comparable cmdName) (again : second.Comparable cmdName) :
      Reports cmdName cmds (-2, some first)

theorem Reports.grow {result : Int × Option CliCmd} (reports : Reports cmdName cmds result)
    (sublist : cmds.Sublist more) (only : ∀ cmd ∈ more, cmd.Comparable cmdName → cmd ∈ cmds) :
    Reports cmdName more result := by
  cases reports with
  | found mem comparable => exact .found (sublist.subset mem) comparable
  | notFound missing =>
    exact .notFound fun cmd mem both => missing cmd (only cmd mem both) both
  | dupFound two comparable again => exact .dupFound (two.trans sublist) comparable again

theorem findFrom_of_not_comparable (other : ¬cmd.Comparable cmdName) (foundIndex : Int)
    (found : Option CliCmd) :
    findFrom cmdName (cmd :: cmds) foundIndex found = findFrom cmdName cmds foundIndex found := by
  rw [findFrom]
  cases named : cmd.name with
  | none => rfl
  | some name =>
    have text : cmd.text = name := by rw [CliCmd.text, named]; rfl
    refine if_neg fun same => other ⟨text ▸ named, ?_⟩
    exact text ▸ (take_min_eq_iff cmdName name).1 same

theorem findFrom_of_comparable (comparable : cmd.Comparable cmdName) (foundIndex : Int)
    (found : Option CliCmd) :
    findFrom cmdName (cmd :: cmds) foundIndex found =
      if min cmdName.length cmd.text.length ≥ cmd.minMatch then (0, some cmd)
      else if foundIndex ≠ -1 then (-2, found)
      else if cmdName = cmd.text then (0, some cmd)
      else findFrom cmdName cmds 0 (some cmd) := by
  rw [findFrom, comparable.1]
  exact if_pos ((take_min_eq_iff cmdName cmd.text).2 comparable.2)

theorem findFrom_reports (comparable : first.Comparable cmdName) :
    Reports cmdName (first :: cmds) (findFrom cmdName cmds 0 (some first)) := by
  induction cmds with
  | nil => exact .found List.mem_cons_self comparable
  | cons cmd cmds ih =>
    by_cases again : cmd.Comparable cmdName
    · rw [findFrom_of_comparable again]
      split
      · exact .found (by simp) again
      · exact .dupFound ((List.nil_sublist cmds).cons_cons cmd |>.cons_cons first) comparable again
    · rw [findFrom_of_not_comparable again]
      refine ih.grow (((List.Sublist.refl cmds).cons cmd).cons_cons first) fun other mem both => ?_
      simp only [List.mem_cons] at mem ⊢
      exact mem.imp_right fun mem => mem.resolve_left fun same => again (same ▸ both)

/-- Whatever commands there are: a command is found only if it can be meant, none if there is no
such command, and a duplicate only if there are two. -/
theorem findCmd_reports (cmdName : List UInt8) (cmds : List CliCmd) :
    Reports cmdName cmds (findCmd cmdName cmds) := by
  unfold findCmd
  induction cmds with
  | nil => exact .notFound fun _ mem => (List.not_mem_nil mem).elim
  | cons cmd cmds ih =>
    by_cases comparable : cmd.Comparable cmdName
    · rw [findFrom_of_comparable comparable, if_neg (not_not.2 rfl)]
      split
      · exact .found List.mem_cons_self comparable
      · split
        · exact .found List.mem_cons_self comparable
        · exact findFrom_reports comparable
    · rw [findFrom_of_not_comparable comparable]
      refine ih.grow ((List.Sublist.refl cmds).cons cmd) fun other mem both => ?_
      exact (List.mem_cons.1 mem).resolve_left fun same => comparable (same ▸ both)

end Reports

end RioFabric.Libcli

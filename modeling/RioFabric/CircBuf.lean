import Mathlib.Data.List.DropRight
import Mathlib.Data.Nat.ModEq
import RioFabric.Lib.Runs
import RioFabric.Lib.WhileRules

/-!
# The circular buffer of the log

`circ_buf` keeps the last entries of a log in an array.  Two indices say where the first and the
last entry are, and a count tells an empty buffer from a full one.  The indices and the count have
32 bits, the size of the array has not.
-/

namespace RioFabric

open Lib

variable {α : Type}

/-- `circ_buf<T, N>`; the array has `N` cells. -/
structure CircBuf (α : Type) where
  buffer : List α
  head : BitVec 32
  tail : BitVec 32
  n : BitVec 32

namespace CircBuf

/-- `buffer.size()`. -/
def size (buf : CircBuf α) : Nat := buf.buffer.length

/-- The constructor. -/
def create (cells : List α) : CircBuf α := ⟨cells, 0, 0, 0⟩

section

variable (buf : CircBuf α)

/-- What `inc_head` and `inc_tail` do to an index. -/
def inc (index : BitVec 32) : BitVec 32 :=
  if (index + 1).toNat = buf.size then 0 else index + 1

def incHead : CircBuf α := { buf with head := buf.inc buf.head }

def incTail : CircBuf α := { buf with tail := buf.inc buf.tail }

/-- `buffer[tail] = x; n++`. -/
def write (x : α) : CircBuf α :=
  { buf with buffer := buf.buffer.set buf.tail.toNat x, n := buf.n + 1 }

/-- The full buffer gives up its first entry. -/
def dropHead : CircBuf α := { buf.incHead with n := buf.n - 1 }

def pushBack (x : α) : CircBuf α :=
  if buf.n = 0 then buf.write x
  else if buf.n.toNat = buf.size then buf.dropHead.incTail.write x
  else buf.incTail.write x

def clear : CircBuf α := { buf with head := 0, tail := 0, n := 0 }

end

/-- What `dump` prints: a cell of the array, if there is one with this index, or a line end. -/
inductive Printed (α : Type) where
  | entry (cell : Option α)
  | endl

/-- Print the entry at the head on a line of its own; `isLine` says which entries end their line. -/
def printLine (isLine : α → Bool) : Prog Empty (CircBuf α) (Printed α) Unit := do
  let buf ← .read id
  .emit (.entry buf.buffer[buf.head.toNat]?)
  if buf.buffer[buf.head.toNat]?.any isLine then pure () else .emit .endl

/-- One turn of the loop in `dump`. -/
def dumpTurn (isLine : α → Bool) (_ : Unit) :
    Prog Empty (CircBuf α) (Printed α) (Unit ⊕ Unit) := do
  let buf ← .read id
  if buf.head ≠ buf.tail then
    printLine isLine
    .change incHead
    pure (.inl ())
  else pure (.inr ())

def dump (isLine : α → Bool) : Prog Empty (CircBuf α) (Printed α) Unit := do
  let buf ← .read id
  if buf.n = 0 then pure ()
  else if buf.n = 1 then .emit (.entry buf.buffer[buf.head.toNat]?)
  else
    let origHead := buf.head
    .loop (dumpTurn isLine) ()
    let buf ← .read id
    .emit (.entry buf.buffer[buf.tail.toNat]?)
    .change fun buf => { buf with head := origHead }

/-- A call that changes what is in the buffer. -/
inductive Call (α : Type) where
  | pushBack (x : α)
  | clear

/-- A buffer, and what was pushed since it was cleared. -/
structure Log (α : Type) where
  buf : CircBuf α
  pushed : List α

/-- The next call. -/
def Log.step (log : Log α) : Call α → Log α
  | .pushBack x => ⟨log.buf.pushBack x, log.pushed ++ [x]⟩
  | .clear => ⟨log.buf.clear, []⟩

/-- The cells among what was printed. -/
def Printed.cell? : Printed α → Option (Option α)
  | .entry cell => some cell
  | .endl => none

/-- `dump` ends, changes nothing and prints the last entries that were pushed, as many of them as
the array has cells. -/
def Log.Shown (isLine : α → Bool) (log : Log α) : Prop :=
  ∃ fuel, ∃ trace : List (Printed α), (dump isLine).run fuel log.buf = ⟨.done (), log.buf, trace⟩ ∧
    trace.filterMap Printed.cell? = (log.pushed.rtake log.buf.size).map some

/-- The count is wide enough for what is pushed. -/
def Log.Countable (log : Log α) : Call α → Prop
  | .pushBack _ => log.buf.size < 2 ^ 32 ∨ log.pushed.length + 1 < 2 ^ 32
  | .clear => True

section Laid

variable {cells entries : List α} {start : Nat} {x : α}

/-- The entries are in the cells from `start` on, around the end of the array. -/
def Laid (cells : List α) (start : Nat) (entries : List α) : Prop :=
  ∀ j < entries.length, cells[(start + j) % cells.length]? = entries[j]?

theorem Laid.head (laid : Laid cells start (x :: entries)) (inside : start < cells.length) :
    cells[start]? = some x := by
  have first := laid 0 (Nat.succ_pos _)
  rwa [Nat.add_zero, Nat.mod_eq_of_lt inside] at first

theorem Laid.tail (laid : Laid cells start (x :: entries)) :
    Laid cells ((start + 1) % cells.length) entries := by
  intro j bound
  have next := laid (j + 1) (Nat.succ_lt_succ bound)
  rwa [List.getElem?_cons_succ, Nat.add_comm j 1, ← Nat.add_assoc, ← Nat.mod_add_mod] at next

theorem place_ne {size i j : Nat} (before : i < j) (round : j < size) :
    (start + i) % size ≠ (start + j) % size := by
  intro same
  have congruent : i ≡ j [MOD size] := Nat.ModEq.add_left_cancel' start same
  exact Nat.ne_of_lt before
    (congruent.eq_of_lt_of_lt (Nat.lt_trans before round) round)

theorem Laid.concat (laid : Laid cells start entries) (room : entries.length < cells.length) :
    Laid (cells.set ((start + entries.length) % cells.length) x) start (entries ++ [x]) := by
  intro j bound
  rw [List.length_set]
  rw [List.length_append, List.length_singleton, Nat.lt_succ_iff] at bound
  obtain before | rfl := Nat.lt_or_eq_of_le bound
  · rw [List.getElem?_set_ne (place_ne before room).symm, List.getElem?_append_left before]
    exact laid j before
  · rw [List.getElem?_set_self (Nat.mod_lt _ (Nat.zero_lt_of_lt room)), List.getElem?_concat_length]

end Laid

/-- The buffer stores these entries from its head on. -/
structure Stores (buf : CircBuf α) (entries : List α) : Prop where
  count : buf.n.toNat = entries.length
  fits : entries.length ≤ buf.size
  inside : buf.head.toNat < buf.size
  laid : Laid buf.buffer buf.head.toNat entries
  narrow : buf.size < 2 ^ 32 ∨ buf.head = 0

/-- The tail is where the last entry is. -/
def TailAt (buf : CircBuf α) (entries : List α) : Prop :=
  buf.tail.toNat = (buf.head.toNat + (entries.length - 1)) % buf.size

section Pushing

variable {buf : CircBuf α} {entries : List α} {x : α} {index : BitVec 32}

theorem toNat_succ (below : index.toNat + 1 < 2 ^ 32) : (index + 1).toNat = index.toNat + 1 :=
  BitVec.toNat_add_of_lt below

theorem toNat_inc (inside : index.toNat < buf.size) (below : index.toNat + 1 < 2 ^ 32) :
    (buf.inc index).toNat = (index.toNat + 1) % buf.size := by
  rw [inc, toNat_succ below]
  split
  next last =>
    rw [last, Nat.mod_self]
    rfl
  next notLast =>
    rw [toNat_succ below, Nat.mod_eq_of_lt (Nat.lt_of_le_of_ne inside notLast)]

theorem below_of_narrow (narrow : buf.size < 2 ^ 32) (inside : index.toNat < buf.size) :
    index.toNat + 1 < 2 ^ 32 :=
  Nat.lt_of_le_of_lt inside narrow

theorem Stores.write (stores : Stores buf entries) (room : entries.length < buf.size)
    (countable : entries.length + 1 < 2 ^ 32)
    (next : buf.tail.toNat = (buf.head.toNat + entries.length) % buf.size) :
    Stores (buf.write x) (entries ++ [x]) ∧ TailAt (buf.write x) (entries ++ [x]) := by
  have size : (buf.write x).size = buf.size := List.length_set
  have length : (entries ++ [x]).length = entries.length + 1 := List.length_append
  refine ⟨⟨?_, ?_, ?_, ?_, ?_⟩, ?_⟩
  · rw [length, ← stores.count]
    exact toNat_succ (stores.count ▸ countable)
  · rw [size, length]
    exact room
  · rw [size]
    exact stores.inside
  · have laid := @Laid.concat _ _ _ _ x stores.laid room
    rwa [show buf.buffer.length = buf.size from rfl, ← next] at laid
  · rw [size]
    exact stores.narrow
  · rw [TailAt, size, length]
    exact next

theorem Stores.narrow_of_full (stores : Stores buf entries) (full : entries.length = buf.size) :
    buf.size < 2 ^ 32 := by
  rw [← full, ← stores.count]
  exact buf.n.isLt

theorem Stores.dropHead (stores : Stores buf (x :: entries)) (narrow : buf.size < 2 ^ 32) :
    Stores buf.dropHead entries := by
  have head : (buf.inc buf.head).toNat = (buf.head.toNat + 1) % buf.size :=
    toNat_inc stores.inside (below_of_narrow narrow stores.inside)
  constructor
  · have positive : (1 : BitVec 32) ≤ buf.n := by
      rw [BitVec.le_def, stores.count]
      exact Nat.succ_pos _
    show (buf.n - 1).toNat = _
    rw [BitVec.toNat_sub_of_le positive, stores.count]
    rfl
  · exact Nat.le_of_succ_le stores.fits
  · show (buf.inc buf.head).toNat < buf.size
    rw [head]
    exact Nat.mod_lt _ (Nat.zero_lt_of_lt stores.inside)
  · show Laid buf.buffer (buf.inc buf.head).toNat entries
    rw [head]
    exact stores.laid.tail
  · exact .inl narrow

theorem TailAt.incTail (tailAt : TailAt buf (x :: entries)) (positive : 0 < buf.size)
    (below : buf.tail.toNat + 1 < 2 ^ 32) :
    buf.incTail.tail.toNat = (buf.head.toNat + (x :: entries).length) % buf.size := by
  have inside : buf.tail.toNat < buf.size := tailAt ▸ Nat.mod_lt _ positive
  show (buf.inc buf.tail).toNat = _
  rw [toNat_inc inside below, tailAt, Nat.mod_add_mod]
  rfl

theorem Stores.n_ne_zero (stores : Stores buf (x :: entries)) : buf.n ≠ 0 := by
  intro empty
  have count := stores.count
  rw [empty] at count
  cases count

theorem Stores.tail_below (stores : Stores buf entries) (tailAt : TailAt buf entries)
    (countable : entries.length + 1 < 2 ^ 32) : buf.tail.toNat + 1 < 2 ^ 32 := by
  obtain narrow | atZero := stores.narrow
  · exact below_of_narrow narrow (tailAt ▸ Nat.mod_lt _ (Nat.zero_lt_of_lt stores.inside))
  · have low : buf.tail.toNat ≤ entries.length := by
      rw [tailAt, atZero]
      exact Nat.le_trans (Nat.mod_le _ _) (Nat.le_trans (Nat.le_of_eq (Nat.zero_add _))
        (Nat.sub_le _ _))
    exact Nat.lt_of_le_of_lt (Nat.succ_le_succ low) countable

theorem Stores.pushBack (stores : Stores buf entries) (tailAt : TailAt buf entries)
    (room : entries.length < buf.size)
    (countable : buf.size < 2 ^ 32 ∨ entries.length + 1 < 2 ^ 32) :
    Stores (buf.pushBack x) (entries ++ [x]) ∧ TailAt (buf.pushBack x) (entries ++ [x]) := by
  have countable : entries.length + 1 < 2 ^ 32 :=
    countable.elim (Nat.lt_of_le_of_lt room) id
  cases entries with
  | nil =>
    have empty : buf.n = 0 := BitVec.eq_of_toNat_eq stores.count
    rw [CircBuf.pushBack, if_pos empty]
    exact stores.write room countable tailAt
  | cons first rest =>
    have notEmpty : buf.n ≠ 0 := stores.n_ne_zero
    have notFull : buf.n.toNat ≠ buf.size := by
      rw [stores.count]
      exact Nat.ne_of_lt room
    have positive := Nat.zero_lt_of_lt room
    rw [CircBuf.pushBack, if_neg notEmpty, if_neg notFull]
    have next := tailAt.incTail positive (stores.tail_below tailAt countable)
    have stores : Stores buf.incTail (first :: rest) :=
      ⟨stores.count, stores.fits, stores.inside, stores.laid, stores.narrow⟩
    exact stores.write room countable next

theorem Stores.pushBack_full {first : α} (stores : Stores buf (first :: entries))
    (tailAt : TailAt buf (first :: entries)) (full : (first :: entries).length = buf.size) :
    Stores (buf.pushBack x) (entries ++ [x]) ∧ TailAt (buf.pushBack x) (entries ++ [x]) := by
  have narrow := stores.narrow_of_full full
  have positive : 0 < buf.size := Nat.zero_lt_of_lt stores.inside
  have tailInside : buf.tail.toNat < buf.size := tailAt ▸ Nat.mod_lt _ positive
  have notEmpty : buf.n ≠ 0 := stores.n_ne_zero
  have isFull : buf.n.toNat = buf.size := stores.count.trans full
  rw [CircBuf.pushBack, if_neg notEmpty, if_pos isFull]
  have dropped := stores.dropHead narrow
  have next : buf.dropHead.incTail.tail.toNat =
      (buf.dropHead.head.toNat + entries.length) % buf.size := by
    have advanced := tailAt.incTail positive (below_of_narrow narrow tailInside)
    have head : buf.dropHead.head.toNat = (buf.head.toNat + 1) % buf.size :=
      toNat_inc stores.inside (below_of_narrow narrow stores.inside)
    rw [head, Nat.mod_add_mod, Nat.add_right_comm]
    exact advanced
  have stored : Stores buf.dropHead.incTail entries :=
    ⟨dropped.count, dropped.fits, dropped.inside, dropped.laid, dropped.narrow⟩
  have room : entries.length < buf.size := Nat.lt_of_succ_le stores.fits
  have countable : entries.length + 1 < 2 ^ 32 := Nat.lt_of_le_of_lt room narrow
  exact stored.write room countable next

end Pushing

section Dumping

variable {isLine : α → Bool} {buf : CircBuf α} {entries : List α} {x : α}

theorem printLine_run (fuel : Nat) :
    ∃ trace, (printLine isLine).run fuel buf = ⟨.done (), buf, trace⟩ ∧
      trace.filterMap Printed.cell? = [buf.buffer[buf.head.toNat]?] := by
  by_cases isClosed : buf.buffer[buf.head.toNat]?.any isLine
  · refine ⟨[.entry buf.buffer[buf.head.toNat]?], ?_, rfl⟩
    simp [printLine, Prog.run_bind, Prog.run_read, Prog.run_emit, Prog.run_pure, Prog.andThen_done,
      isClosed]
  · refine ⟨[.entry buf.buffer[buf.head.toNat]?, .endl], ?_, rfl⟩
    simp [printLine, Prog.run_bind, Prog.run_read, Prog.run_emit, Prog.andThen_done, isClosed]

theorem dumpTurn_run_last (last : buf.head = buf.tail) (fuel : Nat) :
    (dumpTurn isLine ()).run fuel buf = ⟨.done (.inr ()), buf, []⟩ := by
  simp [dumpTurn, Prog.run_bind, Prog.run_read, Prog.run_pure, Prog.andThen_done, last]

/-- A turn of the loop of `dump` prints one cell and goes on to the next. -/
theorem dumpTurn_run (notLast : buf.head ≠ buf.tail) (fuel : Nat) :
    ∃ trace, (dumpTurn isLine ()).run fuel buf = ⟨.done (.inl ()), buf.incHead, trace⟩ ∧
      trace.filterMap Printed.cell? = [buf.buffer[buf.head.toNat]?] := by
  obtain ⟨trace, printed, cells⟩ := @printLine_run _ isLine buf fuel
  refine ⟨trace, ?_, cells⟩
  simp [dumpTurn, Prog.run_bind, Prog.run_read, Prog.run_change, Prog.run_pure, Prog.andThen_done,
    notLast, printed]

theorem iterate_dumpTurn (laid : Laid buf.buffer buf.head.toNat (x :: entries))
    (tailAt : TailAt buf (x :: entries)) (inside : buf.head.toNat < buf.size)
    (round : entries.length < buf.size)
    (narrow : buf.size < 2 ^ 32 ∨ buf.head.toNat + entries.length < 2 ^ 32) (fuel : Nat) :
    ∃ trace,
      iterate (fun _ => (dumpTurn isLine ()).run fuel) (entries.length + 1) () buf =
          ⟨.done (), { buf with head := buf.tail }, trace⟩ ∧
        trace.filterMap Printed.cell? = (x :: entries).dropLast.map some := by
  induction entries generalizing x buf with
  | nil =>
    have last : buf.head = buf.tail := by
      apply BitVec.eq_of_toNat_eq
      rw [tailAt]
      exact (Nat.mod_eq_of_lt inside).symm
    refine ⟨[], ?_, rfl⟩
    rw [List.length_nil, iterate, dumpTurn_run_last last]
    cases buf
    cases last
    rfl
  | cons y entries ih =>
    have notLast : buf.head ≠ buf.tail := by
      intro last
      apply @place_ne buf.head.toNat _ _ _ (Nat.succ_pos entries.length) round
      rw [Nat.add_zero, Nat.mod_eq_of_lt inside]
      exact (congrArg BitVec.toNat last).trans tailAt
    have below : buf.head.toNat + 1 < 2 ^ 32 := by
      obtain narrow | low := narrow
      · exact below_of_narrow narrow inside
      · exact Nat.lt_of_le_of_lt (Nat.add_le_add_left (Nat.succ_pos _) _) low
    have head : buf.incHead.head.toNat = (buf.head.toNat + 1) % buf.size := toNat_inc inside below
    obtain ⟨trace, turn, cells⟩ := @dumpTurn_run _ isLine _ notLast fuel
    obtain ⟨rest, walked, restCells⟩ := @ih buf.incHead y
      (head ▸ laid.tail)
      (by
        rw [TailAt, head]
        show buf.tail.toNat = ((buf.head.toNat + 1) % buf.size + entries.length) % buf.size
        rw [Nat.mod_add_mod, Nat.add_right_comm]
        exact tailAt)
      (head ▸ Nat.mod_lt _ (Nat.zero_lt_of_lt inside))
      (Nat.lt_of_succ_lt round)
      (by
        refine narrow.imp_right fun low => ?_
        rw [head]
        refine Nat.lt_of_le_of_lt (Nat.add_le_add_right (Nat.mod_le _ _) _) ?_
        rw [Nat.add_right_comm]
        exact low)
    refine ⟨trace ++ rest, ?_, ?_⟩
    · rw [List.length_cons, iterate, turn]
      simp only [Outcome.andThen, walked]
      rfl
    · rw [List.filterMap_append, cells, restCells, laid.head inside]
      rfl

theorem Stores.dump (stores : Stores buf entries) (tailAt : TailAt buf entries) :
    ∃ fuel, ∃ trace : List (Printed α),
      (CircBuf.dump isLine).run fuel buf = ⟨.done (), buf, trace⟩ ∧
        trace.filterMap Printed.cell? = entries.map some := by
  cases entries with
  | nil =>
    have empty : buf.n = 0 := BitVec.eq_of_toNat_eq stores.count
    refine ⟨0, [], ?_, rfl⟩
    simp [CircBuf.dump, Prog.run_bind, Prog.run_read, Prog.run_pure, Prog.andThen_done, empty]
  | cons first rest =>
    have notEmpty : buf.n ≠ 0 := stores.n_ne_zero
    cases rest with
    | nil =>
      have one : buf.n = 1 := BitVec.eq_of_toNat_eq stores.count
      refine ⟨0, [.entry buf.buffer[buf.head.toNat]?], ?_, ?_⟩
      · simp [CircBuf.dump, Prog.run_bind, Prog.run_read, Prog.run_emit, Prog.andThen_done, one]
      · rw [stores.laid.head stores.inside]
        rfl
    | cons second rest =>
      have notOne : buf.n ≠ 1 := by
        intro one
        have count := stores.count
        rw [one] at count
        cases count
      have narrow : buf.size < 2 ^ 32 ∨ buf.head.toNat + (second :: rest).length < 2 ^ 32 := by
        refine stores.narrow.imp_right fun atZero => ?_
        have bound := buf.n.isLt
        rw [stores.count] at bound
        rw [atZero]
        exact Nat.lt_of_le_of_lt (Nat.zero_add _ ▸ Nat.le_succ _) bound
      let fuel := (second :: rest).length + 1
      obtain ⟨trace, walked, cells⟩ :=
        @iterate_dumpTurn _ isLine _ _ _ stores.laid tailAt stores.inside stores.fits narrow fuel
      have loop : (Prog.loop (dumpTurn isLine) ()).run fuel buf = _ := walked
      refine ⟨fuel, trace ++ [.entry buf.buffer[buf.tail.toNat]?], ?_, ?_⟩
      · simp only [CircBuf.dump, Prog.run_bind, Prog.run_read, Prog.andThen_done, id,
          if_neg notEmpty, if_neg notOne, loop, Prog.run_emit, Prog.run_change]
        rfl
      · have last : buf.buffer[buf.tail.toNat]? = (first :: second :: rest).getLast? := by
          rw [List.getLast?_eq_getElem?, tailAt]
          exact stores.laid _ (Nat.lt_succ_self _)
        rw [List.filterMap_append, cells]
        show _ ++ [buf.buffer[buf.tail.toNat]?] = _
        rw [last, List.getLast?_eq_some_getLast (List.cons_ne_nil _ _), ← List.map_singleton,
          ← List.map_append, List.dropLast_concat_getLast]

end Dumping

section Logs

variable {isLine : α → Bool} {log : Log α} {cells pushed : List α} {x : α} {size : Nat}

/-- The buffer stores the last entries. -/
def Log.Holds (log : Log α) : Prop :=
  Stores log.buf (log.pushed.rtake log.buf.size) ∧ TailAt log.buf (log.pushed.rtake log.buf.size)

theorem size_pushBack (buf : CircBuf α) : (buf.pushBack x).size = buf.size := by
  unfold CircBuf.pushBack
  split
  · exact List.length_set
  split
  · exact List.length_set
  · exact List.length_set

theorem rtake_of_length_le (fits : pushed.length ≤ size) : pushed.rtake size = pushed := by
  rw [List.rtake, Nat.sub_eq_zero_of_le fits, List.drop_zero]

theorem rtake_succ (more : size < pushed.length) :
    ∃ first, pushed.rtake (size + 1) = first :: pushed.rtake size := by
  have inside : pushed.length - (size + 1) < pushed.length :=
    Nat.sub_lt (Nat.zero_lt_of_lt more) (Nat.succ_pos _)
  refine ⟨pushed[pushed.length - (size + 1)], ?_⟩
  rw [List.rtake, List.rtake, List.drop_eq_getElem_cons inside]
  congr 2
  omega

theorem length_rtake : (pushed.rtake size).length = min pushed.length size := by
  rw [List.rtake, List.length_drop]
  omega

theorem holds_create (positive : 0 < cells.length) : Log.Holds ⟨create cells, []⟩ := by
  have nothing : ([] : List α).rtake (create cells).size = [] := List.rtake_nil ..
  have tail : TailAt (create cells) [] := (Nat.zero_mod _).symm
  rw [Log.Holds, nothing]
  refine ⟨⟨rfl, Nat.zero_le _, positive, ?_, .inr rfl⟩, tail⟩
  exact fun _ never => absurd never (Nat.not_lt_zero _)

theorem Log.Holds.pushBack (holds : log.Holds) (countable : log.Countable (.pushBack x)) :
    (log.step (.pushBack x)).Holds := by
  obtain ⟨stores, tailAt⟩ := holds
  rw [Log.Holds, Log.step, size_pushBack]
  obtain room | full := Nat.lt_or_ge log.pushed.length log.buf.size
  · have fits : (log.pushed ++ [x]).length ≤ log.buf.size := by
      rw [List.length_append]
      exact room
    rw [rtake_of_length_le (Nat.le_of_lt room)] at stores tailAt
    rw [rtake_of_length_le fits]
    exact stores.pushBack tailAt room countable
  · obtain ⟨size, isSize⟩ : ∃ size, log.buf.size = size + 1 :=
      Nat.exists_eq_succ_of_ne_zero (Nat.ne_of_gt (Nat.zero_lt_of_lt stores.inside))
    rw [isSize] at full
    obtain ⟨first, isFirst⟩ := rtake_succ full
    rw [isSize, isFirst] at stores tailAt
    rw [isSize, List.rtake_concat_succ]
    apply stores.pushBack_full tailAt
    rw [← isFirst, isSize, length_rtake]
    exact Nat.min_eq_right full

theorem Log.Holds.clear (holds : log.Holds) : (log.step .clear).Holds :=
  @holds_create _ log.buf.buffer (Nat.zero_lt_of_lt holds.1.inside)

theorem Log.Holds.shown (holds : log.Holds) : log.Shown isLine := holds.1.dump holds.2

theorem Log.Holds.not_shown (holds : log.Holds) (overflows : ¬log.Countable (.pushBack x)) :
    ¬(log.step (.pushBack x)).Shown isLine := by
  obtain ⟨large, many⟩ := not_or.mp overflows
  have count := holds.1.count
  have bound := log.buf.n.isLt
  rw [length_rtake] at count
  have isLast : log.buf.n.toNat = 2 ^ 32 - 1 := by omega
  have notEmpty : log.buf.n ≠ 0 := by
    intro empty
    rw [empty] at isLast
    cases isLast
  have notFull : log.buf.n.toNat ≠ log.buf.size := by omega
  have wrapped : (log.buf.pushBack x).n = 0 := by
    rw [CircBuf.pushBack, if_neg notEmpty, if_neg notFull]
    apply BitVec.eq_of_toNat_eq
    show (log.buf.n + 1).toNat = 0
    rw [BitVec.toNat_add, isLast]
    rfl
  rintro ⟨fuel, trace, dumped, entries⟩
  have nothing : (dump isLine).run fuel (log.buf.pushBack x) =
      ⟨.done (), log.buf.pushBack x, []⟩ := by
    simp only [CircBuf.dump, Prog.run_bind, Prog.run_read, Prog.andThen_done, id, if_pos wrapped]
    rfl
  have same : [] = trace := congrArg Outcome.trace (nothing.symm.trans dumped)
  have length := congrArg List.length entries
  rw [← same, List.length_map, length_rtake, List.filterMap_nil, Log.step, size_pushBack,
    List.length_append] at length
  simp only [List.length_nil, List.length_singleton] at length
  omega

/-- `dump` shows the last entries after all calls of a run, exactly if the array has less than
`2 ^ 32` cells or so many entries are never pushed without a `clear` between them. -/
theorem shown_iff (isLine : α → Bool) (positive : 0 < cells.length) (calls : List (Call α)) :
    (∀ before, before <+: calls → (run Log.step ⟨create cells, []⟩ before).Shown isLine) ↔
      Guarded Log.step Log.Countable ⟨create cells, []⟩ calls := by
  apply run_good_iff Log.Holds
  · intro log holds
    exact holds.shown
  · rintro log (x | _) holds countable
    · exact holds.pushBack countable
    · exact holds.clear
  · rintro log (x | _) holds overflows
    · exact holds.not_shown overflows
    · exact absurd trivial overflows
  · exact holds_create positive

/-- Of three entries in two cells the last two are shown. -/
theorem shown_iff_three :
    (run Log.step ⟨create [0, 0], []⟩ [.pushBack 1, .pushBack 2, .pushBack 3]).Shown
      (fun _ : Nat => true) := by
  have positive : 0 < [0, 0].length := Nat.succ_pos 1
  apply (shown_iff (fun _ => true) positive [.pushBack 1, .pushBack 2, .pushBack 3]).mpr
  · exact ⟨.inl (by decide), .inl (by decide), .inl (by decide), trivial⟩
  · exact List.prefix_rfl

theorem Log.Holds.run_replicate (holds : log.Holds) (x : α) (count : Nat)
    (few : log.pushed.length + count < 2 ^ 32) :
    (run Log.step log (.replicate count (.pushBack x))).Holds ∧
      (run Log.step log (.replicate count (.pushBack x))).buf.size = log.buf.size ∧
        (run Log.step log (.replicate count (.pushBack x))).pushed.length =
          log.pushed.length + count := by
  induction count generalizing log with
  | zero => exact ⟨holds, rfl, rfl⟩
  | succ count ih =>
    have length : (log.step (.pushBack x)).pushed.length = log.pushed.length + 1 :=
      List.length_append
    obtain ⟨after, size, pushed⟩ := @ih (log.step (.pushBack x))
      (holds.pushBack (.inr (by omega))) (by omega)
    exact ⟨after, size.trans (size_pushBack _), pushed.trans (by omega)⟩

theorem not_shown_replicate {count : Nat} (large : 2 ^ 32 ≤ cells.length) (many : count = 2 ^ 32) :
    ¬(run Log.step ⟨create cells, []⟩ (.replicate count (.pushBack x))).Shown isLine := by
  obtain ⟨count, rfl⟩ := Nat.exists_eq_succ_of_ne_zero (many ▸ (by decide) : count ≠ 0)
  have start : Log.Holds ⟨create cells, []⟩ := holds_create (Nat.lt_of_lt_of_le (by decide) large)
  obtain ⟨holds, size, pushed⟩ := start.run_replicate x count
    (Nat.lt_of_lt_of_eq (by simp) many)
  rw [List.replicate_succ', run, List.foldl_append]
  apply holds.not_shown
  rw [Log.Countable, size, pushed]
  simp only [List.length_nil, CircBuf.size, create]
  omega

/-- An array of `2 ^ 32` cells that is full is taken for an empty one. -/
theorem not_shown_full :
    ¬(run Log.step ⟨create (.replicate (2 ^ 32) 0), []⟩
      (.replicate (2 ^ 32) (.pushBack 0))).Shown fun _ : Nat => true :=
  not_shown_replicate (Nat.le_of_eq List.length_replicate.symm) rfl

end Logs

end CircBuf

end RioFabric

import RioFabric.Librsvdmem.LineSearch

/-!
# Regions that are aligned

A region is found only if no bit of its address is one of `*sz - 1`.  Where the size is a power
of two, the address is then a multiple of it; but no other test is made of the size.
-/

namespace RioFabric.Librsvdmem

open Lib Libcfg Libcli

/-- A line that does not end the search. -/
def Taken (line : List Char) : Prop := line ≠ [] ∧ line.length ≤ longest

/-- The words after the name start with two numbers. -/
def IsRegion (tokens : List Token) (region : Region) : Prop :=
  ∃ address size more, tokens = address :: size :: more ∧ (tokParseUll address 0).rc = 0 ∧
    (tokParseUll size 0).rc = 0 ∧
    region = ⟨(tokParseUll address 0).value, (tokParseUll size 0).value⟩

/-- The first line with the name gives a region, and all lines up to this one are taken. -/
inductive FirstRegion (parmName : List Char) : List (List Char) → Region → Prop where
  | here {line : List Char} {lines : List (List Char)} {tokens : List Token} {region : Region}
      (taken : Taken line) (named : findParm parmName (strtokR line) = some tokens)
      (isRegion : IsRegion tokens region) : FirstRegion parmName (line :: lines) region
  | later {line : List Char} {lines : List (List Char)} {region : Region} (taken : Taken line)
      (unnamed : findParm parmName (strtokR line) = none)
      (rest : FirstRegion parmName lines region) : FirstRegion parmName (line :: lines) region

namespace Region

/-- The size is not zero, and the address is a multiple of it. -/
def Aligned (region : Region) : Prop :=
  region.sz ≠ 0 ∧ region.sz.toNat ∣ region.sa.toNat

/-- No bit of the address is one of `*sz - 1`. -/
def Masked (region : Region) : Prop := (region.sz - 1) &&& region.sa = 0

/-- The mask lets a region pass that is not aligned: nothing at all, or a size that does not
divide the address. -/
def Misjudged (region : Region) : Prop :=
  region.Masked ∧ (region.sz = 0 ∨ ¬region.sz.toNat ∣ region.sa.toNat)

variable {region : Region}

theorem Masked.aligned_iff (masked : region.Masked) :
    region.Aligned ↔ ¬region.Misjudged := by
  unfold Aligned Misjudged
  rw [not_and, not_or, not_not]
  exact ⟨fun aligned _ => aligned, fun judged => judged masked⟩

theorem not_misjudged_of_two_pow {k : Nat} (size : region.sz.toNat = 2 ^ k) :
    ¬region.Misjudged := by
  rintro ⟨masked, unaligned⟩
  have positive : 1 ≤ region.sz.toNat := size ▸ Nat.one_le_two_pow
  have notLess : (1 : BitVec 64) ≤ region.sz := positive
  have below : (region.sz - 1).toNat = 2 ^ k - 1 := by
    rw [BitVec.toNat_sub_of_le notLess, size]
    rfl
  have remainder : region.sa.toNat % 2 ^ k = 0 := by
    rw [← Nat.and_two_pow_sub_one_eq_mod, Nat.and_comm, ← below, ← BitVec.toNat_and, masked]
    rfl
  obtain zero | other := unaligned
  · rw [zero] at positive
    contradiction
  · rw [size] at other
    exact other (Nat.dvd_of_mod_eq_zero remainder)

end Region

variable {parmName : List Char} {region : Region} {tokens : List Token} {line : List Char}
  {lines : List (List Char)}

theorem ite_fails_iff {condition : Prop} [Decidable condition] {after : Region} {errno : Int}
    {rest : Region × Progress} :
    (if condition then (region, Progress.fails errno) else rest) = (after, .isDone) ↔
      ¬condition ∧ rest = (after, .isDone) := by
  split
  next holds => exact iff_of_false nofun fun passed => passed.1 holds
  next fails => exact ⟨fun done => ⟨fails, done⟩, fun passed => passed.2⟩

theorem fails_ne_isDone {after : Region} {errno : Int} :
    (region, Progress.fails errno) ≠ (after, .isDone) := nofun

theorem parseRegion_isDone_iff {before after : Region} :
    parseRegion tokens before = (after, .isDone) ↔ IsRegion tokens after ∧ after.Masked := by
  match tokens with
  | [] =>
    refine iff_of_false fails_ne_isDone ?_
    rintro ⟨⟨_, _, _, same, _⟩, _⟩
    cases same
  | [address] =>
    unfold parseRegion
    dsimp only
    rw [ite_fails_iff]
    refine iff_of_false (fun done => fails_ne_isDone done.2) ?_
    rintro ⟨⟨_, _, _, same, _⟩, _⟩
    cases same
  | address :: size :: more =>
    unfold parseRegion
    dsimp only
    rw [ite_fails_iff, ite_fails_iff, ite_fails_iff, not_not, not_not, not_not]
    constructor
    · rintro ⟨isAddress, isSize, masked, same⟩
      obtain ⟨rfl, -⟩ := Prod.mk.inj same
      exact ⟨⟨address, size, more, rfl, isAddress, isSize, rfl⟩, masked⟩
    · rintro ⟨⟨_, _, _, same, isAddress, isSize, rfl⟩, masked⟩
      cases same
      exact ⟨isAddress, isSize, masked, rfl⟩

theorem parseRegion_ne_goesOn {before : Region} :
    (parseRegion tokens before).2 ≠ .goesOn := by
  match tokens with
  | [] => exact nofun
  | [address] =>
    unfold parseRegion
    dsimp only
    split
    · exact nofun
    · exact nofun
  | address :: size :: more =>
    unfold parseRegion
    dsimp only
    split_ifs
    · exact nofun
    · exact nofun
    · exact nofun
    · exact nofun

theorem FirstRegion.here_iff (taken : Taken line)
    (named : findParm parmName (strtokR line) = some tokens) :
    FirstRegion parmName (line :: lines) region ↔ IsRegion tokens region := by
  refine ⟨fun first => ?_, fun isRegion => .here taken named isRegion⟩
  cases first with
  | here _ found isRegion =>
    rw [named] at found
    obtain rfl := Option.some.inj found
    exact isRegion
  | later _ unnamed _ =>
    rw [named] at unnamed
    contradiction

theorem FirstRegion.later_iff (taken : Taken line)
    (unnamed : findParm parmName (strtokR line) = none) :
    FirstRegion parmName (line :: lines) region ↔ FirstRegion parmName lines region := by
  refine ⟨fun first => ?_, fun rest => .later taken unnamed rest⟩
  cases first with
  | here _ named _ =>
    rw [unnamed] at named
    contradiction
  | later _ _ rest => exact rest

theorem FirstRegion.taken (first : FirstRegion parmName (line :: lines) region) : Taken line := by
  cases first with
  | here taken _ _ => exact taken
  | later taken _ _ => exact taken

theorem searchLines_isDone_iff {before after : Region} :
    searchLines parmName lines before = (after, .isDone) ↔
      FirstRegion parmName lines after ∧ after.Masked := by
  induction lines generalizing before with
  | nil =>
    refine iff_of_false (fun found => ?_) fun region => ?_
    · cases found
    · cases region.1
  | cons line lines ih =>
    unfold searchLines
    split
    next blank =>
      refine iff_of_false (fun found => ?_) fun first => first.1.taken.1 blank
      cases found
    next nonempty =>
      rw [ite_fails_iff, not_lt]
      by_cases short : line.length ≤ longest
      · have taken : Taken line := ⟨nonempty, short⟩
        rw [and_iff_right short]
        unfold parseLine
        cases named : findParm parmName (strtokR line) with
        | none =>
          rw [FirstRegion.later_iff taken named]
          exact ih
        | some tokens =>
          rw [FirstRegion.here_iff taken named,
            ← @parseRegion_isDone_iff tokens before after]
          have stays := @parseRegion_ne_goesOn tokens before
          dsimp only
          generalize parseRegion tokens before = parsed at stays ⊢
          obtain ⟨region, progress⟩ := parsed
          cases progress with
          | goesOn => exact absurd rfl stays
          | fails errno => rfl
          | isDone => rfl
      · exact iff_of_false (fun done => short done.1) fun first => short first.1.taken.2

/-- The lines of a file, none if it cannot be opened. -/
def linesOf : Except Int (List Char) → List (List Char)
  | .error _ => []
  | .ok text => text.splitOn '\n'

/-- The search for a region comes to an end, hands whole lines of the file to `strtok_r`, one after
the other, and returns 0 only with a region that is aligned. -/
structure Reserves (file : Except Int (List Char)) (parmName : List Char) (start : Search) :
    Prop where
  stops : (getPhysMem file parmName).Stops start
  whole : ∀ fuel, ((getPhysMem file parmName).run fuel start).trace.map lineOf <+: linesOf file
  aligned : ∀ fuel, ((getPhysMem file parmName).run fuel start).ending = .done 0 →
    ((getPhysMem file parmName).run fuel start).state.region.Aligned

theorem Progress.rc_eq_zero_iff {progress : Progress} : progress.rc = 0 ↔ progress = .isDone := by
  cases progress with
  | goesOn => decide
  | fails errno => exact iff_of_false (by decide : (-1 : Int) ≠ 0) nofun
  | isDone => decide

theorem getPhysMem_run_error (errno : Int) (parmName : List Char) (fuel : Nat) (start : Search) :
    (getPhysMem (.error errno) parmName).run fuel start =
      ⟨.done (-1), { start with region := ⟨rioAnyAddr, 0⟩, errno := errno }, []⟩ := rfl

theorem reserves_error (errno : Int) (parmName : List Char) (start : Search) :
    Reserves (.error errno) parmName start where
  stops := ⟨0, trivial⟩
  whole _ := List.prefix_rfl
  aligned fuel done := by
    rw [getPhysMem_run_error] at done
    exact absurd (Ending.done.inj done) (by decide)

section Opened

variable {text : List Char} {start : Search}

theorem getPhysMem_stops (text parmName : List Char) (start : Search) :
    (getPhysMem (.ok text) parmName).Stops start := by
  obtain ⟨rest, trace, -, run⟩ :=
    getPhysMem_run text parmName start (Nat.lt_succ_self text.length)
  exact ⟨text.length + 1, by rw [run]; trivial⟩

theorem getPhysMem_lines (text parmName : List Char) (start : Search) (fuel : Nat) :
    ((getPhysMem (.ok text) parmName).run fuel start).trace.map lineOf <+:
      text.splitOn '\n' := by
  have enough : text.length < max fuel (text.length + 1) := le_max_right fuel (text.length + 1)
  obtain ⟨rest, trace, lines, run⟩ := getPhysMem_run text parmName start enough
  have shorter := ((getPhysMem (.ok text) parmName).run_approx
    (le_max_left fuel (text.length + 1)) start).isPrefix_trace
  rw [run] at shorter
  exact ((shorter.map lineOf).trans lines).trans (List.takeWhile_prefix _)

theorem getPhysMem_done {fuel : Nat} {rc : Int}
    (done : ((getPhysMem (.ok text) parmName).run fuel start).ending = .done rc) :
    rc = (found text parmName).2.rc ∧
      ((getPhysMem (.ok text) parmName).run fuel start).state.region =
        (found text parmName).1 := by
  have enough : text.length < max fuel (text.length + 1) := le_max_right fuel (text.length + 1)
  obtain ⟨rest, trace, -, run⟩ := getPhysMem_run text parmName start enough
  have same := Prog.run_of_done done (le_max_left fuel (text.length + 1))
  rw [← same, run] at done ⊢
  exact ⟨(Ending.done.inj done).symm, rfl⟩

end Opened

/-- The search does what it is for exactly if the first region with the name is not misjudged. -/
theorem reserves_iff (file : Except Int (List Char)) (parmName : List Char) (start : Search) :
    Reserves file parmName start ↔
      ∀ region, FirstRegion parmName (linesOf file) region → ¬region.Misjudged := by
  cases file with
  | error errno => exact iff_of_true (reserves_error errno parmName start) nofun
  | ok text =>
    constructor
    · intro reserves region first misjudged
      have isFound : found text parmName = (region, .isDone) :=
        searchLines_isDone_iff.mpr ⟨first, misjudged.1⟩
      obtain ⟨rest, trace, -, run⟩ :=
        getPhysMem_run text parmName start (Nat.lt_succ_self text.length)
      have aligned := reserves.aligned (text.length + 1)
      rw [run, isFound] at aligned
      exact misjudged.1.aligned_iff.mp (aligned rfl) misjudged
    · intro judged
      refine ⟨getPhysMem_stops text parmName start, getPhysMem_lines text parmName start,
        fun fuel done => ?_⟩
      obtain ⟨zero, region⟩ := getPhysMem_done done
      have isFound : found text parmName = ((found text parmName).1, .isDone) :=
        Prod.ext rfl (Progress.rc_eq_zero_iff.mp zero.symm)
      obtain ⟨first, masked⟩ := searchLines_isDone_iff.mp isFound
      rw [region]
      exact masked.aligned_iff.mpr (judged _ first)

/-- A size of zero is taken, and so are six megabytes at 416. -/
theorem getPhysMem_unaligned :
    ¬Reserves (.ok "PHYS_MEM 0 0\n".toList) "PHYS_MEM".toList (opened []) ∧
      ¬Reserves (.ok "DMATUN 0x1A000000 0x00600000\n".toList) "DMATUN".toList (opened []) := by
  constructor
  · intro reserves
    have aligned := reserves.aligned 20 (by decide +kernel)
    exact absurd aligned.1 (by decide +kernel)
  · intro reserves
    have aligned := reserves.aligned 40 (by decide +kernel)
    exact absurd aligned.2 (by decide +kernel)

/-- A region whose size is a power of two is aligned, whatever the file contains. -/
theorem aligned_of_two_pow {text parmName : List Char} {start : Search} {fuel k : Nat}
    (done : ((getPhysMem (.ok text) parmName).run fuel start).ending = .done 0)
    (size : ((getPhysMem (.ok text) parmName).run fuel start).state.region.sz.toNat = 2 ^ k) :
    ((getPhysMem (.ok text) parmName).run fuel start).state.region.Aligned := by
  obtain ⟨zero, region⟩ := getPhysMem_done done
  have isFound : found text parmName = ((found text parmName).1, .isDone) :=
    Prod.ext rfl (Progress.rc_eq_zero_iff.mp zero.symm)
  rw [region] at size ⊢
  exact (searchLines_isDone_iff.mp isFound).2.aligned_iff.mpr (Region.not_misjudged_of_two_pow size)

theorem aligned_of_two_pow_dmatun :
    ((getPhysMem (.ok "DMATUN 0x40000000 0x00400000\n".toList) "DMATUN".toList).run 40
      (opened [])).state.region.Aligned :=
  @aligned_of_two_pow _ _ _ _ 22 (by decide +kernel) (by decide +kernel)

end RioFabric.Librsvdmem

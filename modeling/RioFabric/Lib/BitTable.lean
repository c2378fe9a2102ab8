import Mathlib.Data.List.Basic
import Mathlib.Data.List.Pairwise
import RioFabric.Lib.Masks

/-!
# Tables of masks

A table pairs masks of one word with masks of another.  A word is translated to the union of what
its masks are paired with.  If the masks on the other side are apart from each other, then a
translation that goes back gives the word that it started from.
-/

namespace RioFabric.Lib

variable {w v : Nat}

/-- Masks of a word and of its translation, in order. -/
abbrev BitTable (w v : Nat) := List (BitVec w × BitVec v)

namespace BitTable

/-- The union of the masks that are paired with those that a word meets. -/
def translate (table : BitTable w v) (word : BitVec w) : BitVec v :=
  table.foldl (fun out entry => if entry.1 &&& word ≠ 0 then out ||| entry.2 else out) 0

/-- The table for the way back. -/
def swap (table : BitTable w v) : BitTable v w := table.map Prod.swap

/-- The union of the masks of a word. -/
def domain (table : BitTable w v) : BitVec w := table.foldl (fun all entry => all ||| entry.1) 0

section Bits

variable {table : BitTable w v} {word other : BitVec w} {idx : Nat}

theorem ne_zero_iff : word ≠ 0 ↔ ∃ idx < w, word.getLsbD idx = true := by
  constructor
  · intro notZero
    by_contra none
    push Not at none
    apply notZero
    apply BitVec.eq_of_getLsbD_eq
    intro idx inRange
    rw [Bool.eq_false_iff.mpr (none idx inRange)]
    exact BitVec.getLsbD_zero.symm
  · rintro ⟨idx, -, isSet⟩ rfl
    exact Bool.false_ne_true (BitVec.getLsbD_zero.symm.trans isSet)

theorem getLsbD_foldl_translate {out : BitVec v} :
    (table.foldl (fun out entry => if entry.1 &&& word ≠ 0 then out ||| entry.2 else out)
        out).getLsbD idx = true ↔
      out.getLsbD idx = true ∨
        ∃ entry ∈ table, entry.1 &&& word ≠ 0 ∧ entry.2.getLsbD idx = true := by
  induction table generalizing out with
  | nil => simp
  | cons entry table ih =>
    rw [List.foldl_cons, ih, List.exists_mem_cons_iff]
    by_cases meets : entry.1 &&& word ≠ 0
    · rw [if_pos meets, BitVec.getLsbD_or, Bool.or_eq_true, or_assoc]
      exact or_congr_right (or_congr_left (and_iff_right meets).symm)
    · rw [if_neg meets]
      exact or_congr_right (or_iff_right fun both => meets both.1).symm

theorem getLsbD_translate : (table.translate word).getLsbD idx = true ↔
    ∃ entry ∈ table, entry.1 &&& word ≠ 0 ∧ entry.2.getLsbD idx = true := by
  rw [translate, getLsbD_foldl_translate]
  exact or_iff_right (by simp)

theorem getLsbD_foldl_domain {all : BitVec w} :
    (table.foldl (fun all entry => all ||| entry.1) all).getLsbD idx = true ↔
      all.getLsbD idx = true ∨ ∃ entry ∈ table, entry.1.getLsbD idx = true := by
  induction table generalizing all with
  | nil => simp
  | cons entry table ih =>
    rw [List.foldl_cons, ih, List.exists_mem_cons_iff, BitVec.getLsbD_or, Bool.or_eq_true,
      or_assoc]

theorem getLsbD_domain :
    table.domain.getLsbD idx = true ↔ ∃ entry ∈ table, entry.1.getLsbD idx = true := by
  rw [domain, getLsbD_foldl_domain]
  exact or_iff_right (by simp)

theorem translate_within : table.translate word &&& table.swap.domain = table.translate word := by
  apply BitVec.eq_of_getLsbD_eq
  intro idx _
  rw [BitVec.getLsbD_and, Bool.and_eq_left_iff_imp, getLsbD_translate, getLsbD_domain]
  rintro ⟨entry, isMember, -, isSet⟩
  exact ⟨entry.swap, List.mem_map_of_mem isMember, isSet⟩

theorem translate_congr (same : ∀ entry ∈ table, entry.1 &&& word ≠ 0 ↔ entry.1 &&& other ≠ 0) :
    table.translate word = table.translate other := by
  apply BitVec.eq_of_getLsbD_eq
  intro idx _
  rw [Bool.eq_iff_iff, getLsbD_translate, getLsbD_translate]
  constructor
  · rintro ⟨entry, isMember, meets, isSet⟩
    exact ⟨entry, isMember, (same entry isMember).mp meets, isSet⟩
  · rintro ⟨entry, isMember, meets, isSet⟩
    exact ⟨entry, isMember, (same entry isMember).mpr meets, isSet⟩

theorem and_domain_of_mem {entry : BitVec w × BitVec v} (isMember : entry ∈ table) :
    entry.1 &&& table.domain = entry.1 := by
  apply BitVec.eq_of_getLsbD_eq
  intro idx _
  rw [BitVec.getLsbD_and, Bool.and_eq_left_iff_imp, getLsbD_domain]
  exact fun isSet => ⟨entry, isMember, isSet⟩

theorem translate_and_domain : table.translate (word &&& table.domain) = table.translate word := by
  apply translate_congr
  intro entry isMember
  rw [BitVec.and_comm word, ← BitVec.and_assoc, and_domain_of_mem isMember]

end Bits

/-- The masks of a word are single bits, and those of the translation are not empty and apart from
each other. -/
structure Reversible (table : BitTable w v) : Prop where
  single : ∀ entry ∈ table, ∃ bit < w, entry.1 = BitVec.twoPow w bit
  nonempty : ∀ entry ∈ table, entry.2 ≠ 0
  apart : table.Pairwise fun entry other => entry.2 &&& other.2 = 0

section Reversible

variable {table : BitTable w v} (reversible : table.Reversible) {word : BitVec w}
  {entry : BitVec w × BitVec v}

include reversible

theorem Reversible.entry_eq {other : BitVec w × BitVec v} (isEntry : entry ∈ table)
    (isOther : other ∈ table) {idx : Nat} (inEntry : entry.2.getLsbD idx = true)
    (inOther : other.2.getLsbD idx = true) : entry = other := by
  by_contra different
  have symmetric : Std.Symm fun entry other : BitVec w × BitVec v => entry.2 &&& other.2 = 0 :=
    ⟨fun first second apart => by rw [BitVec.and_comm, apart]⟩
  have apart := reversible.apart.forall isEntry isOther different
  have notInOther := @getLsbD_of_apart _ other.2 _ (by rw [BitVec.and_comm, apart]) _ inEntry
  exact Bool.false_ne_true (notInOther.symm.trans inOther)

theorem Reversible.meets_translate_iff (isMember : entry ∈ table) :
    entry.2 &&& table.translate word ≠ 0 ↔ entry.1 &&& word ≠ 0 := by
  constructor
  · intro meets
    obtain ⟨idx, -, isSet⟩ := ne_zero_iff.mp meets
    rw [BitVec.getLsbD_and, Bool.and_eq_true, getLsbD_translate] at isSet
    obtain ⟨inEntry, other, isOther, otherMeets, inOther⟩ := isSet
    rwa [reversible.entry_eq isMember isOther inEntry inOther]
  · intro meets
    obtain ⟨idx, inRange, isSet⟩ := ne_zero_iff.mp (reversible.nonempty entry isMember)
    refine ne_zero_iff.mpr ⟨idx, inRange, ?_⟩
    rw [BitVec.getLsbD_and, Bool.and_eq_true, getLsbD_translate]
    exact ⟨isSet, entry, isMember, meets, isSet⟩

theorem Reversible.translate_swap_translate :
    table.swap.translate (table.translate word) = word &&& table.domain := by
  have ofSingle : ∀ entry ∈ table, ∀ idx, entry.1.getLsbD idx = true →
      (entry.1 &&& word ≠ 0 ↔ word.getLsbD idx = true) := by
    intro entry isMember idx isSet
    obtain ⟨bit, inRange, isBit⟩ := reversible.single entry isMember
    rw [isBit, BitVec.getLsbD_twoPow] at isSet
    simp only [inRange, decide_true, Bool.true_and, decide_eq_true_eq] at isSet
    subst isSet
    rw [isBit, BitVec.twoPow_and]
    cases word.getLsbD bit with
    | false => simp
    | true =>
      have notZero : BitVec.twoPow w bit ≠ 0 :=
        ne_zero_iff.mpr ⟨bit, inRange, by simp [inRange]⟩
      simpa using notZero
  apply BitVec.eq_of_getLsbD_eq
  intro idx _
  rw [Bool.eq_iff_iff, getLsbD_translate, BitVec.getLsbD_and, Bool.and_eq_true, getLsbD_domain]
  constructor
  · rintro ⟨entry, isMember, meets, isSet⟩
    obtain ⟨original, isOriginal, rfl⟩ := List.mem_map.mp isMember
    have met := (reversible.meets_translate_iff isOriginal).mp meets
    exact ⟨(ofSingle original isOriginal idx isSet).mp met, original, isOriginal, isSet⟩
  · rintro ⟨inWord, entry, isMember, isSet⟩
    have met := (ofSingle entry isMember idx isSet).mpr inWord
    exact ⟨entry.swap, List.mem_map_of_mem isMember,
      (reversible.meets_translate_iff isMember).mpr met, isSet⟩

end Reversible

end BitTable

end RioFabric.Lib

import Mathlib.Algebra.Order.Ring.Int
import RioFabric.Lib.Runs

/-!
# Times

`time_track_lim` keeps the sum, the minimum and the maximum of differences of times.  A difference
that is negative or above a limit is left out.  The minimum starts as a value that is meant to be
above every difference.
-/

namespace RioFabric.TimeUtils

/-- `struct timespec`; the seconds do not overflow. -/
structure Timespec where
  tvSec : Int
  tvNsec : Int
  deriving DecidableEq

def timeDifference (start finish : Timespec) : Timespec :=
  if finish.tvNsec - start.tvNsec < 0 then
    ⟨finish.tvSec - start.tvSec - 1, 1000000000 + finish.tvNsec - start.tvNsec⟩
  else ⟨finish.tvSec - start.tvSec, finish.tvNsec - start.tvNsec⟩

def timeAdd (start finish : Timespec) : Timespec :=
  let temp : Timespec := ⟨start.tvSec + finish.tvSec, start.tvNsec + finish.tvNsec⟩
  if temp.tvNsec ≥ 1000000000 then ⟨temp.tvSec + 1, temp.tvNsec - 1000000000⟩ else temp

/-- `*totaltime`, `*mintime` and `*maxtime`. -/
structure Times where
  totaltime : Timespec
  mintime : Timespec
  maxtime : Timespec
  deriving DecidableEq

/-- The value of `*mintime` before there is a difference. -/
def noMintime : Timespec := ⟨0xFFFFFFFF, 0xFFFFFFFF⟩

/-- The comparison of the function: seconds first. -/
def Timespec.Before (time other : Timespec) : Prop :=
  time.tvSec < other.tvSec ∨ (time.tvSec = other.tvSec ∧ time.tvNsec < other.tvNsec)

instance (time other : Timespec) : Decidable (time.Before other) :=
  inferInstanceAs (Decidable (_ ∨ (_ ∧ _)))

def timeTrackLim (i : Int) (lim starttime endtime : Timespec) (times : Times) : Times :=
  let dta := timeDifference starttime endtime
  let times := if i = 0 then ⟨⟨0, 0⟩, noMintime, ⟨0, 0⟩⟩ else times
  if dta.tvSec < 0 ∨ dta.tvNsec < 0 then times
  else if lim.Before dta then times
  else if i ≠ 0 then
    { totaltime := timeAdd times.totaltime dta
      mintime := if dta.Before times.mintime then dta else times.mintime
      maxtime := if times.maxtime.Before dta then dta else times.maxtime }
  else ⟨dta, dta, dta⟩

/-- A call: the index, the start time and the end time. -/
structure Sample where
  i : Int
  starttime : Timespec
  endtime : Timespec

def Sample.track (lim : Timespec) (times : Times) (sample : Sample) : Times :=
  timeTrackLim sample.i lim sample.starttime sample.endtime times

/-- The nanoseconds are less than a second. -/
def Timespec.Normalised (time : Timespec) : Prop := 0 ≤ time.tvNsec ∧ time.tvNsec < 1000000000

/-- A time in nanoseconds. -/
def Timespec.ns (time : Timespec) : Int := time.tvSec * 1000000000 + time.tvNsec

/-- The normalised time of that many nanoseconds. -/
def ofNs (ns : Int) : Timespec := ⟨ns / 1000000000, ns % 1000000000⟩

def Sample.Normalised (sample : Sample) : Prop :=
  sample.starttime.Normalised ∧ sample.endtime.Normalised

/-- The difference of the times of a sample. -/
def Sample.elapsed (sample : Sample) : Int := sample.endtime.ns - sample.starttime.ns

/-- A difference is nonnegative and not above the limit. -/
def Within (lim : Timespec) (ns : Int) : Prop := 0 ≤ ns ∧ ¬lim.Before (ofNs ns)

instance (lim : Timespec) (ns : Int) : Decidable (Within lim ns) :=
  inferInstanceAs (Decidable (_ ∧ ¬_))

/-- The differences that count. -/
def counted (lim : Timespec) (samples : List Sample) : List Int :=
  (samples.map Sample.elapsed).filter fun ns => Within lim ns

/-- The sum, the minimum and the maximum of the differences that count. -/
def Tracked (lim : Timespec) (samples : List Sample) (times : Times) : Prop :=
  times.totaltime = ofNs (counted lim samples).sum ∧
    times.mintime = (counted lim samples).min?.elim noMintime ofNs ∧
      times.maxtime = (counted lim samples).max?.elim ⟨0, 0⟩ ofNs

theorem ofNs_normalised (ns : Int) : (ofNs ns).Normalised :=
  ⟨Int.emod_nonneg _ (by decide), Int.emod_lt_of_pos _ (by decide)⟩

theorem timeDifference_eq {start finish : Timespec} (first : start.Normalised)
    (second : finish.Normalised) : timeDifference start finish = ofNs (finish.ns - start.ns) := by
  unfold Timespec.Normalised at first second
  unfold timeDifference ofNs Timespec.ns
  split
  next borrow => exact Timespec.mk.injEq .. ▸ ⟨by omega, by omega⟩
  next => exact Timespec.mk.injEq .. ▸ ⟨by omega, by omega⟩

theorem timeAdd_ofNs (ns other : Int) : timeAdd (ofNs ns) (ofNs other) = ofNs (ns + other) := by
  unfold timeAdd ofNs
  dsimp only
  split
  next carry => exact Timespec.mk.injEq .. ▸ ⟨by omega, by omega⟩
  next => exact Timespec.mk.injEq .. ▸ ⟨by omega, by omega⟩

theorem before_iff (ns other : Int) : (ofNs ns).Before (ofNs other) ↔ ns < other := by
  unfold Timespec.Before ofNs
  dsimp only
  omega

theorem before_noMintime_iff (ns : Int) :
    (ofNs ns).Before noMintime ↔ ns / 1000000000 ≤ 0xFFFFFFFF := by
  change (ns / 1000000000 < 0xFFFFFFFF ∨
    (ns / 1000000000 = 0xFFFFFFFF ∧ ns % 1000000000 < 0xFFFFFFFF)) ↔ _
  omega

theorem negative_iff (ns : Int) : ((ofNs ns).tvSec < 0 ∨ (ofNs ns).tvNsec < 0) ↔ ns < 0 := by
  unfold ofNs
  dsimp only
  omega

/-- What a difference makes of `*mintime`. -/
def lower (mintime : Timespec) (ns : Int) : Timespec :=
  if (ofNs ns).Before mintime then ofNs ns else mintime

theorem lower_ofNs (ns other : Int) : lower (ofNs ns) other = ofNs (min ns other) := by
  rw [lower, min_comm, min_def_lt, apply_ite ofNs]
  exact if_congr (before_iff other ns) rfl rfl

theorem lower_noMintime (ns : Int) :
    lower noMintime ns = if ns / 1000000000 ≤ 0xFFFFFFFF then ofNs ns else noMintime :=
  if_congr (before_noMintime_iff ns) rfl rfl

section Call

variable {lim : Timespec} {sample : Sample} {times : Times}

theorem Sample.track_eq (normalised : sample.Normalised) :
    sample.track lim times =
      let times := if sample.i = 0 then ⟨⟨0, 0⟩, noMintime, ⟨0, 0⟩⟩ else times
      let dta := ofNs sample.elapsed
      if Within lim sample.elapsed then
        if sample.i ≠ 0 then
          ⟨timeAdd times.totaltime dta, lower times.mintime sample.elapsed,
            if times.maxtime.Before dta then dta else times.maxtime⟩
        else ⟨dta, dta, dta⟩
      else times := by
  unfold Sample.track timeTrackLim
  rw [timeDifference_eq normalised.1 normalised.2]
  change (if (ofNs sample.elapsed).tvSec < 0 ∨ (ofNs sample.elapsed).tvNsec < 0 then _ else _) = _
  dsimp only
  have negative := negative_iff sample.elapsed
  rw [← ite_or]
  by_cases within : Within lim sample.elapsed
  · rw [if_pos within]
    exact if_neg (not_or.mpr ⟨negative.not.mpr (not_lt.mpr within.1), within.2⟩)
  · rw [if_neg within]
    unfold Within at within
    rw [not_and_or, not_le, not_not, ← negative] at within
    exact if_pos within

theorem Sample.track_later (later : sample.i ≠ 0) (normalised : sample.Normalised)
    {total greatest : Int} (isTotal : times.totaltime = ofNs total)
    (isGreatest : times.maxtime = ofNs greatest) :
    sample.track lim times =
      if Within lim sample.elapsed then
        ⟨ofNs (total + sample.elapsed), lower times.mintime sample.elapsed,
          ofNs (max greatest sample.elapsed)⟩
      else times := by
  rw [Sample.track_eq normalised, if_neg later]
  dsimp only
  rw [if_pos later, isTotal, isGreatest, timeAdd_ofNs, max_def_lt, apply_ite ofNs]
  simp only [before_iff]

theorem Sample.track_first (first : sample.i = 0) (normalised : sample.Normalised) :
    sample.track lim times =
      if Within lim sample.elapsed then
        ⟨ofNs sample.elapsed, ofNs sample.elapsed, ofNs sample.elapsed⟩
      else ⟨ofNs 0, noMintime, ofNs 0⟩ := by
  rw [Sample.track_eq normalised, if_pos first]
  dsimp only
  rw [if_neg (not_not.mpr first)]
  rfl

end Call

section Sequence

variable {lim : Timespec} {samples : List Sample} {sample : Sample}

theorem counted_cons_of_within (within : Within lim sample.elapsed) :
    counted lim (sample :: samples) = sample.elapsed :: counted lim samples :=
  List.filter_cons_of_pos (decide_eq_true within)

theorem counted_cons_of_not_within (notWithin : ¬Within lim sample.elapsed) :
    counted lim (sample :: samples) = counted lim samples :=
  List.filter_cons_of_neg fun isTrue => notWithin (of_decide_eq_true isTrue)

/-- After any samples: the sum, the least and the greatest of those that count. -/
theorem run_track (later : ∀ sample ∈ samples, sample.i ≠ 0)
    (normalised : ∀ sample ∈ samples, sample.Normalised) {times : Times} {total greatest : Int}
    (isTotal : times.totaltime = ofNs total) (isGreatest : times.maxtime = ofNs greatest) :
    Lib.run (Sample.track lim) times samples =
      ⟨ofNs (total + (counted lim samples).sum), (counted lim samples).foldl lower times.mintime,
        ofNs ((counted lim samples).foldl max greatest)⟩ := by
  induction samples generalizing times total greatest with
  | nil =>
    change times = ⟨ofNs (total + 0), times.mintime, ofNs greatest⟩
    rw [Int.add_zero, ← isTotal, ← isGreatest]
  | cons sample samples ih =>
    rw [List.forall_mem_cons] at later normalised
    have called := @Sample.track_later lim _ _ later.1 normalised.1 _ _ isTotal isGreatest
    change Lib.run (Sample.track lim) (sample.track lim times) samples = _
    by_cases within : Within lim sample.elapsed
    · rw [called, if_pos within, counted_cons_of_within within, List.sum_cons, ← Int.add_assoc]
      exact ih later.2 normalised.2 rfl rfl
    · rw [called, if_neg within, counted_cons_of_not_within within]
      exact ih later.2 normalised.2 isTotal isGreatest

theorem foldl_lower_ofNs (diffs : List Int) (ns : Int) :
    diffs.foldl lower (ofNs ns) = ofNs (diffs.foldl min ns) := by
  induction diffs generalizing ns with
  | nil => rfl
  | cons diff diffs ih => rw [List.foldl_cons, lower_ofNs, ih, List.foldl_cons]

theorem foldl_lower_noMintime_of_small {diffs : List Int}
    (small : ∃ diff ∈ diffs, diff / 1000000000 ≤ 0xFFFFFFFF) {ns : Int}
    (large : ¬ns / 1000000000 ≤ 0xFFFFFFFF) :
    diffs.foldl lower noMintime = ofNs (diffs.foldl min ns) := by
  induction diffs generalizing ns with
  | nil => exact absurd small (by simp)
  | cons diff diffs ih =>
    rw [List.foldl_cons, List.foldl_cons, lower_noMintime]
    by_cases isSmall : diff / 1000000000 ≤ 0xFFFFFFFF
    · have isLess : diff < ns := by omega
      rw [if_pos isSmall, foldl_lower_ofNs, min_eq_right isLess.le]
    · rw [if_neg isSmall]
      obtain ⟨found, isFound, foundSmall⟩ := small
      obtain rfl | isLater := List.mem_cons.mp isFound
      · exact absurd foundSmall isSmall
      · apply ih ⟨found, isLater, foundSmall⟩
        obtain same | same := min_choice ns diff <;> rw [same]
        · exact large
        · exact isSmall

theorem foldl_lower_noMintime_of_large {diffs : List Int}
    (large : ¬∃ diff ∈ diffs, diff / 1000000000 ≤ 0xFFFFFFFF) :
    diffs.foldl lower noMintime = noMintime := by
  induction diffs with
  | nil => rfl
  | cons diff diffs ih =>
    rw [List.exists_mem_cons_iff, not_or] at large
    rw [List.foldl_cons, lower_noMintime, if_neg large.1, ih large.2]

theorem foldl_lower_noMintime_iff (diffs : List Int) :
    diffs.foldl lower noMintime = diffs.min?.elim noMintime ofNs ↔
      diffs = [] ∨ ∃ diff ∈ diffs, diff / 1000000000 ≤ 0xFFFFFFFF := by
  cases diffs with
  | nil => exact iff_of_true rfl (.inl rfl)
  | cons diff diffs =>
    rw [or_iff_right (List.cons_ne_nil _ _), List.min?_cons']
    by_cases small : ∃ found ∈ diff :: diffs, found / 1000000000 ≤ 0xFFFFFFFF
    · apply iff_of_true _ small
      rw [Option.elim_some]
      by_cases isSmall : diff / 1000000000 ≤ 0xFFFFFFFF
      · rw [List.foldl_cons, lower_noMintime, if_pos isSmall, foldl_lower_ofNs]
      · rw [foldl_lower_noMintime_of_small small isSmall, List.foldl_cons, min_self]
    · apply iff_of_false _ small
      rw [foldl_lower_noMintime_of_large small, Option.elim_some]
      intro same
      have normalised := ofNs_normalised (diffs.foldl min diff)
      rw [← same] at normalised
      exact absurd normalised.2 (by decide)

theorem foldl_max_counted :
    ofNs ((counted lim samples).foldl max 0) = (counted lim samples).max?.elim ⟨0, 0⟩ ofNs := by
  have nonnegative : ∀ ns ∈ counted lim samples, 0 ≤ ns :=
    fun ns isCounted => (of_decide_eq_true (List.mem_filter.mp isCounted).2).1
  cases diffs : counted lim samples with
  | nil => rfl
  | cons diff rest =>
    rw [List.foldl_cons, max_eq_right (nonnegative diff (diffs ▸ List.mem_cons_self)),
      List.max?_cons', Option.elim_some]

variable {first : Sample}

/-- The three times are right if the first difference counts or none does, or one that counts has
no more seconds than the value that `*mintime` starts with. -/
theorem track_iff (lim : Timespec) (times : Times) (starts : first.i = 0)
    (later : ∀ sample ∈ samples, sample.i ≠ 0)
    (normalised : ∀ sample ∈ first :: samples, sample.Normalised) :
    Tracked lim (first :: samples) (Lib.run (Sample.track lim) times (first :: samples)) ↔
      Within lim first.elapsed ∨ counted lim (first :: samples) = [] ∨
        ∃ ns ∈ counted lim (first :: samples), ns / 1000000000 ≤ 0xFFFFFFFF := by
  rw [List.forall_mem_cons] at normalised
  have called := @Sample.track_first lim _ times starts normalised.1
  change Tracked lim _ (Lib.run (Sample.track lim) (first.track lim times) samples) ↔ _
  unfold Tracked
  by_cases within : Within lim first.elapsed
  · apply iff_of_true _ (.inl within)
    rw [called, if_pos within, run_track later normalised.2 rfl rfl, counted_cons_of_within within,
      List.sum_cons, List.min?_cons', List.max?_cons']
    exact ⟨rfl, foldl_lower_ofNs _ _, rfl⟩
  · rw [or_iff_right within, called, if_neg within, run_track later normalised.2 rfl rfl,
      counted_cons_of_not_within within, Int.zero_add]
    refine Iff.trans ?_ (foldl_lower_noMintime_iff _)
    exact ⟨fun tracked => tracked.2.1, fun least => ⟨rfl, least, foldl_max_counted⟩⟩

end Sequence

/-- A sample of this many seconds. -/
def sampleOf (i seconds : Int) : Sample := ⟨i, ⟨0, 0⟩, ⟨seconds, 0⟩⟩

theorem track_iff_three :
    Tracked ⟨10, 0⟩ [sampleOf 0 11, sampleOf 1 3, sampleOf 1 5]
        (Lib.run (Sample.track ⟨10, 0⟩) ⟨⟨0, 0⟩, ⟨0, 0⟩, ⟨0, 0⟩⟩
          [sampleOf 0 11, sampleOf 1 3, sampleOf 1 5]) ↔
      Within ⟨10, 0⟩ (sampleOf 0 11).elapsed ∨
        counted ⟨10, 0⟩ [sampleOf 0 11, sampleOf 1 3, sampleOf 1 5] = [] ∨
          ∃ ns ∈ counted ⟨10, 0⟩ [sampleOf 0 11, sampleOf 1 3, sampleOf 1 5],
            ns / 1000000000 ≤ 0xFFFFFFFF :=
  track_iff _ _ rfl (by decide) (by unfold Sample.Normalised Timespec.Normalised; decide)

/-- A negative difference, and one of 2 ^ 32 seconds: `*mintime` does not change. -/
theorem not_tracked_large :
    ¬Tracked ⟨4294967300, 0⟩ [sampleOf 0 (-1), sampleOf 1 4294967296]
      (Lib.run (Sample.track ⟨4294967300, 0⟩) ⟨⟨0, 0⟩, ⟨0, 0⟩, ⟨0, 0⟩⟩
        [sampleOf 0 (-1), sampleOf 1 4294967296]) := by
  unfold Tracked
  decide +kernel

end RioFabric.TimeUtils

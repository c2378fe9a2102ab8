import RioFabric.Libcfg.File

/-!
# Ranges of dev16 destination IDs

A switch looks up a dev16 destination ID in two steps: the upper byte selects an entry of the
domain table, and where that entry holds the level group 0 value, the lower byte selects one
of the device table.  `assign_rt_v` assigns a range of IDs by writing to both tables, each for
its own half of the two bounds.
-/

namespace RioFabric.Libcfg

open Lib RouteTable

/-- The value found for a dev16 destination ID the way the switch looks it up. -/
def lookupDev16 (rt : RioRtState) (did : Nat) : PeRtVal :=
  let domRtv := (rt.domTable (Fin.ofNat 256 (did / 0x100))).rteVal
  if domRtv = rioRteLvlG0 then (rt.devTable (Fin.ofNat 256 did)).rteVal else domRtv

/-- A routing table of a switch. -/
def IntCfgParms.table (cfg : IntCfgParms) (i : Fin 20) : RtRef → RioRtState
  | .global size => (cfg.sws i).rt size
  | .port port size => ((cfg.sws i).ports port).rt size

@[simp] theorem IntCfgParms.table_setRt (cfg : IntCfgParms) (i : Fin 20) (ref : RtRef)
    (f : RioRtState → RioRtState) : (cfg.setRt i ref f).table i ref = f (cfg.table i ref) := by
  cases ref with
  | global size => simp [setRt, table, setSw]
  | port port size => simp [setRt, table, setSwPort, setSw]

/-- The value leads to one destination: a port, the default port or nowhere. -/
def isDirect (rtv : PeRtVal) : Bool :=
  rioRtvIsPort rtv || rtv == rioRteDrop || rtv == rioRteDfltPort

section

variable (stDidVal endDidVal : Nat)

/-- The bounds have the first and the last device ID of a domain. -/
def wholeDomains : Bool :=
  stDidVal % 0x100 == 0 && endDidVal % 0x100 == 255

/-- The first entry of the domain table that is assigned. -/
def assignedDom (rtv : PeRtVal) : Nat :=
  if isDirect rtv && wholeDomains stDidVal endDidVal && stDidVal % 0x10000 / 0x100 == 0 then 1
  else stDidVal % 0x10000 / 0x100

/-- The value that entries of the domain table are assigned. -/
def assignedDomRtv (rtv : PeRtVal) : PeRtVal :=
  if isDirect rtv && !wholeDomains stDidVal endDidVal || rioRtvIsMcMsk rtv then rioRteLvlG0
  else rtv

/-- The value that entries of the device table are assigned; they are left alone if it is
`RIO_RTE_BAD`. -/
def assignedDevRtv (rtv : PeRtVal) : PeRtVal :=
  if isDirect rtv && wholeDomains stDidVal endDidVal && stDidVal % 0x10000 / 0x100 != 0 ||
      rioRtvIsLvlGrp rtv then rioRteBad
  else rtv

theorem assignDev16RtV_eq (rtv : PeRtVal) (i : Fin 20) (ref : RtRef) :
    assignDev16RtV stDidVal endDidVal rtv i ref = (do
      exceedIf (stDidVal > 0xFFFF ∨ endDidVal > 0xFFFF)
      assignMcDestid i ref rtv stDidVal
      assignDomEntries i ref (assignedDomRtv stDidVal endDidVal rtv)
        (assignedDom stDidVal endDidVal rtv) (endDidVal % 0x10000 / 0x100)
      if assignedDevRtv stDidVal endDidVal rtv ≠ rioRteBad then
        assignDevEntries i ref (assignedDevRtv stDidVal endDidVal rtv) (stDidVal % 0x100)
          (endDidVal % 0x100)
      else pure ()) := rfl

end

/-- Some entries of a table have got a value and the others the value they had. -/
def EntriesAssigned (rtv : PeRtVal) (cells : List Nat) (before after : RtIdx → RioRtUcInfo) :
    Prop :=
  ∀ idx, (after idx).rteVal = if idx.val ∈ cells then rtv else (before idx).rteVal

theorem assignRtVEntry_rteVal (rtv : PeRtVal) (entry : RioRtUcInfo) :
    (assignRtVEntry rtv entry).rteVal = rtv := by
  unfold assignRtVEntry
  split
  next => rfl
  next same => exact not_not.mp same

theorem EntriesAssigned.refl (rtv : PeRtVal) (table : RtIdx → RioRtUcInfo) :
    EntriesAssigned rtv [] table table := fun _ => (if_neg List.not_mem_nil).symm

variable {rtv : PeRtVal} {before after : RtIdx → RioRtUcInfo}

theorem EntriesAssigned.update {cells : List Nat}
    (assigned : EntriesAssigned rtv cells before after) (idx : RtIdx) :
    EntriesAssigned rtv (cells ++ [idx.val]) before
      (Function.update after idx (assignRtVEntry rtv (after idx))) := by
  intro other
  by_cases same : other = idx
  · subst same
    simp [assignRtVEntry_rteVal]
  · have otherVal : other.val ≠ idx.val := fun eq => same (Fin.ext eq)
    simp [Function.update_of_ne same, assigned other, otherVal]

variable {i : Fin 20} {ref : RtRef} {Dom Dev : (RtIdx → RioRtUcInfo) → Prop}

/-- What is known of the two tables of a routing table. -/
def Tables (i : Fin 20) (ref : RtRef) (Dom Dev : (RtIdx → RioRtUcInfo) → Prop)
    (state : CfgState) : Prop :=
  Dom (state.cfg.table i ref).domTable ∧ Dev (state.cfg.table i ref).devTable

theorem access_reads (array : CfgArray) (idx : Nat) (Pre : CfgState → Prop) :
    Prog.Meets .any Pre (access array idx) (fun value state => Pre state ∧ value.val = idx)
      fun _ _ => True := by
  intro fuel state before
  by_cases inBounds : idx < array.size
  · rw [access_run_of_lt inBounds]
    exact ⟨trivial, trivial, before, rfl⟩
  · rw [access_run_of_not_lt inBounds]
    exact ⟨trivial, trivial, trivial⟩

theorem assignDevEntries_assigns (rtv : PeRtVal) (first last : Nat) (table : RtIdx → RioRtUcInfo) :
    Prog.Meets .any (Tables i ref Dom (· = table)) (assignDevEntries i ref rtv first last)
      (fun _ => Tables i ref Dom
        (EntriesAssigned rtv (List.range' first (last + 1 - first)) table))
      fun _ _ => True := by
  refine (Prog.Meets.forM_prefix (I := fun taken =>
    Tables i ref Dom (EntriesAssigned rtv taken table)) ?_).weakenPre ?_
  · intro taken dev _
    refine .bind (access_reads _ _ _) fun idx => .change ?_
    rintro state ⟨⟨domHolds, assigned⟩, rfl⟩
    unfold Tables
    rw [IntCfgParms.table_setRt]
    exact ⟨domHolds, assigned.update idx⟩
  · rintro state ⟨domHolds, rfl⟩
    exact ⟨domHolds, .refl rtv _⟩

theorem assignDomEntries_assigns (rtv : PeRtVal) (first last : Nat) (table : RtIdx → RioRtUcInfo) :
    Prog.Meets .any (Tables i ref (· = table) Dev) (assignDomEntries i ref rtv first last)
      (fun _ => Tables i ref
        (EntriesAssigned rtv (List.range' first (last + 1 - first)) table) Dev)
      fun _ _ => True := by
  refine (Prog.Meets.forM_prefix (I := fun taken =>
    Tables i ref (EntriesAssigned rtv taken table) Dev) ?_).weakenPre ?_
  · intro taken dom _
    refine .bind (access_reads _ _ _) fun idx => .change ?_
    rintro state ⟨⟨assigned, devHolds⟩, rfl⟩
    unfold Tables
    rw [IntCfgParms.table_setRt]
    exact ⟨assigned.update idx, devHolds⟩
  · rintro state ⟨rfl, devHolds⟩
    exact ⟨.refl rtv _, devHolds⟩

theorem assignMcDestid_keeps (rtv : PeRtVal) (did : Nat) (Dom Dev : (RtIdx → RioRtUcInfo) → Prop) :
    Prog.Meets .any (Tables i ref Dom Dev) (assignMcDestid i ref rtv did)
      (fun _ => Tables i ref Dom Dev) fun _ _ => True := by
  refine .ite (fun _ => ?_) fun _ => .pure fun _ holds => holds
  refine .bind (access_reads _ _ _) fun idx => .change ?_
  rintro state ⟨⟨domHolds, devHolds⟩, -⟩
  unfold Tables
  simp only [IntCfgParms.setMcMask, IntCfgParms.table_setRt]
  exact ⟨domHolds, devHolds⟩

/-- The entry that a table has for an index once a range of its entries was assigned. -/
def entryAfter (table : RtIdx → RioRtUcInfo) (first last : Nat) (rtv : PeRtVal) (idx : Nat) :
    PeRtVal :=
  if first ≤ idx ∧ idx ≤ last then rtv else (table (Fin.ofNat 256 idx)).rteVal

theorem EntriesAssigned.entryAfter {first last : Nat}
    (assigned : EntriesAssigned rtv (List.range' first (last + 1 - first)) before after) {idx : Nat}
    (small : idx < 256) :
    (after (Fin.ofNat 256 idx)).rteVal = entryAfter before first last rtv idx := by
  have inRange : (Fin.ofNat 256 idx).val ∈ List.range' first (last + 1 - first) ↔
      first ≤ idx ∧ idx ≤ last := by
    simp only [Fin.val_ofNat, Nat.mod_eq_of_lt small, List.mem_range'_1]
    omega
  rw [assigned, Libcfg.entryAfter]
  simp only [inRange]

theorem exceedIf_passes (condition : Prop) [Decidable condition] (Pre : CfgState → Prop) :
    Prog.Meets .any Pre (exceedIf condition) (fun _ state => Pre state ∧ ¬condition)
      fun _ _ => True := by
  refine .ite (fun _ => ?_) fun passes => .pure fun _ before => ⟨before, passes⟩
  exact .bind (.any _ _) fun _ => .stop fun _ _ => trivial

/-- The entry of the device table for an index once a range of IDs was assigned. -/
def devEntryAfter (rt : RioRtState) (stDidVal endDidVal : Nat) (rtv : PeRtVal) (dev : Nat) :
    PeRtVal :=
  if assignedDevRtv stDidVal endDidVal rtv ≠ rioRteBad then
    entryAfter rt.devTable (stDidVal % 0x100) (endDidVal % 0x100)
      (assignedDevRtv stDidVal endDidVal rtv) dev
  else (rt.devTable (Fin.ofNat 256 dev)).rteVal

/-- The entry of the domain table for an index once a range of IDs was assigned. -/
def domEntryAfter (rt : RioRtState) (stDidVal endDidVal : Nat) (rtv : PeRtVal) (dom : Nat) :
    PeRtVal :=
  entryAfter rt.domTable (assignedDom stDidVal endDidVal rtv) (endDidVal % 0x10000 / 0x100)
    (assignedDomRtv stDidVal endDidVal rtv) dom

/-- The table after the range was assigned to the one before. -/
structure RangeAssigned (before after : RioRtState) (stDidVal endDidVal : Nat) (rtv : PeRtVal) :
    Prop where
  start : stDidVal ≤ 0xFFFF
  last : endDidVal ≤ 0xFFFF
  dom : ∀ dom < 256, (after.domTable (Fin.ofNat 256 dom)).rteVal =
    domEntryAfter before stDidVal endDidVal rtv dom
  dev : ∀ dev < 256, (after.devTable (Fin.ofNat 256 dev)).rteVal =
    devEntryAfter before stDidVal endDidVal rtv dev

theorem assignDev16RtV_assigns (stDidVal endDidVal : Nat) (rtv : PeRtVal) (rt : RioRtState) :
    Prog.Meets .any (fun state : CfgState => state.cfg.table i ref = rt)
      (assignDev16RtV stDidVal endDidVal rtv i ref)
      (fun _ state => RangeAssigned rt (state.cfg.table i ref) stDidVal endDidVal rtv)
      fun _ _ => True := by
  rw [assignDev16RtV_eq]
  refine .bind (exceedIf_passes _ _) fun _ => .assume fun small => ?_
  refine .bind ((assignMcDestid_keeps rtv stDidVal (· = rt.domTable)
    (· = rt.devTable)).weakenPre ?_) fun _ => ?_
  · rintro state rfl
    exact ⟨rfl, rfl⟩
  refine .bind (assignDomEntries_assigns _ _ _ _) fun _ => ?_
  refine .ite (fun assigns => ?_) fun keeps => .pure ?_
  · refine (assignDevEntries_assigns _ _ _ _).weakenPost ?_
    rintro _ state ⟨domHolds, devHolds⟩
    refine ⟨by omega, by omega, fun dom small => domHolds.entryAfter small, fun dev small => ?_⟩
    rw [devEntryAfter, if_pos assigns]
    exact devHolds.entryAfter small
  · rintro state ⟨domHolds, devHolds⟩
    refine ⟨by omega, by omega, fun dom small => domHolds.entryAfter small, fun dev small => ?_⟩
    rw [devEntryAfter, if_neg keeps, devHolds]

/-- Where the value of a destination ID of the range depends on what the tables held before,
they held what is needed.

A direct value for whole domains is found everywhere but in domain 0, whose entry is never
written.  Other direct values and multicast masks are found at the device IDs between the two
lower bytes, whatever the domain.  The level group 0 value passes the lookup on. -/
def DidReached (rt : RioRtState) (stDidVal endDidVal : Nat) (rtv : PeRtVal) (did : Nat) : Prop :=
  if isDirect rtv && wholeDomains stDidVal endDidVal then
    did / 0x100 ≠ 0 ∨ (rt.domTable 0).rteVal = rioRteLvlG0 ∨ (rt.domTable 0).rteVal = rtv
  else if isDirect rtv || rioRtvIsMcMsk rtv then
    (stDidVal % 0x100 ≤ did % 0x100 ∧ did % 0x100 ≤ endDidVal % 0x100) ∨
      (rt.devTable (Fin.ofNat 256 did)).rteVal = rtv
  else
    rtv = rioRteLvlG0 → (rt.devTable (Fin.ofNat 256 did)).rteVal = rioRteLvlG0

theorem isDirect_cases (direct : isDirect rtv = true) :
    rioRtvIsMcMsk rtv = false ∧ rioRtvIsLvlGrp rtv = false ∧ rtv ≠ rioRteLvlG0 ∧
      rtv ≠ rioRteBad := by
  simp only [isDirect, Bool.or_eq_true, beq_iff_eq] at direct
  obtain (isPort | rfl) | rfl := direct
  · simp only [rioRtvIsPort, decide_eq_true_eq] at isPort
    unfold rioRtvIsMcMsk rioRtvIsLvlGrp
    rw [isPort]
    refine ⟨rfl, rfl, ?_, ?_⟩
    · rintro rfl
      revert isPort
      decide
    · rintro rfl
      revert isPort
      decide
  · decide
  · decide

theorem isMcMsk_cases (isMask : rioRtvIsMcMsk rtv = true) :
    rioRtvIsLvlGrp rtv = false ∧ rtv ≠ rioRteLvlG0 ∧ rtv ≠ rioRteBad := by
  simp only [rioRtvIsMcMsk, decide_eq_true_eq] at isMask
  unfold rioRtvIsLvlGrp
  rw [isMask]
  refine ⟨rfl, ?_, ?_⟩
  · rintro rfl
    revert isMask
    decide
  · rintro rfl
    revert isMask
    decide

section Reached

variable {rt after : RioRtState} {stDidVal endDidVal did : Nat} {rtv : PeRtVal}

theorem RangeAssigned.lookup (assigned : RangeAssigned rt after stDidVal endDidVal rtv)
    (small : did ≤ 0xFFFF) :
    lookupDev16 after did =
      if domEntryAfter rt stDidVal endDidVal rtv (did / 0x100) = rioRteLvlG0 then
        devEntryAfter rt stDidVal endDidVal rtv (did % 0x100)
      else domEntryAfter rt stDidVal endDidVal rtv (did / 0x100) := by
  have lower : Fin.ofNat 256 did = Fin.ofNat 256 (did % 0x100) := Fin.ext (by simp)
  unfold lookupDev16
  rw [lower, assigned.dom _ (by omega), assigned.dev _ (by omega)]

theorem domEntryAfter_written (last : endDidVal ≤ 0xFFFF) (lower : stDidVal ≤ did)
    (upper : did ≤ endDidVal)
    (written : (isDirect rtv && wholeDomains stDidVal endDidVal) = false ∨ did / 0x100 ≠ 0) :
    domEntryAfter rt stDidVal endDidVal rtv (did / 0x100) =
      assignedDomRtv stDidVal endDidVal rtv := by
  have first : assignedDom stDidVal endDidVal rtv ≤ did / 0x100 := by
    unfold assignedDom
    split
    next whole =>
      simp only [Bool.and_eq_true] at whole
      obtain other | positive := written
      · simp [whole.1.1, whole.1.2] at other
      · omega
    next => omega
  exact if_pos ⟨first, by omega⟩

section

variable (assigned : RangeAssigned rt after stDidVal endDidVal rtv) (lower : stDidVal ≤ did)
include assigned lower

section

variable (upper : did ≤ endDidVal)
include upper

theorem lookup_wholeDomains
    (direct : isDirect rtv = true) (whole : wholeDomains stDidVal endDidVal = true) :
    lookupDev16 after did = rtv ↔
      did / 0x100 ≠ 0 ∨ (rt.domTable 0).rteVal = rioRteLvlG0 ∨ (rt.domTable 0).rteVal = rtv := by
  have last := assigned.last
  obtain ⟨noMask, noGroup, notG0, notBad⟩ := isDirect_cases direct
  have domRtv : assignedDomRtv stDidVal endDidVal rtv = rtv := by
    simp [assignedDomRtv, direct, whole, noMask]
  rw [assigned.lookup (by omega)]
  by_cases inFirst : did / 0x100 = 0
  · -- the entry of domain 0 is the one it was, and the device table has the value throughout
    have kept : domEntryAfter rt stDidVal endDidVal rtv (did / 0x100) =
        (rt.domTable 0).rteVal := by
      have begins : stDidVal / 0x100 = 0 := by omega
      rw [domEntryAfter, entryAfter, if_neg, inFirst]
      · rfl
      · simp [assignedDom, direct, whole, Nat.mod_eq_of_lt (by omega : stDidVal < 0x10000),
          begins, inFirst]
    have devRtv : devEntryAfter rt stDidVal endDidVal rtv (did % 0x100) = rtv := by
      have begins : stDidVal % 0x10000 / 0x100 = 0 := by omega
      have value : assignedDevRtv stDidVal endDidVal rtv = rtv := by
        simp [assignedDevRtv, begins, noGroup]
      simp only [wholeDomains, Bool.and_eq_true, beq_iff_eq] at whole
      rw [devEntryAfter, value, if_pos notBad, entryAfter, if_pos (by omega)]
    rw [kept, devRtv]
    by_cases passesOn : (rt.domTable 0).rteVal = rioRteLvlG0
    · simp [passesOn]
    · simp [passesOn, inFirst]
  · rw [domEntryAfter_written last lower upper (.inr inFirst), domRtv, if_neg notG0]
    simp [inFirst]

theorem lookup_devices
    (part : (isDirect rtv && wholeDomains stDidVal endDidVal) = false)
    (single : (isDirect rtv || rioRtvIsMcMsk rtv) = true) :
    lookupDev16 after did = rtv ↔
      (stDidVal % 0x100 ≤ did % 0x100 ∧ did % 0x100 ≤ endDidVal % 0x100) ∨
        (rt.devTable (Fin.ofNat 256 did)).rteVal = rtv := by
  have last := assigned.last
  have domRtv : assignedDomRtv stDidVal endDidVal rtv = rioRteLvlG0 := by
    refine if_pos ?_
    cases direct : isDirect rtv with
    | true => simp_all
    | false => simp_all
  have kind : rioRtvIsLvlGrp rtv = false ∧ rtv ≠ rioRteBad := by
    obtain direct | isMask := Bool.or_eq_true _ _ ▸ single
    · exact ⟨(isDirect_cases direct).2.1, (isDirect_cases direct).2.2.2⟩
    · exact ⟨(isMcMsk_cases isMask).1, (isMcMsk_cases isMask).2.2⟩
  have devRtv : assignedDevRtv stDidVal endDidVal rtv = rtv := by
    simp [assignedDevRtv, part, kind.1]
  have sameEntry : Fin.ofNat 256 (did % 0x100) = Fin.ofNat 256 did := Fin.ext (by simp)
  rw [assigned.lookup (by omega), domEntryAfter_written last lower upper (.inl part), domRtv,
    if_pos rfl, devEntryAfter, devRtv, if_pos kind.2, entryAfter, sameEntry]
  by_cases covered : stDidVal % 0x100 ≤ did % 0x100 ∧ did % 0x100 ≤ endDidVal % 0x100
  · simp [covered]
  · simp [covered]

theorem lookup_other
    (single : (isDirect rtv || rioRtvIsMcMsk rtv) = false) :
    lookupDev16 after did = rtv ↔
      (rtv = rioRteLvlG0 → (rt.devTable (Fin.ofNat 256 did)).rteVal = rioRteLvlG0) := by
  have last := assigned.last
  rw [Bool.or_eq_false_iff] at single
  have domRtv : assignedDomRtv stDidVal endDidVal rtv = rtv := by
    simp [assignedDomRtv, single.1, single.2]
  have sameEntry : Fin.ofNat 256 (did % 0x100) = Fin.ofNat 256 did := Fin.ext (by simp)
  rw [assigned.lookup (by omega),
    domEntryAfter_written last lower upper (.inl (by simp [single.1])), domRtv]
  by_cases isG0 : rtv = rioRteLvlG0
  · -- the level group is not written to the device table
    have devRtv : assignedDevRtv stDidVal endDidVal rtv = rioRteBad := by
      subst isG0
      exact if_pos (Bool.or_eq_true_iff.mpr (.inr rfl))
    rw [if_pos isG0, devEntryAfter, devRtv, if_neg (fun notBad => notBad rfl), sameEntry]
    simp [isG0]
  · simp [isG0]

theorem lookup_iff_didReached :
    lookupDev16 after did = rtv ↔ DidReached rt stDidVal endDidVal rtv did := by
  unfold DidReached
  split
  next whole =>
    rw [Bool.and_eq_true] at whole
    exact lookup_wholeDomains assigned lower upper whole.1 whole.2
  next part =>
    rw [Bool.not_eq_true] at part
    split
    next single => exact lookup_devices assigned lower upper part single
    next other => exact lookup_other assigned lower upper (Bool.not_eq_true _ ▸ other)

end

end

end Reached

/-- Every ID of the range is found to have the value. -/
def RangeFound (rt : RioRtState) (first last : Nat) (rtv : PeRtVal) : Prop :=
  ∀ did, first ≤ did → did ≤ last → lookupDev16 rt did = rtv

/-- Every ID of the range is reached. -/
def RangeReached (rt : RioRtState) (first last : Nat) (rtv : PeRtVal) : Prop :=
  ∀ did, first ≤ did → did ≤ last → DidReached rt first last rtv did

theorem assignDev16RtV_found_iff {fuel stDidVal endDidVal : Nat} {state : CfgState}
    (done : ((assignDev16RtV stDidVal endDidVal rtv i ref).run fuel state).ending = .done ()) :
    RangeFound (((assignDev16RtV stDidVal endDidVal rtv i ref).run fuel state).state.cfg.table
        i ref) stDidVal endDidVal rtv ↔
      RangeReached (state.cfg.table i ref) stDidVal endDidVal rtv := by
  have assigned := (assignDev16RtV_assigns stDidVal endDidVal rtv _).of_done rfl done
  exact forall_congr' fun did => forall_congr' fun lower => forall_congr' fun upper =>
    lookup_iff_didReached assigned lower upper

/-- After `assign_dev16_rt_v` or `assign_rt_v` has succeeded, every destination ID of the range
is found to have the value exactly if every one is reached. -/
theorem assignedRange_found_iff (fuel : Nat) (state : CfgState) (i : Fin 20) (ref : RtRef)
    (stDidVal endDidVal : Nat) (rtv : PeRtVal) :
    (((assignDev16RtV stDidVal endDidVal rtv i ref).run fuel state).ending = .done () →
      (RangeFound (((assignDev16RtV stDidVal endDidVal rtv i ref).run fuel state).state.cfg.table
          i ref) stDidVal endDidVal rtv ↔
        RangeReached (state.cfg.table i ref) stDidVal endDidVal rtv)) ∧
      (((assignRtV 1 stDidVal endDidVal rtv i ref).run fuel state).ending = .done () →
        (RangeFound (((assignRtV 1 stDidVal endDidVal rtv i ref).run fuel state).state.cfg.table
            i ref) (min stDidVal endDidVal) (max stDidVal endDidVal) rtv ↔
          RangeReached (state.cfg.table i ref) (min stDidVal endDidVal)
            (max stDidVal endDidVal) rtv)) :=
  ⟨assignDev16RtV_found_iff, assignDev16RtV_found_iff⟩

/-- The range from 0x205 to 0x207, in either order, is reached. -/
theorem assignedRange_found_205 :
    ((assignDev16RtV 0x205 0x207 12 0 (.global 1)).run 0 .fresh).ending = .done () ∧
      ((assignRtV 1 0x207 0x205 12 0 (.global 1)).run 0 .fresh).ending = .done () ∧
      (RangeFound (((assignDev16RtV 0x205 0x207 12 0 (.global 1)).run 0 .fresh).state.cfg.table
          0 (.global 1)) 0x205 0x207 12 ↔
        RangeReached (CfgState.fresh.cfg.table 0 (.global 1)) 0x205 0x207 12) ∧
      (RangeFound (((assignRtV 1 0x207 0x205 12 0 (.global 1)).run 0 .fresh).state.cfg.table
          0 (.global 1)) 0x205 0x207 12 ↔
        RangeReached (CfgState.fresh.cfg.table 0 (.global 1)) 0x205 0x207 12) := by
  have forwards : ((assignDev16RtV 0x205 0x207 12 0 (.global 1)).run 0 .fresh).ending =
      .done () := by
    decide +kernel
  have backwards : ((assignRtV 1 0x207 0x205 12 0 (.global 1)).run 0 .fresh).ending =
      .done () := by
    decide +kernel
  exact ⟨forwards, backwards,
    (assignedRange_found_iff 0 .fresh 0 (.global 1) 0x205 0x207 12).1 forwards,
    (assignedRange_found_iff 0 .fresh 0 (.global 1) 0x207 0x205 12).2 backwards⟩

/-- From 0x1F0 to 0x210 the lower bytes go down, and no entry of the device table is written:
packets to 0x1F0 are dropped and not sent to port 12. -/
theorem assignedRange_acrossDomains :
    ((assignRtV 1 0x1F0 0x210 12 0 (.global 1)).run 0 .fresh).ending = .done () ∧
      ¬RangeFound (((assignRtV 1 0x1F0 0x210 12 0 (.global 1)).run 0 .fresh).state.cfg.table
        0 (.global 1)) 0x1F0 0x210 12 := by
  refine ⟨by decide +kernel, fun found => ?_⟩
  have dropped : lookupDev16 (((assignRtV 1 0x1F0 0x210 12 0 (.global 1)).run 0
      .fresh).state.cfg.table 0 (.global 1)) 0x1F0 = rioRteDrop := by
    decide +kernel
  exact absurd (dropped.symm.trans (found 0x1F0 (by decide) (by decide))) (by decide)

end RioFabric.Libcfg

import Mathlib.Data.List.Nodup

/-!
# Port lists

A request names the ports it is about, or all of them.  `DARrioGetPortList` makes a list of
distinct ports of the device from it; the devices of the CPS family have a version of their own.
-/

namespace RioFabric.Dar

def rioMaxPorts : Nat := 24

def rioAllPorts : Nat := 0xff

def rioErrInvalidParameter : Nat := 0x1002

def rioErrPortIllegal (idx : Nat) : Nat := 0x80000010 + idx

/-- `struct DAR_ptl`; of the `RIO_MAX_PORTS` entries in `pnums`, `num_ports` are valid. -/
structure DarPtl where
  numPorts : Nat
  pnums : Nat → Nat

/-- How a list is not made: with a code, or because `pnums` of the result has too few entries. -/
inductive PtlStop where
  | code (rc : Nat)
  | outOfBounds
  deriving DecidableEq

/-- The test of an entry: it is a port of the device that is not named before. -/
def DarPtl.illegal (numPorts : Nat) (ptl : DarPtl) (idx : Nat) : Bool :=
  ptl.pnums idx ≥ numPorts || ((List.range idx).map ptl.pnums).contains (ptl.pnums idx)

/-- `DARDB_rioGetPortList`, for a device with `NUM_PORTS` ports. -/
def darDbRioGetPortList (numPorts : Nat) (ptl : DarPtl) : Except PtlStop (List Nat) :=
  if ptl.numPorts > numPorts ∧ ptl.numPorts ≠ rioAllPorts then
    .error (.code rioErrInvalidParameter)
  else if ptl.numPorts > rioMaxPorts ∧ ptl.numPorts ≠ rioAllPorts then
    .error (.code rioErrInvalidParameter)
  else if ptl.numPorts = 0 then .error (.code rioErrInvalidParameter)
  else if ptl.numPorts = rioAllPorts then
    if numPorts > rioMaxPorts then .error .outOfBounds else .ok (List.range numPorts)
  else
    match (List.range ptl.numPorts).find? (ptl.illegal numPorts) with
    | some idx => .error (.code (rioErrPortIllegal idx))
    | none => .ok ((List.range ptl.numPorts).map ptl.pnums)

variable {numPorts : Nat} {ptl : DarPtl} {ports : List Nat}

theorem nodup_map_pnums {count : Nat} (legal : ∀ idx < count, ptl.illegal numPorts idx = false) :
    ((List.range count).map ptl.pnums).Nodup := by
  induction count with
  | zero => exact List.nodup_nil
  | succ count ih =>
    rw [List.range_succ, List.map_append]
    apply List.nodup_append.mpr
    refine ⟨ih fun idx smaller => legal idx (Nat.lt_succ_of_lt smaller), ?_, ?_⟩
    · exact List.pairwise_singleton _ _
    · intro pnum before last isLast same
      rw [List.map_singleton, List.mem_singleton] at isLast
      have notIllegal := legal count (Nat.lt_succ_self count)
      rw [DarPtl.illegal, Bool.or_eq_false_iff] at notIllegal
      rw [same, isLast] at before
      rw [List.contains_iff_mem.mpr before] at notIllegal
      cases notIllegal.2

theorem darDbRioGetPortList_ok (ok : darDbRioGetPortList numPorts ptl = .ok ports) :
    ports.Nodup ∧ ∀ pnum ∈ ports, pnum < numPorts := by
  unfold darDbRioGetPortList at ok
  split at ok
  · cases ok
  split at ok
  · cases ok
  split at ok
  · cases ok
  split at ok
  · split at ok
    · cases ok
    · cases ok
      exact ⟨List.nodup_range, fun pnum => List.mem_range.mp⟩
  · split at ok
    · cases ok
    next noneIllegal =>
      cases ok
      have legal : ∀ idx < ptl.numPorts, ptl.illegal numPorts idx = false := by
        intro idx smaller
        exact Bool.eq_false_iff.mpr
          (List.find?_eq_none.mp noneIllegal idx (List.mem_range.mpr smaller))
      refine ⟨nodup_map_pnums legal, ?_⟩
      intro pnum isMember
      obtain ⟨idx, inRange, rfl⟩ := List.mem_map.mp isMember
      have notIllegal := legal idx (List.mem_range.mp inRange)
      rw [DarPtl.illegal, Bool.or_eq_false_iff, decide_eq_false_iff_not] at notIllegal
      exact Nat.lt_of_not_le notIllegal.1

theorem darDbRioGetPortList_of_nodup (named : (List.range ptl.numPorts).map ptl.pnums = ports)
    (nodup : ports.Nodup) (some : ports ≠ []) (short : ports.length ≤ numPorts)
    (few : numPorts ≤ rioMaxPorts) (arePorts : ∀ port ∈ ports, port < numPorts) :
    darDbRioGetPortList numPorts ptl = .ok ports := by
  have count : ptl.numPorts = ports.length := by
    rw [← named, List.length_map, List.length_range]
  have notZero : ptl.numPorts ≠ 0 := fun zero =>
    some (List.eq_nil_of_length_eq_zero (count.symm.trans zero))
  have inDevice : ptl.numPorts ≤ numPorts := count ▸ short
  have inRoom : ptl.numPorts ≤ rioMaxPorts := Nat.le_trans inDevice few
  have notAll : ptl.numPorts ≠ rioAllPorts := fun all => absurd (all ▸ inRoom) (by decide)
  rw [darDbRioGetPortList, if_neg fun large => Nat.not_lt.mpr inDevice large.1,
    if_neg fun large => Nat.not_lt.mpr inRoom large.1, if_neg notZero, if_neg notAll]
  split
  next idx found =>
    have illegal := List.find?_some found
    have inRange := List.mem_range.mp (List.mem_of_find?_eq_some found)
    rw [DarPtl.illegal, Bool.or_eq_true, decide_eq_true_iff, List.contains_iff_mem] at illegal
    rcases illegal with outside | before
    · have isPort : ptl.pnums idx ∈ ports :=
        named ▸ List.mem_map_of_mem (List.mem_range.mpr inRange)
      exact absurd (arePorts _ isPort) (Nat.not_lt.mpr outside)
    · obtain ⟨earlier, isEarlier, same⟩ := List.mem_map.mp before
      have smaller := List.mem_range.mp isEarlier
      rw [← named] at nodup
      have sameIdx := List.inj_on_of_nodup_map nodup
        (List.mem_range.mpr (Nat.lt_trans smaller inRange)) (List.mem_range.mpr inRange) same
      exact absurd sameIdx (Nat.ne_of_lt smaller)
  next => rw [named]

end RioFabric.Dar

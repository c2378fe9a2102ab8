import RioFabric.Libdid.Completeness

/-!
# Who holds which device ID

Clients create, look up and release IDs, and reserve them in groups.  As long as they
release only what they hold, no ID is held twice, no single ID lies in an allocated group,
and the reserved values are never handed out.  The allocator knows nothing about clients;
their holdings are recorded beside it.
-/

namespace RioFabric.Libdid

open Lib

/-- The allocator, the groups that were allocated, in order, and what each client holds. -/
structure DidSystem (Client : Type) where
  state : DidState
  groups : Nat → DidGrp
  numGroups : Nat
  single : List (Client × Did)
  inGroup : List (Client × Did)

/-- The calls of clients.  Groups are referred to by their number. -/
inductive ClientCall (Client : Type) where
  | create (client : Client) (size : DidSz)
  | createFromData (client : Client) (value : Nat) (size : DidSz)
  | release (client : Client) (did : Did)
  | get (value : Nat)
  | allocDev16Grp
  | grpResrvDid (client : Client) (group : Nat)
  | grpUnresrvDid (client : Client) (group : Nat) (did : Did)

section System

variable {Client : Type}

/-- Before the first call. -/
def DidSystem.start : DidSystem Client := ⟨.zeroed, fun _ => newGroup 0, 0, [], []⟩

/-- Note down what a successful call returned. -/
def record (rc : DidRc) (client : Client) (did : Did) (holdings : List (Client × Did)) :
    List (Client × Did) :=
  if rc = .success then (client, did) :: holdings else holdings

/-- Strike out what a successful call gave back. -/
def strike [DecidableEq Client] (rc : DidRc) (client : Client) (did : Did)
    (holdings : List (Client × Did)) : List (Client × Did) :=
  if rc = .success then holdings.erase (client, did) else holdings

def ClientCall.exec [DecidableEq Client] (sys : DidSystem Client) :
    ClientCall Client → DidSystem Client
  | .create client size =>
    let (rc, did, state) := didCreate sys.state size
    { sys with state := state, single := record rc client did sys.single }
  | .createFromData client value size =>
    let (rc, did, state) := didCreateFromData sys.state value size
    { sys with state := state, single := record rc client did sys.single }
  | .release client did =>
    let (rc, state) := didRelease sys.state did
    { sys with state := state, single := strike rc client did sys.single }
  | .get value => { sys with state := (didGet sys.state value).2.2 }
  | .allocDev16Grp =>
    match didAllocDev16Grp sys.state with
    | (_, some group, state) =>
      { sys with
        state := state
        groups := Function.update sys.groups sys.numGroups group
        numGroups := sys.numGroups + 1 }
    | (_, none, state) => { sys with state := state }
  | .grpResrvDid client number =>
    let (rc, did, group) := didGrpResrvDid (sys.groups number) didInvalidId
    { sys with
      groups := Function.update sys.groups number group
      inGroup := record rc client did sys.inGroup }
  | .grpUnresrvDid client number did =>
    let (rc, group) := didGrpUnresrvDid (sys.groups number) did
    { sys with
      groups := Function.update sys.groups number group
      inGroup := strike rc client did sys.inGroup }

/-- A client releases only what it holds, and groups were allocated before they are used. -/
def Permitted (sys : DidSystem Client) : ClientCall Client → Prop
  | .release client did => (client, did) ∈ sys.single
  | .grpResrvDid _ number => number < sys.numGroups
  | .grpUnresrvDid client number did =>
    number < sys.numGroups ∧ (client, did) ∈ sys.inGroup
  | _ => True

instance [DecidableEq Client] (sys : DidSystem Client) :
    (call : ClientCall Client) → Decidable (Permitted sys call)
  | .release client did => inferInstanceAs (Decidable ((client, did) ∈ sys.single))
  | .grpResrvDid _ number => inferInstanceAs (Decidable (number < sys.numGroups))
  | .grpUnresrvDid client number did =>
    inferInstanceAs (Decidable (number < sys.numGroups ∧ (client, did) ∈ sys.inGroup))
  | .create _ _ | .createFromData _ _ _ | .get _ | .allocDev16Grp =>
    inferInstanceAs (Decidable True)

/-- The ID that a call hands to its caller. -/
def ClientCall.issued (sys : DidSystem Client) : ClientCall Client → Option Did
  | .create _ size =>
    if (didCreate sys.state size).1 = .success then some (didCreate sys.state size).2.1
    else none
  | .createFromData _ value size =>
    if (didCreateFromData sys.state value size).1 = .success then
      some (didCreateFromData sys.state value size).2.1
    else none
  | .get value =>
    if (didGet sys.state value).1 = .success then some (didGet sys.state value).2.1 else none
  | .grpResrvDid _ number =>
    if (didGrpResrvDid (sys.groups number) didInvalidId).1 = .success then
      some (didGrpResrvDid (sys.groups number) didInvalidId).2.1
    else none
  | _ => none

/-- A value inside a group. -/
def DidGrp.Contains (group : DidGrp) (value : Nat) : Prop :=
  group.base ≤ value ∧ value < group.base + 0x100

/-- What the holders may rely on. -/
structure DidSystem.Exclusive (sys : DidSystem Client) : Prop where
  unique : ((sys.single ++ sys.inGroup).map fun holding => holding.2.value).Nodup
  outside : ∀ holding ∈ sys.single, ∀ number < sys.numGroups,
    ¬(sys.groups number).Contains holding.2.value
  disjoint : ∀ first < sys.numGroups, ∀ second < sys.numGroups, ∀ value,
    (sys.groups first).Contains value → (sys.groups second).Contains value → first = second
  notReserved : ∀ holding ∈ sys.single ++ sys.inGroup, ¬Reserved holding.2.value

/-- Holdings with different values. -/
def Distinct (holdings : List (Client × Did)) : Prop :=
  (holdings.map fun holding => holding.2.value).Nodup

/-- A group: 256 values at a multiple of 256, the first and last of which stay unused. -/
structure DidGrp.WellFormed (group : DidGrp) : Prop where
  size : group.size = .dev16Sz
  aligned : group.base % 0x100 = 0
  inside : group.base + 0x100 ≤ 0x10000
  first : group.lDev16 0 ≠ .invldSz
  last : group.lDev16 0xFF ≠ .invldSz

/-- Single IDs and groups are marked in the allocator, reservations in their group. -/
structure DidSystem.Inv (sys : DidSystem Client) : Prop where
  state : sys.state.WellFormed
  single_distinct : Distinct sys.single
  single_marked : ∀ holding ∈ sys.single,
    ¬sys.state.Free holding.2.value ∧ ¬Reserved holding.2.value
  outside : ∀ holding ∈ sys.single, ∀ number < sys.numGroups,
    ¬(sys.groups number).Contains holding.2.value
  group : ∀ number < sys.numGroups, (sys.groups number).WellFormed
  group_marked : ∀ number < sys.numGroups, ∀ value, (sys.groups number).Contains value →
    ¬sys.state.Free value
  base_injective : ∀ first < sys.numGroups, ∀ second < sys.numGroups,
    (sys.groups first).base = (sys.groups second).base → first = second
  inGroup_distinct : Distinct sys.inGroup
  inGroup_marked : ∀ holding ∈ sys.inGroup, ∃ number < sys.numGroups, ∃ idx,
    0 < idx ∧ idx < 0xFF ∧ holding.2.value = (sys.groups number).base + idx ∧
      (sys.groups number).lDev16 idx ≠ .invldSz

namespace DidSystem.Inv

variable {sys : DidSystem Client} {state : DidState} {client : Client} {did : Did} {number : Nat}
  {group : DidGrp} {idx next : Nat}

theorem start : (DidSystem.start : DidSystem Client).Inv where
  state := Or.inl rfl
  single_distinct := List.nodup_nil
  single_marked := by simp [DidSystem.start]
  outside := by simp [DidSystem.start]
  group := by simp [DidSystem.start]
  group_marked := by simp [DidSystem.start]
  base_injective := by simp [DidSystem.start]
  inGroup_distinct := List.nodup_nil
  inGroup_marked := by simp [DidSystem.start]

section

variable (inv : sys.Inv)
include inv

theorem contains_injective {first second value : Nat}
    (firstLt : first < sys.numGroups) (secondLt : second < sys.numGroups)
    (inFirst : (sys.groups first).Contains value)
    (inSecond : (sys.groups second).Contains value) : first = second := by
  apply inv.base_injective first firstLt second secondLt
  have firstAligned := (inv.group first firstLt).aligned
  have secondAligned := (inv.group second secondLt).aligned
  unfold DidGrp.Contains at inFirst inSecond
  omega

theorem exclusive : sys.Exclusive where
  unique := by
    rw [List.map_append]
    refine List.nodup_append.mpr ⟨inv.single_distinct, inv.inGroup_distinct, ?_⟩
    simp only [List.mem_map]
    rintro _ ⟨single, isSingle, rfl⟩ _ ⟨holding, inGroup, rfl⟩ same
    obtain ⟨number, numberLt, idx, -, idx_lt, value_eq, -⟩ := inv.inGroup_marked holding inGroup
    refine inv.outside single isSingle number numberLt ?_
    unfold DidGrp.Contains
    omega
  outside := inv.outside
  disjoint := fun _ firstLt _ secondLt _ inFirst inSecond =>
    inv.contains_injective firstLt secondLt inFirst inSecond
  notReserved := by
    intro holding held
    rcases List.mem_append.mp held with single | inGroup
    · exact (inv.single_marked holding single).2
    · obtain ⟨number, numberLt, idx, positive, idx_lt, value_eq, -⟩ :=
        inv.inGroup_marked holding inGroup
      have aligned := (inv.group number numberLt).aligned
      unfold Reserved
      omega

theorem withState (wf : state.WellFormed)
    (keeps : ∀ value, state.Free value → sys.state.Free value) :
    DidSystem.Inv { sys with state := state } where
  state := wf
  single_distinct := inv.single_distinct
  single_marked := fun holding held =>
    ⟨fun free => (inv.single_marked holding held).1 (keeps _ free),
      (inv.single_marked holding held).2⟩
  outside := inv.outside
  group := inv.group
  group_marked := fun number numberLt value inside free =>
    inv.group_marked number numberLt value inside (keeps _ free)
  base_injective := inv.base_injective
  inGroup_distinct := inv.inGroup_distinct
  inGroup_marked := inv.inGroup_marked

theorem lazyInit :
    DidSystem.Inv { sys with state := sys.state.lazyInit } := by
  apply inv.withState (Or.inr inv.state.lazyInit_ready)
  intro value free
  rcases inv.state with zeroed | ready
  · rw [zeroed]
    rfl
  · rwa [DidState.lazyInit, if_neg ready.started.ne'] at free

theorem take (wf : state.WellFormed) (wasFree : sys.state.Free did.value)
    (notReserved : ¬Reserved did.value)
    (marked : ∀ value, state.Free value ↔ value ≠ did.value ∧ sys.state.Free value) :
    DidSystem.Inv { sys with state := state, single := (client, did) :: sys.single } := by
  have kept := inv.withState wf fun value free => ((marked value).mp free).2
  exact {
    kept with
    single_distinct := by
      refine List.nodup_cons.mpr ⟨fun already => ?_, inv.single_distinct⟩
      obtain ⟨holding, held, same⟩ := List.mem_map.mp already
      have inUse := (inv.single_marked holding held).1
      rw [same] at inUse
      exact inUse wasFree
    single_marked := by
      rintro holding (_ | ⟨_, held⟩)
      · exact ⟨fun free => ((marked _).mp free).1 rfl, notReserved⟩
      · exact kept.single_marked holding held
    outside := by
      rintro holding (_ | ⟨_, held⟩) number numberLt inside
      · exact inv.group_marked number numberLt _ inside wasFree
      · exact inv.outside holding held number numberLt inside }

end

theorem value_ne_of_mem_erase [DecidableEq Client] {holdings : List (Client × Did)}
    (distinct : Distinct holdings) (held : (client, did) ∈ holdings) :
    Distinct (holdings.erase (client, did)) ∧
      ∀ holding ∈ holdings.erase (client, did), holding.2.value ≠ did.value := by
  have perm := (List.perm_cons_erase held).map fun holding => holding.2.value
  have nodup := perm.nodup_iff.mp distinct
  rw [List.map_cons, List.nodup_cons] at nodup
  exact ⟨nodup.2, fun holding kept same => nodup.1 (List.mem_map.mpr ⟨holding, kept, same⟩)⟩

theorem release [DecidableEq Client] (inv : sys.Inv) (held : (client, did) ∈ sys.single)
    (inUse : ¬sys.state.Free did.value) (notReserved : ¬Reserved did.value) :
    DidSystem.Inv { sys with
      state := sys.state.mark did.value .invldSz
      single := sys.single.erase (client, did) } := by
  obtain ⟨distinct, others⟩ := value_ne_of_mem_erase inv.single_distinct held
  have same : ∀ value, value ≠ did.value →
      (sys.state.mark did.value .invldSz).didIds value = sys.state.didIds value :=
    fun value other => Function.update_of_ne other _ _
  exact {
    state := by
      rcases inv.state with zeroed | ready
      · exact absurd (by rw [zeroed]; rfl) inUse
      · exact Or.inr (ready.release notReserved)
    single_distinct := distinct
    single_marked := by
      intro holding kept
      obtain ⟨marked, fine⟩ := inv.single_marked holding (List.mem_of_mem_erase kept)
      refine ⟨?_, fine⟩
      rw [DidState.Free, same _ (others holding kept)]
      exact marked
    outside := fun holding kept =>
      inv.outside holding (List.mem_of_mem_erase kept)
    group := inv.group
    group_marked := by
      intro number numberLt value inside
      have other : value ≠ did.value := by
        rintro rfl
        exact inv.outside _ held number numberLt inside
      rw [DidState.Free, same _ other]
      exact inv.group_marked number numberLt value inside
    base_injective := inv.base_injective
    inGroup_distinct := inv.inGroup_distinct
    inGroup_marked := inv.inGroup_marked }

theorem newGroup_wellFormed {base : Nat} (aligned : base % 0x100 = 0)
    (inside : base + 0x100 ≤ 0x10000) : (newGroup base).WellFormed where
  size := rfl
  aligned := aligned
  inside := inside
  first := by simp [newGroup]
  last := by simp [newGroup]

theorem allocGroup (inv : sys.Inv) (ready : sys.state.Ready) {base : Nat}
    (aligned : base % 0x100 = 0) (inside : base + 0x100 ≤ 0x10000)
    (free : ∀ value, base ≤ value → value < base + 0x100 → ¬Reserved value →
      sys.state.Free value) :
    DidSystem.Inv { sys with
      state := ⟨markGroup sys.state.didIds base 0x100, base + 0x100⟩
      groups := Function.update sys.groups sys.numGroups (newGroup base)
      numGroups := sys.numGroups + 1 } := by
  have old : ∀ number < sys.numGroups,
      Function.update sys.groups sys.numGroups (newGroup base) number = sys.groups number :=
    fun number numberLt => Function.update_of_ne (Nat.ne_of_lt numberLt) _ _
  have new : Function.update sys.groups sys.numGroups (newGroup base) sys.numGroups =
      newGroup base := Function.update_self _ _ _
  have marked : ∀ value,
      DidState.Free ⟨markGroup sys.state.didIds base 0x100, base + 0x100⟩ value →
        sys.state.Free value ∧ ¬(newGroup base).Contains value := by
    intro value stillFree
    simp only [DidState.Free, markGroup_apply] at stillFree
    split at stillFree
    next => cases stillFree
    next notMarked =>
      refine ⟨stillFree, fun inGroup => ?_⟩
      have skipped : value = 0xFF ∨ value = 0xFFFF := by
        have bounds : base ≤ value ∧ value < base + 0x100 := inGroup
        omega
      exact ready.reserved value (Or.inr skipped) stillFree
  have kept := inv.withState (Or.inr (ready.markGroup inside)) fun value stillFree =>
    (marked value stillFree).1
  have newBase : ∀ number < sys.numGroups, (sys.groups number).base ≠ base := by
    intro number numberLt same
    -- the second value of a group is never reserved, so a group at `base` would own it
    refine inv.group_marked number numberLt (base + 1) ?_ (free (base + 1) (by omega)
      (by omega) (by unfold Reserved; omega))
    unfold DidGrp.Contains
    omega
  have last : ∀ number < sys.numGroups + 1, number = sys.numGroups ∨ number < sys.numGroups :=
    fun number bound => by omega
  exact {
    state := kept.state
    single_distinct := inv.single_distinct
    single_marked := kept.single_marked
    outside := by
      intro holding held number numberLt
      rcases last number numberLt with rfl | before
      · simp only [new]
        intro inGroup
        obtain ⟨used, fine⟩ := inv.single_marked holding held
        exact used (free _ inGroup.1 inGroup.2 fine)
      · simp only [old number before]
        exact inv.outside holding held number before
    group := by
      intro number numberLt
      rcases last number numberLt with rfl | before
      · simp only [new]
        exact newGroup_wellFormed aligned inside
      · simp only [old number before]
        exact inv.group number before
    group_marked := by
      intro number numberLt value inGroup
      rcases last number numberLt with rfl | before
      · simp only [new] at inGroup
        exact fun stillFree => (marked value stillFree).2 inGroup
      · simp only [old number before] at inGroup
        exact kept.group_marked number before value inGroup
    base_injective := by
      intro first firstLt second secondLt same
      rcases last first firstLt with rfl | firstBefore <;>
        rcases last second secondLt with rfl | secondBefore
      · rfl
      · simp only [new, old second secondBefore] at same
        exact absurd same.symm (newBase second secondBefore)
      · simp only [new, old first firstBefore] at same
        exact absurd same (newBase first firstBefore)
      · simp only [old first firstBefore, old second secondBefore] at same
        exact inv.base_injective first firstBefore second secondBefore same
    inGroup_distinct := inv.inGroup_distinct
    inGroup_marked := by
      intro holding held
      obtain ⟨number, numberLt, entry⟩ := inv.inGroup_marked holding held
      refine ⟨number, Nat.lt_succ_of_lt numberLt, ?_⟩
      simp only [old number numberLt]
      exact entry }

theorem withGroup (inv : sys.Inv) {inGroup : List (Client × Did)}
    (sameBase : group.base = (sys.groups number).base) (wf : group.WellFormed)
    (distinct : Distinct inGroup) (marked : ∀ holding ∈ inGroup, ∃ other < sys.numGroups, ∃ idx,
      0 < idx ∧ idx < 0xFF ∧ holding.2.value = (sys.groups other).base + idx ∧
        (Function.update sys.groups number group other).lDev16 idx ≠ .invldSz) :
    DidSystem.Inv { sys with
      groups := Function.update sys.groups number group
      inGroup := inGroup } := by
  have base_eq : ∀ other,
      (Function.update sys.groups number group other).base = (sys.groups other).base := by
    intro other
    by_cases same : other = number
    · subst same
      rw [Function.update_self, sameBase]
    · rw [Function.update_of_ne same]
  have contains_iff : ∀ other value,
      (Function.update sys.groups number group other).Contains value ↔
        (sys.groups other).Contains value := by
    intro other value
    rw [DidGrp.Contains, base_eq]
    rfl
  exact {
    state := inv.state
    single_distinct := inv.single_distinct
    single_marked := inv.single_marked
    outside := by
      intro holding held other otherLt
      rw [contains_iff]
      exact inv.outside holding held other otherLt
    group := by
      intro other otherLt
      by_cases same : other = number
      · subst same
        simp only [Function.update_self]
        exact wf
      · simp only [Function.update_of_ne same]
        exact inv.group other otherLt
    group_marked := by
      intro other otherLt value inside
      exact inv.group_marked other otherLt value ((contains_iff other value).mp inside)
    base_injective := by
      intro first firstLt second secondLt same
      rw [base_eq, base_eq] at same
      exact inv.base_injective first firstLt second secondLt same
    inGroup_distinct := distinct
    inGroup_marked := by
      intro holding held
      obtain ⟨other, otherLt, idx, positive, idx_lt, value_eq, used⟩ := marked holding held
      refine ⟨other, otherLt, idx, positive, idx_lt, ?_, used⟩
      rw [base_eq]
      exact value_eq }

theorem entry_eq (inv : sys.Inv) {first second other : Nat} (firstLt : first < sys.numGroups)
    (secondLt : second < sys.numGroups) (idx_lt : idx < 0x100) (other_lt : other < 0x100)
    (same : (sys.groups first).base + idx = (sys.groups second).base + other) :
    first = second ∧ idx = other := by
  have firstAligned := (inv.group first firstLt).aligned
  have secondAligned := (inv.group second secondLt).aligned
  exact ⟨inv.base_injective first firstLt second secondLt (by omega), by omega⟩

theorem withEntry_wellFormed {size : DidSz} (wf : group.WellFormed) (notFirst : idx ≠ 0)
    (notLast : idx ≠ 0xFF) :
    (group.withEntry idx size next).WellFormed where
  size := wf.size
  aligned := wf.aligned
  inside := wf.inside
  first := by
    rw [withEntry_of_ne _ _ _ notFirst.symm]
    exact wf.first
  last := by
    rw [withEntry_of_ne _ _ _ notLast.symm]
    exact wf.last

theorem reserve (inv : sys.Inv) (numberLt : number < sys.numGroups) (idx_lt : idx < 0x100)
    (free : (sys.groups number).lDev16 idx = .invldSz) :
    DidSystem.Inv { sys with
      groups := Function.update sys.groups number
        ((sys.groups number).withEntry idx (sys.groups number).size next)
      inGroup := (client, ⟨(sys.groups number).base + idx, (sys.groups number).size⟩) ::
        sys.inGroup } := by
  have wf := inv.group number numberLt
  have used : (sys.groups number).size ≠ .invldSz := by
    rw [wf.size]
    decide
  have inner : 0 < idx ∧ idx < 0xFF := by
    have notFirst : idx ≠ 0 := fun isFirst => wf.first (isFirst ▸ free)
    have notLast : idx ≠ 0xFF := fun isLast => wf.last (isLast ▸ free)
    omega
  apply inv.withGroup
  · rfl
  · exact withEntry_wellFormed wf (by omega) (by omega)
  · refine List.nodup_cons.mpr ⟨fun already => ?_, inv.inGroup_distinct⟩
    obtain ⟨holding, held, same⟩ := List.mem_map.mp already
    obtain ⟨other, otherLt, entry, -, entry_lt, value_eq, marked⟩ :=
      inv.inGroup_marked holding held
    obtain ⟨rfl, rfl⟩ := inv.entry_eq otherLt numberLt (by omega) idx_lt
      (value_eq.symm.trans same)
    exact marked free
  · rintro holding (_ | ⟨_, held⟩)
    · refine ⟨number, numberLt, idx, inner.1, inner.2, rfl, ?_⟩
      rw [Function.update_self, withEntry_self]
      exact used
    · obtain ⟨other, otherLt, entry, positive, entry_lt, value_eq, marked⟩ :=
        inv.inGroup_marked holding held
      refine ⟨other, otherLt, entry, positive, entry_lt, value_eq, ?_⟩
      by_cases same : other = number
      · subst same
        rw [Function.update_self]
        by_cases sameEntry : entry = idx
        · subst sameEntry
          rw [withEntry_self]
          exact used
        · rw [withEntry_of_ne _ _ _ sameEntry]
          exact marked
      · rw [Function.update_of_ne same]
        exact marked

theorem moveCursor (inv : sys.Inv) (numberLt : number < sys.numGroups) (next : Nat) :
    DidSystem.Inv { sys with
      groups := Function.update sys.groups number { sys.groups number with next := next } } := by
  have wf := inv.group number numberLt
  apply inv.withGroup
  · rfl
  · exact ⟨wf.size, wf.aligned, wf.inside, wf.first, wf.last⟩
  · exact inv.inGroup_distinct
  · intro holding held
    obtain ⟨other, otherLt, entry, positive, entry_lt, value_eq, marked⟩ :=
      inv.inGroup_marked holding held
    refine ⟨other, otherLt, entry, positive, entry_lt, value_eq, ?_⟩
    by_cases same : other = number
    · subst same
      rw [Function.update_self]
      exact marked
    · rw [Function.update_of_ne same]
      exact marked

theorem unreserve [DecidableEq Client] (inv : sys.Inv) (numberLt : number < sys.numGroups)
    (held : (client, did) ∈ sys.inGroup)
    (sameBase : did.value / 0x100 % 0x100 * 0x100 = (sys.groups number).base)
    (notFirst : did.value % 0x100 ≠ 0) (notLast : did.value % 0x100 ≠ 0xFF) :
    DidSystem.Inv { sys with
      groups := Function.update sys.groups number
        ((sys.groups number).withEntry (did.value % 0x100) .invldSz next)
      inGroup := sys.inGroup.erase (client, did) } := by
  have wf := inv.group number numberLt
  obtain ⟨distinct, others⟩ := value_ne_of_mem_erase inv.inGroup_distinct held
  apply inv.withGroup
  · rfl
  · exact withEntry_wellFormed wf notFirst notLast
  · exact distinct
  · intro holding kept
    obtain ⟨other, otherLt, entry, positive, entry_lt, value_eq, marked⟩ :=
      inv.inGroup_marked holding (List.mem_of_mem_erase kept)
    refine ⟨other, otherLt, entry, positive, entry_lt, value_eq, ?_⟩
    have different := others holding kept
    by_cases same : other = number
    · subst same
      have aligned := wf.aligned
      obtain ⟨own, ownLt, ownEntry, -, ownEntry_lt, heldValue, -⟩ := inv.inGroup_marked _ held
      dsimp only at heldValue
      have inside := (inv.group own ownLt).inside
      have sameEntry : entry ≠ did.value % 0x100 := by omega
      rw [Function.update_self, withEntry_of_ne _ _ _ sameEntry]
      exact marked
    · rw [Function.update_of_ne same]
      exact marked

end DidSystem.Inv

theorem exec_inv [DecidableEq Client] (sys : DidSystem Client) (call : ClientCall Client)
    (inv : sys.Inv) (permitted : Permitted sys call) : (call.exec sys).Inv := by
  have initialized := inv.lazyInit
  have ready := inv.state.lazyInit_ready
  cases call with
  | create client size =>
    obtain ⟨value, result, used, free, positive, inside⟩ | ⟨rc, failed, result⟩ :=
      didCreate_cases inv.state size
    · simp only [ClientCall.exec, result, record, if_true]
      exact initialized.take (Or.inr (ready.take used (by omega) (by omega))) free
        (ready.lt_of_free free (by omega) positive).2 fun other => DidState.mark_free_iff used
    · simp only [ClientCall.exec, result, record, if_neg failed]
      exact initialized
  | createFromData client value size =>
    obtain ⟨result, used, free, notReserved, -⟩ | ⟨rc, failed, result⟩ :=
      didCreateFromData_cases sys.state value size
    · simp only [ClientCall.exec, result, record, if_true]
      exact initialized.take (Or.inr (ready.take used ready.started ready.inside)) free
        notReserved fun other => DidState.mark_free_iff used
    · simp only [ClientCall.exec, result, record, if_neg failed]
      exact initialized
  | release client did =>
    obtain ⟨result, inUse, notReserved, -⟩ | ⟨rc, failed, result⟩ :=
      didRelease_cases sys.state did
    · simp only [ClientCall.exec, result, strike, if_true]
      exact inv.release permitted inUse notReserved
    · simp only [ClientCall.exec, result, strike, if_neg failed]
      exact inv
  | get value =>
    obtain ⟨result, -⟩ | ⟨rc, -, result⟩ := didGet_cases sys.state value
    all_goals
      simp only [ClientCall.exec, result]
      exact initialized
  | allocDev16Grp =>
    obtain ⟨base, result, aligned, inside, free⟩ | result := didAllocDev16Grp_cases sys.state
    · simp only [ClientCall.exec, result]
      exact initialized.allocGroup ready aligned inside free
    · simp only [ClientCall.exec, result]
      exact initialized
  | grpResrvDid client number =>
    obtain ⟨idx, next, result, idx_lt, free⟩ | ⟨rc, next, failed, result⟩ :=
      didGrpResrvDid_cases (sys.groups number) didInvalidId
    · simp only [ClientCall.exec, result, record, if_true]
      exact inv.reserve permitted idx_lt free
    · simp only [ClientCall.exec, result, record, if_neg failed]
      exact inv.moveCursor permitted next
  | grpUnresrvDid client number did =>
    obtain ⟨next, result, sameBase, notFirst, notLast⟩ | ⟨rc, failed, result⟩ :=
      didGrpUnresrvDid_cases (sys.groups number) did
    · simp only [ClientCall.exec, result, strike, if_true]
      exact inv.unreserve permitted.1 permitted.2 sameBase notFirst notLast
    · simp only [ClientCall.exec, result, strike, if_neg failed, Function.update_eq_self]
      exact inv

theorem issued_not_reserved {sys : DidSystem Client} {call : ClientCall Client}
    (inv : sys.Inv) (permitted : Permitted sys call) {did : Did}
    (handedOut : call.issued sys = some did) : ¬Reserved did.value := by
  cases call with
  | create client size =>
    obtain ⟨value, result, -, free, positive, inside⟩ | ⟨rc, failed, result⟩ :=
      didCreate_cases inv.state size
    · simp only [ClientCall.issued, result, if_true, Option.some.injEq] at handedOut
      subst handedOut
      exact (inv.state.lazyInit_ready.lt_of_free free (by omega) positive).2
    · simp only [ClientCall.issued, result, if_neg failed] at handedOut
      cases handedOut
  | createFromData client value size =>
    obtain ⟨result, -, -, notReserved, -⟩ | ⟨rc, failed, result⟩ :=
      didCreateFromData_cases sys.state value size
    · simp only [ClientCall.issued, result, if_true, Option.some.injEq] at handedOut
      exact handedOut ▸ notReserved
    · simp only [ClientCall.issued, result, if_neg failed] at handedOut
      cases handedOut
  | get value =>
    obtain ⟨result, notReserved⟩ | ⟨rc, failed, result⟩ := didGet_cases sys.state value
    · simp only [ClientCall.issued, result, if_true, Option.some.injEq] at handedOut
      exact handedOut ▸ notReserved
    · simp only [ClientCall.issued, result, if_neg failed] at handedOut
      cases handedOut
  | grpResrvDid client number =>
    have wf := inv.group number permitted
    obtain ⟨idx, next, result, idx_lt, free⟩ | ⟨rc, next, failed, result⟩ :=
      didGrpResrvDid_cases (sys.groups number) didInvalidId
    · simp only [ClientCall.issued, result, if_true, Option.some.injEq] at handedOut
      subst handedOut
      have aligned := wf.aligned
      have notFirst : idx ≠ 0 := fun isFirst => wf.first (isFirst ▸ free)
      have notLast : idx ≠ 0xFF := fun isLast => wf.last (isLast ▸ free)
      simp only [Reserved]
      omega
    · simp only [ClientCall.issued, result, if_neg failed] at handedOut
      cases handedOut
  | release client did => cases handedOut
  | allocDev16Grp => cases handedOut
  | grpUnresrvDid client number did => cases handedOut

/-- After any calls in which clients release only what they hold, the holdings are
exclusive, and no further such call hands out a reserved value. -/
theorem did_exclusive [DecidableEq Client] (calls : List (ClientCall Client))
    (permitted : Guarded ClientCall.exec Permitted DidSystem.start calls) :
    (run ClientCall.exec DidSystem.start calls).Exclusive ∧
      ∀ call did, Permitted (run ClientCall.exec DidSystem.start calls) call →
        call.issued (run ClientCall.exec DidSystem.start calls) = some did →
          ¬Reserved did.value := by
  have inv := run_invariant DidSystem.Inv exec_inv DidSystem.Inv.start permitted
  exact ⟨inv.exclusive, fun _ _ allowed handedOut => issued_not_reserved inv allowed handedOut⟩

end System

/-- Two clients with single IDs and reservations; one ID is released and handed out again. -/
theorem did_exclusive_twoClients :
    (run ClientCall.exec DidSystem.start
      [.create true .dev08Sz, .createFromData false 7 .dev16Sz, .allocDev16Grp,
        .grpResrvDid true 0, .release true ⟨1, .dev08Sz⟩, .createFromData false 1 .dev16Sz,
        .grpUnresrvDid true 0 ⟨0x101, .dev16Sz⟩, .get 7]).Exclusive := by
  exact (did_exclusive _ (by decide +kernel)).1

end RioFabric.Libdid

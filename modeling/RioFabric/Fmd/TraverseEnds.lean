import Mathlib.Data.Finset.Card
import Mathlib.Data.Finset.Filter
import RioFabric.Fmd.Traverse

/-!
# A traversal ends

Both lists grow while they are worked off.  What bounds them is that a probe which gets to a
switch records the link it went over, and that a recorded link is not gone over again.
-/

namespace RioFabric.Fmd.Traverse

open Lib Libcfg Libct Riocp

section Unrecorded

variable {Pe σ : Type} {net : Topology Pe σ} {lib after : σ} {port : RioPort}

/-- Links that are recorded stay recorded. -/
def Keeps (net : Topology Pe σ) (lib after : σ) : Prop :=
  ∀ pe port, net.recorded lib pe port = true → net.recorded after pe port = true

/-- The number of links that are not recorded yet. -/
def unrecorded (net : Topology Pe σ) (lib : σ) : Nat :=
  (net.links.filter fun place => net.recorded lib place.1 place.2 = false).card

theorem filter_subset_of_keeps (keeps : Keeps net lib after) :
    (net.links.filter fun place => net.recorded after place.1 place.2 = false) ⊆
      net.links.filter fun place => net.recorded lib place.1 place.2 = false := by
  intro place isMember
  obtain ⟨isLink, notAfter⟩ := Finset.mem_filter.mp isMember
  apply Finset.mem_filter.mpr
  constructor
  · exact isLink
  · apply Bool.eq_false_iff.mpr
    intro before
    rw [keeps _ _ before] at notAfter
    cases notAfter

theorem unrecorded_le (keeps : Keeps net lib after) : unrecorded net after ≤ unrecorded net lib :=
  Finset.card_le_card (filter_subset_of_keeps keeps)

theorem unrecorded_lt {pe : Pe} (keeps : Keeps net lib after) (isLink : (pe, port) ∈ net.links)
    (before : net.recorded lib pe port = false) (recorded : net.recorded after pe port = true) :
    unrecorded net after < unrecorded net lib := by
  apply Finset.card_lt_card
  apply Finset.ssubset_iff_subset_ne.mpr
  constructor
  · exact filter_subset_of_keeps keeps
  · intro same
    have wasMember : (pe, port) ∈ net.links.filter fun place =>
        net.recorded lib place.1 place.2 = false := Finset.mem_filter.mpr ⟨isLink, before⟩
    rw [← same] at wasMember
    rw [(Finset.mem_filter.mp wasMember).2] at recorded
    cases recorded

theorem unrecorded_probe {pe newPe : Pe} {ct : Nat} {name : Token} {force : Bool}
    (found : (net.probe pe port ct name force lib).1 = (.success, some newPe))
    (isSwitch : (net.cap (net.probe pe port ct name force lib).2 newPe).isSwitch = true) :
    unrecorded net (net.probe pe port ct name force lib).2 < unrecorded net lib := by
  obtain ⟨isLink, recorded⟩ := net.probe_records pe port ct name force lib newPe found isSwitch
  apply unrecorded_lt (net.probe_keeps pe port ct name force lib) isLink
  · apply Bool.eq_false_iff.mpr
    intro before
    have nothing := net.probe_null pe port ct name force lib before
    rw [found] at nothing
    cases nothing
  · exact recorded

end Unrecorded

variable {Pe σ α : Type}

section Measures

variable {net : Topology Pe σ} {cfg : IntCfgParms}

/-- What the search through the configuration uses up: a link that is recorded adds at most one
switch to the list. -/
def searchMeasure (net : Topology Pe σ) (state : TraverseState Pe σ) : Nat :=
  unrecorded net state.lib + state.swList.length

/-- What the auto mode uses up: a link that is recorded adds at most the ports of one switch to
the list. -/
def autoMeasure (net : Topology Pe σ) (state : TraverseState Pe σ) : Nat :=
  0x101 * unrecorded net state.lib + state.noCfgList.length

theorem length_portRange (portSt portCnt : RioPort) :
    (portRange portSt portCnt).length ≤ 0x100 := by
  rw [portRange]
  apply le_of_le_of_eq (List.length_filter_le _ _)
  exact List.length_finRange

/-- From a measure of at most `before` the program comes to one of at most `after`. -/
def Within (measure : TraverseState Pe σ → Nat) (program : TraverseProg Pe σ α)
    (before after : Nat) : Prop :=
  Prog.Meets .any (fun state => measure state ≤ before) program
    (fun _ state => measure state ≤ after) fun _ _ => True

/-- Neither measure grows as long as the lists stay as they are and no record is lost. -/
def Steady (net : Topology Pe σ) (measure : TraverseState Pe σ → Nat) : Prop :=
  ∀ state after cts, Keeps net state.lib after →
    measure { state with lib := after, cts := cts } ≤ measure state

theorem steady_searchMeasure : Steady net (searchMeasure net) :=
  fun state _ _ keeps => Nat.add_le_add_right (unrecorded_le keeps) state.swList.length

theorem steady_autoMeasure : Steady net (autoMeasure net) := by
  intro state after cts keeps
  apply Nat.add_le_add_right
  exact Nat.mul_le_mul_left 0x101 (unrecorded_le keeps)

namespace Within

variable {measure : TraverseState Pe σ → Nat} {program : TraverseProg Pe σ α}
  {before after bound : Nat}

theorem pure {value : α} (le : before ≤ after) :
    Within measure (Pure.pure value) before after :=
  Prog.Meets.pure fun _ holds => Nat.le_trans holds le

theorem fail : Within measure (fail : TraverseProg Pe σ α) before after :=
  Prog.Meets.stop fun _ _ => trivial

theorem call {f : σ → α × σ} (steady : Steady net measure)
    (keeps : ∀ lib, Keeps net lib (f lib).2) : Within measure (Traverse.call f) bound bound :=
  fun _ state holds => ⟨trivial, trivial, Nat.le_trans (steady state _ state.cts (keeps _)) holds⟩

theorem bind {β : Type} {middle : Nat} {next : α → TraverseProg Pe σ β}
    (head : Within measure program before middle)
    (tail : ∀ value, Within measure (next value) middle after) :
    Within measure (program >>= next) before after :=
  Prog.Meets.bind head tail

theorem read {view : TraverseState Pe σ → α} : Within measure (Prog.read view) bound bound :=
  Prog.Meets.read fun _ holds => holds

theorem ite {condition : Prop} [Decidable condition] {other : TraverseProg Pe σ α}
    (yes : Within measure program before after) (no : Within measure other before after) :
    Within measure (if condition then program else other) before after :=
  Prog.Meets.ite (fun _ => yes) fun _ => no

theorem releaseCt {vars : AutoVars} (steady : Steady net measure) :
    Within measure (releaseCt vars) bound bound :=
  Prog.Meets.change fun state holds => Nat.le_trans (steady state state.lib _ fun _ _ => id) holds

end Within

/-! ### The lists -/

section Lists

variable {before bound : Nat}

theorem pushSwitch_within (pe : Pe) :
    Within (searchMeasure net) (pushSwitch net pe) bound (bound + 1) := by
  apply Within.bind (Within.call steady_searchMeasure net.malloc_keeps)
  intro allocates
  apply Within.ite
  · apply Prog.Meets.change
    intro state holds
    simp only [searchMeasure, List.length_append, List.length_singleton] at holds ⊢
    omega
  · exact Within.pure (Nat.le_succ bound)

theorem pushNoCfg_within_auto (pe : Pe) (pnum : RioPort) :
    Within (autoMeasure net) (pushNoCfg net pe pnum) bound (bound + 1) := by
  apply Within.bind (Within.call steady_autoMeasure net.malloc_keeps)
  intro allocates
  apply Within.ite
  · apply Within.bind (Within.call steady_autoMeasure net.malloc_keeps)
    intro itemAllocates
    apply Within.ite
    · apply Prog.Meets.change
      intro state holds
      simp only [autoMeasure, List.length_append, List.length_singleton] at holds ⊢
      omega
    · exact Within.pure (Nat.le_succ bound)
  · exact Within.fail

theorem pushAll_within (pe : Pe) (ports : List RioPort) :
    Within (autoMeasure net) (ports.forM (pushNoCfg net pe)) bound (bound + ports.length) := by
  induction ports generalizing bound with
  | nil => exact Within.pure (Nat.le_refl bound)
  | cons pnum ports ih =>
    apply Within.bind (pushNoCfg_within_auto pe pnum)
    intro _
    rw [List.length_cons, Nat.add_comm ports.length, ← Nat.add_assoc]
    exact ih

theorem pushNoCfg_within_search (pe : Pe) (pnum : RioPort) :
    Within (searchMeasure net) (pushNoCfg net pe pnum) bound bound := by
  apply Within.bind (Within.call steady_searchMeasure net.malloc_keeps)
  intro allocates
  apply Within.ite
  · apply Within.bind (Within.call steady_searchMeasure net.malloc_keeps)
    intro itemAllocates
    apply Within.ite
    · exact Prog.Meets.change fun _ holds => holds
    · exact Within.pure (Nat.le_refl bound)
  · exact Within.fail

theorem addSwitch_within (pe : Pe) :
    Within (searchMeasure net) (addSwitch net pe) bound (bound + 1) := by
  apply Within.bind Within.read
  intro found
  apply Within.ite
  · exact pushSwitch_within pe
  · exact Within.pure (Nat.le_succ bound)

theorem nextName_within (vars : AutoVars) :
    Within (autoMeasure net) (nextName cfg vars) bound bound := by
  apply Within.ite
  · intro fuel state holds
    exact ⟨trivial, trivial, holds⟩
  · exact Within.pure (Nat.le_refl bound)

theorem length_tail_lt {β : Type} {list : List β} (present : list.head?.isSome = true) :
    list.tail.length < list.length := by
  cases list with
  | nil => cases present
  | cons head rest => exact Nat.lt_succ_self rest.length

theorem popSwitch_meets :
    Prog.Meets .any (fun state => searchMeasure net state ≤ bound) popSwitch
      (fun head state => head.isSome = true → searchMeasure net state < bound)
      fun _ _ => True := by
  intro fuel state holds
  refine ⟨trivial, trivial, ?_⟩
  intro present
  exact Nat.lt_of_lt_of_le (Nat.add_lt_add_left (length_tail_lt present) _) holds

theorem popNoCfg_meets :
    Prog.Meets .any (fun state => autoMeasure net state ≤ bound) popNoCfg
      (fun head state => head.isSome = true → autoMeasure net state < bound)
      fun _ _ => True := by
  intro fuel state holds
  refine ⟨trivial, trivial, ?_⟩
  intro present
  exact Nat.lt_of_lt_of_le (Nat.add_lt_add_left (length_tail_lt present) _) holds

end Lists

/-! ### Probes -/

section Probes

variable {measure : TraverseState Pe σ → Nat} {weight bound : Nat} {newPe : Pe}
  {state : TraverseState Pe σ}

/-- A link that gets recorded is worth `weight`. -/
def Pays (net : Topology Pe σ) (measure : TraverseState Pe σ → Nat) (weight : Nat) : Prop :=
  ∀ state after, unrecorded net after < unrecorded net state.lib →
    measure { state with lib := after } + weight ≤ measure state

theorem pays_searchMeasure : Pays net (searchMeasure net) 1 := by
  intro state after smaller
  simp only [searchMeasure]
  omega

theorem pays_autoMeasure : Pays net (autoMeasure net) 0x101 := by
  intro state after smaller
  simp only [autoMeasure]
  omega

/-- What a device that was found may add to the measure. -/
def worth (net : Topology Pe σ) (weight : Nat) (lib : σ) (newPe : Pe) : Nat :=
  if (net.cap lib newPe).isSwitch then weight else 0

/-- The measure is below its bound by what a device is worth. -/
def Affords (net : Topology Pe σ) (measure : TraverseState Pe σ → Nat) (weight bound : Nat)
    (newPe : Pe) (state : TraverseState Pe σ) : Prop :=
  measure state + worth net weight state.lib newPe ≤ bound

theorem Affords.le (affords : Affords net measure weight bound newPe state) :
    measure state ≤ bound :=
  Nat.le_of_add_right_le affords

theorem Affords.of_isSwitch (affords : Affords net measure weight bound newPe state)
    (isSwitch : (net.cap state.lib newPe).isSwitch = true) : measure state + weight ≤ bound := by
  unfold Affords worth at affords
  rwa [if_pos isSwitch] at affords

theorem getComptag_affords (steady : Steady net measure) (newPe : Pe) :
    Prog.Meets .any (Affords net measure weight bound newPe) (call (net.getComptag newPe))
      (fun _ => Affords net measure weight bound newPe) fun _ _ => True := by
  intro fuel state affords
  refine ⟨trivial, trivial, ?_⟩
  have kept := steady state _ state.cts (net.getComptag_keeps newPe state.lib)
  have sameWorth : worth net weight (net.getComptag newPe state.lib).2 newPe =
      worth net weight state.lib newPe := by
    rw [worth, worth, net.getComptag_cap]
  apply Nat.le_trans _ affords
  rw [← sameWorth]
  exact Nat.add_le_add_right kept _

theorem pushPorts_within :
    Prog.Meets .any (Affords net (autoMeasure net) 0x101 bound newPe) (pushPorts net newPe)
      (fun _ state => autoMeasure net state ≤ bound) fun _ _ => True := by
  apply Prog.Meets.readBind
  intro isSwitch
  apply Prog.Meets.ite
  · intro isTrue
    apply Prog.Meets.readBind
    intro portCnt fuel state ⟨⟨affords, same⟩, _⟩
    have enough := affords.of_isSwitch (same.trans isTrue)
    apply (pushAll_within newPe _ (Nat.le_refl (autoMeasure net state))).weaken
    · intro _ after holds
      have few := length_portRange 0 portCnt
      omega
    · exact fun _ _ _ => trivial
  · intro _
    exact Prog.Meets.pure fun _ holds => holds.1.le

theorem autoFound_within (vars : AutoVars) :
    Prog.Meets .any (Affords net (autoMeasure net) 0x101 bound newPe) (autoFound net vars newPe)
      (fun _ state => autoMeasure net state ≤ bound) fun _ _ => True := by
  apply Prog.Meets.bind (getComptag_affords steady_autoMeasure newPe)
  intro comptag
  cases comptag with
  | none =>
    have released : Within (autoMeasure net)
        (releaseCt vars >>= fun _ => fail : TraverseProg Pe σ (AutoVars ⊕ AutoVars)) bound bound :=
      Within.bind (Within.releaseCt steady_autoMeasure) fun _ => Within.fail
    exact released.weakenPre fun _ affords => affords.le
  | some comptag =>
    apply Prog.Meets.ite
    · intro _
      exact Prog.Meets.bind pushPorts_within fun _ => Within.pure (Nat.le_refl bound)
    · intro _
      exact Prog.Meets.pure fun _ affords => affords.le

/-- A probe adds nothing to the measure, and leaves room for the device that it finds. -/
theorem probe_meets (steady : Steady net measure) (pays : Pays net measure weight) (pe : Pe)
    (port : RioPort) (ct : Nat) (name : Token) (force : Bool) :
    Prog.Meets .any (fun state => measure state ≤ bound) (call (net.probe pe port ct name force))
      (fun probed state => measure state ≤ bound ∧
        ∀ newPe, probed = (.success, some newPe) → Affords net measure weight bound newPe state)
      fun _ _ => True := by
  intro fuel state holds
  have kept := Nat.le_trans
    (steady state _ state.cts (net.probe_keeps pe port ct name force state.lib)) holds
  refine ⟨trivial, trivial, kept, ?_⟩
  intro newPe found
  unfold Affords worth
  split
  next isSwitch => exact Nat.le_trans (pays state _ (unrecorded_probe found isSwitch)) holds
  next => exact kept

theorem afterProbe_within [DecidableEq Pe] (steady : Steady net measure)
    (pays : Pays net measure weight) {currPe pe : Pe} {port : RioPort} {ct : Nat} {name : Token}
    {force : Bool} {failed nothing : TraverseProg Pe σ α} {found : Pe → TraverseProg Pe σ α}
    (onFail : Within measure failed bound bound) (onNothing : Within measure nothing bound bound)
    (onFound : ∀ newPe, Prog.Meets .any (Affords net measure weight bound newPe) (found newPe)
      (fun _ state => measure state ≤ bound) fun _ _ => True) :
    Within measure (call (net.probe pe port ct name force) >>= fun probed =>
      afterProbe currPe probed failed nothing found) bound bound := by
  apply Prog.Meets.bind (probe_meets steady pays pe port ct name force)
  intro probed fuel state ⟨holds, affords⟩
  unfold afterProbe
  split
  next newPe =>
    split
    · exact onNothing holds
    · exact onFound newPe (affords newPe rfl)
  next => exact onNothing holds
  next => exact onNothing holds
  next => exact onNothing holds
  next => exact onFail holds

end Probes

/-! ### Turns -/

section Turns

variable [DecidableEq Pe] {before bound : Nat}

theorem configPort_within (currPe : Pe) (pnum : RioPort) :
    Within (searchMeasure net) (configPort net cfg currPe pnum) bound bound := by
  apply Within.bind Within.read
  intro currCt
  cases cfg.cfgGetConnDev currCt pnum with
  | none => exact pushNoCfg_within_search currPe pnum
  | some conn =>
    apply afterProbe_within steady_searchMeasure pays_searchMeasure Within.fail
      (Within.pure (Nat.le_refl bound))
    intro newPe
    apply Prog.Meets.bind (getComptag_affords steady_searchMeasure newPe)
    intro comptag
    cases comptag with
    | none => exact Prog.Meets.stop fun _ _ => trivial
    | some comptag =>
      apply Prog.Meets.ite
      · intro _
        exact Prog.Meets.stop fun _ _ => trivial
      · intro _
        apply Prog.Meets.readBind
        intro isSwitch
        apply Prog.Meets.ite
        · intro isTrue fuel state ⟨affords, same⟩
          have enough := affords.of_isSwitch (same.trans isTrue)
          apply (addSwitch_within newPe (Nat.le_refl (searchMeasure net state))).weaken
          · exact fun _ _ holds => Nat.le_trans holds enough
          · exact fun _ _ _ => trivial
        · intro _
          exact Prog.Meets.pure fun _ holds => holds.1.le

/-- Each turn of the search by the configuration makes its measure smaller. -/
theorem configTurn_meets (search : Pe × RioPort × RioPort) :
    Prog.Meets .any (fun state => searchMeasure net state ≤ bound) (configTurn net cfg search)
      (Sum.elim (fun _ state => searchMeasure net state < bound) fun _ _ => True)
      fun _ _ => True := by
  obtain ⟨currPe, portSt, portCnt⟩ := search
  apply Prog.Meets.bind (Prog.Meets.forM fun pnum _ => configPort_within currPe pnum)
  intro _
  apply Prog.Meets.bind popSwitch_meets
  intro head
  cases head with
  | none => exact Prog.Meets.pure fun _ _ => trivial
  | some nextPe =>
    apply Prog.Meets.readBind
    intro nextCt
    cases cfg.cfgFindDevByCt nextCt with
    | none => exact Prog.Meets.stop fun _ _ => trivial
    | some dev =>
      apply Prog.Meets.readBind
      intro portCnt
      exact Prog.Meets.pure fun _ smaller => smaller.1.1 rfl

theorem autoProbe_within (vars : AutoVars) (currPe : Pe) (pnum : RioPort) :
    Within (autoMeasure net) (autoProbe net cfg vars currPe pnum) bound bound := by
  apply Within.bind (nextName_within vars)
  intro vars
  apply afterProbe_within steady_autoMeasure pays_autoMeasure
  · exact Within.bind (Within.releaseCt steady_autoMeasure) fun _ => Within.fail
  · exact Within.pure (Nat.le_refl bound)
  · exact fun newPe => autoFound_within vars

/-- Each turn of the automatic search makes its measure smaller. -/
theorem autoTurn_meets (vars : AutoVars) :
    Prog.Meets .any (fun state => autoMeasure net state ≤ bound) (autoTurn net cfg vars)
      (Sum.elim (fun _ state => autoMeasure net state < bound) fun _ _ => True)
      fun _ _ => True := by
  apply Prog.Meets.bind popNoCfg_meets
  intro head
  cases head with
  | none =>
    apply Prog.Meets.bind (Prog.Meets.any _ (releaseIfSet vars))
    intro _
    exact Prog.Meets.pure fun _ _ => trivial
  | some place =>
    intro fuel state smaller
    apply (autoProbe_within vars place.1 place.2 (Nat.le_refl (autoMeasure net state))).weaken
    · intro result after holds
      cases result with
      | inl next => exact Nat.lt_of_le_of_lt holds (smaller rfl)
      | inr value => trivial
    · exact fun _ _ _ => trivial

end Turns

end Measures

section Termination

variable {net : Topology Pe σ} {cfg : IntCfgParms} {accept : Empty → Prop}

theorem call_ends (f : σ → α × σ) : Prog.Ends accept (call f : TraverseProg Pe σ α) :=
  Prog.Ends.act _

theorem fail_ends : Prog.Ends accept (fail : TraverseProg Pe σ α) := Prog.Ends.act _

theorem pure_ends (value : α) : Prog.Ends accept (pure value : TraverseProg Pe σ α) :=
  Prog.Ends.act _

theorem pushNoCfg_ends (pe : Pe) (pnum : RioPort) : Prog.Ends accept (pushNoCfg net pe pnum) := by
  apply Prog.Ends.bind (call_ends _)
  intro allocates
  apply Prog.Ends.ite
  · exact Prog.Ends.bind (call_ends _) fun _ => Prog.Ends.ite (Prog.Ends.act _) (pure_ends ())
  · exact fail_ends

theorem addSwitch_ends (pe : Pe) : Prog.Ends accept (addSwitch net pe) := by
  apply Prog.Ends.bind (Prog.Ends.act _)
  intro found
  apply Prog.Ends.ite
  · exact Prog.Ends.bind (call_ends _) fun _ => Prog.Ends.ite (Prog.Ends.act _) (pure_ends ())
  · exact pure_ends ()

theorem pushPorts_ends (newPe : Pe) : Prog.Ends accept (pushPorts net newPe) := by
  apply Prog.Ends.bind (Prog.Ends.act _)
  intro isSwitch
  apply Prog.Ends.ite
  · exact Prog.Ends.bind (Prog.Ends.act _) fun portCnt => Prog.Ends.forM (pushNoCfg_ends newPe) _
  · exact pure_ends ()

theorem autoFound_ends (vars : AutoVars) (newPe : Pe) :
    Prog.Ends accept (autoFound net vars newPe) := by
  apply Prog.Ends.bind (call_ends _)
  intro comptag
  cases comptag with
  | none => exact Prog.Ends.bind (Prog.Ends.act _) fun _ => fail_ends
  | some comptag =>
    apply Prog.Ends.ite
    · exact Prog.Ends.bind (pushPorts_ends newPe) fun _ => pure_ends _
    · exact pure_ends _

variable [DecidableEq Pe]

theorem afterProbe_ends {currPe : Pe} {probed : Rc × Option Pe}
    {failed nothing : TraverseProg Pe σ α} {found : Pe → TraverseProg Pe σ α}
    (onFail : Prog.Ends accept failed) (onNothing : Prog.Ends accept nothing)
    (onFound : ∀ newPe, Prog.Ends accept (found newPe)) :
    Prog.Ends accept (afterProbe currPe probed failed nothing found) := by
  unfold afterProbe
  split
  next newPe => exact Prog.Ends.ite onNothing (onFound newPe)
  next => exact onNothing
  next => exact onNothing
  next => exact onNothing
  next => exact onFail

theorem configPort_ends (currPe : Pe) (pnum : RioPort) :
    Prog.Ends accept (configPort net cfg currPe pnum) := by
  apply Prog.Ends.bind (Prog.Ends.act _)
  intro currCt
  cases cfg.cfgGetConnDev currCt pnum with
  | none => exact pushNoCfg_ends currPe pnum
  | some conn =>
    apply Prog.Ends.bind (call_ends _)
    intro probed
    apply afterProbe_ends fail_ends (pure_ends ())
    intro newPe
    apply Prog.Ends.bind (call_ends _)
    intro comptag
    cases comptag with
    | none => exact fail_ends
    | some comptag =>
      apply Prog.Ends.ite fail_ends
      apply Prog.Ends.bind (Prog.Ends.act _)
      exact fun isSwitch => Prog.Ends.ite (addSwitch_ends newPe) (pure_ends ())

theorem configTurn_ends (search : Pe × RioPort × RioPort) :
    Prog.Ends accept (configTurn net cfg search) := by
  obtain ⟨currPe, portSt, portCnt⟩ := search
  apply Prog.Ends.bind (Prog.Ends.forM (configPort_ends currPe) _)
  intro _
  apply Prog.Ends.bind (Prog.Ends.act _)
  intro head
  cases head with
  | none => exact pure_ends _
  | some nextPe =>
    apply Prog.Ends.bind (Prog.Ends.act _)
    intro nextCt
    cases cfg.cfgFindDevByCt nextCt with
    | none => exact fail_ends
    | some dev => exact Prog.Ends.bind (Prog.Ends.act _) fun portCnt => pure_ends _

theorem autoTurn_ends (vars : AutoVars) : Prog.Ends accept (autoTurn net cfg vars) := by
  apply Prog.Ends.bind (Prog.Ends.act _)
  intro head
  cases head with
  | none =>
    exact Prog.Ends.bind (Prog.Ends.ite (Prog.Ends.act _) (pure_ends ())) fun _ => pure_ends _
  | some place =>
    apply Prog.Ends.bind (Prog.Ends.ite (Prog.Ends.act _) (pure_ends vars))
    intro vars
    apply Prog.Ends.bind (call_ends _)
    intro probed
    apply afterProbe_ends
    · exact Prog.Ends.bind (Prog.Ends.act _) fun _ => fail_ends
    · exact pure_ends _
    · exact autoFound_ends vars

theorem search_ends (search : Pe × RioPort × RioPort) :
    Prog.Ends accept (Prog.loop (configTurn net cfg) search) :=
  Prog.Ends.loop_of_meets (searchMeasure net) configTurn_ends
    (fun search _ => configTurn_meets search) search

theorem autoDevices_ends : Prog.Ends accept (autoDevices net cfg) := by
  apply Prog.Ends.bind
  · exact Prog.Ends.loop_of_meets (autoMeasure net) autoTurn_ends
      (fun vars _ => autoTurn_meets vars) _
  · exact fun vars => Prog.Ends.ite (Prog.Ends.act _) (pure_ends ())

theorem fmdTraverseNetworkFromPePort_ends {pe : Pe} {portNum : RioPort} :
    Prog.Ends accept (fmdTraverseNetworkFromPePort net cfg pe portNum) := by
  apply Prog.Ends.handle
  · apply Prog.Ends.bind (Prog.Ends.act _)
    intro _
    apply Prog.Ends.bind (Prog.Ends.act _)
    intro portCnt
    apply Prog.Ends.bind (search_ends _)
    intro _
    apply Prog.Ends.bind (Prog.Ends.act _)
    intro size
    apply Prog.Ends.bind (Prog.Ends.ite autoDevices_ends (pure_ends ()))
    intro _
    exact Prog.Ends.bind (Prog.Ends.act _) fun _ => pure_ends _
  · intro _
    exact Prog.Ends.bind (Prog.Ends.act _) fun _ => pure_ends _

/-- A traversal ends, whatever the topology, the configuration and the answers are. -/
theorem traverse_ends (net : Topology Pe σ) (cfg : IntCfgParms) (pe : Pe) (portNum : RioPort)
    (state : TraverseState Pe σ) :
    (fmdTraverseNetworkFromPePort net cfg pe portNum).Stops state := by
  have ends : Prog.Ends (fun _ => True) (fmdTraverseNetworkFromPePort net cfg pe portNum) :=
    fmdTraverseNetworkFromPePort_ends
  exact ends trivial fun _ _ => trivial

/-- A switch that is connected to itself and, by two links, to another one. -/
def loopAndPair : Wiring Bool where
  peer
    | false, 0 => some (false, 1)
    | false, 1 => some (false, 0)
    | false, 2 => some (true, 2)
    | false, 3 => some (true, 3)
    | true, 2 => some (false, 2)
    | true, 3 => some (false, 3)
    | _, _ => none
  cap _ := ⟨pefSwitch, 0x400⟩
  comptag pe := if pe then 2 else 1

theorem traverse_ends_loopAndPair :
    (fmdTraverseNetworkFromPePort loopAndPair.topology { initCfgPtr with autoConfig := true }
      false rioAnyPort).Stops ⟨∅, .zeroed, [], []⟩ :=
  traverse_ends _ _ _ _ _

end Termination

end RioFabric.Fmd.Traverse

import RioFabric.RxsPort.Kept

/-!
# Routes of the ports that a request does not name

A request halts the traffic of the ports that must be reset and writes the routes of those that are
to be up.  What the other ports route to, and what is routed to them, is computed from the ports of
the request and from registers that are not read.
-/

namespace RioFabric.RxsPort

open Lib Dar
open StatCounters (numRxsPorts)

section Halted

variable {rxsPorts port pt : Nat} {sorted : PortConfigs} {curr chg other : SetRegs}
  {halted : List Nat}

@[simp] theorem config_haltRoutes : (haltRoutes rxsPorts chg port pt).config = (chg pt).config := by
  rw [haltRoutes]
  dsimp only
  split
  · rfl
  · rfl

@[simp] theorem rtEn_haltRoutes : (haltRoutes rxsPorts chg port pt).rtEn = (chg pt).rtEn := by
  rw [haltRoutes]
  dsimp only
  split
  · rfl
  · rfl

/-- The registers after the traffic of some ports is halted. -/
def haltAll (rxsPorts : Nat) (chg : SetRegs) (halted : List Nat) : SetRegs :=
  halted.foldl (haltRoutes rxsPorts) chg

theorem haltAll_append_singleton : haltAll rxsPorts chg (halted ++ [port]) =
    haltRoutes rxsPorts (haltAll rxsPorts chg halted) port := by
  rw [haltAll, List.foldl_append]
  rfl

@[simp] theorem config_haltAll : (haltAll rxsPorts chg halted pt).config = (chg pt).config := by
  induction halted generalizing chg with
  | nil => rfl
  | cons port halted ih =>
    rw [haltAll, List.foldl_cons, ← haltAll, ih, config_haltRoutes]

@[simp] theorem rtEn_haltAll : (haltAll rxsPorts chg halted pt).rtEn = (chg pt).rtEn := by
  induction halted generalizing chg with
  | nil => rfl
  | cons port halted ih => rw [haltAll, List.foldl_cons, ← haltAll, ih, rtEn_haltRoutes]

theorem rtEnTemp_haltAll (inRange : pt < rxsPorts) {bit : Nat} (small : bit < 32) :
    (haltAll rxsPorts chg halted pt).rtEnTemp.getLsbD bit =
      ((chg pt).rtEnTemp.getLsbD bit && decide (pt ∉ halted ∧ bit ∉ halted)) := by
  induction halted generalizing chg with
  | nil => simp [haltAll]
  | cons port halted ih =>
    rw [haltAll, List.foldl_cons, ← haltAll, ih, haltRoutes]
    dsimp only
    rw [if_pos inRange, BitVec.getLsbD_and, BitVec.getLsbD_not, getLsbD_portBit]
    by_cases isPort : pt = port
    · simp [isPort]
    · by_cases isBit : bit = port
      · subst isBit
        simp [small]
      · simp [isPort, isBit, small]

theorem changeRequiresReset_congr (same : ∀ pt, (chg pt).config = (other pt).config) :
    changeRequiresReset sorted curr chg port = changeRequiresReset sorted curr other port := by
  have oneWr : ∀ pt, (chg pt).oneWr = (other pt).oneWr := by
    intro pt
    have sameOneWr := congrArg PortRegs.oneWr (same pt)
    exact sameOneWr
  have spxCtl : (chg port).spxCtl = (other port).spxCtl := by
    have sameSpxCtl := congrArg PortRegs.spxCtl (same port)
    exact sameSpxCtl
  simp only [changeRequiresReset, oneWr, spxCtl]

/-- Both ports of the pairs, in the order in which their traffic is halted. -/
def pairPorts (evens : List Nat) : List Nat := evens.flatMap fun port => [port, oth port]

/-- The ports whose traffic is halted. -/
def haltedPorts (rxsPorts : Nat) (sorted : PortConfigs) (curr chg : SetRegs) : List Nat :=
  (pairPorts (evenPorts rxsPorts)).filter (changeRequiresReset sorted curr chg)

end Halted

/-- No access will fail, and these are the routes of the ports. -/
structure RoutesAre (rxsPorts : Nat) (routes : Nat → BitVec 32) (file : RegisterFile Reg) :
    Prop where
  reliable : file.Reliable
  route : ∀ pt < rxsPorts, file.value (.port .routeEn pt) = routes pt

section Writes

variable {rxsPorts : Nat} {routes : Nat → BitVec 32} {file : RegisterFile Reg} {reg : Reg}
  {value : BitVec 32}

theorem RoutesAre.written (are : RoutesAre rxsPorts routes file)
    (other : ∀ pt, reg ≠ .port .routeEn pt) :
    RoutesAre rxsPorts routes
      { file.pass (.write reg) with value := store reg value file.value } where
  reliable := are.reliable.pass _
  route pt inRange := by
    dsimp only
    rw [store, Function.update_of_ne (other pt).symm]
    exact are.route pt inRange

theorem RoutesAre.routed (are : RoutesAre rxsPorts routes file) (port : Nat) :
    RoutesAre rxsPorts (Function.update routes port value)
      { file.pass (.write (.port .routeEn port)) with
        value := store (.port .routeEn port) value file.value } where
  reliable := are.reliable.pass _
  route pt inRange := by
    dsimp only
    by_cases same : pt = port
    · subst same
      rw [store, Function.update_self, Function.update_self]
    · rw [store, Function.update_of_ne same, Function.update_of_ne (by simpa using same)]
      exact are.route pt inRange

theorem routesAre_keeps : (registerFile store).Keeps (RoutesAre rxsPorts routes)
    fun reg _ => ∀ pt, reg ≠ .port .routeEn pt where
  read reg file are := by
    simp only [registerFile]
    split
    · exact ⟨are.reliable.pass _, are.route⟩
    · exact ⟨are.reliable.pass _, are.route⟩
  write reg value file other are := by
    simp only [registerFile]
    split
    · exact are.written other
    next fails =>
      exact absurd ((are.reliable.fault_eq _).symm.trans fails) (Nat.succ_ne_zero _).symm

variable {impRc port : Nat} {Fail : PcStop → Attached Nat (RegisterFile Reg) → Prop}

theorem writeReg_routes (other : ∀ pt, reg ≠ .port .routeEn pt) :
    Meets (fun state => RoutesAre rxsPorts routes state.device)
      (writeReg (registerFile store) reg value impRc)
      (fun _ state => RoutesAre rxsPorts routes state.device) Fail := by
  apply orLeave_succeeds
  apply regWrite_file_meets
  · exact fun state before _ => before.written other
  · intro state failure before isFault fails
    exact fails (isFault.symm.trans (before.reliable.fault_eq _))

theorem writeReg_routeEn :
    Meets (fun state => RoutesAre rxsPorts routes state.device)
      (writeReg (registerFile store) (.port .routeEn port) value impRc)
      (fun _ state => RoutesAre rxsPorts (Function.update routes port value) state.device)
      Fail := by
  apply orLeave_succeeds
  apply regWrite_file_meets
  · exact fun state before _ => before.routed port
  · intro state failure before isFault fails
    exact fails (isFault.symm.trans (before.reliable.fault_eq _))

end Writes

section Programs

variable {rxsPorts port : Nat} {sorted : PortConfigs} {curr chg : SetRegs}
  {routes : Nat → BitVec 32} {locals : SetCfgLocals} {before : Nat → BitVec 32}

theorem haltTraffic_routes (clear : Bool) :
    Meets (fun state => RoutesAre rxsPorts routes state.device)
      (haltTraffic (registerFile store) rxsPorts clear chg port)
      (fun next state => next = haltRoutes rxsPorts chg port ∧
        RoutesAre rxsPorts (fun pt => (next pt).rtEnTemp) state.device)
      fun _ _ => True := by
  let temp : Nat → BitVec 32 := fun pt => (haltRoutes rxsPorts chg port pt).rtEnTemp
  let upTo : Nat → Nat → BitVec 32 := fun idx pt => if pt < idx then temp pt else routes pt
  have writes : Meets (fun state => RoutesAre rxsPorts (upTo 0) state.device)
      ((List.range rxsPorts).forM fun pt =>
        writeReg (registerFile store) (.port .routeEn pt) (temp pt) (pcSetConfig 0xC0))
      (fun _ state => RoutesAre rxsPorts (upTo rxsPorts) state.device) fun _ _ => True := by
    apply @Meets.forM_range _ _ _ _ (fun idx (state : Attached Nat (RegisterFile Reg)) =>
      RoutesAre rxsPorts (upTo idx) state.device)
    intro idx _
    apply writeReg_routeEn.weakenPost
    intro _ state after
    refine ⟨after.reliable, fun pt inRange => ?_⟩
    rw [after.route pt inRange]
    by_cases same : pt = idx
    · subst same
      rw [Function.update_self]
      exact (if_pos (Nat.lt_succ_self pt)).symm
    · rw [Function.update_of_ne same]
      simp only [upTo]
      by_cases below : pt < idx
      · rw [if_pos below, if_pos (Nat.lt_succ_of_lt below)]
      · rw [if_neg below, if_neg (by omega)]
  have halted : Meets (fun state => RoutesAre rxsPorts routes state.device)
      ((List.range rxsPorts).forM fun pt =>
        writeReg (registerFile store) (.port .routeEn pt) (temp pt) (pcSetConfig 0xC0))
      (fun _ state => RoutesAre rxsPorts temp state.device) fun _ _ => True := by
    apply writes.weaken
    · exact fun state before => ⟨before.reliable, before.route⟩
    · intro _ state after
      refine ⟨after.reliable, fun pt inRange => ?_⟩
      rw [after.route pt inRange]
      exact if_pos inRange
    · exact fun _ _ _ => trivial
  have keeps : (registerFile store).Keeps (RoutesAre rxsPorts temp) _ := routesAre_keeps
  apply Meets.bind halted
  intro _
  apply Meets.bind
    ((attemptRc_preserves (keeps.regWrite fun pt => by simp)).weakenFail fun _ _ _ => trivial)
  intro rc
  apply Meets.ite
  · intro _
    apply Meets.bind ((Preserves.failIf _ _).weakenFail fun _ _ _ => trivial)
    exact fun _ => Meets.pure fun _ before => ⟨rfl, before⟩
  · intro _
    apply Meets.bind ((awaitHalted_preserves keeps _ _ _).weakenFail fun _ _ _ => trivial)
    intro clear
    apply Meets.bind ((Preserves.failIf _ _).weakenFail fun _ _ _ => trivial)
    exact fun _ => Meets.pure fun _ before => ⟨rfl, before⟩

/-- The routes once the traffic of some ports is halted. -/
def haltedRoutes (rxsPorts : Nat) (before : Nat → BitVec 32) (chg : SetRegs) :
    List Nat → Nat → BitVec 32
  | [] => before
  | port :: halted => fun pt => (haltAll rxsPorts chg (port :: halted) pt).rtEnTemp

theorem haltedRoutes_append_singleton {halted : List Nat} :
    haltedRoutes rxsPorts routes chg (halted ++ [port]) =
      fun pt => (haltAll rxsPorts chg (halted ++ [port]) pt).rtEnTemp := by
  cases halted with
  | nil => rfl
  | cons first rest => rfl

/-- What holds after the turns for some ports: the traffic of those that must be reset is halted. -/
structure HaltedUpTo (rxsPorts : Nat) (sorted : PortConfigs) (curr chg : SetRegs)
    (before : Nat → BitVec 32) (done : List Nat) (carried : Nat × SetRegs)
    (state : Attached Nat (RegisterFile Reg)) : Prop where
  regs : carried.2 =
    haltAll rxsPorts chg (done.filter (changeRequiresReset sorted curr chg))
  routes : RoutesAre rxsPorts
    (haltedRoutes rxsPorts before chg (done.filter (changeRequiresReset sorted curr chg)))
    state.device

theorem haltIfReset_routes (done : List Nat) (carried : Nat × SetRegs) :
    Meets (HaltedUpTo rxsPorts sorted curr chg before done carried)
      (haltIfReset (registerFile store) rxsPorts locals sorted curr carried port)
      (HaltedUpTo rxsPorts sorted curr chg before (done ++ [port])) fun _ _ => True := by
  apply Meets.startingAt
  intro start isHalted
  have sameTest : changeRequiresReset sorted curr carried.2 port =
      changeRequiresReset sorted curr chg port := by
    rw [isHalted.regs]
    exact changeRequiresReset_congr fun pt => config_haltAll
  apply Meets.ite
  · intro reset
    rw [sameTest] at reset
    have goesOn : (done ++ [port]).filter (changeRequiresReset sorted curr chg) =
        done.filter (changeRequiresReset sorted curr chg) ++ [port] := by
      rw [List.filter_append, List.filter_singleton, reset]
      rfl
    have halts := (@haltTraffic_routes rxsPorts port carried.2 _ (locals.clear port)).weakenPre
      fun state isStart => (congrArg _ (congrArg Attached.device isStart)).mpr isHalted.routes
    apply Meets.bind halts
    intro next
    apply Meets.pure
    rintro state ⟨isNext, after⟩
    rw [isHalted.regs, ← haltAll_append_singleton, ← goesOn] at isNext
    refine ⟨isNext, ?_⟩
    rw [goesOn, haltedRoutes_append_singleton, ← goesOn, ← isNext]
    exact after
  · intro noReset
    rw [sameTest, Bool.not_eq_true] at noReset
    have stays : (done ++ [port]).filter (changeRequiresReset sorted curr chg) =
        done.filter (changeRequiresReset sorted curr chg) := by
      rw [List.filter_append, List.filter_singleton, noReset]
      exact List.append_nil _
    apply Meets.pure
    rintro state rfl
    exact ⟨by rw [stays]; exact isHalted.regs, by rw [stays]; exact isHalted.routes⟩

theorem writeNamedRegs_keepsRoutes :
    Preserves (RoutesAre rxsPorts routes)
      (writeNamedRegs (registerFile store) sorted chg port) := by
  apply Preserves.ite
  · intro _
    apply Preserves.bind (attempt_preserves (writeRegs_preserves routesAre_keeps ?_ _))
    · exact fun _ => Preserves.pure _
    · intro reg isConfig value pt same
      cases same
      simp at isConfig
  · exact fun _ => Preserves.pure _

theorem writeNamedRegs_haltedUpTo {done : List Nat} {carried : Nat × SetRegs} :
    Meets (HaltedUpTo rxsPorts sorted curr chg before done carried)
      (writeNamedRegs (registerFile store) sorted carried.2 port)
      (fun _ => HaltedUpTo rxsPorts sorted curr chg before done carried) fun _ _ => True := by
  apply Meets.startingAt
  intro start isHalted
  apply writeNamedRegs_keepsRoutes.weaken
  · rintro state rfl
    exact isHalted.routes
  · exact fun _ state after => ⟨isHalted.regs, after⟩
  · exact fun _ _ _ => trivial

theorem programPair_routes (done : List Nat) (carried : Nat × SetRegs) :
    Meets (HaltedUpTo rxsPorts sorted curr chg before done carried)
      (programPair (registerFile store) rxsPorts locals sorted curr carried port)
      (HaltedUpTo rxsPorts sorted curr chg before (done ++ [port, oth port])) fun _ _ => True := by
  apply Meets.bind (haltIfReset_routes done carried)
  intro first
  apply Meets.bind (haltIfReset_routes (done ++ [port]) first)
  intro second
  rw [List.append_assoc, List.singleton_append]
  apply Meets.bind writeNamedRegs_haltedUpTo
  intro _
  apply Meets.bind writeNamedRegs_haltedUpTo
  intro _
  exact Meets.pure fun _ after => after

theorem startTraffic_routes (regs : PortRegs) :
    Meets (fun state => RoutesAre rxsPorts routes state.device)
      (startTraffic (registerFile store) regs port)
      (fun _ state => RoutesAre rxsPorts (Function.update routes port regs.rtEn) state.device)
      fun _ _ => False := by
  apply Meets.bind writeReg_routeEn
  exact fun _ => writeReg_routes fun pt => by simp

theorem startAll_routes (rc : Nat) :
    Meets (fun state => RoutesAre rxsPorts routes state.device)
      ((List.range rxsPorts).foldlM (startIfUp (registerFile store) sorted chg) rc)
      (fun _ state => RoutesAre rxsPorts
        (fun pt => if (sorted pt).isUp then (chg pt).rtEn else routes pt) state.device)
      fun _ _ => True := by
  let upTo : List Nat → Nat → BitVec 32 := fun done pt =>
    if pt ∈ done ∧ (sorted pt).isUp then (chg pt).rtEn else routes pt
  apply (@Meets.foldlM_prefix _ _ _ (fun _ _ => True) _ _ _
    (fun done _ (state : Attached Nat (RegisterFile Reg)) =>
      RoutesAre rxsPorts (upTo done) state.device) ?_ [] rc).weaken
  · exact fun state before => ⟨before.reliable, fun pt inRange => by
      rw [before.route pt inRange]
      exact (if_neg fun both => List.not_mem_nil both.1).symm⟩
  · intro _ state after
    refine ⟨after.reliable, fun pt inRange => ?_⟩
    rw [after.route pt inRange]
    simp [upTo, inRange]
  · exact fun _ _ _ => trivial
  · intro done rc port _
    apply Meets.ite
    · intro isUp
      apply attempt_meets
      apply (startTraffic_routes (chg port)).weaken
      · exact fun _ before => before
      · intro _ state after
        refine ⟨after.reliable, fun pt inRange => ?_⟩
        rw [after.route pt inRange]
        by_cases same : pt = port
        · subst same
          rw [Function.update_self]
          exact (if_pos ⟨List.mem_append_right _ (List.mem_singleton_self pt), isUp⟩).symm
        · rw [Function.update_of_ne same]
          simp [upTo, same]
      · exact fun _ _ never => never.elim
    · intro notUp
      apply Meets.pure
      intro state before
      refine ⟨before.reliable, fun pt inRange => ?_⟩
      rw [before.route pt inRange]
      by_cases same : pt = port
      · subst same
        simp only [upTo, Bool.not_eq_true] at notUp ⊢
        simp [notUp]
      · simp [upTo, same]

/-- The routes that a request leaves. -/
def finalRoutes (rxsPorts : Nat) (sorted : PortConfigs) (before : Nat → BitVec 32)
    (curr chg : SetRegs) : Nat → BitVec 32 := fun pt =>
  if (sorted pt).isUp then (chg pt).rtEn
  else haltedRoutes rxsPorts before chg (haltedPorts rxsPorts sorted curr chg) pt

theorem programChanges_routes :
    Meets (fun state => RoutesAre rxsPorts before state.device)
      (programChanges (registerFile store) rxsPorts locals sorted curr chg)
      (fun _ state =>
        RoutesAre rxsPorts (finalRoutes rxsPorts sorted before curr chg) state.device)
      fun _ _ => True := by
  have pairs : Meets (HaltedUpTo rxsPorts sorted curr chg before [] (locals.rc, chg))
      ((evenPorts rxsPorts).foldlM
        (programPair (registerFile store) rxsPorts locals sorted curr) (locals.rc, chg))
      (HaltedUpTo rxsPorts sorted curr chg before (pairPorts (evenPorts rxsPorts)))
      fun _ _ => True := by
    apply @Meets.foldlM_prefix _ _ _ _ _ _ _
      (fun done => HaltedUpTo rxsPorts sorted curr chg before (pairPorts done)) ?_ []
    intro done carried port _
    rw [show pairPorts (done ++ [port]) = pairPorts done ++ [port, oth port] from
      List.flatMap_append]
    exact programPair_routes (pairPorts done) carried
  apply Meets.bind (pairs.weaken (fun state before => ⟨rfl, before⟩)
    (fun carried state after => And.intro after.regs after.routes) fun _ _ _ => trivial)
  rintro ⟨rc, last⟩
  apply Meets.assume
  rintro isLast
  apply Meets.bind (startAll_routes rc)
  intro rc
  apply Meets.failIf
  · intro state after _
    refine ⟨after.reliable, fun pt inRange => ?_⟩
    rw [after.route pt inRange, finalRoutes, haltedPorts]
    rw [show last = _ from isLast, rtEn_haltAll]
  · exact fun _ _ _ => trivial

end Programs

end RioFabric.RxsPort

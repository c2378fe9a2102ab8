import RioFabric.FileTransfer.Server

/-!
# Connections and their workers

A worker marks itself completed before it tests `req_skt` and waits.  A connection handed to it
in between is found by the test, so that the semaphore keeps a count for a connection that has
been taken already; a worker that finishes while the server is paused is not marked at all.
Where connections are handed only to workers that wait, and no worker finishes while the server
is paused, the three parts of the hand-over agree at every moment.
-/

namespace RioFabric.FileTransfer

open Lib

variable {n : Nat} {valid : Fin n → Bool}

/-- Where a connection is. -/
inductive Place (n : Nat) where
  | held
  | queued
  | assigned (i : Fin n)
  | finished
  deriving DecidableEq

/-- A connection is at a place; `conn_loop` holds it until its section. -/
def Server.At (server : Server n) (skt : Nat) : Place n → Prop
  | .held => server.conn = .accepted skt
  | .queued => skt ∈ server.connReqs
  | .assigned i => (server.rxBufs i).reqSkt = some skt
  | .finished => skt ∈ server.finished

/-- What is to be kept: workers receive with a connection only, every connection that has been
handed on is at exactly one place, and a worker that is blocked is marked. -/
structure Server.Dispatched (server : Server n) : Prop where
  receives : ∀ i, (server.rxBufs i).pc = .receive → (server.rxBufs i).reqSkt ≠ none
  placed : ∀ skt < server.accepted, server.conn ≠ .accepted skt →
    ∃! place, server.At skt place
  blocked : ∀ i, (server.rxBufs i).pc = .wait → (server.rxBufs i).reqAvail = 0 →
    (server.rxBufs i).completed = true

/-- The workers that can be given a connection. -/
def Server.free (server : Server n) (valid : Fin n → Bool) : List (Fin n) :=
  (List.finRange n).filter (server.isFree valid)

/-- The workers that are given a connection by an action: the first one that is free when
`conn_loop` hands on a connection, or as many as there are queued connections when these are
started. -/
def Server.targets (server : Server n) (valid : Fin n → Bool) : ServerAction n → List (Fin n)
  | .handOn _ =>
    if server.pauseFileXferConn then
      if server.maxFileXferQueue.toNat ≤ (server.numConnReqs + 1).toNat then
        (server.free valid).take (server.numConnReqs + 1).toNat
      else []
    else (server.free valid).take 1
  | .batch => (server.free valid).take server.numConnReqs.toNat
  | _ => []

/-- The condition on an action: it gives connections to workers only that wait, a connection
that is to be queued can be queued, and no worker finds the server paused when it has finished. -/
def InTime (valid : Fin n → Bool) (server : Server n) (action : ServerAction n) : Prop :=
  (∀ i ∈ server.targets valid action, (server.rxBufs i).pc = .wait) ∧
    (action = .handOn false → server.found valid ≠ none) ∧
    ∀ i, action = .testPause i → server.pauseFileXferConn = false

instance (server : Server n) (action : ServerAction n) : Decidable (InTime valid server action) :=
  inferInstanceAs (Decidable (_ ∧ _ ∧ _))

/-- The three parts of the hand-over agree with what the worker does. -/
def Worker.Agrees (worker : Worker) : Prop :=
  match worker.pc with
  | .test => worker.reqAvail = 0 ∧ worker.completed = worker.reqSkt.isNone
  | .wait =>
    worker.reqAvail = worker.reqSkt.toList.length ∧ worker.completed = worker.reqSkt.isNone
  | .receive => worker.reqSkt ≠ none ∧ worker.reqAvail = 0 ∧ worker.completed = false
  | .start | .close | .pause | .pop =>
    worker.reqSkt = none ∧ worker.reqAvail = 0 ∧ worker.completed = false

/-- Workers agree, every connection is at exactly one place, and the queue is counted. -/
structure Server.Good (server : Server n) : Prop where
  agrees : ∀ i, (server.rxBufs i).Agrees
  placed : ∀ skt < server.accepted, ∃! place, server.At skt place
  known : ∀ skt place, server.At skt place → skt < server.accepted
  nodup : server.connReqs.Nodup
  count : server.numConnReqs = UInt16.ofNat server.connReqs.length

/-- A connection has been moved to a place, and no other connection. -/
def Server.Moves (before after : Server n) (skt : Nat) (place : Place n) : Prop :=
  ∀ other elsewhere, after.At other elsewhere ↔
    if other = skt then elsewhere = place else before.At other elsewhere

theorem Server.Good.dispatched {server : Server n} (good : server.Good) : server.Dispatched where
  receives := fun i receives => by
    have agrees := good.agrees i
    rw [Worker.Agrees, receives] at agrees
    exact agrees.1
  placed := fun skt accepted _ => good.placed skt accepted
  blocked := fun i waits blocked => by
    have agrees := good.agrees i
    rw [Worker.Agrees, waits] at agrees
    obtain ⟨avail, completed⟩ := agrees
    rw [completed, Option.isNone_iff_eq_none]
    exact Option.toList_eq_nil_iff.mp (List.length_eq_zero_iff.mp (avail.symm.trans blocked))

section Moves

variable {before after : Server n} {skt : Nat} {place : Place n}

theorem Server.Good.of_moves (good : before.Good) (skt : Nat) (place : Place n)
    (moves : before.Moves after skt place)
    (accepted : ∀ other, other < after.accepted ↔ other < before.accepted ∨ other = skt)
    (agrees : ∀ i, (after.rxBufs i).Agrees) (nodup : after.connReqs.Nodup)
    (count : after.numConnReqs = UInt16.ofNat after.connReqs.length) : after.Good where
  agrees := agrees
  placed := fun other isAccepted => by
    by_cases same : other = skt
    · exact ⟨place, (moves other place).mpr (by simp [same]), fun elsewhere isAt => by
        simpa [same] using (moves other elsewhere).mp isAt⟩
    · obtain ⟨unique, isAt, only⟩ :=
        good.placed other (((accepted other).mp isAccepted).resolve_right same)
      refine ⟨unique, (moves other unique).mpr (by simpa [same] using isAt), ?_⟩
      intro elsewhere isElsewhere
      exact only elsewhere (by simpa [same] using (moves other elsewhere).mp isElsewhere)
  known := fun other elsewhere isAt => by
    have moved := (moves other elsewhere).mp isAt
    by_cases same : other = skt
    · exact (accepted other).mpr (.inr same)
    · rw [if_neg same] at moved
      exact (accepted other).mpr (.inl (good.known other elsewhere moved))
  nodup := nodup
  count := count

theorem Server.Good.only (good : before.Good) (isAt : before.At skt place) (elsewhere : Place n)
    (isElsewhere : before.At skt elsewhere) : elsewhere = place :=
  (good.placed skt (good.known skt place isAt)).unique isElsewhere isAt

theorem Server.setWorker_at (server : Server n) (i : Fin n) (worker : Worker) (skt : Nat)
    (place : Place n) :
    (server.setWorker i worker).At skt place ↔
      if place = .assigned i then worker.reqSkt = some skt else server.At skt place := by
  cases place with
  | assigned j =>
    by_cases same : j = i
    · subst same
      simp [Server.At, Server.setWorker]
    · simp [Server.At, Server.setWorker, same]
  | held | queued | finished => simp [Server.At, Server.setWorker]

section

variable (good : before.Good)
include good

theorem Server.setWorker_agrees {i : Fin n} {worker : Worker}
    (agrees : worker.Agrees) (j : Fin n) : ((before.setWorker i worker).rxBufs j).Agrees := by
  by_cases same : j = i
  · subst same
    simpa [Server.setWorker] using agrees
  · simpa [Server.setWorker, same] using good.agrees j

theorem Server.Good.goesOn {i : Fin n} {worker : Worker}
    (agrees : worker.Agrees) (same : worker.reqSkt = (before.rxBufs i).reqSkt) :
    (before.setWorker i worker).Good := by
  have unmoved : ∀ skt place, (before.setWorker i worker).At skt place ↔ before.At skt place := by
    intro skt place
    rw [Server.setWorker_at]
    split
    next isAssigned => rw [isAssigned, same, Server.At]
    next => rfl
  refine ⟨Server.setWorker_agrees good agrees, ?_, ?_, good.nodup, good.count⟩
  · simp only [unmoved]
    exact good.placed
  · simp only [unmoved]
    exact good.known

theorem Server.Good.of_moves_known {origin : Place n}
    (isAt : before.At skt origin) (place : Place n) (moves : before.Moves after skt place)
    (accepted : after.accepted = before.accepted) (agrees : ∀ i, (after.rxBufs i).Agrees)
    (nodup : after.connReqs.Nodup)
    (count : after.numConnReqs = UInt16.ofNat after.connReqs.length) : after.Good := by
  refine good.of_moves skt place moves (fun other => ?_) agrees nodup count
  rw [accepted]
  exact ⟨.inl, fun isKnown => isKnown.elim id fun same => same ▸ good.known skt _ isAt⟩

theorem Server.Good.closes {i : Fin n} {worker : Worker}
    (agrees : worker.Agrees) (closed : worker.reqSkt = none)
    (hadIt : (before.rxBufs i).reqSkt = some skt) :
    { before.setWorker i worker with finished := skt :: before.finished }.Good := by
  have isAt : before.At skt (.assigned i) := hadIt
  have moves : before.Moves
      { before.setWorker i worker with finished := skt :: before.finished } skt .finished := by
    intro other elsewhere
    have only := good.only isAt elsewhere
    cases elsewhere <;>
      simp only [Server.At, Server.setWorker, Function.update_apply] at only ⊢ <;> grind
  exact good.of_moves_known isAt .finished moves rfl (Server.setWorker_agrees good agrees)
    good.nodup good.count

theorem Server.Good.count_pop {rest : List Nat}
    (queue : before.connReqs = skt :: rest) :
    before.numConnReqs - 1 = UInt16.ofNat rest.length := by
  rw [good.count, queue, List.length_cons, UInt16.ofNat_add]
  exact UInt16.add_sub_cancel _ _

theorem Server.Good.takes {i : Fin n} {worker : Worker} {rest : List Nat}
    (queue : before.connReqs = skt :: rest) (agrees : worker.Agrees)
    (taken : worker.reqSkt = some skt) (hadNone : (before.rxBufs i).reqSkt = none) :
    ({ before with connReqs := rest, numConnReqs := before.numConnReqs - 1 }.setWorker i
      worker).Good := by
  have nodup := good.nodup
  rw [queue, List.nodup_cons] at nodup
  have isAt : before.At skt .queued := by simp [Server.At, queue]
  refine good.of_moves_known isAt (.assigned i) ?_ rfl
    (Server.setWorker_agrees good agrees) nodup.2 (good.count_pop queue)
  intro other elsewhere
  have only := good.only isAt elsewhere
  cases elsewhere <;>
    simp only [Server.At, Server.setWorker, Function.update_apply, queue] at only ⊢ <;> grind

theorem Server.Good.drains {rest : List Nat}
    (queue : before.connReqs = skt :: rest) :
    { before with
      connReqs := rest, numConnReqs := before.numConnReqs - 1,
      finished := skt :: before.finished }.Good := by
  have nodup := good.nodup
  rw [queue, List.nodup_cons] at nodup
  have isAt : before.At skt .queued := by simp [Server.At, queue]
  refine good.of_moves_known isAt .finished ?_ rfl good.agrees nodup.2
    (good.count_pop queue)
  intro other elsewhere
  have only := good.only isAt elsewhere
  cases elsewhere <;> simp only [Server.At, queue] at only ⊢ <;> grind

theorem Server.Good.hands {i : Fin n} {worker : Worker}
    (held : before.conn = .accepted skt) (agrees : worker.Agrees) (taken : worker.reqSkt = some skt)
    (hadNone : (before.rxBufs i).reqSkt = none) :
    ({ before with conn := .accept }.setWorker i worker).Good := by
  have isAt : before.At skt .held := held
  refine good.of_moves_known isAt (.assigned i) ?_ rfl
    (Server.setWorker_agrees good agrees) good.nodup good.count
  intro other elsewhere
  have only := good.only isAt elsewhere
  cases elsewhere <;>
    simp only [Server.At, Server.setWorker, Function.update_apply] at only ⊢ <;> grind

theorem Server.Good.queues (held : before.conn = .accepted skt) :
    ({ before with conn := .accept }.addConnReq skt).Good := by
  have isAt : before.At skt .held := held
  have notQueued : skt ∉ before.connReqs := fun isQueued =>
    absurd (good.only isAt .queued isQueued) (by simp)
  refine good.of_moves_known isAt .queued ?_ rfl good.agrees ?_ ?_
  · intro other elsewhere
    have only := good.only isAt elsewhere
    cases elsewhere <;> simp only [Server.At, Server.addConnReq] at only ⊢ <;> grind
  · simpa [Server.addConnReq, List.nodup_append] using ⟨good.nodup, by grind⟩
  · simp [Server.addConnReq, good.count]

theorem Server.Good.accepts (accepting : before.conn = .accept) :
    { before with
      conn := .accepted before.accepted, accepted := before.accepted + 1 }.Good := by
  refine good.of_moves before.accepted .held ?_ ?_ good.agrees good.nodup
    good.count
  · intro other elsewhere
    have known := good.known before.accepted elsewhere
    cases elsewhere <;> simp only [Server.At] at known ⊢ <;> grind
  · intro other
    simp only [Nat.lt_succ_iff_lt_or_eq]

end

end Moves

section Steps

variable {server : Server n} {bufs : List (Fin n)} {action : ServerAction n}

theorem Server.Good.waiting (good : server.Good) {i : Fin n} (isFree : server.isFree valid i = true)
    (waits : (server.rxBufs i).pc = .wait) (skt : Nat) :
    (server.rxBufs i).reqSkt = none ∧
      { server.rxBufs i with
        reqSkt := some skt, completed := false,
        reqAvail := (server.rxBufs i).reqAvail + 1 }.Agrees := by
  have agrees := good.agrees i
  rw [Worker.Agrees, waits] at agrees
  obtain ⟨avail, completed⟩ := agrees
  have none : (server.rxBufs i).reqSkt = none := by
    rw [Server.isFree, Bool.and_eq_true] at isFree
    rw [← Option.isNone_iff_eq_none, ← completed, isFree.2]
  refine ⟨none, ?_⟩
  rw [none] at avail
  simp [Worker.Agrees, waits, avail]

theorem count_succ {count : UInt16} (counted : count ≠ 0) :
    count.toNat = (count - 1).toNat + 1 := by
  have positive : count.toNat ≠ 0 := fun isZero => counted (UInt16.toNat_inj.mp isZero)
  have bound := count.toNat_lt
  rw [UInt16.toNat_sub]
  simp only [UInt16.toNat_one]
  omega

theorem Server.Good.queue_of_count (good : server.Good) (counted : server.numConnReqs ≠ 0) :
    ∃ skt queue, server.connReqs = skt :: queue := by
  cases isQueue : server.connReqs with
  | nil =>
    rw [good.count, isQueue] at counted
    exact absurd rfl counted
  | cons skt queue => exact ⟨skt, queue, rfl⟩

theorem Server.filter_isFree_setWorker (server : Server n) (worker : Worker) {i : Fin n}
    (notIn : i ∉ bufs) :
    bufs.filter ((server.setWorker i worker).isFree valid) = bufs.filter (server.isFree valid) := by
  refine List.filter_congr fun j isBuf => ?_
  have different : j ≠ i := fun same => notIn (same ▸ isBuf)
  simp [Server.isFree, Server.setWorker, different]

section

variable (good : server.Good)
include good

theorem Server.Good.batchLoop (nodup : bufs.Nodup)
    (waits : ∀ i ∈ (bufs.filter (server.isFree valid)).take server.numConnReqs.toNat,
      (server.rxBufs i).pc = .wait) : (server.batchLoop valid bufs).Good := by
  induction bufs generalizing server with
  | nil => exact good
  | cons i rest ih =>
    rw [List.nodup_cons] at nodup
    unfold Server.batchLoop
    split
    · exact good
    next counted =>
      split
      next isFree =>
        rw [List.filter_cons_of_pos isFree, count_succ counted, List.take_succ_cons] at waits
        obtain ⟨skt, queue, isQueue⟩ := good.queue_of_count counted
        obtain ⟨hadNone, agrees⟩ := good.waiting isFree (waits i List.mem_cons_self) skt
        have assigned := good.takes isQueue agrees rfl hadNone
        simp only [Server.popConnReq, isQueue]
        refine ih assigned nodup.2 fun j inRest => ?_
        have isRest := List.mem_of_mem_filter (List.mem_of_mem_take inRest)
        have different : j ≠ i := fun same => nodup.1 (same ▸ isRest)
        rw [Server.assign, Server.filter_isFree_setWorker _ _ nodup.1] at inRest
        simp only [Server.assign, Server.setWorker, Function.update_of_ne different]
        exact waits j (List.mem_cons_of_mem i inRest)
      next notFree =>
        rw [List.filter_cons_of_neg notFree] at waits
        exact ih good nodup.2 waits

theorem Server.Good.batchStart
    (waits : ∀ i ∈ (server.free valid).take server.numConnReqs.toNat,
      (server.rxBufs i).pc = .wait) : (server.batchStartConnections valid).Good := by
  have unpaused : { server with pauseFileXferConn := false }.Good :=
    ⟨good.agrees, good.placed, good.known, good.nodup, good.count⟩
  exact unpaused.batchLoop (List.nodup_finRange n) waits

theorem Server.Good.handOn {skt : Nat} {mallocOk : Bool}
    (held : server.conn = .accepted skt) (inTime : InTime valid server (.handOn mallocOk)) :
    (server.handOn valid skt mallocOk).Good := by
  obtain ⟨waits, allocates, -⟩ := inTime
  have sameFound : { server with conn := .accept }.found valid = server.found valid := rfl
  simp only [Server.handOn, sameFound]
  cases found : server.found valid with
  | none =>
    have allocated : mallocOk = true := by
      rw [← Bool.not_eq_false]
      exact fun fails => allocates (by rw [fails]) found
    rw [allocated]
    have queued := good.queues held
    simp only [if_true]
    split
    next isDue =>
      refine queued.batchStart fun i isTarget => waits i ?_
      have paused : server.pauseFileXferConn = true := isDue.1
      have reached : server.maxFileXferQueue.toNat ≤ (server.numConnReqs + 1).toNat := isDue.2
      simp only [Server.targets, paused, if_true, reached]
      exact isTarget
    next => exact queued
  | some i =>
    have unpaused : server.pauseFileXferConn = false := by
      rw [← Bool.not_eq_true]
      intro paused
      rw [Server.found, if_pos paused] at found
      cases found
    have isFirst : (List.finRange n).find? (server.isFree valid) = some i := by
      simpa [Server.found, unpaused] using found
    have isTarget : i ∈ server.targets valid (.handOn mallocOk) := by
      simp only [Server.targets, unpaused, Bool.false_eq_true, if_false]
      rw [List.take_one, Server.free, List.head?_filter, isFirst]
      exact List.mem_singleton_self i
    obtain ⟨hadNone, agrees⟩ := good.waiting (List.find?_some isFirst) (waits i isTarget) skt
    have handed := good.hands held agrees rfl hadNone
    simp only [Server.assign, Server.setWorker, unpaused, Bool.false_eq_true, false_and,
      if_false] at handed ⊢
    exact handed

theorem Server.Good.settings (cli : PausePc) (paused : Bool) (limit : UInt8) :
    { server with cli := cli, pauseFileXferConn := paused, maxFileXferQueue := limit }.Good :=
  ⟨good.agrees, good.placed, good.known, good.nodup, good.count⟩

theorem Server.Good.leaves (conn : ConnPc)
    (before : ∀ skt, server.conn ≠ .accepted skt) (after : ∀ skt, conn ≠ .accepted skt) :
    { server with conn := conn }.Good := by
  have unmoved : ∀ skt place, { server with conn := conn }.At skt place ↔ server.At skt place := by
    intro skt place
    cases place with
    | held => exact iff_of_false (after skt) (before skt)
    | queued | assigned i | finished => rfl
  refine ⟨good.agrees, ?_, ?_, good.nodup, good.count⟩
  · simp only [unmoved]
    exact good.placed
  · simp only [unmoved]
    exact good.known

end

theorem Worker.step_agrees {worker next : Worker} (agrees : worker.Agrees)
    (taken : worker.step action = some next) :
    next.Agrees ∧ next.reqSkt = worker.reqSkt := by
  unfold Worker.step at taken
  split at taken
  · split at taken
    next starts =>
      cases taken
      rw [Worker.Agrees, starts] at agrees
      simp [Worker.Agrees, agrees]
    next => cases taken
  · split at taken
    next tests =>
      cases taken
      rw [Worker.Agrees, tests] at agrees
      cases hasSkt : worker.reqSkt <;> simp_all [Worker.Agrees]
    next => cases taken
  · split at taken
    next wakes =>
      cases taken
      rw [Worker.Agrees, wakes.1] at agrees
      cases hasSkt : worker.reqSkt <;> simp_all [Worker.Agrees]
    next => cases taken
  · cases taken

variable {next : Server n}

section

variable (good : server.Good)
include good

theorem Server.Good.pop {i : Fin n}
    (taken : server.step valid (.pop i) = some next) : next.Good := by
  simp only [Server.step] at taken
  split at taken
  next pops =>
    have agrees := good.agrees i
    rw [Worker.Agrees, pops] at agrees
    cases queue : server.connReqs with
    | nil =>
      simp only [Server.popConnReq, queue, Option.some.injEq] at taken
      subst taken
      exact good.goesOn (by simp [Worker.Agrees, agrees]) agrees.1.symm
    | cons skt rest =>
      simp only [Server.popConnReq, queue, Option.some.injEq] at taken
      subst taken
      exact good.takes queue (by simp [Worker.Agrees, agrees]) rfl agrees.1
  next => cases taken

theorem Server.Good.drain (taken : server.step valid .drain = some next) :
    next.Good := by
  simp only [Server.step] at taken
  split at taken
  next drains =>
    cases queue : server.connReqs with
    | nil =>
      simp only [Server.popConnReq, queue, Option.some.injEq] at taken
      subst taken
      have left := good.leaves .ended (by simp [drains]) (by simp)
      rw [queue] at left
      exact left
    | cons skt rest =>
      simp only [Server.popConnReq, queue, Option.some.injEq] at taken
      subst taken
      exact good.drains queue
  next => cases taken

theorem Server.Good.pause {arg : Option (Bool × Option UInt8)}
    (taken : server.step valid (.pause arg) = some next) : next.Good := by
  simp only [Server.step] at taken
  split at taken
  next =>
    cases arg with
    | none =>
      cases taken
      exact good.settings _ _ _
    | some arg =>
      cases taken
      exact good.settings _ _ _
  next => cases taken

theorem Server.Good.limit (taken : server.step valid .limit = some next) :
    next.Good := by
  simp only [Server.step] at taken
  split at taken
  · cases taken
    exact good.settings _ _ _
  · cases taken
    exact good.settings _ _ _
  · cases taken
    exact good.settings _ _ _
  · cases taken

/-- Every step in time keeps `Good`. -/
theorem Server.Good.step (inTime : InTime valid server action)
    (taken : server.step valid action = some next) : next.Good := by
  cases action with
  | start i | test i | wake i =>
    simp only [Server.step] at taken
    split at taken
    next =>
      obtain ⟨worker, stepped, rfl⟩ := Option.map_eq_some_iff.mp taken
      obtain ⟨agrees, same⟩ := Worker.step_agrees (good.agrees i) stepped
      exact good.goesOn agrees same
    next => cases taken
  | received i =>
    obtain ⟨receives, rfl⟩ := of_enabled taken
    obtain ⟨skt, hadIt⟩ := Option.ne_none_iff_exists'.mp receives.2
    have agrees := good.agrees i
    rw [Worker.Agrees, receives.1] at agrees
    simp only [Server.closeSkt, hadIt]
    exact good.closes ⟨rfl, agrees.2⟩ rfl hadIt
  | close i =>
    obtain ⟨closes, rfl⟩ := of_enabled taken
    have agrees := good.agrees i
    rw [Worker.Agrees, closes] at agrees
    simp only [Server.closeSkt, agrees.1]
    exact good.goesOn ⟨rfl, agrees.2⟩ agrees.1.symm
  | testPause i =>
    obtain ⟨pauses, rfl⟩ := of_enabled taken
    have agrees := good.agrees i
    rw [Worker.Agrees, pauses] at agrees
    have unpaused : server.pauseFileXferConn = false := inTime.2.2 i rfl
    exact good.goesOn (by simpa [Worker.Agrees, unpaused] using agrees) rfl
  | pop i => exact good.pop taken
  | accept =>
    obtain ⟨accepting, rfl⟩ := of_enabled taken
    exact good.accepts accepting
  | acceptFails =>
    obtain ⟨accepting, rfl⟩ := of_enabled taken
    exact good.leaves .drain (by simp [accepting]) (by simp)
  | handOn mallocOk =>
    simp only [Server.step] at taken
    split at taken
    next skt held =>
      cases taken
      exact good.handOn held inTime
    next => cases taken
  | drain => exact good.drain taken
  | pause arg => exact good.pause taken
  | limit => exact good.limit taken
  | check =>
    obtain ⟨-, rfl⟩ := of_enabled taken
    exact good.settings _ _ _
  | batch =>
    obtain ⟨-, rfl⟩ := of_enabled taken
    have started := good.batchStart inTime.1
    exact ⟨started.agrees, started.placed, started.known, started.nodup, started.count⟩

end

end Steps

theorem Server.start_good (n : Nat) : (Server.start n).Good where
  agrees := fun _ => ⟨rfl, rfl, rfl⟩
  placed := fun _ accepted => absurd accepted (Nat.not_lt_zero _)
  known := fun skt place isAt => by
    cases place <;> simp [Server.At, Server.start] at isAt
  nodup := List.nodup_nil
  count := rfl

/-- In a run in which connections are handed only to workers that wait, every connection can be
queued and no worker finishes while the server is paused, workers receive with a connection
only, every connection is at exactly one place and every blocked worker is marked. -/
theorem connections_dispatched (n : Nat) (valid : Fin n → Bool) (server : Server n)
    (reached : Reaches (Server.step valid) (InTime valid) (Server.start n) server) :
    server.Dispatched := by
  refine (reached.invariant Server.Good (Server.start_good n) ?_).dispatched
  intro server action next good inTime taken
  exact good.step inTime taken

/-- One worker receives the file of one connection. -/
def oneTransfer : List (ServerAction 1) :=
  [.start 0, .test 0, .accept, .handOn true, .wake 0, .received 0, .close 0, .testPause 0, .pop 0,
    .test 0]

theorem connections_dispatched_oneTransfer :
    ∃ server : Server 1, Reaches (Server.step fun _ => true) (InTime fun _ => true)
      (Server.start 1) server ∧ server.finished = [0] ∧ server.Dispatched := by
  obtain ⟨server, reached, finished⟩ := exists_reaches_of_execute (Server.step fun _ => true)
    (InTime fun _ => true) (Server.start 1) oneTransfer (fun server => server.finished = [0])
    (by decide)
  exact ⟨server, reached, of_decide_eq_true finished, connections_dispatched 1 _ server reached⟩

/-- A connection is handed to a worker that has not tested `req_skt` yet; the count left in the
semaphore lets the worker receive without a connection afterwards. -/
def earlyHandOver : List (ServerAction 1) :=
  [.start 0, .accept, .handOn true, .test 0, .received 0, .close 0, .testPause 0, .pop 0, .test 0,
    .wake 0]

theorem not_connections_dispatched_earlyHandOver :
    ¬∀ (n : Nat) (valid : Fin n → Bool) (server : Server n),
      Reaches (Server.step valid) anyAction (Server.start n) server → server.Dispatched := by
  intro dispatched
  obtain ⟨server, reached, receives⟩ := exists_reaches_of_execute (Server.step fun _ => true)
    anyAction (Server.start 1) earlyHandOver
    (fun server => (server.rxBufs 0).pc = .receive ∧ (server.rxBufs 0).reqSkt = none) (by decide)
  obtain ⟨isReceiving, hasNone⟩ := of_decide_eq_true receives
  exact (dispatched 1 _ server reached).receives 0 isReceiving hasNone

end RioFabric.FileTransfer

import RioFabric.Fmd.Directory
import RioFabric.Lib.Actions

/-!
# The flags of the local applications

Every application that connects to the daemon gets one of `FMD_MAX_APPS` slots and a thread,
`app_loop`.  The flag of its HELLO is set in the directory's entry of the local master port,
and cleared there when the application leaves.  The daemon does not count how many
applications have a flag; the flag to clear is read from the slot, which by then may belong to
another application.
-/

namespace RioFabric.Fmd

open Lib

/-- `FMD_MAX_APPS`. -/
def maxApps : Nat := 10

/-- The bits of an entry's flag that are not `FMDD_FLAG_OK_MP`. -/
def appBits : BitVec 8 := 0xfc#8

/-- The bits that `mod_dd_mp_flag` changes: `FMDD_NO_FLAG` and `FMDD_ANY_FLAG` are ignored. -/
def modBits (flag : BitVec 8) : BitVec 8 := if flag = 0 ∨ flag = 0xff#8 then 0 else flag

def modDdMpFlag (dd : Dd) (flag : BitVec 8) (addIt : Bool) : Dd :=
  let i := dd.locMpIdx
  if flag = 0 ∨ flag = 0xff#8 then dd
  else if i ≥ dd.numDevs then dd
  else if (dd.devs i).isMastPt ≠ 0 then
    let dev := dd.devs i
    { dd with devs := Function.update dd.devs i { dev with
      flag := if addIt then dev.flag ||| flag else dev.flag &&& ~~~flag } }
  else dd

/-- A request: a HELLO with its flag, or anything else. -/
inductive AppReq where
  | hello (flag : BitVec 32)
  | other
  deriving DecidableEq

/-- Where a thread is in `app_loop`. -/
inductive AppPc where
  /-- In `recv`. -/
  | recv
  /-- Behind `handle_app_msg`; the flag of a HELLO makes an update required. -/
  | respond (updateReqd : Option (BitVec 32))
  /-- The response has been sent, `mod_dd_mp_flag` is next. -/
  | update (flag : BitVec 32)
  /-- Out of the loop. -/
  | closing
  /-- The slot has been given back; its flag is read next. -/
  | gone
  /-- The flag has been read, `mod_dd_mp_flag` is next. -/
  | clear (flag : BitVec 8)
  | exited
  deriving DecidableEq

/-- A thread with its slot.  `said` is the flag of the application's last HELLO, once that has
been processed, and is empty before the first HELLO and after the application has left. -/
structure AppThread where
  slot : Nat
  pc : AppPc
  said : BitVec 8
  deriving DecidableEq

/-- `struct fmd_app_mgmt_state`, as far as it outlives a connection. -/
structure AppSlot where
  alloced : Nat
  flag : BitVec 32

/-- Where the thread is in `app_conn_loop`. -/
inductive ConnPc where
  /-- In `sem_wait` for a slot. -/
  | waiting
  /-- In `accept`, with a slot chosen. -/
  | accepting (slot : Nat)
  /-- The thread has been created; `alloced = 1` is next. -/
  | starting (slot : Nat)
  /-- No slot was found. -/
  | failed
  deriving DecidableEq

/-- The applications of a daemon. -/
structure Apps where
  dd : Dd
  slots : Nat → AppSlot
  avail : Nat
  conn : ConnPc
  threads : List AppThread

/-- `init_app_mgmt_st`. -/
def Apps.start (dd : Dd) : Apps where
  dd := dd
  slots _ := ⟨0, 0⟩
  avail := maxApps
  conn := .waiting
  threads := []

/-- The steps of the threads, with what their environment answers. -/
inductive AppAction where
  /-- A slot is chosen and initialized by `init_app_mgmt`, which keeps its flag. -/
  | choose
  /-- `accept` returns a connection, and its thread is created. -/
  | accept
  /-- `alloced = 1`. -/
  | started
  /-- `recv` returns a request or the end of the connection; `handle_app_msg`. -/
  | receive (thread : Nat) (req : Option AppReq)
  /-- `send` of the response. -/
  | respond (thread : Nat) (sent : Bool)
  /-- `mod_dd_mp_flag` for a HELLO. -/
  | update (thread : Nat)
  /-- The slot is given back. -/
  | close (thread : Nat)
  /-- The flag in the slot is read for an application that has left. -/
  | readFlag (thread : Nat)
  /-- `mod_dd_mp_flag` for an application that has left. -/
  | clear (thread : Nat)

/-- The flag that `mod_dd_mp_flag` is called with for a slot. -/
def Apps.slotFlag (apps : Apps) (slot : Nat) : BitVec 8 := (apps.slots slot).flag.setWidth 8

/-- The state of one thread changes. -/
def Apps.setThread (apps : Apps) (thread : Nat) (after : AppThread) : Apps :=
  { apps with threads := apps.threads.set thread after }

/-- One slot changes. -/
def Apps.setSlot (apps : Apps) (slot : Nat) (after : AppSlot) : Apps :=
  { apps with slots := Function.update apps.slots slot after }

/-- `handle_app_msg`, behind `recv`. -/
def Apps.receive (apps : Apps) (thread : Nat) (t : AppThread) : Option AppReq → Apps
  | none => apps.setThread thread { t with pc := .closing }
  | some .other => apps.setThread thread { t with pc := .respond none }
  | some (.hello flag) =>
    (apps.setSlot t.slot { apps.slots t.slot with flag := flag }).setThread thread
      { t with pc := .respond (some flag) }

/-- What follows `send`. -/
def respondPc (updateReqd : Option (BitVec 32)) (sent : Bool) : AppPc :=
  if sent then
    match updateReqd with
    | some flag => .update flag
    | none => .recv
  else .closing

/-- One step of one thread. -/
def Apps.step (apps : Apps) : AppAction → Option Apps
  | .choose =>
    if apps.conn = .waiting ∧ 0 < apps.avail then
      some { apps with
        avail := apps.avail - 1
        conn :=
          match (List.range maxApps).find? fun slot => (apps.slots slot).alloced = 0 with
          | some slot => .accepting slot
          | none => .failed }
    else none
  | .accept =>
    match apps.conn with
    | .accepting slot =>
      some { apps.setSlot slot { apps.slots slot with alloced := 2 } with
        conn := .starting slot
        threads := apps.threads ++ [⟨slot, .recv, 0⟩] }
    | _ => none
  | .started =>
    match apps.conn with
    | .starting slot =>
      some { apps.setSlot slot { apps.slots slot with alloced := 1 } with conn := .waiting }
    | _ => none
  | .receive thread req =>
    match apps.threads[thread]? with
    | some t => if t.pc = .recv then some (apps.receive thread t req) else none
    | none => none
  | .respond thread sent =>
    match apps.threads[thread]? with
    | some ⟨slot, .respond updateReqd, said⟩ =>
      some (apps.setThread thread ⟨slot, respondPc updateReqd sent, said⟩)
    | _ => none
  | .update thread =>
    match apps.threads[thread]? with
    -- `app->flag` cannot change before the section: the slot is the thread's own.
    | some ⟨slot, .update flag, _⟩ =>
      some { apps.setThread thread ⟨slot, .recv, flag.setWidth 8⟩ with
        dd := modDdMpFlag apps.dd (apps.slotFlag slot) true }
    | _ => none
  | .close thread =>
    match apps.threads[thread]? with
    | some ⟨slot, .closing, said⟩ =>
      some { (apps.setSlot slot { apps.slots slot with alloced := 0 }).setThread thread
        ⟨slot, .gone, said⟩ with avail := apps.avail + 1 }
    | _ => none
  | .readFlag thread =>
    match apps.threads[thread]? with
    | some ⟨slot, .gone, said⟩ =>
      some (apps.setThread thread ⟨slot, .clear (apps.slotFlag slot), said⟩)
    | _ => none
  | .clear thread =>
    match apps.threads[thread]? with
    | some ⟨slot, .clear flag, _⟩ =>
      some { apps.setThread thread ⟨slot, .exited, 0⟩ with
        dd := modDdMpFlag apps.dd flag false }
    | _ => none

/-- The bitwise OR of flags. -/
def orAll (flags : List (BitVec 8)) : BitVec 8 := flags.foldr (· ||| ·) 0

/-- The flag in the master port's entry. -/
def Dd.mpFlag (dd : Dd) : BitVec 8 := (dd.devs dd.locMpIdx).flag

/-- The directory has an entry for the local master port. -/
structure Dd.HasMaster (dd : Dd) : Prop where
  inUse : dd.locMpIdx < dd.numDevs
  isMast : (dd.devs dd.locMpIdx).isMastPt ≠ 0

/-- No request, connection or disconnection is being processed. -/
def Apps.Idle (apps : Apps) : Prop := ∀ t ∈ apps.threads, t.pc = .recv ∨ t.pc = .exited

/-- The flags of the applications that are connected. -/
def Apps.connectedFlags (apps : Apps) : List (BitVec 8) :=
  (apps.threads.filter (·.pc = .recv)).map AppThread.said

/-- The application bits of the master port are those of the connected applications. -/
def Apps.FlagsExact (apps : Apps) : Prop :=
  apps.dd.mpFlag &&& appBits = orAll apps.connectedFlags &&& appBits

/-- The flags of all applications but one. -/
def Apps.others (apps : Apps) (thread : Nat) : BitVec 8 :=
  orAll ((apps.threads.eraseIdx thread).map AppThread.said)

/-- The bits of an application that no other application has. -/
def Apps.ownBits (apps : Apps) (thread : Nat) (t : AppThread) : BitVec 8 :=
  t.said &&& ~~~apps.others thread &&& appBits

/-- Applications say HELLO with a flag that `mod_dd_mp_flag` does not ignore. -/
def AllowedFlags (_ : Apps) : AppAction → Prop
  | .receive _ (some (.hello flag)) => modBits (flag.setWidth 8) ≠ 0
  | _ => True

/-- The flag that has been read to be cleared. -/
def AppPc.toClear : AppPc → Option (BitVec 8)
  | .clear flag => some flag
  | _ => none

/-- A HELLO keeps the bits that its application alone has, and what is cleared for an
application that has left are these bits and none that another application has. -/
def KeepsFlags (apps : Apps) : AppAction → Prop
  | .update thread => ∀ t ∈ apps.threads[thread]?,
      apps.ownBits thread t &&& ~~~apps.slotFlag t.slot = 0
  | .clear thread => ∀ t ∈ apps.threads[thread]?, ∀ flag ∈ t.pc.toClear,
      apps.ownBits thread t &&& ~~~modBits flag = 0 ∧
        modBits flag &&& apps.others thread &&& appBits = 0
  | _ => True

/-- Both conditions. -/
def FlagsGuard (apps : Apps) (action : AppAction) : Prop :=
  AllowedFlags apps action ∧ KeepsFlags apps action

instance (apps : Apps) : (action : AppAction) → Decidable (AllowedFlags apps action)
  | .receive _ (some (.hello flag)) => inferInstanceAs (Decidable (modBits (flag.setWidth 8) ≠ 0))
  | .receive _ (some .other) | .receive _ none | .choose | .accept | .started | .respond ..
  | .update _ | .close _ | .readFlag _ | .clear _ => .isTrue trivial

instance (apps : Apps) : (action : AppAction) → Decidable (KeepsFlags apps action)
  | .update thread =>
    inferInstanceAs (Decidable (∀ t ∈ apps.threads[thread]?,
      apps.ownBits thread t &&& ~~~apps.slotFlag t.slot = 0))
  | .clear thread =>
    inferInstanceAs (Decidable (∀ t ∈ apps.threads[thread]?, ∀ flag ∈ t.pc.toClear,
      apps.ownBits thread t &&& ~~~modBits flag = 0 ∧
        modBits flag &&& apps.others thread &&& appBits = 0))
  | .receive .. | .choose | .accept | .started | .respond .. | .close _ | .readFlag _ =>
    .isTrue trivial

instance (apps : Apps) (action : AppAction) : Decidable (FlagsGuard apps action) :=
  inferInstanceAs (Decidable (_ ∧ _))

variable {dd : Dd} {threads : List AppThread} {flag : BitVec 32} {slot : Nat}
  {old others mask : BitVec 8}

theorem modDdMpFlag_eq (master : dd.HasMaster) (flag : BitVec 8) (addIt : Bool) :
    (modDdMpFlag dd flag addIt).HasMaster ∧
      (modDdMpFlag dd flag addIt).mpFlag =
        if addIt then dd.mpFlag ||| modBits flag else dd.mpFlag &&& ~~~modBits flag := by
  unfold modDdMpFlag modBits
  by_cases ignored : flag = 0 ∨ flag = 0xff#8
  · simp only [if_pos ignored]
    refine ⟨master, ?_⟩
    cases addIt with
    | true => exact (BitVec.or_zero).symm
    | false => exact (BitVec.and_allOnes).symm
  · simp only [if_neg ignored, if_neg (not_le.mpr master.inUse), if_pos master.isMast]
    refine ⟨⟨master.inUse, ?_⟩, ?_⟩
    · simpa using master.isMast
    · simp [Dd.mpFlag]

@[simp] theorem orAll_cons (flag : BitVec 8) (flags : List (BitVec 8)) :
    orAll (flag :: flags) = flag ||| orAll flags := rfl

theorem orAll_append (first second : List (BitVec 8)) :
    orAll (first ++ second) = orAll first ||| orAll second := by
  induction first with
  | nil => simp [orAll]
  | cons flag rest ih => rw [List.cons_append, orAll_cons, orAll_cons, ih, BitVec.or_assoc]

variable {apps next : Apps} {thread : Nat} {t after : AppThread}

theorem orAll_said (isThread : apps.threads[thread]? = some t) :
    orAll (apps.threads.map AppThread.said) = t.said ||| apps.others thread := by
  unfold Apps.others
  generalize apps.threads = threads at isThread
  induction threads generalizing thread with
  | nil => cases isThread
  | cons head rest ih =>
    cases thread with
    | zero =>
      cases isThread
      rfl
    | succ thread =>
      rw [List.map_cons, orAll_cons, ih isThread, List.eraseIdx_cons_succ, List.map_cons,
        orAll_cons, ← BitVec.or_assoc, BitVec.or_comm head.said, BitVec.or_assoc]

theorem others_setThread (apps : Apps) (thread : Nat) (after : AppThread) :
    (apps.setThread thread after).others thread = apps.others thread := by
  rw [Apps.others, Apps.setThread, List.eraseIdx_set_eq, Apps.others]

theorem thread_of_set {other : Nat} {u : AppThread}
    (isThread : (threads.set thread after)[other]? = some u) :
    (other = thread ∧ u = after) ∨ (other ≠ thread ∧ threads[other]? = some u) := by
  rw [List.getElem?_set] at isThread
  split at isThread
  next here =>
    split at isThread <;> cases isThread
    exact .inl ⟨here.symm, rfl⟩
  next elsewhere => exact .inr ⟨Ne.symm elsewhere, isThread⟩

/-- The thread has not given its slot back. -/
def AppPc.Live : AppPc → Prop
  | .gone | .clear _ | .exited => False
  | .recv | .respond _ | .update _ | .closing => True

/-- The flag of a HELLO that is being processed. -/
def AppPc.pending : AppPc → Option (BitVec 32)
  | .respond updateReqd => updateReqd
  | .update flag => some flag
  | _ => none

theorem AppPc.live_of_pending {pc : AppPc} (pending : pc.pending = some flag) :
    pc.Live := by
  cases pc <;> simp_all [AppPc.pending, AppPc.Live]

/-- Threads that have not given their slots back have different slots. -/
def Exclusive (threads : List AppThread) : Prop :=
  ∀ (i j : Nat) (t u : AppThread), threads[i]? = some t → threads[j]? = some u →
    t.pc.Live → u.pc.Live → t.slot = u.slot → i = j

/-- A slot is used by one thread at a time, and holds the flag of the HELLO that its thread
processes. -/
structure Apps.Owned (apps : Apps) : Prop where
  exclusive : Exclusive apps.threads
  allocated : ∀ (i : Nat) (t : AppThread), apps.threads[i]? = some t → t.pc.Live →
    (apps.slots t.slot).alloced ≠ 0
  accepting : ∀ slot, apps.conn = .accepting slot → (apps.slots slot).alloced = 0
  pending : ∀ (i : Nat) (t : AppThread) (flag : BitVec 32), apps.threads[i]? = some t →
    t.pc.pending = some flag →
    (apps.slots t.slot).flag = flag ∧ modBits (flag.setWidth 8) ≠ 0

theorem Exclusive.set (exclusive : Exclusive threads) (isThread : threads[thread]? = some t)
    (sameSlot : after.slot = t.slot) (live : after.pc.Live → t.pc.Live) :
    Exclusive (threads.set thread after) := by
  intro i j u v isFirst isSecond firstLive secondLive slots
  rcases thread_of_set isFirst with ⟨rfl, rfl⟩ | ⟨-, first⟩ <;>
    rcases thread_of_set isSecond with ⟨rfl, rfl⟩ | ⟨-, second⟩
  · rfl
  · exact exclusive _ _ _ _ isThread second (live firstLive) secondLive
      (sameSlot.symm.trans slots)
  · exact exclusive _ _ _ _ first isThread firstLive (live secondLive) (slots.trans sameSlot)
  · exact exclusive _ _ _ _ first second firstLive secondLive slots

theorem owned_start (dd : Dd) : (Apps.start dd).Owned where
  exclusive := by
    intro i j t u isThread
    cases isThread
  allocated := by
    intro i t isThread
    cases isThread
  accepting := by
    intro slot accepting
    cases accepting
  pending := by
    intro i t flag isThread
    cases isThread

theorem Apps.Owned.setThread (owned : apps.Owned) (isThread : apps.threads[thread]? = some t)
    (sameSlot : after.slot = t.slot) (live : after.pc.Live → t.pc.Live)
    (pending : ∀ flag, after.pc.pending = some flag → t.pc.pending = some flag) :
    Apps.Owned { apps.setThread thread after with dd := dd } where
  exclusive := owned.exclusive.set isThread sameSlot live
  allocated := by
    intro i u isSome uLive
    rcases thread_of_set isSome with ⟨rfl, rfl⟩ | ⟨-, before⟩
    · rw [sameSlot]
      exact owned.allocated _ _ isThread (live uLive)
    · exact owned.allocated _ _ before uLive
  accepting := owned.accepting
  pending := by
    intro i u flag isSome isPending
    rcases thread_of_set isSome with ⟨rfl, rfl⟩ | ⟨-, before⟩
    · rw [sameSlot]
      exact owned.pending _ _ _ isThread (pending flag isPending)
    · exact owned.pending _ _ _ before isPending

@[simp] theorem setSlot_self (apps : Apps) (slot : Nat) (after : AppSlot) :
    (apps.setSlot slot after).slots slot = after := by
  simp [Apps.setSlot]

theorem setSlot_of_ne (apps : Apps) {other : Nat} (after : AppSlot) (different : other ≠ slot) :
    (apps.setSlot slot after).slots other = apps.slots other := by
  simp [Apps.setSlot, different]

theorem setSlot_flag (apps : Apps) (slot other alloced : Nat) :
    ((apps.setSlot slot { apps.slots slot with alloced := alloced }).slots other).flag =
      (apps.slots other).flag := by
  by_cases here : other = slot
  · subst here
    rw [setSlot_self]
  · rw [setSlot_of_ne _ _ here]

theorem Apps.Owned.hello (owned : apps.Owned) (isThread : apps.threads[thread]? = some t)
    (live : t.pc.Live) (allowed : modBits (flag.setWidth 8) ≠ 0) :
    ((apps.setSlot t.slot { apps.slots t.slot with flag := flag }).setThread thread
      { t with pc := .respond (some flag) }).Owned := by
  have allocedEq : ∀ slot, ((apps.setSlot t.slot { apps.slots t.slot with flag := flag }).slots
      slot).alloced = (apps.slots slot).alloced := by
    intro slot
    by_cases here : slot = t.slot
    · rw [here, setSlot_self]
    · rw [setSlot_of_ne _ _ here]
  refine ⟨owned.exclusive.set isThread rfl fun _ => live, ?_, ?_, ?_⟩
  · intro i u isSome uLive
    refine (allocedEq u.slot).trans_ne ?_
    rcases thread_of_set isSome with ⟨rfl, rfl⟩ | ⟨-, before⟩
    · exact owned.allocated _ t isThread live
    · exact owned.allocated _ _ before uLive
  · intro slot accepting
    exact (allocedEq slot).trans (owned.accepting slot accepting)
  · intro i u other isSome isPending
    rcases thread_of_set isSome with ⟨rfl, rfl⟩ | ⟨different, before⟩
    · cases isPending
      exact ⟨by simp [Apps.setThread], allowed⟩
    · -- another thread that processes a HELLO has another slot
      have apart : u.slot ≠ t.slot := fun same => different
        (owned.exclusive _ _ _ _ before isThread (AppPc.live_of_pending isPending) live same)
      obtain ⟨stored, otherAllowed⟩ := owned.pending _ _ _ before isPending
      refine ⟨?_, otherAllowed⟩
      simp only [Apps.setThread, setSlot_of_ne _ _ apart]
      exact stored

theorem Apps.Owned.close {avail : Nat} (owned : apps.Owned)
    (isThread : apps.threads[thread]? = some t) (live : t.pc.Live) (sameSlot : after.slot = t.slot)
    (notLive : ¬after.pc.Live) :
    Apps.Owned { (apps.setSlot t.slot { apps.slots t.slot with alloced := 0 }).setThread thread
      after with avail := avail } := by
  refine ⟨owned.exclusive.set isThread sameSlot fun isLive => absurd isLive notLive, ?_, ?_, ?_⟩
  · intro i u isSome uLive
    rcases thread_of_set isSome with ⟨rfl, rfl⟩ | ⟨different, before⟩
    · exact absurd uLive notLive
    · have apart : u.slot ≠ t.slot := fun same => different
        (owned.exclusive _ _ _ _ before isThread uLive live same)
      simp only [Apps.setThread, setSlot_of_ne _ _ apart]
      exact owned.allocated _ _ before uLive
  · intro slot accepting
    simp only [Apps.setThread]
    by_cases here : slot = t.slot
    · rw [here, setSlot_self]
    · rw [setSlot_of_ne _ _ here]
      exact owned.accepting slot accepting
  · intro i u flag isSome isPending
    rcases thread_of_set isSome with ⟨rfl, rfl⟩ | ⟨-, before⟩
    · exact absurd (AppPc.live_of_pending isPending) notLive
    · obtain ⟨stored, allowed⟩ := owned.pending _ _ _ before isPending
      exact ⟨(setSlot_flag apps t.slot u.slot 0).trans stored, allowed⟩

theorem Apps.Owned.alloc {alloced : Nat} {conn : ConnPc} (owned : apps.Owned)
    (isAlloced : alloced ≠ 0) (notAccepting : ∀ slot, conn ≠ .accepting slot) :
    Apps.Owned { apps.setSlot slot { apps.slots slot with alloced := alloced } with
      conn := conn } where
  exclusive := owned.exclusive
  allocated := by
    intro i u isSome uLive
    by_cases here : u.slot = slot
    · rw [here]
      simpa using isAlloced
    · simp only [setSlot_of_ne _ _ here]
      exact owned.allocated _ _ isSome uLive
  accepting := fun slot accepting => absurd accepting (notAccepting slot)
  pending := by
    intro i u flag isSome isPending
    obtain ⟨stored, allowed⟩ := owned.pending _ _ _ isSome isPending
    exact ⟨(setSlot_flag apps slot u.slot alloced).trans stored, allowed⟩

theorem Apps.Owned.spawn (owned : apps.Owned) (isAlloced : (apps.slots slot).alloced ≠ 0)
    (unused : ∀ (i : Nat) (u : AppThread), apps.threads[i]? = some u → u.pc.Live → u.slot ≠ slot) :
    Apps.Owned { apps with threads := apps.threads ++ [⟨slot, .recv, 0⟩] } := by
  have cases : ∀ (i : Nat) (u : AppThread), (apps.threads ++ [⟨slot, .recv, 0⟩])[i]? = some u →
      apps.threads[i]? = some u ∨ (i = apps.threads.length ∧ u = ⟨slot, .recv, 0⟩) := by
    intro i u isSome
    rcases Nat.lt_trichotomy i apps.threads.length with below | rfl | above
    · rw [List.getElem?_append_left below] at isSome
      exact .inl isSome
    · simp only [List.getElem?_concat_length, Option.some.injEq] at isSome
      exact .inr ⟨rfl, isSome.symm⟩
    · rw [List.getElem?_eq_none (by simp; omega)] at isSome
      cases isSome
  refine ⟨?_, ?_, owned.accepting, ?_⟩
  · intro i j t u isFirst isSecond firstLive secondLive slots
    rcases cases i t isFirst with first | ⟨rfl, rfl⟩ <;>
      rcases cases j u isSecond with second | ⟨rfl, rfl⟩
    · exact owned.exclusive _ _ _ _ first second firstLive secondLive slots
    · exact absurd slots (unused _ _ first firstLive)
    · exact absurd slots.symm (unused _ _ second secondLive)
    · rfl
  · intro i u isSome uLive
    rcases cases i u isSome with before | ⟨-, rfl⟩
    · exact owned.allocated _ _ before uLive
    · exact isAlloced
  · intro i u flag isSome isPending
    rcases cases i u isSome with before | ⟨-, rfl⟩
    · exact owned.pending _ _ _ before isPending
    · cases isPending

/-- Between any two steps, the entry has the bits that the applications have put there. -/
structure Apps.Ok (apps : Apps) : Prop where
  owned : apps.Owned
  master : apps.dd.HasMaster
  flags : apps.dd.mpFlag &&& appBits = orAll (apps.threads.map AppThread.said) &&& appBits
  exited : ∀ t ∈ apps.threads, t.pc = .exited → t.said = 0

theorem modBits_eq_self {flag : BitVec 8} (allowed : modBits flag ≠ 0) : modBits flag = flag := by
  unfold modBits at allowed ⊢
  split at allowed
  · exact absurd rfl allowed
  · rename_i notIgnored
    rw [if_neg notIgnored]

theorem and_or_eq_of_update {flag new : BitVec 8}
    (before : flag &&& mask = (old ||| others) &&& mask)
    (kept : old &&& ~~~others &&& mask &&& ~~~new = 0) :
    (flag ||| new) &&& mask = (new ||| others) &&& mask := by
  ext i hi
  have beforeBit := congrArg (fun bits => bits[i]) before
  have keptBit := congrArg (fun bits => bits[i]) kept
  simp only [BitVec.getElem_and, BitVec.getElem_or, BitVec.getElem_not] at beforeBit keptBit ⊢
  revert beforeBit keptBit
  generalize flag[i] = a
  generalize old[i] = b
  generalize new[i] = c
  generalize others[i] = d
  generalize mask[i] = e
  cases a <;> cases b <;> cases c <;> cases d <;> cases e <;> simp

theorem and_not_eq_of_clear {flag cleared : BitVec 8}
    (before : flag &&& mask = (old ||| others) &&& mask)
    (gone : old &&& ~~~others &&& mask &&& ~~~cleared = 0)
    (kept : cleared &&& others &&& mask = 0) :
    (flag &&& ~~~cleared) &&& mask = (0 ||| others) &&& mask := by
  ext i hi
  have beforeBit := congrArg (fun bits => bits[i]) before
  have goneBit := congrArg (fun bits => bits[i]) gone
  have keptBit := congrArg (fun bits => bits[i]) kept
  simp only [BitVec.getElem_and, BitVec.getElem_or, BitVec.getElem_not]
    at beforeBit goneBit keptBit ⊢
  revert beforeBit goneBit keptBit
  generalize flag[i] = a
  generalize old[i] = b
  generalize cleared[i] = c
  generalize others[i] = d
  generalize mask[i] = e
  cases a <;> cases b <;> cases c <;> cases d <;> cases e <;> simp

theorem orAll_set (isThread : apps.threads[thread]? = some t) :
    orAll ((apps.threads.set thread after).map AppThread.said) =
      after.said ||| apps.others thread := by
  have changed : (apps.setThread thread after).threads[thread]? = some after := by
    rw [Apps.setThread, List.getElem?_set_self (List.getElem?_eq_some_iff.mp isThread).1]
  rw [← others_setThread apps thread after, ← orAll_said changed]
  rfl

theorem exited_set (exited : ∀ t ∈ apps.threads, t.pc = .exited → t.said = 0)
    (silent : after.pc = .exited → after.said = 0) :
    ∀ t ∈ apps.threads.set thread after, t.pc = .exited → t.said = 0 := by
  intro u inThreads isExited
  rcases List.mem_or_eq_of_mem_set inThreads with before | rfl
  · exact exited u before isExited
  · exact silent isExited

theorem Apps.Ok.ofThread (ok : apps.Ok) (owned : next.Owned)
    (isThread : apps.threads[thread]? = some t)
    (threadsEq : next.threads = apps.threads.set thread after) (ddEq : next.dd = apps.dd)
    (sameSaid : after.said = t.said) (running : after.pc ≠ .exited) : next.Ok := by
  refine ⟨owned, ddEq ▸ ok.master, ?_, ?_⟩
  · rw [ddEq, threadsEq, orAll_set isThread, sameSaid, ← orAll_said isThread]
    exact ok.flags
  · rw [threadsEq]
    exact exited_set ok.exited fun isExited => absurd isExited running

theorem respondPc_pending {updateReqd : Option (BitVec 32)} {sent : Bool}
    (pending : (respondPc updateReqd sent).pending = some flag) : updateReqd = some flag := by
  unfold respondPc at pending
  cases sent <;> cases updateReqd <;> simp_all [AppPc.pending]

theorem respondPc_ne_exited (updateReqd : Option (BitVec 32)) (sent : Bool) :
    respondPc updateReqd sent ≠ .exited := by
  unfold respondPc
  cases sent <;> cases updateReqd <;> simp

theorem Apps.Ok.choose (ok : apps.Ok) (taken : apps.step .choose = some next) : next.Ok := by
  simp only [Apps.step] at taken
  split at taken <;> cases taken
  refine ⟨⟨ok.owned.exclusive, ok.owned.allocated, ?_, ok.owned.pending⟩, ok.master, ok.flags,
    ok.exited⟩
  intro slot accepting
  simp only at accepting
  split at accepting <;> cases accepting
  next found => simpa using (List.find?_range_eq_some.mp found).1

theorem Apps.Ok.accept (ok : apps.Ok) (taken : apps.step .accept = some next) : next.Ok := by
  simp only [Apps.step] at taken
  split at taken <;> cases taken
  next slot accepting =>
  have free := ok.owned.accepting slot accepting
  have allocated : Apps.Owned
      { apps.setSlot slot { apps.slots slot with alloced := 2 } with conn := .starting slot } :=
    ok.owned.alloc two_ne_zero (by simp)
  refine ⟨allocated.spawn (by simp) ?_, ok.master, ?_, ?_⟩
  · intro i u isThread uLive sameSlot
    exact ok.owned.allocated i u isThread uLive (sameSlot ▸ free)
  · rw [List.map_append, orAll_append]
    exact ok.flags.trans (by simp [orAll])
  · intro t inThreads isExited
    rcases List.mem_append.mp inThreads with before | new
    · exact ok.exited t before isExited
    · rw [List.mem_singleton.mp new]

theorem Apps.Ok.receive {req : Option AppReq} (ok : apps.Ok)
    (allowed : AllowedFlags apps (.receive thread req))
    (taken : apps.step (.receive thread req) = some next) : next.Ok := by
  simp only [Apps.step] at taken
  split at taken
  next t isThread =>
    split at taken <;> cases taken
    next isRecv =>
    have live : t.pc.Live := by simp [isRecv, AppPc.Live]
    have noFlag : ∀ flag, (none : Option (BitVec 32)) = some flag → t.pc.pending = some flag :=
      by simp
    match req with
    | none =>
      exact ok.ofThread (ok.owned.setThread isThread rfl (fun _ => live) noFlag) isThread rfl
        rfl rfl (by simp)
    | some .other =>
      exact ok.ofThread (ok.owned.setThread isThread rfl (fun _ => live) noFlag) isThread rfl
        rfl rfl (by simp)
    | some (.hello flag) =>
      exact ok.ofThread (ok.owned.hello isThread live allowed) isThread rfl rfl rfl (by simp)
  next => cases taken

/-- The bits of the application are replaced by those of its new HELLO. -/
theorem Apps.Ok.update (ok : apps.Ok) (keeps : KeepsFlags apps (.update thread))
    (taken : apps.step (.update thread) = some next) : next.Ok := by
  simp only [Apps.step] at taken
  split at taken <;> cases taken
  next slot flag said isThread =>
  obtain ⟨stored, flagAllowed⟩ := ok.owned.pending _ _ flag isThread rfl
  obtain ⟨master, flagEq⟩ := modDdMpFlag_eq ok.master (apps.slotFlag slot) true
  refine ⟨ok.owned.setThread isThread rfl (fun _ => by simp [AppPc.Live])
    (by simp [AppPc.pending]), master, ?_, exited_set ok.exited (by simp)⟩
  have slotEq : apps.slotFlag slot = flag.setWidth 8 := by rw [Apps.slotFlag, stored]
  rw [flagEq, if_pos rfl, slotEq, modBits_eq_self flagAllowed]
  refine Eq.trans ?_ (congrArg (· &&& appBits) (orAll_set isThread).symm)
  refine and_or_eq_of_update (ok.flags.trans (by rw [orAll_said isThread])) ?_
  have kept := keeps _ isThread
  rw [slotEq] at kept
  exact kept

/-- What was read from the slot is cleared. -/
theorem Apps.Ok.clear (ok : apps.Ok) (keeps : KeepsFlags apps (.clear thread))
    (taken : apps.step (.clear thread) = some next) : next.Ok := by
  simp only [Apps.step] at taken
  split at taken <;> cases taken
  next slot flag said isThread =>
  obtain ⟨master, flagEq⟩ := modDdMpFlag_eq ok.master flag false
  refine ⟨ok.owned.setThread isThread rfl (by simp [AppPc.Live]) (by simp [AppPc.pending]),
    master, ?_, exited_set ok.exited (by simp)⟩
  rw [flagEq, if_neg (by simp)]
  refine Eq.trans ?_ (congrArg (· &&& appBits) (orAll_set isThread).symm)
  obtain ⟨gone, kept⟩ := keeps _ isThread flag rfl
  exact and_not_eq_of_clear (ok.flags.trans (by rw [orAll_said isThread])) gone kept

/-- Every step that meets the condition keeps `Ok`. -/
theorem ok_step {action : AppAction} (ok : apps.Ok) (guarded : FlagsGuard apps action)
    (taken : apps.step action = some next) : next.Ok := by
  obtain ⟨allowed, keeps⟩ := guarded
  cases action with
  | choose => exact ok.choose taken
  | accept => exact ok.accept taken
  | started =>
    simp only [Apps.step] at taken
    split at taken <;> cases taken
    exact ⟨ok.owned.alloc one_ne_zero (by simp), ok.master, ok.flags, ok.exited⟩
  | receive thread req => exact ok.receive allowed taken
  | respond thread sent =>
    simp only [Apps.step] at taken
    split at taken <;> cases taken
    next isThread =>
    refine ok.ofThread (ok.owned.setThread isThread rfl (fun _ => by simp [AppPc.Live]) ?_)
      isThread rfl rfl rfl (respondPc_ne_exited _ _)
    intro flag pending
    exact respondPc_pending pending
  | update thread => exact ok.update keeps taken
  | close thread =>
    simp only [Apps.step] at taken
    split at taken <;> cases taken
    next isThread =>
    exact ok.ofThread (ok.owned.close isThread (by simp [AppPc.Live]) rfl (by simp [AppPc.Live]))
      isThread rfl rfl rfl (by simp)
  | readFlag thread =>
    simp only [Apps.step] at taken
    split at taken <;> cases taken
    next isThread =>
    exact ok.ofThread (ok.owned.setThread isThread rfl (by simp [AppPc.Live])
      (by simp [AppPc.pending])) isThread rfl rfl rfl (by simp)
  | clear thread => exact ok.clear keeps taken

theorem ok_start (master : dd.HasMaster) (clear : dd.mpFlag &&& appBits = 0) :
    (Apps.start dd).Ok where
  owned := owned_start dd
  master := master
  flags := clear.trans (by decide : 0 = orAll [] &&& appBits)
  exited := by
    intro t inThreads
    cases inThreads

theorem orAll_connectedFlags (idle : apps.Idle)
    (exited : ∀ t ∈ apps.threads, t.pc = .exited → t.said = 0) :
    orAll apps.connectedFlags = orAll (apps.threads.map AppThread.said) := by
  unfold Apps.connectedFlags Apps.Idle at *
  generalize apps.threads = threads at idle exited
  induction threads with
  | nil => rfl
  | cons t rest ih =>
    have restEq := ih (fun u inRest => idle u (List.mem_cons_of_mem t inRest))
      fun u inRest => exited u (List.mem_cons_of_mem t inRest)
    rcases idle t List.mem_cons_self with isRecv | isExited
    · rw [List.filter_cons_of_pos (by simp [isRecv]), List.map_cons, List.map_cons, orAll_cons,
        orAll_cons, restEq]
    · rw [List.filter_cons_of_neg (by simp [isExited]), restEq, List.map_cons, orAll_cons,
        exited t List.mem_cons_self isExited]
      exact BitVec.zero_or.symm

/-- As long as HELLOs and departures meet the condition, the application bits of the master
port are those of the connected applications whenever the daemon is idle. -/
theorem flags_exact {dd : Dd} (master : dd.HasMaster) (clear : dd.mpFlag &&& appBits = 0)
    (reached : Reaches Apps.step FlagsGuard (.start dd) apps) (idle : apps.Idle) :
    apps.FlagsExact := by
  have ok := reached.invariant Apps.Ok (ok_start master clear)
    fun _ _ _ ok guarded taken => ok_step ok guarded taken
  rw [Apps.FlagsExact, orAll_connectedFlags idle ok.exited]
  exact ok.flags

/-- A directory with nothing but the master port. -/
def masterOnly : Dd where
  numDevs := 1
  locMpIdx := 0
  devs _ := { DevInfo.zeroed with isMastPt := 1, flag := 3 }

/-- An application connects and says HELLO. -/
def appHello (thread : Nat) (flag : BitVec 32) : List AppAction :=
  [.choose, .accept, .started, .receive thread (some (.hello flag)), .respond thread true,
    .update thread]

/-- An application leaves. -/
def appLeaves (thread : Nat) : List AppAction :=
  [.receive thread none, .close thread, .readFlag thread, .clear thread]

/-- Two applications with different flags, of which one leaves. -/
theorem flags_exact_differentFlags :
    ∃ apps : Apps, apps.Idle ∧ apps.dd.mpFlag = 0x13 ∧ apps.FlagsExact := by
  obtain ⟨apps, reached, test⟩ := exists_reaches_of_execute Apps.step FlagsGuard
    (.start masterOnly) (appHello 0 0x08 ++ appHello 1 0x10 ++ appLeaves 0)
    (fun apps => (∀ t ∈ apps.threads, t.pc = .recv ∨ t.pc = .exited) ∧ apps.dd.mpFlag = 0x13)
    (by decide)
  obtain ⟨idle, flag⟩ := of_decide_eq_true test
  exact ⟨apps, idle, flag, flags_exact ⟨by decide, by decide⟩ (by decide) reached idle⟩

/-- Two applications have the same flag; when one of them leaves, the flag is cleared. -/
theorem not_flags_exact_sameFlag :
    ¬∀ apps, Reaches Apps.step AllowedFlags (.start masterOnly) apps → apps.Idle →
      apps.FlagsExact := by
  intro exact
  obtain ⟨apps, reached, test⟩ := exists_reaches_of_execute Apps.step AllowedFlags
    (.start masterOnly) (appHello 0 0x08 ++ appHello 1 0x08 ++ appLeaves 0)
    (fun apps => (∀ t ∈ apps.threads, t.pc = .recv ∨ t.pc = .exited) ∧
      apps.dd.mpFlag &&& appBits ≠ orAll apps.connectedFlags &&& appBits) (by decide)
  obtain ⟨idle, different⟩ := of_decide_eq_true test
  exact different (exact apps reached idle)

end RioFabric.Fmd

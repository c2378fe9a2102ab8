import RioFabric.Lib.Runs

/-!
# Lists of the library

The list of `libriocp_pe` is linked in one direction and has a head without data.  A pointer to an
item is the list from that item on, and NULL the empty one; data is a pointer too.
-/

namespace RioFabric.Riocp.Llist

variable {α : Type} [DecidableEq α]

def enoent : Int := 2

def enomem : Int := 12

def einval : Int := 22

/-- `riocp_pe_llist_add`, from the item at `cur` on: the code, and the list that is left. -/
def riocpPeLlistAdd (allocates : Bool) (data : Option α) : List (Option α) → Int × List (Option α)
  | [] => (-einval, [])
  | [last] => if allocates then (0, [last, data]) else (-enomem, [last])
  | cur :: next =>
    let (rc, left) := riocpPeLlistAdd allocates data next
    (rc, cur :: left)

/-- The loop of `riocp_pe_llist_del`, with the items before `cur`.  There is no value where
`cur->next` is taken and `cur` is NULL. -/
def delFrom (data : Option α) (passed : List (Option α)) :
    List (Option α) → List (Option α) → Option (Int × List (Option α))
  | [], _ => some (-enoent, passed)
  | item :: rest, next =>
    if item = data then some (0, if passed ≠ [] then passed ++ next else item :: rest)
    else
      -- `prev = cur; cur = cur->next; next = cur->next`
      match rest with
      | [] => none
      | cur :: next => delFrom data (passed ++ [item]) (cur :: next) next

def riocpPeLlistDel (head : List (Option α)) (data : Option α) : Option (Int × List (Option α)) :=
  if head = [] ∨ data = none then some (-einval, head) else delFrom data [] head []

/-- The loop of `riocp_pe_llist_find`. -/
def findFrom (data : Option α) : List (Option α) → Option α
  | [] => none
  | item :: next => if item = data then data else findFrom data next

def riocpPeLlistFind (head : List (Option α)) (data : Option α) : Option α :=
  if head = [] ∨ data = none then none else findFrom data head

/-- A head without data, and what `riocp_pe_llist_add` added to it; each call is given whether there
is memory, and the data. -/
def built (calls : List (Bool × Option α)) : List (Option α) :=
  Lib.run (fun list call => (riocpPeLlistAdd call.1 call.2 list).2) [none] calls

/-- Deletion takes out the first occurrence, or says that there is none, and the search succeeds
for what is in the list. -/
def Described (list : List (Option α)) (data : Option α) : Prop :=
  riocpPeLlistDel list data =
      some (if data ∈ list then (0, list.erase data) else (-enoent, list)) ∧
    ((riocpPeLlistFind list data).isSome ↔ data ∈ list)

instance (list : List (Option α)) (data : Option α) : Decidable (Described list data) :=
  inferInstanceAs (Decidable (_ ∧ _))

omit [DecidableEq α] in
theorem riocpPeLlistAdd_eq (allocates : Bool) (data head : Option α) (items : List (Option α)) :
    riocpPeLlistAdd allocates data (head :: items) =
      if allocates then (0, head :: items ++ [data]) else (-enomem, head :: items) := by
  induction items generalizing head with
  | nil => rfl
  | cons item items ih =>
    rw [riocpPeLlistAdd, ih]
    · cases allocates <;> rfl
    · exact List.cons_ne_nil item items

omit [DecidableEq α] in
theorem exists_built (calls : List (Bool × Option α)) : ∃ items, built calls = none :: items := by
  refine Lib.run_invariant (fun list => ∃ items, list = none :: items) ?_ ⟨[], rfl⟩
    (@Lib.guarded_of_forall _ _ _ (fun _ _ => True) (fun _ _ => trivial) _ _)
  rintro _ ⟨allocates, data⟩ ⟨items, rfl⟩ -
  rw [riocpPeLlistAdd_eq]
  cases allocates
  · exact ⟨items, rfl⟩
  · exact ⟨items ++ [data], rfl⟩

theorem delFrom_eq (data : Option α) {passed : List (Option α)} (isPassed : passed ≠ [])
    (item : Option α) (rest : List (Option α)) :
    delFrom data passed (item :: rest) rest =
      if data ∈ item :: rest then some (0, passed ++ (item :: rest).erase data) else none := by
  induction rest generalizing passed item with
  | nil =>
    rw [delFrom, if_pos isPassed]
    by_cases same : item = data
    · subst same
      rw [if_pos rfl, if_pos List.mem_cons_self, List.erase_cons_head]
    · rw [if_neg same, if_neg fun isMember => same (List.mem_singleton.mp isMember).symm]
  | cons next rest ih =>
    rw [delFrom, if_pos isPassed]
    by_cases same : item = data
    · subst same
      rw [if_pos rfl, if_pos List.mem_cons_self, List.erase_cons_head]
    · rw [if_neg same, List.erase_cons_tail (by simpa using same)]
      rw [ih (List.append_ne_nil_of_right_ne_nil _ (List.cons_ne_nil _ _))]
      simp [List.mem_cons (a := data) (b := item), Ne.symm same]

theorem riocpPeLlistDel_eq (data : α) (items : List (Option α)) :
    riocpPeLlistDel (none :: items) (some data) =
      if some data ∈ items then some (0, none :: items.erase (some data)) else none := by
  rw [riocpPeLlistDel, if_neg (by simp)]
  cases items with
  | nil => rfl
  | cons item items => exact delFrom_eq (some data) (List.cons_ne_nil _ _) item items

theorem riocpPeLlistFind_isSome (data : α) (head : Option α) (items : List (Option α)) :
    (riocpPeLlistFind (head :: items) (some data)).isSome ↔ some data ∈ head :: items := by
  rw [riocpPeLlistFind, if_neg (by simp)]
  generalize head :: items = list
  induction list with
  | nil => simp [findFrom]
  | cons item list ih =>
    rw [findFrom, List.mem_cons]
    by_cases same : item = some data
    · simp [same]
    · rw [if_neg same, ih, or_iff_right (Ne.symm same)]

/-- Only data that is in the list can be deleted. -/
theorem described_iff (calls : List (Bool × Option α)) (data : α) :
    Described (built calls) (some data) ↔ some data ∈ built calls := by
  obtain ⟨items, isBuilt⟩ := exists_built calls
  unfold Described
  rw [isBuilt, riocpPeLlistDel_eq, and_iff_left (riocpPeLlistFind_isSome data none items)]
  by_cases isMember : some data ∈ items
  · rw [if_pos isMember, if_pos (List.mem_cons_of_mem none isMember),
      List.erase_cons_tail (by simp)]
    exact iff_of_true rfl (List.mem_cons_of_mem none isMember)
  · rw [if_neg isMember]
    exact iff_of_false (Option.some_ne_none _).symm (by simpa using isMember)

/-- Nothing can be deleted from a list to which nothing was added. -/
theorem not_described_empty :
    riocpPeLlistDel (built []) (some 7) = none ∧ ¬Described (built []) (some 7) := by
  decide

end RioFabric.Riocp.Llist

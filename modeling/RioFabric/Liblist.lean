import Mathlib.Data.List.Nodup

/-!
# Ordered lists

`liblist` keeps doubly linked lists of items ordered by a key.  A list is modelled by its items
in the order in which the links give them; an item is known by the address that `calloc` gave
it, which is what the callers keep to remove it.
-/

namespace RioFabric.Liblist

/-- `struct l_item_t` at its address. -/
structure LItem (α : Type) where
  addr : Nat
  key : Nat
  item : α
  deriving DecidableEq, Repr

variable {α : Type}

/-- The search loop of `l_add`: in front of the first item with a larger key. -/
def insertBefore (new : LItem α) : List (LItem α) → List (LItem α)
  | [] => []
  | li :: rest => if li.key > new.key then new :: li :: rest else li :: insertBefore new rest

/-- `l_add`, given the item that `calloc` returned.  The search starts behind the head; it
finds an item because the tail has a larger key. -/
def lAdd (items : List (LItem α)) (new : LItem α) : List (LItem α) :=
  match items with
  | [] => [new]
  | head :: rest =>
    let tail := rest.getLastD head
    if tail.key ≤ new.key then items ++ [new]
    else if head.key > new.key then new :: items
    else head :: insertBefore new rest

/-- `l_lremove` of the item at an address. -/
def lLremove (items : List (LItem α)) (addr : Nat) : List (LItem α) :=
  if items.length = 1 then [] else items.eraseP (·.addr = addr)

/-- `l_find`: the first item with a key. -/
def lFind (items : List (LItem α)) (key : Nat) : Option (LItem α) :=
  items.find? (·.key = key)

variable {items : List (LItem α)} {new : LItem α}

theorem insertBefore_perm (larger : ∃ li ∈ items, li.key > new.key) :
    (insertBefore new items).Perm (new :: items) := by
  induction items with
  | nil =>
    obtain ⟨li, inList, -⟩ := larger
    cases inList
  | cons li rest ih =>
    unfold insertBefore
    split
    · rfl
    next smaller =>
      have inRest : ∃ li ∈ rest, li.key > new.key := by
        obtain ⟨other, inList, isLarger⟩ := larger
        rcases List.mem_cons.mp inList with rfl | inRest
        · exact absurd isLarger smaller
        · exact ⟨other, inRest, isLarger⟩
      exact ((ih inRest).cons li).trans (.swap new li rest)

theorem lAdd_perm (items : List (LItem α)) (new : LItem α) :
    (lAdd items new).Perm (new :: items) := by
  cases items with
  | nil => rfl
  | cons head rest =>
    simp only [lAdd]
    split
    · exact List.perm_append_singleton new _
    · split
      · rfl
      next notAfter notBefore =>
        refine ((insertBefore_perm ⟨rest.getLastD head, ?_, by omega⟩).cons head).trans
          (.swap new head rest)
        rcases List.mem_cons.mp (List.getLastD_mem_cons (l := rest) (a := head))
          with isHead | inRest
        · rw [isHead] at notAfter
          omega
        · exact inRest

@[simp] theorem mem_lAdd {li : LItem α} : li ∈ lAdd items new ↔ li = new ∨ li ∈ items :=
  (lAdd_perm items new).mem_iff.trans List.mem_cons

theorem lAdd_nodup (nodup : (items.map LItem.addr).Nodup)
    (fresh : ∀ li ∈ items, li.addr ≠ new.addr) : ((lAdd items new).map LItem.addr).Nodup := by
  rw [((lAdd_perm items new).map LItem.addr).nodup_iff, List.map_cons, List.nodup_cons]
  refine ⟨fun used => ?_, nodup⟩
  obtain ⟨li, inList, same⟩ := List.mem_map.mp used
  exact fresh li inList same

theorem lLremove_sublist (items : List (LItem α)) (addr : Nat) :
    (lLremove items addr).Sublist items := by
  unfold lLremove
  split
  · exact List.nil_sublist _
  · exact List.eraseP_sublist

theorem mem_lLremove {li removed : LItem α} (nodup : (items.map LItem.addr).Nodup)
    (isItem : removed ∈ items) :
    li ∈ lLremove items removed.addr ↔ li ∈ items ∧ li.addr ≠ removed.addr := by
  unfold lLremove
  split
  next single =>
    obtain ⟨only, rfl⟩ := List.length_eq_one_iff.mp single
    rw [List.mem_singleton] at isItem ⊢
    subst isItem
    constructor
    · intro none
      cases none
    · rintro ⟨rfl, different⟩
      exact absurd rfl different
  · obtain ⟨gone, front, back, notFront, isGone, split, erased⟩ :=
      List.exists_of_eraseP (p := fun li => decide (li.addr = removed.addr)) isItem (by simp)
    have sameAddr : gone.addr = removed.addr := of_decide_eq_true isGone
    rw [erased]
    rw [split, List.map_append, List.map_cons, List.nodup_middle, List.nodup_cons,
      List.mem_append, not_or] at nodup
    rw [split, List.mem_append, List.mem_append, List.mem_cons]
    constructor
    · rintro (inFront | inBack)
      · exact ⟨.inl inFront, by simpa using notFront li inFront⟩
      · refine ⟨.inr (.inr inBack), fun same => nodup.1.2 ?_⟩
        exact List.mem_map.mpr ⟨li, inBack, same.trans sameAddr.symm⟩
    · rintro ⟨inFront | rfl | inBack, different⟩
      · exact .inl inFront
      · exact absurd sameAddr different
      · exact .inr inBack

end RioFabric.Liblist

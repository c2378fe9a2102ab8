import RioFabric.Lib.Runs
import RioFabric.Riocp.Creation

/-!
# Integrity of the handle graph

Whatever the handles of a master port have as peers is in the list of that master port.
Creations keep to this, and leave everything as it was when they fail, except for three steps:
without an address or a list item the failed creation deletes a handle that is not in the list,
and when there is no group of device IDs the handle is freed while its neighbour has it as a peer.
-/

namespace RioFabric.Riocp

open Lib

/-! ## Registered handles -/

namespace Handles

variable (st : Handles)

/-- The handles of a master port, the master port first. -/
def registered (mport : Handle) : List Handle := mport :: st.handles mport

/-- Whatever a registered handle has as a peer is registered with the same master port. -/
def Integrity : Prop :=
  ∀ mport ∈ st.mports, ∀ h ∈ st.registered mport, ∀ port peer peerPort,
    (st.pe h).peers port = some (peer, peerPort) → peer ∈ st.registered mport

/-- An end of a link that exists: the port of a handle that has been allocated. -/
def IsPort (place : PePort) : Prop := place.1 < st.next ∧ place.2 < st.portCount place.1

/-- The invariant of all creations and destructions that leave the graph intact. -/
structure Sound : Prop where
  mports_nodup : st.mports.Nodup
  nodup : ∀ mport ∈ st.mports, (st.registered mport).Nodup
  allocated : ∀ mport ∈ st.mports, ∀ h ∈ st.registered mport, h < st.next
  mport_eq : ∀ mport ∈ st.mports, ∀ h ∈ st.registered mport, (st.pe h).mport = mport
  isPort : ∀ place other, st.links place = some other → st.IsPort place ∧ st.IsPort other
  /-- What is linked to is linked itself, perhaps to something else. -/
  anchored : ∀ place other, st.links place = some other → st.links other ≠ none
  intact : st.Integrity

variable {st} {h mport : Handle}

theorem riocpPeHandleCheck_iff :
    st.riocpPeHandleCheck h = true ↔ ∃ mport ∈ st.mports, h ∈ st.registered mport := by
  simp only [riocpPeHandleCheck, Bool.or_eq_true, List.contains_iff_mem, List.any_eq_true,
    registered, List.mem_cons]
  constructor
  · intro found
    cases found with
    | inl isMport => exact ⟨h, isMport, .inl rfl⟩
    | inr inList =>
      obtain ⟨mport, isMport, inHandles⟩ := inList
      exact ⟨mport, isMport, .inr inHandles⟩
  · intro ⟨mport, isMport, inRegistered⟩
    cases inRegistered with
    | inl same => exact .inl (same ▸ isMport)
    | inr inHandles => exact .inr ⟨mport, isMport, inHandles⟩

section

variable (sound : st.Sound)
include sound

theorem Sound.registered_of_check (check : st.riocpPeHandleCheck h = true) :
    (st.pe h).mport ∈ st.mports ∧ h ∈ st.registered (st.pe h).mport := by
  obtain ⟨mport, isMport, inRegistered⟩ := riocpPeHandleCheck_iff.mp check
  rw [sound.mport_eq mport isMport h inRegistered]
  exact ⟨isMport, inRegistered⟩

theorem Sound.mport_of_mem {other : Handle} (isMport : mport ∈ st.mports)
    (isOther : other ∈ st.mports) (inRegistered : h ∈ st.registered mport)
    (inOther : h ∈ st.registered other) : mport = other :=
  (sound.mport_eq mport isMport h inRegistered).symm.trans
    (sound.mport_eq other isOther h inOther)

theorem hasLinks_eq_false_iff :
    st.hasLinks h = false ↔ ∀ port, st.links (h, port) = none := by
  simp only [hasLinks, List.any_eq_false, List.mem_range, Bool.not_eq_true,
    Option.isSome_eq_false_iff, Option.isNone_iff_eq_none]
  constructor
  · intro none port
    by_contra linked
    obtain ⟨other, linked⟩ := Option.ne_none_iff_exists'.mp linked
    have unlinked := none port (sound.isPort _ _ linked).1.2
    rw [show (st.pe h).peers port = st.links (h, port) from rfl, linked] at unlinked
    cases unlinked
  · exact fun none port _ => none port

theorem Sound.ne_of_unlinked (unlinked : ∀ port, st.links (h, port) = none)
    {place other : PePort} (linked : st.links place = some other) : other.1 ≠ h := by
  intro same
  apply sound.anchored place other linked
  rw [← Prod.eta other, same]
  exact unlinked other.2

theorem Sound.of_sublist {left : Handles} (samePe : left.pe = st.pe)
    (sameNext : left.next = st.next) (fewerMports : left.mports.Sublist st.mports)
    (fewer : ∀ mport ∈ left.mports, (left.handles mport).Sublist (st.handles mport))
    (intact : left.Integrity) : left.Sound := by
  have inRegistered : ∀ mport ∈ left.mports, left.registered mport ⊆ st.registered mport :=
    fun mport isMport => ((fewer mport isMport).cons_cons mport).subset
  have sameLinks : left.links = st.links := by
    funext place
    rw [links, links, samePe]
  have samePort : ∀ place, st.IsPort place → left.IsPort place := by
    intro place isPort
    rw [IsPort, portCount, sameNext, samePe]
    exact isPort
  constructor
  · exact sound.mports_nodup.sublist fewerMports
  · intro mport isMport
    exact (sound.nodup mport (fewerMports.subset isMport)).sublist
      ((fewer mport isMport).cons_cons mport)
  · intro mport isMport h isHandle
    rw [sameNext]
    exact sound.allocated mport (fewerMports.subset isMport) h (inRegistered mport isMport isHandle)
  · intro mport isMport h isHandle
    rw [samePe]
    exact sound.mport_eq mport (fewerMports.subset isMport) h (inRegistered mport isMport isHandle)
  · intro place other linked
    rw [sameLinks] at linked
    exact (sound.isPort place other linked).imp (samePort place) (samePort other)
  · intro place other linked
    rw [sameLinks] at linked ⊢
    exact sound.anchored place other linked
  · exact intact

end

end Handles

/-! ## Destruction -/

section Destruction

variable {st : Handles} {h mport other : Handle} {list : List Handle}

@[simp] theorem handles_setList_self : (st.setList mport list).handles mport = list :=
  Function.update_self _ _ _

theorem handles_setList_of_ne (different : other ≠ mport) :
    (st.setList mport list).handles other = st.handles other :=
  Function.update_of_ne different _ _

@[simp] theorem setList_setList {later : List Handle} :
    (st.setList mport list).setList mport later = st.setList mport later := by
  simp [Handles.setList]

@[simp] theorem setList_handles : st.setList mport (st.handles mport) = st := by
  simp [Handles.setList]

theorem destroyPe_of_mem {st : Handles} {h : Handle} (inList : h ∈ st.handles (st.pe h).mport) :
    destroyPe st h = some (st.setList (st.pe h).mport ((st.handles (st.pe h).mport).erase h)) := by
  rw [destroyPe, riocpPeLlistDel, if_pos inList]
  rfl

theorem destroyPe_of_not_mem (missing : h ∉ st.handles (st.pe h).mport) :
    destroyPe st h = none := by
  rw [destroyPe, riocpPeLlistDel, if_neg missing]
  rfl

/-- All handles of a list can be destroyed one after the other. -/
theorem foldlM_destroyPe {items : List Handle} (ofMport : ∀ h ∈ items, (st.pe h).mport = mport)
    (nodup : items.Nodup) (inList : items ⊆ st.handles mport) :
    ∃ list, items.foldlM destroyPe st = some (st.setList mport list) := by
  induction items generalizing st with
  | nil => exact ⟨st.handles mport, congrArg some setList_handles.symm⟩
  | cons item items ih =>
    have ofItem := ofMport item List.mem_cons_self
    have itemInList : item ∈ st.handles (st.pe item).mport :=
      ofItem ▸ inList List.mem_cons_self
    have destroyed := destroyPe_of_mem itemInList
    rw [ofItem] at destroyed
    obtain ⟨fresh, restNodup⟩ := List.nodup_cons.mp nodup
    have restInList : items ⊆
        (st.setList mport ((st.handles mport).erase item)).handles mport := by
      intro h isItem
      rw [handles_setList_self]
      have different : h ≠ item := fun same => fresh (same ▸ isItem)
      exact (List.mem_erase_of_ne different).mpr (inList (List.mem_cons_of_mem item isItem))
    obtain ⟨list, rest⟩ := @ih (st.setList mport ((st.handles mport).erase item))
      (fun h isItem => ofMport h (List.mem_cons_of_mem item isItem)) restNodup restInList
    refine ⟨list, ?_⟩
    rw [List.foldlM_cons, destroyed]
    exact rest.trans (congrArg some setList_setList)

theorem sound_erase (sound : st.Sound) (unlinked : ∀ port, st.links (h, port) = none) :
    (st.setList mport ((st.handles mport).erase h)).Sound := by
  have shorter : ∀ other,
      ((st.setList mport ((st.handles mport).erase h)).handles other).Sublist
        (st.handles other) := by
    intro other
    by_cases same : other = mport
    · rw [same, handles_setList_self]
      exact List.erase_sublist
    · rw [handles_setList_of_ne same]
  refine sound.of_sublist rfl rfl (List.Sublist.refl _) (fun other _ => shorter other) ?_
  intro other isOther item isItem port peer peerPort linked
  have wasRegistered : item ∈ st.registered other := ((shorter other).cons_cons other).subset isItem
  have peerIn := sound.intact other isOther item wasRegistered port peer peerPort linked
  have sameLink : st.links (item, port) = some (peer, peerPort) := linked
  have different : peer ≠ h := sound.ne_of_unlinked unlinked sameLink
  rw [Handles.registered, List.mem_cons] at peerIn ⊢
  apply peerIn.imp_right
  intro inList
  by_cases same : other = mport
  · rw [same] at inList ⊢
    rw [handles_setList_self]
    exact (List.mem_erase_of_ne different).mpr inList
  · rw [handles_setList_of_ne same]
    exact inList

theorem riocpPeHandleDestroy_sound (sound : st.Sound) (check : st.riocpPeHandleCheck h = true)
    (unlinked : ∀ port, st.links (h, port) = none) :
    ∃ next, riocpPeHandleDestroy st h = some next ∧ next.Sound := by
  obtain ⟨isMport, inRegistered⟩ := sound.registered_of_check check
  by_cases same : (st.pe h).mport = h
  · rw [same] at isMport
    have nodup := (List.nodup_cons.mp (sound.nodup h isMport)).2
    have ofMport : ∀ item ∈ (st.handles h).dropLast, (st.pe item).mport = h := by
      intro item isItem
      exact sound.mport_eq h isMport item
        (List.mem_cons_of_mem h (List.dropLast_subset _ isItem))
    obtain ⟨list, destroyed⟩ := foldlM_destroyPe ofMport
      (nodup.sublist (List.dropLast_sublist _)) (List.dropLast_subset _)
    refine ⟨{ st with mports := st.mports.erase h }.setList h [], ?_, ?_⟩
    · rw [riocpPeHandleDestroy, if_pos same, destroyed]
      show (riocpPeLlistDel st.mports h).bind _ = _
      rw [riocpPeLlistDel, if_pos isMport]
      exact congrArg some (@setList_setList { st with mports := st.mports.erase h } h list [])
    · -- the other master ports keep their lists
      have others : ∀ mport ∈ st.mports.erase h, mport ∈ st.mports ∧
          ({ st with mports := st.mports.erase h }.setList h []).handles mport =
            st.handles mport := by
        intro mport remains
        obtain ⟨different, isOther⟩ := sound.mports_nodup.mem_erase_iff.mp remains
        exact ⟨isOther, handles_setList_of_ne different⟩
      refine sound.of_sublist rfl rfl List.erase_sublist ?_ ?_
      · exact fun mport remains => (others mport remains).2 ▸ List.Sublist.refl _
      · intro mport remains item isItem port peer peerPort linked
        obtain ⟨isOther, unchanged⟩ := others mport remains
        rw [Handles.registered] at isItem ⊢
        rw [unchanged] at isItem ⊢
        exact sound.intact mport isOther item isItem port peer peerPort linked
  · have inList : h ∈ st.handles (st.pe h).mport :=
      (List.mem_cons.mp inRegistered).resolve_left fun isSame => same isSame.symm
    refine ⟨st.setList (st.pe h).mport ((st.handles (st.pe h).mport).erase h), ?_, ?_⟩
    · rw [riocpPeHandleDestroy, if_neg same]
      exact destroyPe_of_mem inList
    · exact sound_erase sound unlinked

end Destruction

/-! ## Creation -/

section Creation

/-- The handle that is allocated next, as it is freed again. -/
def Handles.discarded (st : Handles) (pe : RiocpPe) : Handles :=
  { st with pe := Function.update st.pe st.next pe, next := st.next + 1 }

/-- The handle that is allocated next, entered into the list of its master port. -/
def Handles.entered (st : Handles) (pe : RiocpPe) : Handles :=
  (st.discarded pe).setList pe.mport (st.handles pe.mport ++ [st.next])

/-- The same, linked to the port of another handle. -/
def Handles.linked (st : Handles) (pe : RiocpPe) (req : CreateRequest) : Handles :=
  ((st.entered pe).setPeer req.pe req.port (some (st.next, pe.cap.accessPort))).setPeer st.next
    pe.cap.accessPort (some (req.pe, req.port))

/-- What stays as it was when a creation fails: the lists, and the peers of the handles there
were. -/
structure Handles.SameGraph (st left : Handles) : Prop where
  mports : left.mports = st.mports
  handles : left.handles = st.handles
  peers : ∀ h < st.next, (left.pe h).peers = (st.pe h).peers

variable {st : Handles} {pe : RiocpPe} {req : CreateRequest} {steps : CreateSteps}

theorem discarded_pe_of_ne {h : Handle} (different : h ≠ st.next) :
    (st.discarded pe).pe h = st.pe h := Function.update_of_ne different _ _

@[simp] theorem discarded_pe_next : (st.discarded pe).pe st.next = pe := Function.update_self _ _ _

theorem Handles.Sound.links_next (sound : st.Sound) (port : Nat) :
    st.links (st.next, port) = none := by
  by_contra linked
  obtain ⟨other, linked⟩ := Option.ne_none_iff_exists'.mp linked
  exact absurd (sound.isPort _ _ linked).1.1 (Nat.lt_irrefl _)

theorem links_discarded (sound : st.Sound) (unlinked : pe.peers = fun _ => none) :
    (st.discarded pe).links = st.links := by
  funext ⟨h, port⟩
  by_cases isNew : h = st.next
  · subst isNew
    rw [sound.links_next, Handles.links, discarded_pe_next, unlinked]
  · rw [Handles.links, Handles.links, discarded_pe_of_ne isNew]

theorem isPort_discarded {place : PePort} (isPort : st.IsPort place) :
    (st.discarded pe).IsPort place := by
  constructor
  · exact Nat.lt_succ_of_lt isPort.1
  · rw [Handles.portCount, discarded_pe_of_ne (Nat.ne_of_lt isPort.1)]
    exact isPort.2

theorem sound_discarded (sound : st.Sound) (unlinked : pe.peers = fun _ => none) :
    (st.discarded pe).Sound := by
  have old : ∀ mport ∈ st.mports, ∀ h ∈ st.registered mport,
      (st.discarded pe).pe h = st.pe h := fun mport isMport h isHandle =>
    discarded_pe_of_ne (Nat.ne_of_lt (sound.allocated mport isMport h isHandle))
  constructor
  · exact sound.mports_nodup
  · exact sound.nodup
  · exact fun mport isMport h isHandle =>
      Nat.lt_succ_of_lt (sound.allocated mport isMport h isHandle)
  · intro mport isMport h isHandle
    rw [old mport isMport h isHandle]
    exact sound.mport_eq mport isMport h isHandle
  · intro place other linked
    rw [links_discarded sound unlinked] at linked
    exact (sound.isPort place other linked).imp isPort_discarded isPort_discarded
  · intro place other linked
    rw [links_discarded sound unlinked] at linked ⊢
    exact sound.anchored place other linked
  · intro mport isMport h isHandle port peer peerPort linked
    rw [old mport isMport h isHandle] at linked
    exact sound.intact mport isMport h isHandle port peer peerPort linked

theorem sameGraph_discarded : st.SameGraph (st.discarded pe) where
  mports := rfl
  handles := rfl
  peers h isOld := by rw [discarded_pe_of_ne (Nat.ne_of_lt isOld)]

theorem sound_entered (sound : st.Sound) (isMport : pe.mport ∈ st.mports)
    (unlinked : pe.peers = fun _ => none) : (st.entered pe).Sound := by
  have before := sound_discarded sound unlinked
  have isNew : ∀ mport ∈ st.mports, st.next ∉ st.registered mport := fun mport isMport inList =>
    Nat.lt_irrefl _ (sound.allocated mport isMport st.next inList)
  have inRegistered : ∀ mport h, h ∈ (st.entered pe).registered mport ↔
      h ∈ st.registered mport ∨ (mport = pe.mport ∧ h = st.next) := by
    intro mport h
    by_cases same : mport = pe.mport
    · subst same
      simp [Handles.registered, Handles.entered, or_assoc]
    · rw [Handles.registered, Handles.entered, handles_setList_of_ne same]
      simp [Handles.registered, Handles.discarded, same]
  constructor
  · exact sound.mports_nodup
  · intro mport isOther
    by_cases same : mport = pe.mport
    · subst same
      rw [Handles.registered, Handles.entered, handles_setList_self, ← List.cons_append]
      refine List.nodup_append.mpr ⟨sound.nodup pe.mport isMport, List.pairwise_singleton _ _, ?_⟩
      intro h isOld other isLast same
      rw [same, List.mem_singleton.mp isLast] at isOld
      exact isNew pe.mport isMport isOld
    · rw [Handles.registered, Handles.entered, handles_setList_of_ne same]
      exact sound.nodup mport isOther
  · intro mport isOther h isHandle
    cases (inRegistered mport h).mp isHandle with
    | inl old => exact before.allocated mport isOther h old
    | inr new => exact new.2 ▸ Nat.lt_succ_self _
  · intro mport isOther h isHandle
    cases (inRegistered mport h).mp isHandle with
    | inl old => exact before.mport_eq mport isOther h old
    | inr new =>
      obtain ⟨rfl, rfl⟩ := new
      exact congrArg RiocpPe.mport discarded_pe_next
  · exact before.isPort
  · exact before.anchored
  · intro mport isOther h isHandle port peer peerPort linked
    cases (inRegistered mport h).mp isHandle with
    | inl old =>
      exact (inRegistered mport peer).mpr
        (.inl (before.intact mport isOther h old port peer peerPort linked))
    | inr new =>
      obtain ⟨rfl, rfl⟩ := new
      have noPeer : (st.discarded pe).links (st.next, port) = some (peer, peerPort) := linked
      rw [links_discarded sound unlinked, sound.links_next] at noPeer
      cases noPeer

theorem entered_pe : (st.entered pe).pe = (st.discarded pe).pe := rfl

theorem sound_linked (sound : st.Sound) (isMport : pe.mport ∈ st.mports)
    (inRegistered : req.pe ∈ st.registered pe.mport) (unlinked : pe.peers = fun _ => none)
    (validPort : req.port < st.portCount req.pe)
    (validPeer : pe.cap.accessPort < pe.cap.portCount) :
    (st.linked pe req).Sound := by
  have before := sound_entered sound isMport unlinked
  have isOld := sound.allocated pe.mport isMport req.pe inRegistered
  have peIn : req.pe ∈ (st.entered pe).registered pe.mport := by
    rw [Handles.registered, Handles.entered, handles_setList_self, ← List.cons_append]
    exact List.mem_append_left _ inRegistered
  have newIn : st.next ∈ (st.entered pe).registered pe.mport := by
    rw [Handles.registered, Handles.entered, handles_setList_self, ← List.cons_append]
    exact List.mem_append_right _ (List.mem_singleton_self _)
  have links : (st.linked pe req).links =
      (st.entered pe).links.connect (req.pe, req.port) (st.next, pe.cap.accessPort) := by
    simp [Handles.linked, Links.connect]
  have samePort : ∀ place, (st.entered pe).IsPort place → (st.linked pe req).IsPort place := by
    intro place isPort
    refine ⟨isPort.1, ?_⟩
    rw [Handles.linked, portCount_setPeer, portCount_setPeer]
    exact isPort.2
  have peIsPort : (st.entered pe).IsPort (req.pe, req.port) := by
    refine ⟨Nat.lt_succ_of_lt isOld, ?_⟩
    rw [Handles.portCount, entered_pe, discarded_pe_of_ne (Nat.ne_of_lt isOld)]
    exact validPort
  have newIsPort : (st.entered pe).IsPort (st.next, pe.cap.accessPort) := by
    refine ⟨Nat.lt_succ_self _, ?_⟩
    rw [Handles.portCount, entered_pe, discarded_pe_next]
    exact validPeer
  constructor
  · exact before.mports_nodup
  · exact before.nodup
  · exact before.allocated
  · intro mport isOther h isHandle
    rw [Handles.linked, mport_setPeer, mport_setPeer]
    exact before.mport_eq mport isOther h isHandle
  · intro place other linked
    rw [links] at linked
    obtain ⟨rfl, rfl⟩ | ⟨rfl, rfl⟩ | ⟨-, -, linked⟩ := Links.connect_eq_some linked
    · exact ⟨samePort _ newIsPort, samePort _ peIsPort⟩
    · exact ⟨samePort _ peIsPort, samePort _ newIsPort⟩
    · exact (before.isPort place other linked).imp (samePort place) (samePort other)
  · intro place other linked
    rw [links] at linked ⊢
    obtain ⟨rfl, rfl⟩ | ⟨rfl, rfl⟩ | ⟨-, -, linked⟩ := Links.connect_eq_some linked
    · rw [Links.connect_left]
      exact Option.some_ne_none _
    · rw [Links.connect_right]
      exact Option.some_ne_none _
    · exact Links.connect_ne_none (before.anchored place other linked)
  · intro mport isOther h isHandle port peer peerPort linked
    have linkedPlace : (st.linked pe req).links (h, port) = some (peer, peerPort) := linked
    rw [links] at linkedPlace
    obtain ⟨first, second⟩ | ⟨first, second⟩ | ⟨-, -, linked⟩ := Links.connect_eq_some linkedPlace
    · obtain ⟨rfl, rfl⟩ := Prod.mk.inj first
      obtain ⟨rfl, rfl⟩ := Prod.mk.inj second
      obtain rfl := before.mport_of_mem isOther isMport isHandle newIn
      exact peIn
    · obtain ⟨rfl, rfl⟩ := Prod.mk.inj first
      obtain ⟨rfl, rfl⟩ := Prod.mk.inj second
      obtain rfl := before.mport_of_mem isOther isMport isHandle peIn
      exact newIn
    · exact before.intact mport isOther h isHandle port peer peerPort linked

/-! ### The exit -/

theorem createErr_discarded (sound : st.Sound) (isMport : pe.mport ∈ st.mports) :
    createErr (st.discarded pe) st.next = none := by
  have isNew : st.next ∉ st.registered pe.mport := fun inList =>
    Nat.lt_irrefl _ (sound.allocated pe.mport isMport st.next inList)
  rw [Handles.registered, List.mem_cons, not_or] at isNew
  have notMport : ((st.discarded pe).pe st.next).mport ≠ st.next := by
    rw [discarded_pe_next]
    exact fun same => isNew.1 same.symm
  have missing : st.next ∉ (st.discarded pe).handles ((st.discarded pe).pe st.next).mport := by
    rw [discarded_pe_next]
    exact isNew.2
  rw [createErr, riocpPeHandleDestroy, if_neg notMport, destroyPe_of_not_mem missing]
  rfl

theorem createErr_of_registered (sound : st.Sound) (isMport : pe.mport ∈ st.mports) {left : Handles}
    (sameMport : (left.pe st.next).mport = pe.mport)
    (sameList : left.handles = (st.entered pe).handles) :
    createErr left st.next = some (.eio, none, { left with handles := st.handles }) := by
  have isNew : st.next ∉ st.registered pe.mport := fun inList =>
    Nat.lt_irrefl _ (sound.allocated pe.mport isMport st.next inList)
  rw [Handles.registered, List.mem_cons, not_or] at isNew
  have notMport : (left.pe st.next).mport ≠ st.next := by
    rw [sameMport]
    exact fun same => isNew.1 same.symm
  have list : left.handles pe.mport = st.handles pe.mport ++ [st.next] := by
    rw [sameList, Handles.entered, handles_setList_self]
  have inList : st.next ∈ left.handles (left.pe st.next).mport := by
    rw [sameMport, list]
    exact List.mem_append_right _ (List.mem_singleton_self _)
  have restored : Function.update left.handles pe.mport (st.handles pe.mport) = st.handles := by
    rw [sameList, Handles.entered, Handles.setList, Handles.discarded, Function.update_idem,
      Function.update_eq_self]
  rw [createErr, riocpPeHandleDestroy, if_neg notMport, destroyPe_of_mem inList, sameMport, list,
    List.erase_append_right _ isNew.2, List.erase_cons_head, List.append_nil, Handles.setList,
    restored]
  rfl

/-! ### The steps -/

/-- The new handle gets linked to the one it was found behind. -/
structure CreateSteps.Links (steps : CreateSteps) (st : Handles) (req : CreateRequest)
    (cap : Capabilities) : Prop where
  driver : steps.driver = true
  capabilities : steps.capabilities = some cap
  features : steps.features = true
  comptag : steps.comptag.isSome = true
  peersAlloc : steps.peersAlloc = true
  port : req.port < st.portCount req.pe
  accessPort : cap.accessPort < cap.portCount

/-- The steps whose failure is not undone do not fail, as far as the creation comes to them: the
allocation of the address, that of the list item, and that of a group of device IDs, which is
made for a switch that has been linked. -/
def CreateSteps.Undone (steps : CreateSteps) (st : Handles) (req : CreateRequest) : Prop :=
  steps.handleAlloc = true → steps.portAlloc = true →
    (0 < req.hopcount → steps.addressAlloc = true) ∧ steps.itemAlloc = true ∧
      ∀ cap, steps.Links st req cap → cap.isSwitch = true → steps.dev16 = true →
        steps.didGroup = true

/-- How a creation can end. -/
inductive CreateOutcome (st : Handles) (steps : CreateSteps) (req : CreateRequest) :
    Option Created → Prop
  | crashed (missed : ¬steps.Undone st req) : CreateOutcome st steps req none
  | failed {ret : Rc} {left : Handles} (failure : ret ≠ .success) (undone : steps.Undone st req)
      (same : st.SameGraph left) (sound : left.Sound) :
      CreateOutcome st steps req (some (ret, none, left))
  | created {left : Handles} (undone : steps.Undone st req) (sound : left.Sound) :
      CreateOutcome st steps req (some (.success, some st.next, left))
  | dangling {left : Handles} (missed : ¬steps.Undone st req) (broken : ¬left.Integrity) :
      CreateOutcome st steps req (some (.eio, none, left))

theorem setPe_entered {change : RiocpPe → RiocpPe} (sameMport : (change pe).mport = pe.mport) :
    (st.entered pe).setPe st.next change = st.entered (change pe) := by
  simp [Handles.setPe, Handles.entered, Handles.setList, Handles.discarded, sameMport]

theorem check_entered (isMport : pe.mport ∈ st.mports) :
    (st.entered pe).riocpPeHandleCheck st.next = true := by
  refine Handles.riocpPeHandleCheck_iff.mpr ⟨pe.mport, isMport, List.mem_cons_of_mem _ ?_⟩
  rw [Handles.entered, handles_setList_self]
  exact List.mem_append_right _ (List.mem_singleton_self _)

section

variable (sound : st.Sound)
include sound

theorem check_discarded :
    (st.discarded pe).riocpPeHandleCheck st.next = false := by
  rw [Bool.eq_false_iff]
  intro check
  obtain ⟨mport, isMport, inList⟩ := Handles.riocpPeHandleCheck_iff.mp check
  exact Nat.lt_irrefl _ (sound.allocated mport isMport st.next inList)

section

variable (isMport : pe.mport ∈ st.mports)
include isMport

theorem createInit_of_unregistered
    (noItem : steps.itemAlloc = false) :
    createInit steps req (st.discarded pe) st.next = none := by
  have unchanged : (st.discarded pe).setList ((st.discarded pe).pe st.next).mport
      (riocpPeLlistAdd steps.itemAlloc
        ((st.discarded pe).handles ((st.discarded pe).pe st.next).mport) st.next) =
      st.discarded pe := by
    rw [riocpPeLlistAdd, noItem, if_neg (by decide), setList_handles]
  rw [createInit, unchanged]
  cases steps.driver with
  | false => exact createErr_discarded sound isMport
  | true =>
    simp only [Bool.not_true, Bool.false_eq_true, if_false, riocpPeReadCapabilities,
      check_discarded sound]
    exact createErr_discarded sound isMport

theorem createErr_entered :
    createErr (st.entered pe) st.next = some (.eio, none, st.discarded pe) := by
  have sameMport : ((st.entered pe).pe st.next).mport = pe.mport := by
    rw [entered_pe, discarded_pe_next]
  exact createErr_of_registered sound isMport sameMport rfl

theorem createErr_linked
    (inRegistered : req.pe ∈ st.registered pe.mport) :
    ∃ left, createErr (st.linked pe req) st.next = some (.eio, none, left) ∧ ¬left.Integrity := by
  have sameMport : ((st.linked pe req).pe st.next).mport = pe.mport := by
    rw [Handles.linked, mport_setPeer, mport_setPeer, entered_pe, discarded_pe_next]
  refine ⟨_, createErr_of_registered sound isMport sameMport rfl, fun intact => ?_⟩
  have isOld : req.pe ≠ st.next :=
    Nat.ne_of_lt (sound.allocated pe.mport isMport req.pe inRegistered)
  have linked : (st.linked pe req).links (req.pe, req.port) =
      some (st.next, pe.cap.accessPort) := by
    simp only [Handles.linked, links_setPeer]
    rw [Function.update_of_ne (fun same => isOld (congrArg Prod.fst same)), Function.update_self]
  have inList := intact pe.mport isMport req.pe inRegistered req.port st.next _ linked
  exact Nat.lt_irrefl _ (sound.allocated pe.mport isMport st.next inList)

theorem createErr_outcome
    (unlinked : pe.peers = fun _ => none) (address : 0 < req.hopcount → steps.addressAlloc = true)
    (item : steps.itemAlloc = true) (notLinked : ∀ cap, ¬steps.Links st req cap) :
    CreateOutcome st steps req (createErr (st.entered pe) st.next) := by
  rw [createErr_entered sound isMport]
  exact .failed (by decide)
    (fun _ _ => ⟨address, item, fun cap links => absurd links (notLinked cap)⟩)
    sameGraph_discarded (sound_discarded sound unlinked)

theorem createLink_outcome
    (inRegistered : req.pe ∈ st.registered pe.mport) (unlinked : pe.peers = fun _ => none)
    (allocs : steps.handleAlloc = true ∧ steps.portAlloc = true)
    (address : 0 < req.hopcount → steps.addressAlloc = true) (item : steps.itemAlloc = true)
    (driver : steps.driver = true) (capabilities : steps.capabilities = some pe.cap)
    (features : steps.features = true) (comptag : steps.comptag.isSome = true) :
    CreateOutcome st steps req (createLink steps req (st.entered pe) st.next) := by
  have isOld : req.pe ≠ st.next :=
    Nat.ne_of_lt (sound.allocated pe.mport isMport req.pe inRegistered)
  have newCap : ((st.entered pe).pe st.next).cap = pe.cap := by
    rw [entered_pe, discarded_pe_next]
  have sameCap : ∀ cap, steps.Links st req cap → cap = pe.cap := fun cap links =>
    Option.some.inj (links.capabilities.symm.trans capabilities)
  rw [createLink, newCap]
  cases peersAlloc : steps.peersAlloc with
  | false =>
    rw [if_pos (by decide)]
    refine createErr_outcome sound isMport unlinked address item fun cap links => ?_
    cases peersAlloc.symm.trans links.peersAlloc
  | true =>
    rw [if_neg (by decide)]
    dsimp only
    by_cases valid : req.port < st.portCount req.pe ∧ pe.cap.accessPort < pe.cap.portCount
    · have validPort : req.port < (st.entered pe).portCount req.pe := by
        rw [Handles.portCount, entered_pe, discarded_pe_of_ne isOld]
        exact valid.1
      have validPeer : pe.cap.accessPort < (st.entered pe).portCount st.next := by
        rw [Handles.portCount, newCap]
        exact valid.2
      have links : steps.Links st req pe.cap :=
        ⟨driver, capabilities, features, comptag, peersAlloc, valid.1, valid.2⟩
      rw [riocpPeAddPeer_eq validPort validPeer]
      show CreateOutcome st steps req (if _ then createErr (st.linked pe req) st.next else
        some (.success, some st.next, st.linked pe req))
      split
      · next noGroup =>
          simp only [Bool.and_eq_true, Bool.not_eq_true'] at noGroup
          obtain ⟨⟨isSwitch, dev16⟩, failed⟩ := noGroup
          obtain ⟨left, ended, broken⟩ := createErr_linked sound isMport inRegistered
          rw [ended]
          refine .dangling (fun undone => ?_) broken
          have group := (undone allocs.1 allocs.2).2.2 pe.cap links isSwitch dev16
          cases failed.symm.trans group
      · next group =>
          refine .created (fun _ _ => ⟨address, item, fun cap others isSwitch dev16 => ?_⟩)
            (sound_linked sound isMport inRegistered unlinked valid.1 valid.2)
          obtain rfl := sameCap cap others
          simpa [isSwitch, dev16] using group
    · have invalid : ¬(req.port < (st.entered pe).portCount req.pe ∧
          pe.cap.accessPort < (st.entered pe).portCount st.next) := by
        rw [Handles.portCount, Handles.portCount, newCap, entered_pe, discarded_pe_of_ne isOld]
        exact valid
      rw [riocpPeAddPeer_of_invalid invalid]
      show CreateOutcome st steps req (createErr (st.entered pe) st.next)
      refine createErr_outcome sound isMport unlinked address item fun cap links => ?_
      obtain rfl := sameCap cap links
      exact valid ⟨links.port, links.accessPort⟩

theorem createInit_outcome
    (inRegistered : req.pe ∈ st.registered pe.mport) (unlinked : pe.peers = fun _ => none)
    (allocs : steps.handleAlloc = true ∧ steps.portAlloc = true)
    (address : 0 < req.hopcount → steps.addressAlloc = true) :
    CreateOutcome st steps req (createInit steps req (st.discarded pe) st.next) := by
  cases item : steps.itemAlloc with
  | false =>
    rw [createInit_of_unregistered sound isMport item]
    refine .crashed fun undone => ?_
    cases item.symm.trans (undone allocs.1 allocs.2).2.1
  | true =>
    have entered : (st.discarded pe).setList ((st.discarded pe).pe st.next).mport
        (riocpPeLlistAdd steps.itemAlloc
          ((st.discarded pe).handles ((st.discarded pe).pe st.next).mport) st.next) =
        st.entered pe := by
      rw [riocpPeLlistAdd, if_pos item, discarded_pe_next]
      rfl
    rw [createInit, entered]
    cases driver : steps.driver with
    | false =>
      rw [if_pos (by decide)]
      refine createErr_outcome sound isMport unlinked address item fun cap links => ?_
      cases driver.symm.trans links.driver
    | true =>
      rw [if_neg (by decide), riocpPeReadCapabilities, if_pos (check_entered isMport)]
      cases capabilities : steps.capabilities with
      | none =>
        show CreateOutcome st steps req (createErr (st.entered pe) st.next)
        refine createErr_outcome sound isMport unlinked address item fun cap links => ?_
        cases capabilities.symm.trans links.capabilities
      | some cap =>
        simp only
        rw [setPe_entered rfl]
        cases features : steps.features with
        | false =>
          rw [if_pos (by decide)]
          refine createErr_outcome sound isMport unlinked address item fun cap links => ?_
          cases features.symm.trans links.features
        | true =>
          rw [if_neg (by decide)]
          cases comptag : steps.comptag with
          | none =>
            show CreateOutcome st steps req (createErr (st.entered _) st.next)
            refine createErr_outcome sound isMport unlinked address item fun cap links => ?_
            have isSome := links.comptag
            rw [comptag] at isSome
            cases isSome
          | some value =>
            simp only
            rw [setPe_entered rfl]
            exact createLink_outcome sound isMport inRegistered unlinked allocs address
              item driver capabilities features (by rw [comptag]; rfl)

end

theorem riocpPeHandleCreatePe_outcome
    (check : st.riocpPeHandleCheck req.pe = true) :
    CreateOutcome st steps req (riocpPeHandleCreatePe steps st req) := by
  obtain ⟨isMport, inRegistered⟩ : (newPe st req).mport ∈ st.mports ∧
      req.pe ∈ st.registered (newPe st req).mport := sound.registered_of_check check
  rw [riocpPeHandleCreatePe]
  by_cases allocs : steps.handleAlloc = true ∧ steps.portAlloc = true
  · rw [if_neg (by simp [allocs])]
    show CreateOutcome st steps req
      (if _ then createErr (st.discarded (newPe st req)) st.next
        else createInit steps req (st.discarded (newPe st req)) st.next)
    split
    · next noAddress =>
        simp only [Bool.and_eq_true, Bool.not_eq_true', decide_eq_true_eq] at noAddress
        rw [createErr_discarded sound isMport]
        refine .crashed fun undone => ?_
        cases noAddress.2.symm.trans ((undone allocs.1 allocs.2).1 noAddress.1)
    · next address =>
        apply createInit_outcome sound isMport inRegistered rfl allocs
        intro remote
        simpa [remote] using address
  · rw [if_pos (by simpa [imp_iff_not_or] using allocs)]
    exact .failed (by decide) (fun handle port => absurd ⟨handle, port⟩ allocs)
      ⟨rfl, rfl, fun _ _ => rfl⟩ sound

end

end Creation

/-! ## Runs -/

section Runs

variable {st : Handles}

/-- What a call is to keep to: it does not access freed memory or a null pointer, the graph stays
intact, and a call that fails leaves it as it was. -/
def Handles.Kept (st : Handles) (call : HandleCall) : Prop :=
  ∃ ret left, handleCall st call = some (ret, left) ∧ left.Integrity ∧
    (ret ≠ .success → st.SameGraph left)

/-- When it keeps to that: whatever fails in a creation is undone. -/
def Handles.Undoes (st : Handles) : HandleCall → Prop
  | .create req steps => st.riocpPeHandleCheck req.pe = true → steps.Undone st req
  | .destroy _ => True

theorem sameGraph_refl : st.SameGraph st := ⟨rfl, rfl, fun _ _ => rfl⟩

theorem handleCall_sound (sound : st.Sound) (call : HandleCall) :
    (st.Kept call ↔ st.Undoes call) ∧ (st.Kept call → (handleStep st call).Sound) := by
  have unchanged : handleCall st call = some (.einval, st) → st.Undoes call →
      (st.Kept call ↔ st.Undoes call) ∧ (st.Kept call → (handleStep st call).Sound) := by
    intro refused undoes
    refine ⟨iff_of_true ⟨.einval, st, refused, sound.intact, fun _ => sameGraph_refl⟩ undoes,
      fun _ => ?_⟩
    rw [handleStep, refused]
    exact sound
  cases call with
  | destroy h =>
    by_cases free : (st.riocpPeHandleCheck h && !st.hasLinks h) = true
    · have destroyed := free
      rw [Bool.and_eq_true, Bool.not_eq_true', Handles.hasLinks_eq_false_iff sound] at free
      obtain ⟨left, ended, leftSound⟩ := riocpPeHandleDestroy_sound sound free.1 free.2
      have result : handleCall st (.destroy h) = some (.success, left) := by
        rw [handleCall, if_pos destroyed, ended]
        rfl
      refine ⟨iff_of_true
        ⟨.success, left, result, leftSound.intact, fun failure => absurd rfl failure⟩
        trivial, fun _ => ?_⟩
      rw [handleStep, result]
      exact leftSound
    · exact unchanged (by rw [handleCall, if_neg free]) trivial
  | create req steps =>
    by_cases check : st.riocpPeHandleCheck req.pe = true
    · have outcome : CreateOutcome st steps req (riocpPeHandleCreatePe steps st req) :=
        riocpPeHandleCreatePe_outcome sound check
      have result : handleCall st (.create req steps) =
          (riocpPeHandleCreatePe steps st req).map fun created => (created.1, created.2.2) := by
        rw [handleCall, if_pos check]
      have undoes_iff : st.Undoes (.create req steps) ↔ steps.Undone st req :=
        ⟨fun undoes => undoes check, fun undone _ => undone⟩
      rw [undoes_iff, handleStep, Handles.Kept, result]
      generalize riocpPeHandleCreatePe steps st req = created at outcome
      cases outcome with
      | crashed missed =>
        have notKept : ¬∃ ret left, none = some (ret, left) ∧ left.Integrity ∧
            (ret ≠ Rc.success → st.SameGraph left) := by
          intro kept
          obtain ⟨_, _, ended, _⟩ := kept
          cases ended
        exact ⟨iff_of_false notKept missed, fun kept => absurd kept notKept⟩
      | failed failure undone same leftSound =>
        exact ⟨iff_of_true ⟨_, _, rfl, leftSound.intact, fun _ => same⟩ undone,
          fun _ => leftSound⟩
      | created undone leftSound =>
        exact ⟨iff_of_true ⟨_, _, rfl, leftSound.intact, fun failure => absurd rfl failure⟩
          undone, fun _ => leftSound⟩
      | dangling missed broken =>
        refine ⟨iff_of_false (fun kept => ?_) missed, fun kept => ?_⟩
        · obtain ⟨ret, left, ended, intact, _⟩ := kept
          obtain ⟨rfl, rfl⟩ := Prod.mk.inj (Option.some.inj ended)
          exact broken intact
        · obtain ⟨ret, left, ended, intact, _⟩ := kept
          obtain ⟨rfl, rfl⟩ := Prod.mk.inj (Option.some.inj ended)
          exact absurd intact broken
    · exact unchanged (by rw [handleCall, if_neg check]) fun isRegistered =>
        absurd isRegistered check

theorem sound_openMports (caps : List Capabilities) : (openMports caps).Sound := by
  have mem_mports : ∀ mport, mport ∈ (openMports caps).mports ↔ mport < caps.length :=
    fun mport => List.mem_range
  have mem_registered : ∀ mport h, h ∈ (openMports caps).registered mport ↔ h = mport := by
    intro mport h
    rw [Handles.registered, List.mem_cons]
    exact or_iff_left (List.not_mem_nil)
  constructor
  · exact List.nodup_range
  · exact fun mport _ => List.pairwise_singleton _ _
  · intro mport isMport h isHandle
    rw [(mem_registered mport h).mp isHandle]
    exact (mem_mports mport).mp isMport
  · exact fun mport _ h isHandle => (mem_registered mport h).mp isHandle
  · exact fun _ _ linked => by cases linked
  · exact fun _ _ linked => by cases linked
  · exact fun _ _ _ _ _ _ _ linked => by cases linked

/-- Over a history of creations and destructions, every call keeps the handle graph intact and
undoes what it did if it fails, exactly when none of the steps that are not undone fails. -/
theorem handle_graph_iff (caps : List Capabilities) (calls : List HandleCall) :
    Guarded handleStep Handles.Kept (openMports caps) calls ↔
      Guarded handleStep Handles.Undoes (openMports caps) calls := by
  apply guarded_iff Handles.Sound
  · exact fun st call sound => (handleCall_sound sound call).1
  · exact fun st call sound => (handleCall_sound sound call).2
  · exact sound_openMports caps

end Runs

/-! ## A switch without a group of device IDs -/

/-- All steps succeed but the last one, for a switch with four ports that is entered through
port 1. -/
def noGroup : CreateSteps :=
  ⟨true, true, true, true, true, some ⟨pefSwitch, 0x401#32⟩, true, some 5, true, true, false⟩

/-- A switch next to the master port. -/
def firstSwitch : CreateRequest := ⟨0, 0, 0xff, 0, 5⟩

/-- The master port keeps the switch as its peer, which has been freed. -/
theorem not_handle_graph_noGroup :
    ¬∀ (caps : List Capabilities) (calls : List HandleCall),
      Guarded handleStep Handles.Kept (openMports caps) calls := by
  intro kept
  obtain ⟨⟨ret, left, ended, intact, -⟩, -⟩ := kept [⟨0#32, 0#32⟩] [.create firstSwitch noGroup]
  obtain ⟨rfl, rfl⟩ := Prod.mk.inj (Option.some.inj ended)
  have inList := intact 0 (by decide) 0 (by decide) 0 1 1 (by decide)
  exact absurd inList (by decide)

end RioFabric.Riocp

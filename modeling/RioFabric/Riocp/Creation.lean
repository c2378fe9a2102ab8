import RioFabric.Riocp.Handles

/-!
# Creating and destroying handles

A new handle is entered into the list of its master port before the device is looked at, and
linked to the handle it was found behind before the last steps that can fail.  All failures leave
`riocp_pe_handle_create_pe` by one exit, which destroys the handle: the handle is deleted from
the list, and its links are left alone.

A function has no value when the C function accesses memory through a null pointer.
-/

namespace RioFabric.Riocp

/-- `riocp_pe_llist_add`; the result is ignored by its only caller here. -/
def riocpPeLlistAdd (allocates : Bool) (list : List Handle) (data : Handle) : List Handle :=
  if allocates then list ++ [data] else list

/-- `riocp_pe_llist_del`.  The search for an entry that is not in the list goes on behind the last
item, with `next = cur->next`. -/
def riocpPeLlistDel (list : List Handle) (data : Handle) : Option (List Handle) :=
  if data ∈ list then some (list.erase data) else none

/-- `riocp_pe_handle_destroy` for a handle other than a master port's. -/
def destroyPe (st : Handles) (h : Handle) : Option Handles := do
  let mport := (st.pe h).mport
  let list ← riocpPeLlistDel (st.handles mport) h
  some (st.setList mport list)

/-- `riocp_pe_handle_destroy`.  `RIOCP_PE_LLIST_FOREACH_SAFE` stops in front of the last item of the
list; the list itself is freed with the master port. -/
def riocpPeHandleDestroy (st : Handles) (h : Handle) : Option Handles :=
  if (st.pe h).mport = h then do
    let st ← (st.handles h).dropLast.foldlM destroyPe st
    let mports ← riocpPeLlistDel st.mports h
    some ({ st with mports := mports }.setList h [])
  else destroyPe st h

/-- How the steps of `riocp_pe_handle_create_pe` end: allocations of the handle, the port, the
address, the list item and the peers, `riocp_drv_init_pe`, the reads of capabilities, features
and component tag, and `did_alloc_dev16_grp`; `dev16` tells whether `riocp_pe_did_sz` is
`dev16_sz`. -/
structure CreateSteps where
  handleAlloc : Bool
  portAlloc : Bool
  addressAlloc : Bool
  itemAlloc : Bool
  driver : Bool
  capabilities : Option Capabilities
  features : Bool
  comptag : Option Nat
  peersAlloc : Bool
  dev16 : Bool
  didGroup : Bool

/-- The arguments of `riocp_pe_handle_create_pe`. -/
structure CreateRequest where
  pe : Handle
  hopcount : Nat
  didVal : Nat
  port : Nat
  comptagIn : Nat

/-- What a creation returns: the result, the handle if there is one, and what is in memory. -/
abbrev Created : Type := Rc × Option Handle × Handles

/-- The exit of a creation that failed. -/
def createErr (st : Handles) (h : Handle) : Option Created := do
  let st ← riocpPeHandleDestroy st h
  some (.eio, none, st)

/-- `riocp_pe_read_capabilities`: the reads check that the handle is registered. -/
def riocpPeReadCapabilities (st : Handles) (h : Handle) (steps : CreateSteps) :
    Option Capabilities :=
  if st.riocpPeHandleCheck h then steps.capabilities else none

/-- The end of `riocp_pe_handle_create_pe`, from the allocation of the peers on. -/
def createLink (steps : CreateSteps) (req : CreateRequest) (st : Handles) (h : Handle) :
    Option Created :=
  if !steps.peersAlloc then createErr st h
  else
    let cap := (st.pe h).cap
    match riocpPeAddPeer st req.pe h req.port cap.accessPort with
    | (.success, st) =>
      if cap.isSwitch && steps.dev16 && !steps.didGroup then createErr st h
      else some (.success, some h, st)
    | (_, st) => createErr st h

/-- `riocp_pe_handle_create_pe` from the entry into the list on. -/
def createInit (steps : CreateSteps) (req : CreateRequest) (st : Handles) (h : Handle) :
    Option Created :=
  let mport := (st.pe h).mport
  let st := st.setList mport (riocpPeLlistAdd steps.itemAlloc (st.handles mport) h)
  if !steps.driver then createErr st h
  else
    match riocpPeReadCapabilities st h steps with
    | none => createErr st h
    | some cap =>
      let st := st.setPe h fun pe => { pe with cap := cap }
      if !steps.features then createErr st h
      else
        match steps.comptag with
        | none => createErr st h
        | some comptag =>
          createLink steps req (st.setPe h fun pe => { pe with comptag := comptag }) h

/-- The new handle of `riocp_pe_handle_create_pe` when it is entered into the list. -/
def newPe (st : Handles) (req : CreateRequest) : RiocpPe where
  hopcount := req.hopcount
  didRegVal := req.didVal
  comptag := req.comptagIn
  address :=
    if req.hopcount = 0 then []
    else (st.pe req.pe).address.take (req.hopcount - 1) ++ [req.port]
  cap := ⟨0#32, 0#32⟩
  mport := (st.pe req.pe).mport
  peers _ := none

def riocpPeHandleCreatePe (steps : CreateSteps) (st : Handles) (req : CreateRequest) :
    Option Created :=
  if !steps.handleAlloc || !steps.portAlloc then some (.enomem, none, st)
  else
    let h := st.next
    let st := { st with pe := Function.update st.pe h (newPe st req), next := h + 1 }
    if req.hopcount > 0 && !steps.addressAlloc then createErr st h
    else createInit steps req st h

/-- The master ports that are open at the start, without any handles behind them. -/
def openMports (caps : List Capabilities) : Handles where
  pe h :=
    { hopcount := 0xff, didRegVal := 0, comptag := 0, address := [], cap := caps.getD h ⟨0#32, 0#32⟩
      mport := h, peers := fun _ => none }
  mports := List.range caps.length
  handles _ := []
  next := caps.length

/-- Creating a handle, and destroying a handle without links. -/
inductive HandleCall where
  | create (req : CreateRequest) (steps : CreateSteps)
  | destroy (h : Handle)

/-- The handle has a peer at one of its ports. -/
def Handles.hasLinks (st : Handles) (h : Handle) : Bool :=
  (List.range (st.portCount h)).any fun port => ((st.pe h).peers port).isSome

/-- The result of a call, which is made for registered handles only. -/
def handleCall (st : Handles) : HandleCall → Option (Rc × Handles)
  | .create req steps =>
    if st.riocpPeHandleCheck req.pe then
      (riocpPeHandleCreatePe steps st req).map fun (ret, _, st) => (ret, st)
    else some (.einval, st)
  | .destroy h =>
    if st.riocpPeHandleCheck h && !st.hasLinks h then
      (riocpPeHandleDestroy st h).map fun st => (.success, st)
    else some (.einval, st)

/-- The state that a call leaves, if there is one. -/
def handleStep (st : Handles) (call : HandleCall) : Handles :=
  match handleCall st call with
  | some (_, st) => st
  | none => st

end RioFabric.Riocp

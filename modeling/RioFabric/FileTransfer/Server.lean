import Mathlib.Data.List.FinRange
import RioFabric.Lib.Actions
import RioFabric.Lib.Bits

/-!
# The threads of the file server

`conn_loop` accepts connections and hands each of them to a worker, or queues it.  A worker,
`xfer_loop`, waits for a connection, receives a file over it and looks for the next one in the
queue.  While the server is paused, connections are queued only.

A connection is handed to a worker in three parts: `req_skt`, the semaphore `req_avail` and the
flag `completed`.  A section of `conn_reqs_mutex` is one action; a worker tests `req_skt`, waits
and receives in actions of their own, outside of the mutex.
-/

namespace RioFabric.FileTransfer

/-- Where a worker is in `xfer_loop`. -/
inductive WorkerPc where
  | start
  /-- At the test of `req_skt`. -/
  | test
  /-- In `sem_wait` for `req_avail`. -/
  | wait
  /-- In `rx_file`. -/
  | receive
  /-- Behind `rx_file`. -/
  | close
  /-- At the test of `pause_file_xfer_conn`. -/
  | pause
  /-- Before the section that looks for a queued connection. -/
  | pop
  deriving DecidableEq

/-- `struct buffer_info`, as far as connections are concerned, and its thread. -/
structure Worker where
  pc : WorkerPc
  reqSkt : Option Nat
  reqAvail : Nat
  completed : Bool
  deriving DecidableEq

/-- Where `conn_loop` is. -/
inductive ConnPc where
  | accept
  /-- Before the section that hands on an accepted connection. -/
  | accepted (skt : Nat)
  /-- Out of the loop; queued connections are closed. -/
  | drain
  | ended
  deriving DecidableEq

/-- Where the command line is in `FXPauseCmd`. -/
inductive PausePc where
  | idle
  /-- The flag has been set, with the second argument of the command left. -/
  | limit (arg : Option UInt8)
  | limitArg (limit : UInt8)
  | check
  /-- Before its section. -/
  | batch
  deriving DecidableEq

/-- The server.  Connections are numbered in the order in which they are accepted; `finished`
are those that have been closed. -/
structure Server (n : Nat) where
  rxBufs : Fin n → Worker
  connReqs : List Nat
  numConnReqs : UInt16
  pauseFileXferConn : Bool
  maxFileXferQueue : UInt8
  conn : ConnPc
  cli : PausePc
  accepted : Nat
  finished : List Nat

/-- The server when its threads are started. -/
def Server.start (n : Nat) : Server n where
  rxBufs := fun _ => ⟨.start, none, 0, false⟩
  connReqs := []
  numConnReqs := 0
  pauseFileXferConn := false
  maxFileXferQueue := 0
  conn := .accept
  cli := .idle
  accepted := 0
  finished := []

variable {n : Nat} (valid : Fin n → Bool)

section

variable (server : Server n)

def Server.addConnReq (skt : Nat) : Server n :=
  { server with connReqs := server.connReqs ++ [skt], numConnReqs := server.numConnReqs + 1 }

def Server.popConnReq : Option Nat × Server n :=
  match server.connReqs with
  | [] => (none, server)
  | skt :: rest =>
    (some skt, { server with connReqs := rest, numConnReqs := server.numConnReqs - 1 })

/-- The assignments to a worker. -/
def Server.setWorker (i : Fin n) (worker : Worker) : Server n :=
  { server with rxBufs := Function.update server.rxBufs i worker }

/-- A connection is handed to a worker. -/
def Server.assign (i : Fin n) (skt : Option Nat) : Server n :=
  let worker := server.rxBufs i
  server.setWorker i
    { worker with reqSkt := skt, completed := false, reqAvail := worker.reqAvail + 1 }

/-- The worker can be given a connection. -/
def Server.isFree (i : Fin n) : Bool := valid i && (server.rxBufs i).completed

end

/-- The loop of `batch_start_connections`. -/
def Server.batchLoop : List (Fin n) → Server n → Server n
  | [], server => server
  | i :: rest, server =>
    if server.numConnReqs = 0 then server
    else if server.isFree valid i then
      let (skt, popped) := server.popConnReq
      batchLoop rest (popped.assign i skt)
    else batchLoop rest server

def Server.batchStartConnections (server : Server n) : Server n :=
  { server with pauseFileXferConn := false }.batchLoop valid (List.finRange n)

/-- The worker that `conn_loop` picks. -/
def Server.found (server : Server n) : Option (Fin n) :=
  if server.pauseFileXferConn then none else (List.finRange n).find? (server.isFree valid)

/-- The section of `conn_loop`, which gives the connection away; an entry of the queue may fail
to be allocated. -/
def Server.handOn (server : Server n) (skt : Nat) (mallocOk : Bool) : Server n :=
  let server := { server with conn := .accept }
  let server := match server.found valid with
    | some i => server.assign i (some skt)
    | none => if mallocOk then server.addConnReq skt else server
  if server.pauseFileXferConn ∧ server.maxFileXferQueue.toNat ≤ server.numConnReqs.toNat then
    server.batchStartConnections valid
  else server

/-- The actions of the workers, of `conn_loop` and of the command. -/
inductive ServerAction (n : Nat) where
  | start (i : Fin n)
  | test (i : Fin n)
  | wake (i : Fin n)
  | received (i : Fin n)
  | close (i : Fin n)
  | testPause (i : Fin n)
  | pop (i : Fin n)
  | accept
  | acceptFails
  | handOn (mallocOk : Bool)
  | drain
  | pause (arg : Option (Bool × Option UInt8))
  | limit
  | check
  | batch
  deriving DecidableEq

/-- A step of a worker that touches nothing but the worker. -/
def Worker.step (worker : Worker) : ServerAction n → Option Worker
  | .start _ => if worker.pc = .start then some ⟨.test, none, worker.reqAvail, true⟩ else none
  | .test _ =>
    if worker.pc = .test then
      some { worker with pc := if worker.reqSkt = none then .wait else .receive }
    else none
  | .wake _ =>
    if worker.pc = .wait ∧ 0 < worker.reqAvail then
      some { worker with pc := .receive, reqAvail := worker.reqAvail - 1 }
    else none
  | _ => none

/-- The connection of a worker is closed, at the end of `rx_file` or behind it. -/
def Server.closeSkt (server : Server n) (i : Fin n) (pc : WorkerPc) : Server n :=
  let worker := server.rxBufs i
  { server.setWorker i { worker with pc := pc, reqSkt := none } with
    finished := worker.reqSkt.toList ++ server.finished }

/-- The steps of the server.  `rx_file` uses the connection of the worker, so that it does not
come to its end without one. -/
def Server.step (server : Server n) (action : ServerAction n) : Option (Server n) :=
  match action with
  | .start i | .test i | .wake i =>
    if valid i then ((server.rxBufs i).step action).map (server.setWorker i) else none
  | .received i =>
    if (server.rxBufs i).pc = .receive ∧ (server.rxBufs i).reqSkt ≠ none then
      some (server.closeSkt i .close)
    else none
  | .close i => if (server.rxBufs i).pc = .close then some (server.closeSkt i .pause) else none
  | .testPause i =>
    let worker := server.rxBufs i
    if worker.pc = .pause then
      some (server.setWorker i
        { worker with pc := if server.pauseFileXferConn then .test else .pop })
    else none
  | .pop i =>
    let worker := server.rxBufs i
    if worker.pc = .pop then
      let (skt, popped) := server.popConnReq
      some (popped.setWorker i { worker with
        pc := .test, reqSkt := skt, completed := worker.completed || skt.isNone })
    else none
  | .accept =>
    if server.conn = .accept then
      some { server with conn := .accepted server.accepted, accepted := server.accepted + 1 }
    else none
  | .acceptFails => if server.conn = .accept then some { server with conn := .drain } else none
  | .handOn mallocOk =>
    match server.conn with
    | .accepted skt => some (server.handOn valid skt mallocOk)
    | _ => none
  | .drain =>
    if server.conn = .drain then
      match server.popConnReq with
      | (none, _) => some { server with conn := .ended }
      | (some skt, popped) => some { popped with finished := skt :: server.finished }
    else none
  | .pause arg =>
    if server.cli = .idle then
      match arg with
      | none => some { server with cli := .check }
      | some (paused, limit) =>
        some { server with cli := .limit limit, pauseFileXferConn := paused }
    else none
  | .limit =>
    match server.cli with
    | .limit none => some { server with cli := .check, maxFileXferQueue := 8 }
    | .limit (some limit) => some { server with cli := .limitArg limit, maxFileXferQueue := 8 }
    | .limitArg limit => some { server with cli := .check, maxFileXferQueue := limit }
    | _ => none
  | .check =>
    if server.cli = .check then
      let isDue := server.maxFileXferQueue.toNat ≤ server.numConnReqs.toNat ∨
        server.pauseFileXferConn = false ∧ server.numConnReqs ≠ 0
      some { server with cli := if isDue then .batch else .idle }
    else none
  | .batch =>
    if server.cli = .batch then
      some { server.batchStartConnections valid with cli := .idle }
    else none

end RioFabric.FileTransfer

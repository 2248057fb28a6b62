import Adb.FdEvent
import Adb.IoVector
import Adb.Transport

/-!
# Sockets

`struct asocket` and the functions of `sockets.cpp` that work on the socket lists alone. The sockets
live in a `Store`, so a use of a deleted socket shows up as `Halt.wild`. The function pointers of an
`asocket` are enumerations. Only `close` calls back into itself, so it alone carries a bound on the
nesting of calls. What a call on an fd returns comes from `Os`, and what was done goes to `trace`.
-/

namespace Adb

open Lib

abbrev Ptr := ℕ

inductive EnqueueFn
  | localSocketEnqueue
  | remoteSocketEnqueue
  | smartSocketEnqueue
  | deviceTrackerEnqueue
deriving DecidableEq, Repr

inductive ReadyFn
  | localSocketReady
  | localSocketReadyNotify
  | remoteSocketReady
  | smartSocketReady
  | deviceTrackerReady
deriving DecidableEq, Repr

inductive ShutdownFn
  | remoteSocketShutdown
deriving DecidableEq, Repr

inductive CloseFn
  | localSocketClose
  | localSocketCloseNotify
  | remoteSocketClose
  | smartSocketClose
  | deviceTrackerClose
deriving DecidableEq, Repr

/-- `struct asocket`. The last two fields are those `struct device_tracker` adds. -/
structure ASocket where
  id : UInt32 := 0
  closing : Bool := false
  hasWriteError : Bool := false
  exitOnClose : Bool := false
  peer : Option Ptr := none
  fde : Option FdEvent := none
  packetQueue : IOVector := {}
  smartSocketData : Bytes := []
  enqueue : EnqueueFn
  ready : ReadyFn
  shutdown : Option ShutdownFn := none
  close : CloseFn
  transport : Option TPtr := none
  updateNeeded : Bool := false
  longOutput : Bool := false
deriving DecidableEq, Repr

/-- A socket that is already closing, or has no pending packets that can be written, is
destroyed as soon as it is closed. -/
def ASocket.disposable (a : ASocket) : Bool :=
  a.closing || a.hasWriteError || a.packetQueue.empty

/-- What one `adb_read` returns: data, `EAGAIN`, end of file or another error. -/
inductive ReadResult
  | data (bs : Bytes)
  | eagain
  | eof
  | error
deriving DecidableEq, Repr

/-- What one `adb_writev` returns: a count, `EAGAIN` or another failure. -/
inductive WriteResult
  | wrote (n : ℕ)
  | eagain
  | failed
deriving DecidableEq, Repr

/-- The answers of the operating system during one callback of the main loop. -/
structure Os where
  /-- results of successive `adb_read`s; `EAGAIN` when there are no more -/
  reads : List ReadResult := []
  /-- results of successive `adb_writev`s; `EAGAIN` when there are no more -/
  writes : List WriteResult := []
  service : Bool := false
  /-- the port `socket_spec_listen` resolved (0 unless it was asked to choose), or its error -/
  listen : Except Bytes ℕ := .error []
  urandom : Bytes := []
  /-- whether the write to the framework socket succeeds -/
  frameworkWrite : Bool := true
  /-- the public keys in the key files of the device -/
  adbKeys : List Bytes := []
  /-- `g_keys`, the private keys of the host, in order -/
  privateKeys : List PrivateKey := []
  /-- the signatures that `RSA_sign` makes of the token, by key; it fails for other keys -/
  signatures : List (PrivateKey × Bytes) := []
  userKey : Bytes := []
  /-- whether `local_connect` reaches an emulator -/
  emulator : Bool := false
deriving DecidableEq

/-- What the process does that can be seen from outside, and the points of a run that the
properties speak about. -/
inductive Obs
  /-- `handle_packet(p, t)` is entered -/
  | handled (t : TPtr) (p : APacket)
  /-- `send_packet(p, t)` -/
  | sent (t : TPtr) (p : APacket)
  /-- `install_local_socket` gives `s` its id -/
  | created (s : Ptr) (id : UInt32)
  /-- `connect_to_remote` has asked the other side to open a stream for `s` -/
  | opened (s : Ptr) (id : UInt32)
  /-- an `A_OPEN` from the remote socket `remote` is answered with the service socket `s` -/
  | accepted (s : Ptr) (id remote : UInt32)
  /-- `handle_packet` calls `s->ready(s)` -/
  | readied (s : Ptr)
  /-- `data` is put in the queue of `s` -/
  | enqueued (s : Ptr) (data : Bytes)
  /-- `adb_writev` on the fd of `s` accepts `data` -/
  | wrote (s : Ptr) (data : Bytes)
  | writeFailed (s : Ptr)
  /-- `adb_read` on the fd of `s` returns `data` -/
  | read (s : Ptr) (data : Bytes)
  /-- `SendOkay` or `SendFail` on the fd of `s` -/
  | status (s : Ptr) (okay : Bool) (text : Bytes)
  /-- `SendProtocolString` on the fd of `s` -/
  | reply (s : Ptr) (text : Bytes)
  /-- `s` goes on `local_socket_closing_list` with `left` still queued -/
  | closing (s : Ptr) (left : Bytes)
  /-- `local_socket_destroy(s)` with `left` still queued -/
  | destroyed (s : Ptr) (left : Bytes)
  | verified (t : TPtr)
  /-- a public key received on `t` is written to the framework -/
  | forwarded (t : TPtr) (key : Bytes)
  | frameworkOk
  /-- `transport_registration_func` deletes `t` -/
  | deleted (t : TPtr)
deriving DecidableEq, Repr

/-- The state of `sockets.cpp`, with the part of the event loop that concerns sockets. -/
structure Sockets where
  heap : Store ASocket := Store.empty
  localSocketList : List Ptr := []
  localSocketClosingList : List Ptr := []
  localSocketNextId : UInt32 := 1
  gPendingList : List Ptr := []
  deviceTrackerList : List Ptr := []
  os : Os := {}
  trace : List Obs := []

namespace Sockets

def deref (σ : Sockets) (s : Ptr) : Res ASocket :=
  match σ.heap.get s with
  | some a => pure a
  | none => throw .wild

def nonNull (p : Option ℕ) : Res ℕ :=
  match p with
  | some q => pure q
  | none => throw .null

def put (σ : Sockets) (s : Ptr) (a : ASocket) : Sockets := { σ with heap := σ.heap.set s a }

def emit (σ : Sockets) (o : Obs) : Sockets := { σ with trace := σ.trace ++ [o] }

def adbWritev (σ : Sockets) : WriteResult × Sockets :=
  match σ.os.writes with
  | [] => (.eagain, σ)
  | w :: ws => (w, { σ with os := { σ.os with writes := ws } })

def sendPacket (ts : Store ATransport) (p : APacket) (t : Option TPtr) (σ : Sockets) :
    Res Sockets := do
  let t ← nonNull t
  match ts.get t with
  | none => throw .dangling
  | some tr => pure (σ.emit (.sent t (sealPacket p tr)))

def findLocalSocket (localId peerId : UInt32) (σ : Sockets) : Res (Option Ptr) :=
  go σ.localSocketList
where
  go : List Ptr → Res (Option Ptr)
  | [] => pure none
  | s :: rest => do
    let a ← σ.deref s
    if a.id ≠ localId then
      go rest
    else if peerId = 0 then
      pure (some s)
    else
      match a.peer with
      | none => pure none
      | some r => do
        let b ← σ.deref r
        pure (if b.id = peerId then some s else none)

def installLocalSocket (s : Ptr) (σ : Sockets) : Res Sockets := do
  let a ← σ.deref s
  let id := σ.localSocketNextId
  let σ := σ.put s { a with id := id }
  let σ := { σ with localSocketNextId := id + 1 }
  -- socket ids should never be 0
  if σ.localSocketNextId = 0 then
    throw (.fatal .socketIdOverflow)
  else
    pure ({ σ with localSocketList := σ.localSocketList ++ [s] }.emit (.created s id))

def removeSocket (s : Ptr) (σ : Sockets) : Sockets :=
  { σ with
    localSocketList := σ.localSocketList.filter (· ≠ s)
    localSocketClosingList := σ.localSocketClosingList.filter (· ≠ s) }

/-! ## Interest in events -/

def fdeventSet (s : Ptr) (events : Events) (σ : Sockets) : Res Sockets := do
  let a ← σ.deref s
  match a.fde with
  | none => throw .null
  | some f => do
    let f' ← f.set events
    let σ := σ.put s { a with fde := some f' }
    if f.pending && !f'.pending then
      pure { σ with gPendingList := σ.gPendingList.filter (· ≠ s) }
    else
      pure σ

def fdeventAdd (s : Ptr) (events : Events) (σ : Sockets) : Res Sockets := do
  let a ← σ.deref s
  match a.fde with
  | none => throw .null
  | some f => fdeventSet s (f.state.union events) σ

def fdeventDel (s : Ptr) (events : Events) (σ : Sockets) : Res Sockets := do
  let a ← σ.deref s
  match a.fde with
  | none => throw .null
  | some f => fdeventSet s (f.state.diff events) σ

def fdeventDestroy (s : Ptr) (σ : Sockets) : Res Sockets := do
  let a ← σ.deref s
  match a.fde with
  | none => pure σ
  | some f =>
    if f.created then
      if f.pending then
        pure { σ with gPendingList := σ.gPendingList.filter (· ≠ s) }
      else
        pure σ
    else
      throw (.fatal .fdeNotCreated)

/-! ## Closing -/

def localSocketDestroy (s : Ptr) (σ : Sockets) : Res Sockets := do
  let a ← σ.deref s
  let σ ← fdeventDestroy s σ
  let σ := removeSocket s σ
  let σ := { σ with heap := σ.heap.free s }.emit (.destroyed s a.packetQueue.bytes)
  if a.exitOnClose then throw .exit else pure σ

def remoteSocketShutdown (ts : Store ATransport) (s : Ptr) (σ : Sockets) : Res Sockets := do
  let a ← σ.deref s
  let arg0 ← match a.peer with
    | none => pure 0
    | some r => do
      let b ← σ.deref r
      pure b.id
  sendPacket ts { msg := { command := A_CLSE, arg0 := arg0, arg1 := a.id } } a.transport σ

def socketShutdown (ts : Store ATransport) (s : Ptr) (σ : Sockets) : Res Sockets := do
  let a ← σ.deref s
  match a.shutdown with
  | none => pure σ
  | some .remoteSocketShutdown => remoteSocketShutdown ts s σ

/-- The part of the close functions that sends away the peer of `s`, which `shutdown` has
been told of before: `s->peer->peer = nullptr; s->peer->close(s->peer)`. -/
def closePeer (close : Ptr → Sockets → Res Sockets) (r : Ptr) (σ : Sockets) : Res Sockets := do
  let b ← σ.deref r
  close r (σ.put r { b with peer := none })

/-- The end of `local_socket_close`, for a socket that is put on the closing list. -/
def putOnClosingList (s : Ptr) (a : ASocket) (σ : Sockets) : Res Sockets := do
  let σ := σ.put s { a with closing := true }
  let σ ← fdeventDel s Events.FDE_READ σ
  let σ := removeSocket s σ
  let σ := { σ with localSocketClosingList := σ.localSocketClosingList ++ [s] }
  let a ← σ.deref s
  match a.fde with
  | none => throw .null
  | some f => do
    check f.state.write .closingWrite
    pure (σ.emit (.closing s a.packetQueue.bytes))

/-- The part of `local_socket_close` that comes after the peer is gone. -/
def localSocketLeave (s : Ptr) (σ : Sockets) : Res Sockets := do
  let a ← σ.deref s
  if a.disposable then localSocketDestroy s σ else putOnClosingList s a σ

def localSocketClose (ts : Store ATransport) (close : Ptr → Sockets → Res Sockets) (s : Ptr)
    (σ : Sockets) : Res Sockets := do
  let a ← σ.deref s
  match a.peer with
  | none => localSocketLeave s σ
  | some r => do
    -- shutdown comes first, so that a remote socket can still get the id of its peer
    let σ ← socketShutdown ts r σ
    let σ ← closePeer close r σ
    let a ← σ.deref s
    localSocketLeave s (σ.put s { a with peer := none })

/-- `local_socket_close_notify`: the client is told before its socket is closed. -/
def localSocketCloseNotify (ts : Store ATransport) (close : Ptr → Sockets → Res Sockets)
    (s : Ptr) (σ : Sockets) : Res Sockets := do
  let a ← σ.deref s
  let σ := σ.put s
    { a with ready := .localSocketReady, shutdown := none, close := .localSocketClose }
  let σ := σ.emit (.status s false (ascii "closed"))
  localSocketClose ts close s σ

def remoteSocketClose (close : Ptr → Sockets → Res Sockets) (s : Ptr) (σ : Sockets) :
    Res Sockets := do
  let a ← σ.deref s
  let σ ← match a.peer with
    | none => pure σ
    | some r => closePeer close r σ
  pure { σ with heap := σ.heap.free s }

def smartSocketClose (close : Ptr → Sockets → Res Sockets) (s : Ptr) (σ : Sockets) :
    Res Sockets := do
  let a ← σ.deref s
  let σ ← match a.peer with
    | none => pure σ
    | some r => do
      let σ ← closePeer close r σ
      let a ← σ.deref s
      pure (σ.put s { a with peer := none })
  pure { σ with heap := σ.heap.free s }

def deviceTrackerClose (close : Ptr → Sockets → Res Sockets) (s : Ptr) (σ : Sockets) :
    Res Sockets := do
  let a ← σ.deref s
  let σ ← match a.peer with
    | none => pure σ
    | some r => closePeer close r σ
  -- device_tracker_remove
  let σ := { σ with deviceTrackerList := σ.deviceTrackerList.filter (· ≠ s) }
  pure { σ with heap := σ.heap.free s }

/-- `s->close(s)`, following at most `depth` nested calls. -/
def closeFn (ts : Store ATransport) : ℕ → Ptr → Sockets → Res Sockets
  | 0, _, _ => throw .depth
  | depth + 1, s, σ => do
    let a ← σ.deref s
    match a.close with
    | .localSocketClose => localSocketClose ts (closeFn ts depth) s σ
    | .localSocketCloseNotify => localSocketCloseNotify ts (closeFn ts depth) s σ
    | .remoteSocketClose => remoteSocketClose (closeFn ts depth) s σ
    | .smartSocketClose => smartSocketClose (closeFn ts depth) s σ
    | .deviceTrackerClose => deviceTrackerClose (closeFn ts depth) s σ

/-- `s->close(s)`. A close calls the close of the peer, and that one finds no peer. -/
def socketClose (ts : Store ATransport) (s : Ptr) (σ : Sockets) : Res Sockets := closeFn ts 2 s σ

/-- `s->transport == t || (s->peer && s->peer->transport == t)`. -/
def attached (t : TPtr) (s : Ptr) (σ : Sockets) : Bool :=
  match σ.heap.get s with
  | none => false
  | some a =>
    a.transport == some t ||
      match a.peer with
      | none => false
      | some r =>
        match σ.heap.get r with
        | none => false
        | some b => b.transport == some t

/-- `close_all_sockets`: every pass over the list closes one socket and starts again, so
the length of the list bounds the number of passes. -/
def closeAllSockets (ts : Store ATransport) (t : TPtr) : ℕ → Sockets → Res Sockets
  | 0, σ => pure σ
  | passes + 1, σ =>
    match σ.localSocketList.find? (fun s => attached t s σ) with
    | none => pure σ
    | some s => do
      let σ ← socketClose ts s σ
      closeAllSockets ts t passes σ

/-! ## Writing to the fd of a local socket -/

inductive SocketFlushResult
  | destroyed
  | tryAgain
  | completed
deriving DecidableEq, Repr

/-- The end of `local_socket_flush_incoming`, when there is nothing left to wait for. -/
def flushIncomingDone (ts : Store ATransport) (s : Ptr) (σ : Sockets) :
    Res (SocketFlushResult × Sockets) := do
  let a ← σ.deref s
  -- if we sent the last packet of a closing socket, we can now destroy it
  if a.closing then do
    let σ ← socketClose ts s σ
    pure (.destroyed, σ)
  else do
    let σ ← fdeventDel s Events.FDE_WRITE σ
    pure (.completed, σ)

def localSocketFlushIncoming (ts : Store ATransport) (s : Ptr) (σ : Sockets) :
    Res (SocketFlushResult × Sockets) := do
  let a ← σ.deref s
  if a.packetQueue.empty then
    flushIncomingDone ts s σ
  else do
    let _ ← a.packetQueue.iovecs
    let (rc, σ) := σ.adbWritev
    match rc with
    | .wrote n =>
      -- the kernel accepts at most what it is given
      let rc := min n a.packetQueue.size
      if rc = 0 then
        flushIncomingDone ts s ((σ.put s { a with hasWriteError := true }).emit (.writeFailed s))
      else
        let σ := σ.emit (.wrote s (a.packetQueue.bytes.take rc))
        if rc = a.packetQueue.size then
          flushIncomingDone ts s (σ.put s { a with packetQueue := a.packetQueue.clear })
        else do
          let (_, queue) ← a.packetQueue.takeFront rc
          let σ ← fdeventAdd s Events.FDE_WRITE (σ.put s { a with packetQueue := queue })
          pure (.tryAgain, σ)
    | .eagain => do
      let σ ← fdeventAdd s Events.FDE_WRITE σ
      pure (.tryAgain, σ)
    | .failed =>
      -- we may still be able to read from the socket, so it is not closed here
      flushIncomingDone ts s ((σ.put s { a with hasWriteError := true }).emit (.writeFailed s))

def localSocketEnqueue (ts : Store ATransport) (s : Ptr) (data : Bytes) (σ : Sockets) :
    Res (Int × Sockets) := do
  let a ← σ.deref s
  let queue ← a.packetQueue.append data
  let σ := (σ.put s { a with packetQueue := queue }).emit (.enqueued s data)
  let (result, σ) ← localSocketFlushIncoming ts s σ
  match result with
  | .destroyed => pure (-1, σ)
  | .tryAgain => pure (1, σ)
  | .completed => pure (0, σ)

/-! ## The other callbacks -/

def localSocketReady (s : Ptr) (σ : Sockets) : Res Sockets := fdeventAdd s Events.FDE_READ σ

def localSocketReadyNotify (s : Ptr) (σ : Sockets) : Res Sockets := do
  let a ← σ.deref s
  let σ := σ.put s
    { a with ready := .localSocketReady, shutdown := none, close := .localSocketClose }
  localSocketReady s (σ.emit (.status s true []))

def remoteSocketEnqueue (ts : Store ATransport) (s : Ptr) (data : Bytes) (σ : Sockets) :
    Res (Int × Sockets) := do
  let a ← σ.deref s
  let r ← nonNull a.peer
  let b ← σ.deref r
  if data.length > maxPayload then
    pure (-1, σ)
  else do
    let p : APacket :=
      { msg :=
          { command := A_WRTE, arg0 := b.id, arg1 := a.id, dataLength := .ofNat data.length }
        payload := data }
    let σ ← sendPacket ts p a.transport σ
    pure (1, σ)

def remoteSocketReady (ts : Store ATransport) (s : Ptr) (σ : Sockets) : Res Sockets := do
  let a ← σ.deref s
  let r ← nonNull a.peer
  let b ← σ.deref r
  sendPacket ts { msg := { command := A_OKAY, arg0 := b.id, arg1 := a.id } } a.transport σ

/-- `device_tracker_enqueue`: nothing can be written to a tracker, so it is closed. -/
def deviceTrackerEnqueue (ts : Store ATransport) (s : Ptr) (σ : Sockets) :
    Res (Int × Sockets) := do
  let σ ← deviceTrackerClose (closeFn ts 2) s σ
  pure (-1, σ)

def hex4 (n : ℕ) : Bytes :=
  let digits := (Nat.toDigits 16 n).map fun c => c.toNat.toUInt8
  List.replicate (4 - digits.length) 48 ++ digits

/-- The frame of `device_tracker_send`: the size, as an `int`, is printed into a buffer of five
characters, and four of them are used. -/
def trackerFrame (text : Bytes) : Bytes :=
  (hex4 (UInt32.ofNat text.length).toNat).take 4 ++ text

/-- `device_tracker_send`. The peer of a tracker is the local socket of its client, so the
`enqueue` of a smart socket, which is defined above this layer, is never called here. -/
def deviceTrackerSend (ts : Store ATransport) (s : Ptr) (text : Bytes) (σ : Sockets) :
    Res (Int × Sockets) := do
  let a ← σ.deref s
  let r ← nonNull a.peer
  let data := trackerFrame text
  let b ← σ.deref r
  match b.enqueue with
  | .localSocketEnqueue => localSocketEnqueue ts r data σ
  | .remoteSocketEnqueue => remoteSocketEnqueue ts r data σ
  | .deviceTrackerEnqueue => deviceTrackerEnqueue ts r σ
  | .smartSocketEnqueue => throw .depth

/-- `device_tracker_ready`: the list goes out when the tracker connects. `listing` is
`list_transports`. -/
def deviceTrackerReady (ts : Store ATransport) (listing : Bool → Bytes) (s : Ptr)
    (σ : Sockets) : Res Sockets := do
  let a ← σ.deref s
  if a.updateNeeded then do
    let σ := σ.put s { a with updateNeeded := false }
    let (_, σ) ← deviceTrackerSend ts s (listing a.longOutput) σ
    pure σ
  else
    pure σ

def socketReady (ts : Store ATransport) (listing : Bool → Bytes) (s : Ptr) (σ : Sockets) :
    Res Sockets := do
  let a ← σ.deref s
  match a.ready with
  | .localSocketReady => localSocketReady s σ
  | .localSocketReadyNotify => localSocketReadyNotify s σ
  | .remoteSocketReady => remoteSocketReady ts s σ
  | .smartSocketReady => pure σ
  | .deviceTrackerReady => deviceTrackerReady ts listing s σ

/-! ## Creation -/

def createLocalSocket (σ : Sockets) : Res (Ptr × Sockets) := do
  let s := σ.heap.next
  let a : ASocket :=
    { enqueue := .localSocketEnqueue
      ready := .localSocketReady
      close := .localSocketClose }
  let σ ← installLocalSocket s { σ with heap := σ.heap.alloc a }
  -- fdevent_create
  let a ← σ.deref s
  pure (s, σ.put s { a with fde := some {} })

def createRemoteSocket (id : UInt32) (t : TPtr) (σ : Sockets) : Res (Ptr × Sockets) :=
  if id = 0 then
    throw (.fatal .remoteSocketId)
  else
    let a : ASocket :=
      { id := id
        enqueue := .remoteSocketEnqueue
        ready := .remoteSocketReady
        shutdown := some .remoteSocketShutdown
        close := .remoteSocketClose
        transport := some t }
    pure (σ.heap.next, { σ with heap := σ.heap.alloc a })

def createSmartSocket (σ : Sockets) : Ptr × Sockets :=
  let a : ASocket :=
    { enqueue := .smartSocketEnqueue
      ready := .smartSocketReady
      close := .smartSocketClose }
  (σ.heap.next, { σ with heap := σ.heap.alloc a })

def createDeviceTracker (longOutput : Bool) (σ : Sockets) : Ptr × Sockets :=
  let a : ASocket :=
    { enqueue := .deviceTrackerEnqueue
      ready := .deviceTrackerReady
      close := .deviceTrackerClose
      updateNeeded := true
      longOutput := longOutput }
  (σ.heap.next,
    { σ with
      heap := σ.heap.alloc a
      deviceTrackerList := σ.heap.next :: σ.deviceTrackerList })

def connectPeers (s r : Ptr) (σ : Sockets) : Res Sockets := do
  let a ← σ.deref s
  let σ := σ.put s { a with peer := some r }
  let b ← σ.deref r
  pure (σ.put r { b with peer := some s })

def getMaxPayload (ts : Store ATransport) (a : ASocket) (σ : Sockets) : Res ℕ := do
  let own ← limit a.transport
  match a.peer with
  | none => pure own
  | some r => do
    let b ← σ.deref r
    let other ← limit b.transport
    pure (min own other)
where
  /-- `MAX_PAYLOAD`, or less when the transport accepts less. -/
  limit : Option TPtr → Res ℕ
  | none => pure maxPayload
  | some t =>
    match ts.get t with
    | none => throw .dangling
    | some tr => pure (min maxPayload tr.maxPayload)

def connectToRemote (ts : Store ATransport) (s : Ptr) (destination : Bytes) (σ : Sockets) :
    Res Sockets := do
  let a ← σ.deref s
  -- adbd expects a null-terminated string
  let payload := destination ++ [0]
  let p : APacket :=
    { msg := { command := A_OPEN, arg0 := a.id, dataLength := .ofNat payload.length }
      payload := payload }
  let limit ← getMaxPayload ts a σ
  if p.msg.dataLength.toNat > limit then
    throw (.fatal .destinationOversized)
  else do
    let σ ← sendPacket ts p a.transport σ
    pure (σ.emit (.opened s a.id))

end Sockets

end Adb

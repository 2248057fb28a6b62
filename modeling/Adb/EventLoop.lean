import Adb.Lib.Run
import Adb.SmartSocket

/-!
# The event loop

`fdevent_process` collects what `poll` reports, `fdevent_call_fdfunc` calls the function of one
pending fdevent. A `Callback` is one thing the main thread does between two looks at its queues, or
one thing another thread does to them; `step` executes it.
-/

namespace Adb

open Lib

namespace Server

/-! ## `local_socket_event_func` -/

/-- What the read loop of `local_socket_flush_outgoing` has come to. -/
structure ReadLoop where
  data : Bytes := []
  isEof : Bool := false
  rest : List ReadResult := []
deriving DecidableEq, Repr

/-- The `while (avail > 0)` loop of `local_socket_flush_outgoing`; `adb_read` returns at most
`avail` bytes, and no bytes at all is the end of the file. -/
def readLoop : ℕ → Bytes → List ReadResult → ReadLoop
  | _, data, [] => { data := data }
  | avail, data, r :: rest =>
    if avail = 0 then { data := data, rest := r :: rest }
    else
      match r with
      | .data bs =>
        let bs := bs.take avail
        if bs.isEmpty then { data := data, isEof := true, rest := rest }
        else readLoop (avail - bs.length) (data ++ bs) rest
      | .eagain => { data := data, rest := rest }
      | .eof => { data := data, isEof := true, rest := rest }
      | .error => { data := data, isEof := true, rest := rest }

def socketEnqueue (cfg : Config) (r : Ptr) (data : Bytes) (σ : Server) : Res (Int × Server) := do
  let b ← σ.socks.deref r
  let lift := fun (x : Res (Int × Sockets)) => do
    let (rc, socks) ← x
    pure (rc, { σ with socks := socks })
  match b.enqueue with
  | .localSocketEnqueue => lift (Sockets.localSocketEnqueue σ.transports r data σ.socks)
  | .remoteSocketEnqueue => lift (Sockets.remoteSocketEnqueue σ.transports r data σ.socks)
  | .smartSocketEnqueue => smartSocketEnqueue cfg r data σ
  | .deviceTrackerEnqueue => lift (Sockets.deviceTrackerEnqueue σ.transports r σ.socks)

def closeOnEof (s : Ptr) (isEof : Bool) (σ : Server) : Res Server :=
  if isEof then onSockets (fun ts => Sockets.socketClose ts s) σ else pure σ

/-- `local_socket_flush_outgoing`. Whether the socket has been closed does not matter to the
caller, which does nothing more in either case. -/
def localSocketFlushOutgoing (cfg : Config) (s : Ptr) (σ : Server) : Res Server := do
  let a ← σ.socks.deref s
  let limit ← Sockets.getMaxPayload σ.transports a σ.socks
  let loop := readLoop limit [] σ.socks.os.reads
  let socks := { σ.socks with os := { σ.socks.os with reads := loop.rest } }
  if loop.data.isEmpty then
    closeOnEof s loop.isEof { σ with socks := socks }
  else
    let σ := { σ with socks := socks.emit (.read s loop.data) }
    match a.peer with
    | none => closeOnEof s loop.isEof σ
    | some r => do
      let (rc, σ) ← socketEnqueue cfg r loop.data σ
      if rc < 0 then
        -- the peer has closed us as a side-effect
        pure σ
      else do
        let σ ← if rc > 0 then
            -- no READ events until ready() is called
            onSockets (fun _ => Sockets.fdeventDel s Events.FDE_READ) σ
          else pure σ
        closeOnEof s loop.isEof σ

def readEvent (cfg : Config) (s : Ptr) (ev : Events) (σ : Server) : Res Server :=
  if ev.read then localSocketFlushOutgoing cfg s σ else pure σ

def localSocketEventFunc (cfg : Config) (s : Ptr) (ev : Events) (σ : Server) : Res Server :=
  if ev.write then do
    let (result, socks) ← Sockets.localSocketFlushIncoming σ.transports s σ.socks
    let σ := { σ with socks := socks }
    match result with
    | .destroyed => pure σ
    | .tryAgain => readEvent cfg s ev σ
    | .completed => do
      let a ← σ.socks.deref s
      let r ← Sockets.nonNull a.peer
      let σ ← onSockets (fun ts => Sockets.socketReady ts (σ.listTransports cfg) r) σ
      readEvent cfg s ev σ
  else
    readEvent cfg s ev σ

/-! ## `fdevent_process` and `fdevent_call_fdfunc` -/

/-- One fd of `fdevent_process`; every fd is looked at once. -/
def processFd (s : Ptr) (r : Revents) (socks : Sockets) : Sockets :=
  match socks.heap.get s with
  | none => socks
  | some a =>
    match a.fde with
    | none => socks
    | some f =>
      match f.node with
      | none => socks
      | some node =>
        let events := (r.reported node).toEvents
        if f.pending || events == Events.none then
          socks
        else
          let f := { f with events := f.events.union events, pending := true }
          { socks.put s { a with fde := some f } with
            gPendingList := socks.gPendingList ++ [s] }

def fdeventProcess (revents : List (Ptr × Revents)) (socks : Sockets) : Sockets :=
  revents.foldl (fun socks sr => processFd sr.1 sr.2 socks) socks

/-- `fdevent_call_fdfunc`, for the first fdevent of `g_pending_list`. -/
def fdeventCallFdfunc (cfg : Config) (σ : Server) : Res Server :=
  match σ.socks.gPendingList with
  | [] => pure σ
  | s :: rest => do
    let socks := { σ.socks with gPendingList := rest }
    let a ← socks.deref s
    match a.fde with
    | none => throw .null
    | some f => do
      check f.pending .fdePending
      let socks := socks.put s
        { a with fde := some { f with events := Events.none, pending := false } }
      localSocketEventFunc cfg s f.events { σ with socks := socks }

/-! ## Listener events -/

def listenerEvent (cfg : Config) (l : ℕ) (σ : Server) : Res Server :=
  match σ.listenerList.find? (·.num = l) with
  | none => pure σ
  | some listener => do
    let (s, socks) ← σ.socks.createLocalSocket
    match listener.func with
    | .ssListenerEventFunc => do
      let socks ← connectToSmartsocket σ.transports (σ.listTransports cfg) s socks
      pure { σ with socks := socks }
    | .listenerEventFunc => do
      let a ← socks.deref s
      let socks := socks.put s { a with transport := listener.transport }
      let socks ← Sockets.connectToRemote σ.transports s (cString listener.connectTo) socks
      pure { σ with socks := socks }

/-! ## Steps -/

inductive Callback
  /-- `handle_packet(p, t)` from the run queue -/
  | packet (t : TPtr) (p : APacket)
  | error (t : TPtr)
  /-- `fdevent_process`, with what `poll` reports for the fds of sockets -/
  | poll (revents : List (Ptr × Revents))
  /-- the function of the next pending fdevent -/
  | event
  /-- a client connects to the listener `l` -/
  | accept (l : ℕ)
  | frameworkConnect
  /-- the framework sends `response`, or closes its socket -/
  | frameworkReply (response : Bytes)
  | registration
  /-- `register_usb_transport`, from the USB thread -/
  | usbDevice (serial devpath : Bytes) (writeable : Bool)
  /-- `unregister_usb_transport`, from the USB thread -/
  | usbGone (t : TPtr)
  /-- `register_socket_transport`, from a thread that has made a connection -/
  | tcpDevice (serial : Bytes)
  | kick (t : TPtr)
  /-- a wake-up of the reconnect thread -/
  | reconnectScan (due : Option ℕ)
  | reconnectResult (r : ReconnectResult)
deriving DecidableEq

def callback (cfg : Config) : Callback → Server → Res Server
  | .packet t p, σ => handlePacket cfg t p σ
  | .error t, σ => errorCallback cfg t σ
  | .poll revents, σ => pure { σ with socks := fdeventProcess revents σ.socks }
  | .event, σ => fdeventCallFdfunc cfg σ
  | .accept l, σ => listenerEvent cfg l σ
  | .frameworkConnect, σ => if cfg.host then pure σ else adbdAuthListener σ
  | .frameworkReply response, σ =>
    if cfg.host || !σ.frameworkFd then pure σ else adbdAuthEvent cfg response σ
  | .registration, σ => transportRegistrationFunc cfg σ
  | .usbDevice serial devpath writeable, σ => pure (registerUsbTransport serial devpath writeable σ)
  | .usbGone t, σ => pure (unregisterUsbTransport t σ)
  | .tcpDevice serial, σ => pure (registerSocketTransport serial σ)
  | .kick t, σ => kickTransport t σ
  | .reconnectScan due, σ => if cfg.host then reconnectScan due σ else pure σ
  | .reconnectResult r, σ => if cfg.host then reconnectResult r σ else pure σ

/-- The main loop comes to this callback only when no fdevent is pending. -/
def Callback.waits : Callback → Bool
  | .packet _ _ | .error _ | .poll _ => true
  | _ => false

structure Input where
  callback : Callback
  os : Os := {}
deriving DecidableEq

/-- One step of the process. A callback whose turn has not come changes nothing. -/
def step (cfg : Config) (i : Input) (σ : Server) : Res Server :=
  if i.callback.waits && !σ.socks.gPendingList.isEmpty then
    pure σ
  else
    callback cfg i.callback { σ with socks := { σ.socks with os := i.os } }

def run (cfg : Config) (inputs : List Input) (σ : Server) : Res Server :=
  runs (step cfg) inputs σ

def init (name : Bytes) : Server :=
  { listenerList :=
      [{ num := 0
         func := .ssListenerEventFunc
         localName := name
         connectTo := ascii "*smartsocket*" }]
    nextListener := 1 }

end Server

end Adb

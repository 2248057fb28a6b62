import Adb.Sockets

/-!
# The server state

Everything the main thread works on: the sockets, the transports with their lists, the listeners,
the authentication state of `adbd`, the run queue, and the two channels by which other threads reach
the main thread. Host server and `adbd` are one program compiled with `ADB_HOST` set or not
(`Config.host`).
-/

namespace Adb

open Lib

/-- What is fixed for a run, and the functions on data that no property looks into. -/
structure Config where
  host : Bool
  authRequired : Bool := true
  root : Bool := false
  /-- `get_connection_string()` -/
  connectionString : Bytes := []
  /-- the text of `list_transports`, from the transports in the list -/
  listTransports : Bool → List ATransport → Bytes := fun _ _ => []
  /-- `atransport::MatchesTarget` -/
  matchesTarget : ATransport → Bytes → Bool := fun t target => t.serial == target
  /-- `android::base::ParseNetAddress`: the canonical address, or the error -/
  parseNetAddress : Bytes → Except Bytes Bytes := .ok
  /-- `RSA_verify` on a key, a token and a signature -/
  rsaVerify : Bytes → Bytes → Bytes → Bool := fun _ _ _ => false
  /-- `UsbNoPermissionsShortHelpText()` -/
  usbNoPermissionsShort : Bytes := []
  /-- `UsbNoPermissionsLongHelpText()` -/
  usbNoPermissionsLong : Bytes := []
  /-- `getenv("ADB_VENDOR_KEYS")` -/
  vendorKeys : Option Bytes := none
  /-- `FeatureSetToString(features)` of the `host-features` request -/
  hostFeatures : Bytes := []

def Config.adb : Config := { host := true }

def Config.adbd : Config := { host := false }

inductive ListenerFn
  | ssListenerEventFunc
  | listenerEventFunc
deriving DecidableEq, Repr

structure AListener where
  num : ℕ
  func : ListenerFn
  localName : Bytes
  connectTo : Bytes
  transport : Option TPtr := none
deriving DecidableEq, Repr

/-- The closures that are queued with `fdevent_run_on_main_thread`. -/
inductive RunFn
  /-- `handle_packet(packet, t)` -/
  | packet (t : TPtr) (p : APacket)
  /-- `handle_offline(t); transport_unref(t)` -/
  | error (t : TPtr)
deriving DecidableEq, Repr

inductive TMsg
  | register (t : TPtr)
  | remove (t : TPtr)
deriving DecidableEq, Repr

structure ReconnectAttempt where
  transport : TPtr
  attemptsLeft : ℕ
deriving DecidableEq, Repr

structure Server where
  socks : Sockets := {}
  transports : Store ATransport := Store.empty
  nextTransportId : ℕ := 1
  transportList : List TPtr := []
  pendingList : List TPtr := []
  listenerList : List AListener := []
  nextListener : ℕ := 0
  usbTransport : Option TPtr := none
  needsRetry : Bool := false
  frameworkFd : Bool := false
  runQueue : List RunFn := []
  registration : List TMsg := []
  reconnectQueue : List ReconnectAttempt := []
  /-- the attempt the reconnect thread is working on -/
  reconnecting : Option ReconnectAttempt := none

namespace Server

def transport (σ : Server) (t : TPtr) : Res ATransport :=
  match σ.transports.get t with
  | some tr => pure tr
  | none => throw .dangling

def setTransport (σ : Server) (t : TPtr) (tr : ATransport) : Server :=
  { σ with transports := σ.transports.set t tr }

def emit (σ : Server) (o : Obs) : Server := { σ with socks := σ.socks.emit o }

def onSockets (f : Store ATransport → Sockets → Res Sockets) (σ : Server) : Res Server := do
  let socks ← f σ.transports σ.socks
  pure { σ with socks := socks }

def sendPacket (p : APacket) (t : TPtr) (σ : Server) : Res Server :=
  onSockets (fun ts => Sockets.sendPacket ts p (some t)) σ

def sendReady (loc remote : UInt32) (t : TPtr) (σ : Server) : Res Server :=
  sendPacket { msg := { command := A_OKAY, arg0 := loc, arg1 := remote } } t σ

def sendClose (loc remote : UInt32) (t : TPtr) (σ : Server) : Res Server :=
  sendPacket { msg := { command := A_CLSE, arg0 := loc, arg1 := remote } } t σ

def listTransports (cfg : Config) (σ : Server) (long : Bool) : Bytes :=
  cfg.listTransports long (σ.transportList.filterMap σ.transports.get)

/-! ## Connections -/

/-- `BlockingConnectionAdapter::Stop`. Both threads are joined, and the error callback has
been queued when it comes back, by one of them or by `Stop` itself. -/
def connectionStop (t : TPtr) (σ : Server) : Res Server := do
  let tr ← σ.transport t
  let c := tr.connection
  if !c.started || c.stopped then
    pure σ
  else
    let σ := σ.setTransport t { tr with connection := { c with stopped := true, errorFlag := true } }
    pure (if c.errorFlag then σ else { σ with runQueue := σ.runQueue ++ [.error t] })

def kick (t : TPtr) (σ : Server) : Res Server := do
  let tr ← σ.transport t
  if tr.kicked then
    pure σ
  else
    connectionStop t (σ.setTransport t { tr with kicked := true })

def kickTransport (t : TPtr) (σ : Server) : Res Server :=
  if t ∈ σ.transportList then kick t σ else pure σ

def kickAll (select : ATransport → Bool) : List TPtr → Server → Res Server
  | [], σ => pure σ
  | t :: rest, σ => do
    let tr ← σ.transport t
    let σ ← if select tr then kick t σ else pure σ
    kickAll select rest σ

def kickAllTcpDevices (σ : Server) : Res Server :=
  kickAll ATransport.isTcpDevice σ.transportList σ

/-! ## Device trackers -/

def updateTrackers (ts : Store ATransport) (text : Bytes) : List Ptr → Sockets → Res Sockets
  | [], σ => pure σ
  | tracker :: rest, σ => do
    let (_, σ) ← Sockets.deviceTrackerSend ts tracker text σ
    updateTrackers ts text rest σ

def updateTransports (cfg : Config) (σ : Server) : Res Server :=
  if cfg.host then
    let text := σ.listTransports cfg false
    onSockets (fun ts socks => updateTrackers ts text socks.deviceTrackerList socks) σ
  else
    pure σ

/-! ## Going online and offline -/

def listenerDisconnect (l : ℕ) (σ : Server) : Server :=
  { σ with listenerList := σ.listenerList.eraseP (·.num = l) }

def usbDisconnected (σ : Server) : Server := { σ with usbTransport := none, needsRetry := false }

def runDisconnectFuncs : List Disconnect → Server → Server
  | [], σ => σ
  | .listener l :: rest, σ => runDisconnectFuncs rest (listenerDisconnect l σ)
  | .usb :: rest, σ => runDisconnectFuncs rest (usbDisconnected σ)

def runDisconnects (t : TPtr) (σ : Server) : Res Server := do
  let tr ← σ.transport t
  let σ := runDisconnectFuncs tr.disconnects σ
  pure (σ.setTransport t { tr with disconnects := [] })

def handleOnline (t : TPtr) (σ : Server) : Res Server := do
  let tr ← σ.transport t
  pure (σ.setTransport t { tr with online := true })

def handleOffline (t : TPtr) (σ : Server) : Res Server := do
  let tr ← σ.transport t
  if tr.connectionState = .kCsOffline then
    -- already offline
    pure σ
  else do
    let σ := σ.setTransport t { tr with connectionState := .kCsOffline, online := false }
    let σ ← onSockets
      (fun ts socks => Sockets.closeAllSockets ts t socks.localSocketList.length socks) σ
    runDisconnects t σ

def sendConnect (cfg : Config) (t : TPtr) (σ : Server) : Res Server := do
  let tr ← σ.transport t
  -- connect and auth packets are limited to MAX_PAYLOAD_V1
  if cfg.connectionString.length > maxPayloadV1 then
    throw (.fatal .bannerTooLong)
  else
    sendPacket
      { msg :=
          { command := A_CNXN
            arg0 := A_VERSION
            arg1 := .ofNat tr.maxPayload
            dataLength := .ofNat cfg.connectionString.length }
        payload := cfg.connectionString } t σ

/-! ## The life of a transport -/

def transportUnref (cfg : Config) (t : TPtr) (σ : Server) : Res Server := do
  let tr ← σ.transport t
  check (tr.refCount != 0) .refCount
  let σ := σ.setTransport t { tr with refCount := tr.refCount - 1 }
  if tr.refCount - 1 = 0 then do
    let σ ← connectionStop t σ
    if cfg.host && tr.isTcpDevice && !tr.kicked then
      -- TrackTransport, with kMaxAttempts
      pure { σ with reconnectQueue := σ.reconnectQueue ++ [⟨t, 6⟩] }
    else
      pure { σ with registration := σ.registration ++ [.remove t] }
  else
    pure σ

/-- The error callback of a connection, as it runs on the main thread. -/
def errorCallback (cfg : Config) (t : TPtr) (σ : Server) : Res Server := do
  let σ ← handleOffline t σ
  transportUnref cfg t σ

def connectionStart (t : TPtr) (σ : Server) : Res Server := do
  let tr ← σ.transport t
  if tr.connection.started then
    throw (.fatal .startedTwice)
  else
    pure (σ.setTransport t { tr with connection := { tr.connection with started := true } })

/-- `transport_registration_func` on action 0. The destructor of the connection stops it. -/
def removeTransport (cfg : Config) (t : TPtr) (σ : Server) : Res Server := do
  let σ := { σ with transportList := σ.transportList.filter (· ≠ t) }
  let σ ← connectionStop t σ
  let σ := { σ with transports := σ.transports.free t }.emit (.deleted t)
  updateTransports cfg σ

/-- The part of `transport_registration_func` that starts the connection of `t`. -/
def startTransport (cfg : Config) (t : TPtr) (σ : Server) : Res Server := do
  let tr ← σ.transport t
  -- no threads for inaccessible devices
  if tr.connectionState ≠ .kCsNoPerm then do
    -- the connection gets a reference, and gives it back on a read or write error
    let σ := σ.setTransport t { tr with refCount := tr.refCount + 1 }
    let σ ← connectionStart t σ
    if cfg.host then sendConnect cfg t σ else pure σ
  else
    pure σ

def registerTransport (cfg : Config) (t : TPtr) (σ : Server) : Res Server := do
  let σ ← startTransport cfg t σ
  let σ := if t ∈ σ.pendingList then
      { σ with
        pendingList := σ.pendingList.filter (· ≠ t)
        transportList := t :: σ.transportList }
    else σ
  updateTransports cfg σ

/-- `transport_registration_func`, for the first message that waits. -/
def transportRegistrationFunc (cfg : Config) (σ : Server) : Res Server :=
  match σ.registration with
  | [] => pure σ
  | .remove t :: rest => removeTransport cfg t { σ with registration := rest }
  | .register t :: rest => registerTransport cfg t { σ with registration := rest }

/-- A new `atransport`, on the pending list and with its registration message sent: the end
of `register_usb_transport` and of `register_socket_transport`. -/
def addTransport (tr : ATransport) (σ : Server) : Server :=
  let t := σ.transports.next
  { σ with
    transports := σ.transports.alloc { tr with id := σ.nextTransportId }
    nextTransportId := σ.nextTransportId + 1
    pendingList := t :: σ.pendingList
    registration := σ.registration ++ [.register t] }

def registerUsbTransport (serial devpath : Bytes) (writeable : Bool) (σ : Server) : Server :=
  addTransport
    { connectionState := if writeable then .kCsOffline else .kCsNoPerm
      type := .kTransportUsb
      serial := serial
      devpath := devpath } σ

/-- `register_socket_transport`, up to the wait for the connection. A serial that is on one
of the lists is refused; the object made for it is deleted again. -/
def registerSocketTransport (serial : Bytes) (σ : Server) : Server :=
  let known := fun t => (σ.transports.get t).any fun tr => tr.serial == serial
  if σ.pendingList.any known || σ.transportList.any known then
    { σ with nextTransportId := σ.nextTransportId + 1 }
  else
    addTransport
      { connectionState := .kCsOffline
        type := .kTransportLocal
        serial := serial } σ

def unregisterUsbTransport (t : TPtr) (σ : Server) : Server :=
  match σ.transports.get t with
  | none => σ
  | some tr =>
    if tr.type = .kTransportUsb ∧ tr.connectionState = .kCsNoPerm then
      { σ with transportList := σ.transportList.filter (· ≠ t) }
    else σ

/-! ## The reconnect thread -/

inductive ReconnectResult
  | retry
  | success
  | abort
deriving DecidableEq, Repr

/-- The scan of `ReconnectHandler::Run` for kicked transports. -/
def removeKicked : List ReconnectAttempt → Server → Res (List ReconnectAttempt × Server)
  | [], σ => pure ([], σ)
  | attempt :: rest, σ => do
    let tr ← σ.transport attempt.transport
    if tr.kicked then
      removeKicked rest { σ with registration := σ.registration ++ [.remove attempt.transport] }
    else do
      let (kept, σ) ← removeKicked rest σ
      pure (attempt :: kept, σ)

/-- One wake-up of `ReconnectHandler::Run`: kicked transports are given up, then the attempt
whose time has come, if there is one, is taken off the queue. -/
def reconnectScan (due : Option ℕ) (σ : Server) : Res Server :=
  match σ.reconnecting with
  | some _ => pure σ
  | none => do
    let (queue, σ) ← removeKicked σ.reconnectQueue σ
    match due with
    | none => pure { σ with reconnectQueue := queue }
    | some i => pure { σ with reconnectQueue := queue.eraseIdx i, reconnecting := queue[i]? }

/-- What `ReconnectHandler::Run` does with the result of an attempt. A success has given the
transport a new connection. -/
def reconnectResult (r : ReconnectResult) (σ : Server) : Res Server :=
  match σ.reconnecting with
  | none => pure σ
  | some attempt => do
    let t := attempt.transport
    let σ := { σ with reconnecting := none }
    match r with
    | .retry =>
      if attempt.attemptsLeft = 0 then
        pure { σ with registration := σ.registration ++ [.remove t] }
      else
        pure { σ with
          reconnectQueue := σ.reconnectQueue ++ [⟨t, attempt.attemptsLeft - 1⟩] }
    | .success => do
      let tr ← σ.transport t
      let σ := σ.setTransport t { tr with connection := {} }
      pure { σ with registration := σ.registration ++ [.register t] }
    | .abort => pure { σ with registration := σ.registration ++ [.remove t] }

end Server

end Adb

import Adb.HandlePacket

/-!
# Smart sockets and host requests

A client of the server talks to a smart socket first. `smartSocketEnqueue` collects a
length-prefixed request and serves it: a request to the host itself, the choice of a transport, or a
service of the device, for which the client's socket is handed over.
-/

namespace Adb

open Lib

/-! ## Reading requests -/

def hexDigit (c : UInt8) : Option ℕ :=
  if 48 ≤ c ∧ c ≤ 57 then some (c.toNat - 48)
  else if 97 ≤ c ∧ c ≤ 102 then some (c.toNat - 97 + 10)
  else if 65 ≤ c ∧ c ≤ 70 then some (c.toNat - 65 + 10)
  else none

def unhex (s : Bytes) (len : ℕ) : ℕ :=
  go 0 (s.take len)
where
  go (n : ℕ) : Bytes → ℕ
  | [] => n
  | c :: rest =>
    match hexDigit c with
    | none => 0xffffffff
    | some d => go (n * 16 + d) rest

def isDigit (c : UInt8) : Bool := 48 ≤ c && c ≤ 57

def strchr (s : Bytes) (c : UInt8) : Option ℕ := s.idxOf? c

def skipHostSerial (service : Bytes) : Option ℕ :=
  match [ascii "usb:", ascii "product:", ascii "model:", ascii "device:"].find?
      (·.isPrefixOf service) with
  | some scheme => (strchr (service.drop scheme.length) 58).map (· + scheme.length)
  | none =>
    -- for fastboot compatibility, ignore protocols
    let start :=
      if (ascii "tcp:").isPrefixOf service || (ascii "udp:").isPrefixOf service then 4 else 0
    -- an IPv6 address has [] delimiters
    let start :=
      if (service.drop start).head? = some 91 then
        ((strchr (service.drop start) 93).map (· + start)).getD start
      else start
    match strchr (service.drop start) 58 with
    | none => none
    | some colon =>
      let colon := start + colon
      -- digits up to another colon are a port
      let digits := ((service.drop (colon + 1)).takeWhile isDigit).length
      if 0 < digits ∧ (service.drop (colon + 1 + digits)).head? = some 58 then
        some (colon + 1 + digits)
      else
        some colon

/-- `strtoll(s, &end, 10)`: the value, as a `TransportId`, and the rest. -/
def strtoll (s : Bytes) : ℕ × Bytes :=
  let t := s.dropWhile fun c => c = 32 || (9 ≤ c && c ≤ 13)
  let negative := t.head? = some 45
  let u := if negative || t.head? = some 43 then t.tail else t
  let digits := u.takeWhile isDigit
  if digits.isEmpty then
    (0, s)
  else
    let n : ℕ := digits.foldl (fun n c => n * 10 + (c.toNat - 48)) 0
    let v : Int := if negative then max (-(n : Int)) (-2 ^ 63) else min (n : Int) (2 ^ 63 - 1)
    ((v % 2 ^ 64).toNat, u.drop digits.length)

/-! ## Choosing a transport -/

/-- What a request says about the transport it wants: id, serial or type. -/
structure Target where
  type : TransportType := .kTransportAny
  serial : Option Bytes := none
  transportId : ℕ := 0
deriving DecidableEq, Repr

namespace Target

def notFound (target : Target) : Bytes :=
  if target.transportId ≠ 0 then
    ascii "no device with transport id '" ++ Server.decimal target.transportId ++ ascii "'"
  else
    match target.serial with
    | some serial => ascii "device '" ++ serial ++ ascii "' not found"
    | none =>
      match target.type with
      | .kTransportLocal => ascii "no emulators found"
      | .kTransportAny => ascii "no devices/emulators found"
      | _ => ascii "no devices found"

def accepts (cfg : Config) (target : Target) (t : ATransport) : Bool :=
  if target.transportId ≠ 0 then
    t.id = target.transportId
  else
    match target.serial with
    | some serial => cfg.matchesTarget t serial
    | none =>
      match target.type with
      | .kTransportUsb => t.type = .kTransportUsb
      | .kTransportLocal => t.type = .kTransportLocal
      | .kTransportAny => true
      | .kTransportHost => false

def ambiguous (target : Target) : Bytes :=
  match target.serial, target.type with
  | some _, _ => ascii "more than one device"
  | none, .kTransportLocal => ascii "more than one emulator"
  | none, .kTransportAny => ascii "more than one device/emulator"
  | none, _ => ascii "more than one device"

end Target

namespace Server

/-- The loop of `acquire_one_transport` over `transport_list`: the result so far and the
error text so far. A transport id is unique, so its first match ends the loop. -/
def acquireLoop (cfg : Config) (target : Target) (σ : Server) :
    List TPtr → Option TPtr → Bytes → Option TPtr × Bytes
  | [], result, error => (result, error)
  | t :: rest, result, error =>
    match σ.transports.get t with
    | none => acquireLoop cfg target σ rest result error
    | some tr =>
      if tr.connectionState = .kCsNoPerm then
        acquireLoop cfg target σ rest result cfg.usbNoPermissionsLong
      else if target.accepts cfg tr then
        if target.transportId ≠ 0 then (some t, error)
        else if result.isSome then (none, target.ambiguous)
        else acquireLoop cfg target σ rest (some t) error
      else
        acquireLoop cfg target σ rest result error

/-- Why a transport that is not active is refused. -/
def inactive (cfg : Config) : ConnectionState → Option Bytes
  | .kCsConnecting => some (ascii "device still connecting")
  | .kCsAuthorizing => some (ascii "device still authorizing")
  | .kCsUnauthorized => some
      (ascii "device unauthorized.\nThis adb server's $ADB_VENDOR_KEYS is " ++
        cfg.vendorKeys.getD (ascii "not set") ++
        ascii "\nTry 'adb kill-server' if that seems wrong.\nOtherwise check for a confirmation dialog on your device.")
  | .kCsOffline => some (ascii "device offline")
  | _ => none

def acquireOneTransport (cfg : Config) (target : Target) (acceptAnyState : Bool) (σ : Server) :
    Option TPtr × Bytes :=
  match acquireLoop cfg target σ σ.transportList none target.notFound with
  | (none, error) => (none, error)
  | (some t, _) =>
    match σ.transports.get t with
    | none => (none, [])
    | some tr =>
      match if acceptAnyState then none else inactive cfg tr.connectionState with
      | some error => (none, error)
      | none => (some t, ascii "success")

def connectionStateName (cfg : Config) : ConnectionState → Bytes
  | .kCsOffline => ascii "offline"
  | .kCsBootloader => ascii "bootloader"
  | .kCsDevice => ascii "device"
  | .kCsHost => ascii "host"
  | .kCsRecovery => ascii "recovery"
  | .kCsNoPerm => cfg.usbNoPermissionsShort
  | .kCsSideload => ascii "sideload"
  | .kCsUnauthorized => ascii "unauthorized"
  | .kCsAuthorizing => ascii "authorizing"
  | .kCsConnecting => ascii "connecting"

/-! ## `handle_host_request` -/

/-- The requests that report something about one transport. -/
def reportTransport (cfg : Config) (target : Target) (report : ATransport → Bytes) (c : Ptr)
    (σ : Server) : Server :=
  match σ.acquireOneTransport cfg target false with
  | (none, error) => sendFail (some c) error σ
  | (some t, _) =>
    match σ.transports.get t with
    | none => σ
    | some tr => sendOkayString (some c) (report tr) σ

/-- `transport...`: the choice of a transport for the smart socket `s`. `true` says that the
request was answered with a failure. -/
def switchTransport (cfg : Config) (service : Bytes) (target : Target) (s c : Ptr) (σ : Server) :
    Res (Bool × Server) :=
  let choose := fun (target : Target) =>
    match σ.acquireOneTransport cfg target false with
    | (none, error) => pure (true, sendFail (some c) error σ)
    | (some t, _) => do
      let a ← σ.socks.deref s
      let σ := { σ with socks := σ.socks.put s { a with transport := some t } }
      pure (false, sendOkay (some c) σ)
  if (ascii "transport-id:").isPrefixOf service then
    match strtoll (service.drop 13) with
    | (id, []) => choose { target with type := .kTransportAny, transportId := id }
    | _ => pure (true, sendFail (some c) (ascii "invalid transport id") σ)
  else if (ascii "transport-usb").isPrefixOf service then
    choose { target with type := .kTransportUsb }
  else if (ascii "transport-local").isPrefixOf service then
    choose { target with type := .kTransportLocal }
  else if (ascii "transport-any").isPrefixOf service then
    choose { target with type := .kTransportAny }
  else if (ascii "transport:").isPrefixOf service then
    choose { target with type := .kTransportAny, serial := some (service.drop 10) }
  else
    choose { target with type := .kTransportAny }

def reconnectOffline (c : Ptr) (σ : Server) : Res Server := do
  let offline := fun (tr : ATransport) => !connectionStateIsOnline tr.connectionState
  let lines := (σ.transportList.filterMap σ.transports.get).filter offline
  let response := (lines.map fun tr => ascii "reconnecting " ++ tr.serialName ++ ascii "\n").flatten
  let σ ← kickAll offline σ.transportList σ
  pure (sendOkayString (some c) response.dropLast σ)

def disconnectRequest (cfg : Config) (address : Bytes) (c : Ptr) (σ : Server) : Res Server :=
  if address.isEmpty then do
    let σ ← kickAllTcpDevices σ
    pure (sendOkayString (some c) (ascii "disconnected everything") σ)
  else
    match cfg.parseNetAddress address with
    | .error e =>
      pure (sendFail (some c) (ascii "couldn't parse '" ++ address ++ ascii "': " ++ e) σ)
    | .ok serial =>
      -- find_transport
      match σ.transportList.find? fun t => (σ.transports.get t).any (·.serial == serial) with
      | none => pure (sendFail (some c) (ascii "no such device '" ++ serial ++ ascii "'") σ)
      | some t => do
        let σ ← kickTransport t σ
        pure (sendOkayString (some c) (ascii "disconnected " ++ address) σ)

def reconnectRequest (cfg : Config) (target : Target) (c : Ptr) (σ : Server) : Res Server :=
  match σ.acquireOneTransport cfg target true with
  | (none, error) => pure (sendOkayString (some c) error σ)
  | (some t, _) => do
    let σ ← kickTransport t σ
    let tr ← σ.transport t
    pure (sendOkayString (some c) (ascii "reconnecting " ++ tr.serialName ++ ascii " [" ++
        connectionStateName cfg tr.connectionState ++ ascii "]\n") σ)

def emulatorSerial (service : Bytes) : Bytes :=
  ascii "emulator-" ++ decimal ((strtoll service).1 - 1)

/-- `handle_host_request`: whether the request has been answered. `s` is the smart socket
and `c` the socket of its client. -/
def handleHostRequest (cfg : Config) (service : Bytes) (target : Target) (s c : Ptr)
    (σ : Server) : Res (Bool × Server) :=
  if service = ascii "kill" then
    throw .exit
  else if (ascii "transport").isPrefixOf service then
    switchTransport cfg service target s c σ
  else if (ascii "devices").isPrefixOf service then
    let long := service.drop 7 = ascii "-l"
    pure (true, if long || (service.drop 7).isEmpty then
        sendOkayString (some c) (σ.listTransports cfg long) σ
      else σ)
  else if service = ascii "reconnect-offline" then do
    let σ ← reconnectOffline c σ
    pure (true, σ)
  else if service = ascii "features" then
    pure (true, reportTransport cfg target (fun tr => (tr.features.intersperse [44]).flatten) c σ)
  else if service = ascii "host-features" then
    pure (true, sendOkayString (some c) cfg.hostFeatures σ)
  else if (ascii "disconnect:").isPrefixOf service then do
    let σ ← disconnectRequest cfg (service.drop 11) c σ
    pure (true, σ)
  else if service = ascii "version" then
    pure (true, sendOkayString (some c) (Sockets.hex4 40) σ)
  else if service = ascii "get-serialno" then
    pure (true, reportTransport cfg target
      (fun tr => if tr.serial.isEmpty then ascii "unknown" else tr.serial) c σ)
  else if service = ascii "get-devpath" then
    pure (true, reportTransport cfg target
      (fun tr => if tr.devpath.isEmpty then ascii "unknown" else tr.devpath) c σ)
  else if service = ascii "get-state" then
    pure (true, reportTransport cfg target
      (fun tr => connectionStateName cfg tr.connectionState) c σ)
  else if (ascii "emulator:").isPrefixOf service then
    pure (true,
      if σ.socks.os.emulator then registerSocketTransport (emulatorSerial (service.drop 9)) σ
      else σ)
  else if service = ascii "reconnect" then do
    let σ ← reconnectRequest cfg target c σ
    pure (true, σ)
  else
    handleForwardRequest cfg service (acquireOneTransport cfg target false) (some c) σ

/-! ## `smart_socket_enqueue` -/

inductive HostService
  | tracker (long : Bool)
  | thread
  | unknown
deriving DecidableEq, Repr

def isWaitFor (name : Bytes) : Bool :=
  ["local", "usb", "any"].any fun type =>
    (ascii type).isPrefixOf name &&
      ["-device", "-recovery", "-sideload", "-bootloader", "-any"].any fun state =>
        name.drop (ascii type).length = ascii state

def hostService (name : Bytes) : HostService :=
  if name = ascii "track-devices" then .tracker false
  else if name = ascii "track-devices-l" then .tracker true
  else if (ascii "wait-for-").isPrefixOf name then
    if isWaitFor (name.drop 9) then .thread else .unknown
  else if (ascii "connect:").isPrefixOf name then .thread
  else .unknown

/-- `host_service_to_socket`. A thread whose socket pair could not be made leaves the fd -1. -/
def hostServiceToSocket (name : Bytes) (socks : Sockets) : Res (Option Ptr × Sockets) :=
  match hostService name with
  | .tracker long =>
    let (s2, socks) := socks.createDeviceTracker long
    pure (some s2, socks)
  | .thread =>
    if socks.os.service then do
      let (s2, socks) ← socks.createLocalSocket
      pure (some s2, socks)
    else
      throw (.check .fdNonnegative)
  | .unknown => pure (none, socks)

/-- The `fail` label of `smart_socket_enqueue`: the client's socket goes with this one. -/
def smartSocketFail (s : Ptr) (σ : Server) : Res (Int × Server) := do
  let σ ← onSockets (fun ts => Sockets.socketClose ts s) σ
  pure (-1, σ)

def replaceSmartSocket (ts : Store ATransport) (s s2 c : Ptr) (socks : Sockets) :
    Res Sockets := do
  let a ← socks.deref c
  let socks := socks.put c
    { a with
      ready := .localSocketReady
      shutdown := none
      close := .localSocketClose
      peer := some s2 }
  let b ← socks.deref s2
  let socks := socks.put s2 { b with peer := some c }
  let e ← socks.deref s
  Sockets.socketClose ts s (socks.put s { e with peer := none })

def connectHostService (cfg : Config) (s s2 c : Ptr) (σ : Server) : Res Server := do
  let socks := σ.socks.emit (.status c true [])
  let socks ← replaceSmartSocket σ.transports s s2 c socks
  -- initial state is "ready"
  let socks ← Sockets.socketReady σ.transports (σ.listTransports cfg) s2 socks
  pure { σ with socks := socks }

/-- The end of `smart_socket_enqueue`: the client of `s` is rigged to pass on the success or
failure of the connection, and the connection is requested. -/
def connectThrough (service : Bytes) (s c : Ptr) (σ : Server) : Res (Int × Server) := do
  let e ← σ.socks.deref s
  match e.transport with
  | none => smartSocketFail s (sendFail (some c) (ascii "device offline (no transport)") σ)
  | some t => do
    let tr ← σ.transport t
    if connectionStateIsOnline tr.connectionState then do
      let a ← σ.socks.deref c
      let socks := σ.socks.put c
        { a with
          ready := .localSocketReadyNotify
          shutdown := none
          close := .localSocketCloseNotify
          peer := none
          transport := some t }
      let socks ← Sockets.connectToRemote σ.transports c service socks
      let e ← socks.deref s
      let socks := socks.put s { e with peer := none }
      let socks ← Sockets.socketClose σ.transports s socks
      pure (1, { σ with socks := socks })
    else
      smartSocketFail s (sendFail (some c) (ascii "device offline (transport offline)") σ)

inductive Request
  /-- a request to the host server itself -/
  | host (service : Bytes) (target : Target)
  | device
  /-- `host-transport-id:` without a service -/
  | malformed
deriving DecidableEq, Repr

def parseRequest (service : Bytes) : Request :=
  if (ascii "host-serial:").isPrefixOf service then
    let service := service.drop 12
    match skipHostSerial service with
    | none => .host service {}
    | some e => .host (service.drop (e + 1)) { serial := some (service.take e) }
  else if (ascii "host-transport-id:").isPrefixOf service then
    match strtoll (service.drop 18) with
    | (id, c :: rest) => if c = 58 then .host rest { transportId := id } else .malformed
    | (_, []) => .malformed
  else if (ascii "host-usb:").isPrefixOf service then
    .host (service.drop 9) { type := .kTransportUsb }
  else if (ascii "host-local:").isPrefixOf service then
    .host (service.drop 11) { type := .kTransportLocal }
  else if (ascii "host:").isPrefixOf service then
    .host (service.drop 5) {}
  else
    .device

def hostRequest (cfg : Config) (service : Bytes) (target : Target) (s c : Ptr) (σ : Server) :
    Res (Int × Server) := do
  let (handled, σ) ← handleHostRequest cfg service target s c σ
  if handled then
    smartSocketFail s σ
  else if (ascii "transport").isPrefixOf service then do
    let e ← σ.socks.deref s
    pure (0, { σ with socks := σ.socks.put s { e with smartSocketData := [] } })
  else do
    let (s2, socks) ← hostServiceToSocket service σ.socks
    let σ := { σ with socks := socks }
    match s2 with
    | none => smartSocketFail s (sendFail (some c) (ascii "unknown host service") σ)
    | some s2 => do
      let σ ← connectHostService cfg s s2 c σ
      pure (0, σ)

/-- A complete request `service` on the smart socket `s` of the client `c`. -/
def smartSocketRequest (cfg : Config) (service : Bytes) (s c : Ptr) (σ : Server) :
    Res (Int × Server) :=
  if cfg.host then
    match parseRequest service with
    | .malformed => pure (-1, σ)
    | .host service target => hostRequest cfg service target s c σ
    | .device => connectThrough service s c σ
  else do
    let e ← σ.socks.deref s
    match e.transport with
    | some _ => connectThrough service s c σ
    | none =>
      match σ.acquireOneTransport cfg {} false with
      | (none, error) => smartSocketFail s (sendFail (some c) error σ)
      | (some t, _) =>
        connectThrough service s c
          { σ with socks := σ.socks.put s { e with transport := some t } }

def smartSocketEnqueue (cfg : Config) (s : Ptr) (data : Bytes) (σ : Server) :
    Res (Int × Server) := do
  let e ← σ.socks.deref s
  let buffer := e.smartSocketData ++ data
  let σ := { σ with socks := σ.socks.put s { e with smartSocketData := buffer } }
  -- the length cannot be decoded yet
  if buffer.length < 4 then
    pure (0, σ)
  else
    let len := unhex buffer 4
    if len = 0 || len > maxPayload then
      smartSocketFail s σ
    else if len + 4 > buffer.length then
      pure (0, σ)
    else do
      let c ← Sockets.nonNull e.peer
      smartSocketRequest cfg (cString ((buffer.drop 4).take len)) s c σ

def connectToSmartsocket (ts : Store ATransport) (listing : Bool → Bytes) (s : Ptr)
    (socks : Sockets) : Res Sockets := do
  let (ss, socks) := socks.createSmartSocket
  let socks ← socks.connectPeers s ss
  Sockets.socketReady ts listing s socks

end Server

end Adb

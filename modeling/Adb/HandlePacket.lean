import Adb.Auth

/-!
# `handle_packet`

The protocol engine of `adb.cpp`: what is done with a packet that arrives on a transport.
Each command has a function of its own here; `handlePacket` is the switch over them.
-/

namespace Adb

open Lib

/-! ## Banners -/

def stringToFeatureSet (s : Bytes) : List Bytes := if s.isEmpty then [] else s.splitOn 44

def parseProperty (prop : Bytes) (t : ATransport) : ATransport :=
  match prop.splitOn 61 with
  | [key, value] =>
    if key = ascii "ro.product.name" then { t with product := value }
    else if key = ascii "ro.product.model" then { t with model := value }
    else if key = ascii "ro.product.device" then { t with device := value }
    else if key = ascii "features" then { t with features := stringToFeatureSet value }
    else t
  | _ => t

def bannerState (type : Bytes) : ConnectionState :=
  if type = ascii "bootloader" then .kCsBootloader
  else if type = ascii "device" then .kCsDevice
  else if type = ascii "recovery" then .kCsRecovery
  else if type = ascii "sideload" then .kCsSideload
  else .kCsHost

def parseBanner (banner : Bytes) (t : ATransport) : ATransport :=
  let pieces := banner.splitOn 58
  -- a banner without features must not keep the old ones
  let t := { t with features := [] }
  let t := ((pieces[2]?.getD []).splitOn 59).foldl (fun t prop => parseProperty prop t) t
  { t with connectionState := bannerState (pieces.headD []) }

namespace Server

/-! ## `A_CNXN` and `A_AUTH` -/

/-- The end of `handle_new_connection`: the host is online at once, `adbd` may have to
authenticate the host first. -/
def acceptConnection (cfg : Config) (t : TPtr) (σ : Server) : Res Server :=
  if cfg.host then
    handleOnline t σ
  else if cfg.authRequired then
    sendAuthRequest t σ
  else do
    let σ ← handleOnline t σ
    sendConnect cfg t σ

def handleNewConnection (cfg : Config) (t : TPtr) (p : APacket) (σ : Server) : Res Server := do
  let σ ← handleOffline t σ
  let tr ← σ.transport t
  let tr := parseBanner p.payload (tr.updateVersion p.msg.arg0 p.msg.arg1)
  let σ ← acceptConnection cfg t (σ.setTransport t tr)
  updateTransports cfg σ

def authUnknown (t : TPtr) (σ : Server) : Res Server := do
  let tr ← σ.transport t
  handleOffline t (σ.setTransport t { tr with connectionState := .kCsOffline })

def authToken (t : TPtr) (p : APacket) (σ : Server) : Res Server := do
  let tr ← σ.transport t
  sendAuthResponse p.payload t (σ.setTransport t { tr with connectionState := .kCsAuthorizing })

def authSignature (cfg : Config) (t : TPtr) (p : APacket) (σ : Server) : Res Server := do
  let tr ← σ.transport t
  if adbdAuthVerify cfg tr.token p.payload σ then do
    let σ ← adbdAuthVerified cfg t σ
    let tr ← σ.transport t
    pure (σ.setTransport t { tr with failedAuthAttempts := 0 })
  else
    sendAuthRequest t (σ.setTransport t { tr with failedAuthAttempts := tr.failedAuthAttempts + 1 })

def handleAuth (cfg : Config) (t : TPtr) (p : APacket) (σ : Server) : Res Server :=
  if cfg.host then
    if p.msg.arg0 = ADB_AUTH_TOKEN then authToken t p σ else authUnknown t σ
  else if p.msg.arg0 = ADB_AUTH_SIGNATURE then
    authSignature cfg t p σ
  else if p.msg.arg0 = ADB_AUTH_RSAPUBLICKEY then
    adbdAuthConfirmKey p.payload t σ
  else
    authUnknown t σ

/-! ## `A_OPEN` -/

def isSocketSpec (name : Bytes) : Bool :=
  [ascii "local:", ascii "localreserved:", ascii "localabstract:", ascii "localfilesystem:",
    ascii "tcp:"].any fun scheme => scheme.isPrefixOf name

/-- `service_to_fd`: whether there is an fd. Only the `reverse:` service of the device works
on the state of the server; the others run in threads and processes of their own. -/
def serviceToFd (cfg : Config) (name : Bytes) (t : TPtr) (σ : Server) : Res (Bool × Server) :=
  if isSocketSpec name then
    pure (σ.socks.os.service, σ)
  else if cfg.host then
    pure (false, σ)
  else if (ascii "reverse:").isPrefixOf name && σ.socks.os.service then do
    let (_, σ) ← handleForwardRequest cfg (name.drop 8) (fun _ => (some t, [])) none σ
    pure (true, σ)
  else
    pure (σ.socks.os.service, σ)

/-- The services after which `adbd` has to be restarted. -/
def exitsOnClose (cfg : Config) (name : Bytes) : Bool :=
  !cfg.host && ((ascii "unroot:").isPrefixOf name && cfg.root || (ascii "usb:").isPrefixOf name ||
      (ascii "tcpip:").isPrefixOf name)

def createLocalServiceSocket (cfg : Config) (name : Bytes) (t : TPtr) (σ : Server) :
    Res (Option Ptr × Server) := do
  let (fd, σ) ← serviceToFd cfg name t σ
  if fd then do
    let (s, socks) ← σ.socks.createLocalSocket
    let a ← socks.deref s
    let socks := if exitsOnClose cfg name then socks.put s { a with exitOnClose := true } else socks
    pure (some s, { σ with socks := socks })
  else
    pure (none, σ)

def ready (cfg : Config) (s : Ptr) (σ : Server) : Res Server :=
  onSockets (fun ts socks =>
      Sockets.socketReady ts (σ.listTransports cfg) s (socks.emit (.readied s))) σ

/-- `OPEN(local-id, 0, "destination")`. -/
def handleOpen (cfg : Config) (t : TPtr) (p : APacket) (σ : Server) : Res Server := do
  let tr ← σ.transport t
  if tr.online && p.msg.arg0 != 0 && p.msg.arg1 == 0 then do
    let (service, σ) ← createLocalServiceSocket cfg (cString p.payload) t σ
    match service with
    | none => sendClose 0 p.msg.arg0 t σ
    | some s => do
      let (r, socks) ← σ.socks.createRemoteSocket p.msg.arg0 t
      let socks ← socks.connectPeers s r
      let a ← socks.deref s
      let σ := { σ with socks := socks.emit (.accepted s a.id p.msg.arg0) }
      let σ ← sendReady a.id p.msg.arg0 t σ
      ready cfg s σ
  else
    pure σ

/-! ## `A_OKAY`, `A_CLSE` and `A_WRTE` -/

/-- `READY(local-id, remote-id, "")`. -/
def handleOkay (cfg : Config) (t : TPtr) (p : APacket) (σ : Server) : Res Server := do
  let tr ← σ.transport t
  if tr.online && p.msg.arg0 != 0 && p.msg.arg1 != 0 then do
    let found ← σ.socks.findLocalSocket p.msg.arg1 0
    match found with
    | none =>
      -- the local socket was closed because its client disconnected
      sendClose p.msg.arg1 p.msg.arg0 t σ
    | some s => do
      let a ← σ.socks.deref s
      match a.peer with
      | none => do
        -- on the first READY message, create the connection
        let (r, socks) ← σ.socks.createRemoteSocket p.msg.arg0 t
        let socks ← socks.connectPeers s r
        ready cfg s { σ with socks := socks }
      | some r => do
        let b ← σ.socks.deref r
        -- other READY messages must use the same local-id
        if b.id = p.msg.arg0 then ready cfg s σ else pure σ
  else
    pure σ

/-- `CLOSE(local-id, remote-id, "")` or `CLOSE(0, remote-id, "")`. -/
def handleClse (t : TPtr) (p : APacket) (σ : Server) : Res Server := do
  let tr ← σ.transport t
  if tr.online && p.msg.arg1 != 0 then do
    let found ← σ.socks.findLocalSocket p.msg.arg1 p.msg.arg0
    match found with
    | none => pure σ
    | some s => do
      let a ← σ.socks.deref s
      let refused ← match a.peer with
        | none => pure false
        | some r => do
          let b ← σ.socks.deref r
          -- CLOSE(0, ..) only from the transport the socket is connected to
          pure (p.msg.arg0 == 0 && b.transport != some t)
      if refused then
        pure σ
      else
        onSockets (fun ts => Sockets.socketClose ts s) σ
  else
    pure σ

/-- `s->enqueue(s, data)` for a socket of `local_socket_list`; such a socket never is a
smart socket, whose `enqueue` is defined above this layer. -/
def listedEnqueue (ts : Store ATransport) (s : Ptr) (data : Bytes) (socks : Sockets) :
    Res (Int × Sockets) := do
  let a ← socks.deref s
  match a.enqueue with
  | .localSocketEnqueue => Sockets.localSocketEnqueue ts s data socks
  | .remoteSocketEnqueue => Sockets.remoteSocketEnqueue ts s data socks
  | .deviceTrackerEnqueue => Sockets.deviceTrackerEnqueue ts s socks
  | .smartSocketEnqueue => throw .depth

/-- `WRITE(local-id, remote-id, <data>)`. -/
def handleWrte (t : TPtr) (p : APacket) (σ : Server) : Res Server := do
  let tr ← σ.transport t
  if tr.online && p.msg.arg0 != 0 && p.msg.arg1 != 0 then do
    let found ← σ.socks.findLocalSocket p.msg.arg1 p.msg.arg0
    match found with
    | none => pure σ
    | some s => do
      let (r, socks) ← listedEnqueue σ.transports s p.payload σ.socks
      let σ := { σ with socks := socks }
      if r = 0 then do
        let a ← σ.socks.deref s
        sendReady a.id p.msg.arg0 t σ
      else
        pure σ
  else
    pure σ

def dispatchPacket (cfg : Config) (t : TPtr) (p : APacket) (σ : Server) : Res Server :=
  if p.msg.command = A_CNXN then handleNewConnection cfg t p σ
  else if p.msg.command = A_AUTH then handleAuth cfg t p σ
  else if p.msg.command = A_OPEN then handleOpen cfg t p σ
  else if p.msg.command = A_OKAY then handleOkay cfg t p σ
  else if p.msg.command = A_CLSE then handleClse t p σ
  else if p.msg.command = A_WRTE then handleWrte t p σ
  else pure σ

def handlePacket (cfg : Config) (t : TPtr) (p : APacket) (σ : Server) : Res Server := do
  let σ := σ.emit (.handled t p)
  check (p.payload.length == p.msg.dataLength.toNat) .packetLength
  dispatchPacket cfg t p σ

end Server

end Adb

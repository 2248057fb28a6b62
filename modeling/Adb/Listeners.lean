import Adb.Server

/-!
# Listeners and forward requests

`adb_listeners.cpp`, and `handle_forward_request` of `adb.cpp`, which serves the clients of
the host server and, on the device, the `reverse:` service.
-/

namespace Adb

open Lib

def AListener.special (l : AListener) : Bool := l.connectTo.head? = some 42

namespace Server

/-! ## Replies -/

/-- `SendOkay(fd)`, where the fd is that of the socket `reply`; the replies of the
`reverse:` service go to a pipe instead. -/
def sendOkay (reply : Option Ptr) (σ : Server) : Server :=
  match reply with
  | none => σ
  | some s => σ.emit (.status s true [])

def sendFail (reply : Option Ptr) (reason : Bytes) (σ : Server) : Server :=
  match reply with
  | none => σ
  | some s => σ.emit (.status s false reason)

def sendProtocolString (reply : Option Ptr) (text : Bytes) (σ : Server) : Server :=
  match reply with
  | none => σ
  | some s => σ.emit (.reply s text)

def sendOkayString (reply : Option Ptr) (text : Bytes) (σ : Server) : Server :=
  sendProtocolString reply text (sendOkay reply σ)

/-! ## The listener list -/

def addDisconnect (t : TPtr) (d : Disconnect) (σ : Server) : Res Server := do
  let tr ← σ.transport t
  pure (σ.setTransport t { tr with disconnects := tr.disconnects ++ [d] })

def removeDisconnect (t : TPtr) (d : Disconnect) (σ : Server) : Res Server := do
  let tr ← σ.transport t
  pure (σ.setTransport t { tr with disconnects := tr.disconnects.filter (· ≠ d) })

/-- `listener_list.erase(iter)`, with the destructor of the listener. -/
def eraseListener (l : AListener) (σ : Server) : Res Server := do
  let σ := { σ with listenerList := σ.listenerList.eraseP (·.num = l.num) }
  match l.transport with
  | none => pure σ
  | some t => removeDisconnect t (.listener l.num) σ

inductive InstallStatus
  | ok
  | internalError
  | cannotBind
  | cannotRebind
  | listenerNotFound
deriving DecidableEq, Repr

def removeListener (localName : Bytes) (σ : Server) : Res (InstallStatus × Server) :=
  match σ.listenerList.find? (·.localName = localName) with
  | none => pure (.listenerNotFound, σ)
  | some l => do
    let σ ← eraseListener l σ
    pure (.ok, σ)

def removeAllListeners (σ : Server) : Res Server :=
  go (σ.listenerList.filter fun l => !l.special) σ
where
  go : List AListener → Server → Res Server
  | [], σ => pure σ
  | l :: rest, σ => do
    let σ ← eraseListener l σ
    go rest σ

def closeSmartsockets (σ : Server) : Res Server :=
  removeAllListeners.go (σ.listenerList.filter (·.localName = ascii "*smartsocket*")) σ

def formatListener (l : AListener) (σ : Server) : Res Bytes :=
  if l.special then
    pure []
  else do
    let t ← Sockets.nonNull l.transport
    let tr ← σ.transport t
    let serial := if tr.serial.isEmpty then ascii "(reverse)" else tr.serial
    pure (serial ++ ascii " " ++ l.localName ++ ascii " " ++ l.connectTo ++ ascii "\n")

def formatListeners (σ : Server) : Res Bytes := do
  let lines ← σ.listenerList.mapM fun l => formatListener l σ
  pure lines.flatten

def decimal (n : ℕ) : Bytes := (Nat.toDigits 10 n).map fun c => c.toNat.toUInt8

structure Installed where
  status : InstallStatus
  resolved : ℕ := 0
  error : Bytes := []
deriving DecidableEq, Repr

/-- The branch of `install_listener` that finds a listener of that name. -/
def rebindListener (l : AListener) (connectTo : Bytes) (t : TPtr) (noRebind : Bool)
    (σ : Server) : Res (Installed × Server) :=
  if l.special then
    pure ({ status := .internalError, error := ascii "cannot repurpose smartsocket" }, σ)
  else if noRebind then
    pure ({ status := .cannotRebind, error := ascii "cannot rebind" }, σ)
  else do
    let update := fun (m : AListener) =>
      if m.num = l.num then { m with connectTo := connectTo, transport := some t } else m
    let σ ← if l.transport ≠ some t then do
        let old ← Sockets.nonNull l.transport
        let σ ← removeDisconnect old (.listener l.num) σ
        addDisconnect t (.listener l.num) σ
      else pure σ
    pure ({ status := .ok }, { σ with listenerList := σ.listenerList.map update })

def installListener (localName connectTo : Bytes) (t : TPtr) (noRebind : Bool) (σ : Server) :
    Res (Installed × Server) :=
  match σ.listenerList.find? (·.localName = localName) with
  | some l => rebindListener l connectTo t noRebind σ
  | none =>
    match σ.socks.os.listen with
    | .error e => pure ({ status := .cannotBind, error := e }, σ)
    | .ok resolved => do
      let l : AListener :=
        { num := σ.nextListener
          func := if connectTo = ascii "*smartsocket*" then .ssListenerEventFunc
            else .listenerEventFunc
          localName := if resolved = 0 then localName else ascii "tcp:" ++ decimal resolved
          connectTo := connectTo
          transport := some t }
      let σ ← addDisconnect t (.listener l.num) { σ with nextListener := σ.nextListener + 1 }
      pure ({ status := .ok, resolved := resolved },
        { σ with listenerList := σ.listenerList ++ [l] })

/-- `install_listener` with the destination `*smartsocket*`, a null transport and `no_rebind` not
set, as `adb_server_main` calls it. -/
def installSmartsocket (localName : Bytes) (σ : Server) : Res (Installed × Server) :=
  match σ.listenerList.find? (·.localName = localName) with
  | some l =>
    if l.special then
      pure ({ status := .internalError, error := ascii "cannot repurpose smartsocket" }, σ)
    else if l.transport ≠ none then
      -- `AddDisconnect` of the null transport
      throw .null
    else
      let update := fun (m : AListener) =>
        if m.num = l.num then { m with connectTo := ascii "*smartsocket*" } else m
      pure ({ status := .ok }, { σ with listenerList := σ.listenerList.map update })
  | none =>
    match σ.socks.os.listen with
    | .error e => pure ({ status := .cannotBind, error := e }, σ)
    | .ok resolved =>
      let l : AListener :=
        { num := σ.nextListener
          func := .ssListenerEventFunc
          localName := if resolved = 0 then localName else ascii "tcp:" ++ decimal resolved
          connectTo := ascii "*smartsocket*" }
      pure ({ status := .ok, resolved := resolved },
        { σ with
          listenerList := σ.listenerList ++ [l]
          nextListener := σ.nextListener + 1 })

/-! ## `handle_forward_request` -/

def forwardFailure (service : Bytes) (r : Installed) : Bytes :=
  match r.status with
  | .ok => ascii "success (!)"
  | .internalError => ascii "internal error"
  | .cannotBind => ascii "cannot bind listener: " ++ r.error
  | .cannotRebind => ascii "cannot rebind existing socket"
  | .listenerNotFound => ascii "listener '" ++ service ++ ascii "' not found"

/-- The end of `handle_forward_request`, when the listener has been changed or not. -/
def forwardReply (cfg : Config) (service : Bytes) (r : Installed) (reply : Option Ptr)
    (σ : Server) : Server :=
  if r.status = .ok then
    -- on the host: first OKAY is connect, second OKAY is status
    let σ := sendOkay reply (if cfg.host then sendOkay reply σ else σ)
    if r.resolved ≠ 0 then sendProtocolString reply (decimal r.resolved) σ else σ
  else
    sendFail reply (forwardFailure service r) σ

def killForward (cfg : Config) (service : Bytes) (reply : Option Ptr) (σ : Server) :
    Res Server :=
  match service.splitOn 59 with
  | [name] =>
    if name.isEmpty then
      pure (sendFail reply (ascii "bad killforward: " ++ service) σ)
    else do
      let (status, σ) ← removeListener name σ
      pure (forwardReply cfg service { status := status } reply σ)
  | _ => pure (sendFail reply (ascii "bad killforward: " ++ service) σ)

def forward (cfg : Config) (service : Bytes) (noRebind : Bool) (t : TPtr)
    (reply : Option Ptr) (σ : Server) : Res Server :=
  match service.splitOn 59 with
  | [name, remote] =>
    if name.isEmpty || remote.isEmpty || remote.head? = some 42 then
      pure (sendFail reply (ascii "bad forward: " ++ service) σ)
    else do
      let (r, σ) ← installListener name remote t noRebind σ
      pure (forwardReply cfg service r reply σ)
  | _ => pure (sendFail reply (ascii "bad forward: " ++ service) σ)

/-- `handle_forward_request`; `acquire` is its `transport_acquirer`. -/
def handleForwardRequest (cfg : Config) (service : Bytes)
    (acquire : Server → Option TPtr × Bytes) (reply : Option Ptr) (σ : Server) :
    Res (Bool × Server) :=
  if service = ascii "list-forward" then do
    let listeners ← formatListeners σ
    let σ := if cfg.host then sendOkay reply σ else σ
    pure (true, sendProtocolString reply listeners σ)
  else if service = ascii "killforward-all" then do
    let σ ← removeAllListeners σ
    pure (true, sendOkay reply (if cfg.host then sendOkay reply σ else σ))
  else if (ascii "forward:").isPrefixOf service || (ascii "killforward:").isPrefixOf service then
    match acquire σ with
    | (none, error) => pure (true, sendFail reply error σ)
    | (some t, _) => do
      let σ ←
        if (ascii "killforward:").isPrefixOf service then
          killForward cfg (service.drop 12) reply σ
        else if (ascii "norebind:").isPrefixOf (service.drop 8) then
          forward cfg (service.drop 17) true t reply σ
        else
          forward cfg (service.drop 8) false t reply σ
      pure (true, σ)
  else
    pure (false, σ)

end Server

end Adb

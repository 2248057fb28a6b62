import Adb.Listeners

/-!
# Authentication

Both sides of the `A_AUTH` exchange: `client/auth.cpp`, by which the host answers a token
with signatures and finally with its public key, and `daemon/auth.cpp`, by which `adbd`
checks a signature or asks the framework to let the user confirm a key.
-/

namespace Adb

open Lib

namespace Server

/-! ## The host -/

/-- `atransport::NextKey`: the list of keys is fetched when it is empty, and ends with a
null key. -/
def nextKey (t : TPtr) (σ : Server) : Res (Option PrivateKey × Server) := do
  let tr ← σ.transport t
  let keys := if tr.keys.isEmpty then σ.socks.os.privateKeys.map some ++ [none] else tr.keys
  pure (keys.headD none, σ.setTransport t { tr with keys := keys.tail })

def sendAuthPublickey (t : TPtr) (σ : Server) : Res Server :=
  let key := σ.socks.os.userKey
  if key.isEmpty || key.length ≥ maxPayloadV1 then
    pure σ
  else
    -- adbd expects a null-terminated string
    sendPacket
      { msg :=
          { command := A_AUTH
            arg0 := ADB_AUTH_RSAPUBLICKEY
            dataLength := .ofNat (key.length + 1) }
        payload := key ++ [0] } t σ

/-- `adb_auth_sign`: a token of another size makes a `std::string` from `nullptr`. -/
def adbAuthSign (key : PrivateKey) (token : Bytes) (σ : Server) : Res Bytes :=
  if token.length ≠ tokenSize then
    throw .nullString
  else
    pure ((σ.socks.os.signatures.lookup key).getD [])

def sendAuthResponse (token : Bytes) (t : TPtr) (σ : Server) : Res Server := do
  let (key, σ) ← nextKey t σ
  match key with
  | none => do
    -- no more private keys to try, send the public key
    let tr ← σ.transport t
    sendAuthPublickey t (σ.setTransport t { tr with connectionState := .kCsUnauthorized })
  | some key => do
    let result ← adbAuthSign key token σ
    if result.isEmpty then
      pure σ
    else
      sendPacket
        { msg :=
            { command := A_AUTH
              arg0 := ADB_AUTH_SIGNATURE
              dataLength := .ofNat result.length }
          payload := result } t σ

/-! ## The device -/

def adbdAuthVerify (cfg : Config) (token sig : Bytes) (σ : Server) : Bool :=
  σ.socks.os.adbKeys.any fun key => cfg.rsaVerify key token sig

/-- `send_auth_request`. A short read of `/dev/urandom` leaves a partly new token. -/
def sendAuthRequest (t : TPtr) (σ : Server) : Res Server := do
  let tr ← σ.transport t
  let fresh := σ.socks.os.urandom.take tokenSize
  let token := fresh ++ tr.token.drop fresh.length
  let σ := σ.setTransport t { tr with token := token }
  if fresh.length < tokenSize then
    pure σ
  else
    sendPacket
      { msg := { command := A_AUTH, arg0 := ADB_AUTH_TOKEN, dataLength := .ofNat tokenSize }
        payload := token } t σ

def adbdAuthVerified (cfg : Config) (t : TPtr) (σ : Server) : Res Server := do
  let σ ← handleOnline t (σ.emit (.verified t))
  sendConnect cfg t σ

/-- The rest of `adbd_auth_confirm_key`, with the framework connected. -/
def forwardKey (key : Bytes) (t : TPtr) (σ : Server) : Res Server :=
  match key.getLast? with
  | none => throw .wild
  | some c =>
    -- the key must be a null-terminated string, and "PK" with the key has to fit in msg
    if c ≠ 0 || 2 + (cString key).length ≥ maxPayloadV1 then
      pure σ
    else if σ.socks.os.frameworkWrite then
      pure (σ.emit (.forwarded t (cString key)))
    else
      pure σ

/-- The start of `adbd_auth_confirm_key`: `usb_transport` is set if it is null. -/
def claimUsbTransport (t : TPtr) (σ : Server) : Res Server :=
  if σ.usbTransport = none then
    addDisconnect t .usb { σ with usbTransport := some t }
  else
    pure σ

def adbdAuthConfirmKey (key : Bytes) (t : TPtr) (σ : Server) : Res Server := do
  let σ ← claimUsbTransport t σ
  if σ.frameworkFd then
    forwardKey key t σ
  else
    pure { σ with needsRetry := true }

/-- `adbd_auth_event`: what `unix_read` put in the two bytes of `response`, where nothing
stands for end or error. -/
def adbdAuthEvent (cfg : Config) (response : Bytes) (σ : Server) : Res Server :=
  if response = [] then
    -- framework_disconnected
    pure { σ with frameworkFd := false }
  else if response.take 2 = ascii "OK" then
    match σ.usbTransport with
    | none => pure (σ.emit .frameworkOk)
    | some t => adbdAuthVerified cfg t (σ.emit .frameworkOk)
  else
    pure σ

def adbdAuthListener (σ : Server) : Res Server :=
  if σ.needsRetry then do
    let t ← Sockets.nonNull σ.usbTransport
    sendAuthRequest t { σ with frameworkFd := true, needsRetry := false }
  else
    pure { σ with frameworkFd := true }

end Server

end Adb

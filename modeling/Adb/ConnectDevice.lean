import Adb.NetAddress
import Adb.Threads

/-!
# Connecting to a device

`connect_device` of `transport_local.cpp` makes a connection with `tcp_connect`, and registers a
transport for it; the thread it runs on then waits until the device has answered.
-/

namespace Adb

open Lib List

def defaultLocalTransportPort : ℤ := 5555

/-- What `tcp_connect` returns: a descriptor, or the text in `*response`. -/
structure TcpConnection where
  fd : Except Bytes ℕ
  serial : Bytes

/-- `tcp_connect`; `connect` is `network_connect`, with the text of its error. -/
def tcpConnect (connect : Bytes → ℤ → Except Bytes ℕ) (address : Bytes) : TcpConnection :=
  match parseNetAddress defaultLocalTransportPort address with
  | .error text => { fd := .error text, serial := [] }
  | .ok a =>
    match connect a.host a.port with
    | .error error =>
      { fd := .error (ascii "unable to connect to " ++ cString a.canonical ++ ascii ": " ++
          cString error)
        serial := a.canonical }
    | .ok fd => { fd := .ok fd, serial := a.canonical }

namespace Server

inductive RegisterError
  | EALREADY
  | ETIMEDOUT
  | EPERM
deriving DecidableEq, Repr

def knownSerial (serial : Bytes) (σ : Server) : Bool :=
  let known := fun t => (σ.transports.get t).any fun tr => tr.serial == serial
  σ.pendingList.any known || σ.transportList.any known

/-- `register_socket_transport`, for a connection that is not one to an emulator, with the wait at
its end: the other threads have their `turns`, and the wait ends well if the connection is
`established` within ten seconds. -/
def registerAndWait (cfg : Config) (serial : Bytes) (turns : List Turn) (established : Bool)
    (σ : Server) : Res (Option RegisterError × Server) := do
  if knownSerial serial σ then pure (some .EALREADY, registerSocketTransport serial σ)
  else
    let τ ← runs (turnStep cfg) turns (registerSocketTransport serial σ)
    if established then
      let tr ← τ.transport σ.transports.next
      pure (if tr.connectionState = .kCsUnauthorized then some .EPERM else none, τ)
    else pure (some .ETIMEDOUT, τ)

def connectText (result : Option RegisterError) (serial : Bytes) : Bytes :=
  match result with
  | some .EALREADY => ascii "already connected to " ++ cString serial
  | some .EPERM => ascii "failed to authenticate to " ++ cString serial
  | some .ETIMEDOUT => ascii "failed to connect to " ++ cString serial
  | none => ascii "connected to " ++ cString serial

/-- `connect_device`: the response, and the server when it returns. Whether `tcp_connect` has
returned a descriptor is not looked at. -/
def connectDevice (cfg : Config) (connect : Bytes → ℤ → Except Bytes ℕ) (address : Bytes)
    (turns : List Turn) (established : Bool) (σ : Server) : Res (Bytes × Server) := do
  if address.isEmpty then pure (ascii "empty address", σ)
  else
    let serial := (tcpConnect connect address).serial
    let (result, τ) ← registerAndWait cfg serial turns established σ
    pure (connectText result serial, τ)

/-- There is no transport more than before, and none is about to be started. A reconnect attempt is
made only for a transport whose connection has been started. -/
structure NothingLeft (σ τ : Server) : Prop where
  pendingList : τ.pendingList = σ.pendingList
  transportList : τ.transportList = σ.transportList
  registration : τ.registration = σ.registration
  reconnectQueue : τ.reconnectQueue = σ.reconnectQueue

/-- Where `connect_device` leaves nothing behind when `tcp_connect` fails, and gives its text. -/
def FailsCleanly (cfg : Config) (connect : Bytes → ℤ → Except Bytes ℕ) (address : Bytes)
    (turns : List Turn) (established : Bool) (σ : Server) : Prop :=
  ∀ text, address ≠ [] → (tcpConnect connect address).fd = .error text →
    (∃ τ, connectDevice cfg connect address turns established σ = .ok (text, τ)) ∧
      NothingLeft σ (registerSocketTransport (tcpConnect connect address).serial σ)

/-! ## The texts -/

variable {connect : Bytes → ℤ → Except Bytes ℕ} {port : ℤ} {address text : Bytes}

lemma head?_ascii_append {s : String} {c : UInt8} (h : (ascii s).head? = some c) (b : Bytes) :
    (ascii s ++ b).head? = some c := by
  rw [List.head?_append, h]
  rfl

lemma splitNetAddress_text {x : Bytes} (h : splitNetAddress address = .error x) :
    x.head? = some 98 := by
  unfold splitNetAddress at h
  simp only at h
  split at h
  · split at h
    · cases h
    cases h
    rw [append_assoc]
    exact head?_ascii_append (by decide) _
  · split at h
    · cases h
    split at h
    · split at h <;> cases h
    · cases h

lemma parsePort_text {t : Bytes} {x : Bytes} (h : parsePort address t = .error x) :
    x.head? = some 98 := by
  have hbad : (ascii "bad port number '" ++ cString t ++ ascii "' in '" ++ cString address ++
      ascii "'").head? = some 98 := by
    simp only [append_assoc]
    exact head?_ascii_append (by decide) _
  unfold parsePort at h
  simp only at h
  split at h
  · cases h
    exact hbad
  split at h
  · cases h
    exact hbad
  · cases h

lemma parseNetAddress_text (h : parseNetAddress port address = .error text) :
    text.head? = some 98 ∨ text.head? = some 110 := by
  unfold parseNetAddress at h
  cases hsplit : splitNetAddress address with
  | error x =>
    rw [hsplit] at h
    cases h
    exact .inl (splitNetAddress_text hsplit)
  | ok parts =>
    rw [hsplit, ok_bind] at h
    simp only at h
    split at h
    · cases h
      rw [append_assoc]
      exact .inr (head?_ascii_append (by decide) _)
    split at h
    · cases h
    next t _ =>
    cases hport : parsePort address t with
    | error x =>
      rw [hport] at h
      cases h
      exact .inl (parsePort_text hport)
    | ok port =>
      rw [hport] at h
      cases h

lemma tcpConnect_text (h : (tcpConnect connect address).fd = .error text) :
    text.head? = some 98 ∨ text.head? = some 110 ∨ text.head? = some 117 := by
  unfold tcpConnect at h
  split at h
  · next hparse =>
    cases h
    exact (parseNetAddress_text hparse).imp_right .inl
  split at h
  · cases h
    simp only [append_assoc]
    exact .inr (.inr (head?_ascii_append (by decide) _))
  · cases h

lemma connectText_text (result : Option RegisterError) (serial : Bytes) :
    (connectText result serial).head? = some 97 ∨ (connectText result serial).head? = some 99 ∨
      (connectText result serial).head? = some 102 := by
  unfold connectText
  split
  · exact .inl (head?_ascii_append (by decide) _)
  · exact .inr (.inr (head?_ascii_append (by decide) _))
  · exact .inr (.inr (head?_ascii_append (by decide) _))
  · exact .inr (.inl (head?_ascii_append (by decide) _))

lemma connectText_ne (h : (tcpConnect connect address).fd = .error text)
    (result : Option RegisterError) (serial : Bytes) : connectText result serial ≠ text := by
  intro heq
  have htext := tcpConnect_text h
  have hconnect := connectText_text result serial
  rw [heq] at hconnect
  rcases htext with ht | ht | ht <;> rw [ht] at hconnect <;> revert hconnect <;> decide

/-- `connect_device` deals properly with a failure of `tcp_connect` exactly if there is none. -/
theorem connectDevice_failsCleanly_iff (cfg : Config) (connect : Bytes → ℤ → Except Bytes ℕ)
    (address : Bytes) (turns : List Turn) (established : Bool) (σ : Server) :
    FailsCleanly cfg connect address turns established σ ↔
      address = [] ∨ ∃ fd, (tcpConnect connect address).fd = .ok fd := by
  constructor
  · intro hclean
    by_cases haddress : address = []
    · exact .inl haddress
    refine .inr ?_
    cases hfd : (tcpConnect connect address).fd with
    | ok fd => exact ⟨fd, rfl⟩
    | error text =>
      obtain ⟨τ, hrun⟩ := (hclean text haddress hfd).1
      rw [connectDevice, if_neg (by simpa using haddress)] at hrun
      obtain ⟨⟨result, τ'⟩, -, hrun⟩ := bind_eq_ok.mp hrun
      cases hrun
      exact absurd rfl (connectText_ne hfd result _)
  · intro hok text haddress hfd
    rcases hok with hempty | ⟨fd, hok⟩
    · exact absurd hempty haddress
    · rw [hok] at hfd
      cases hfd

def refused (_ : Bytes) (_ : ℤ) : Except Bytes ℕ := .error (ascii "Connection refused")

def started : List Turn :=
  [.main { callback := .registration }, .read 0 none, .flush {}]

/-- A connection that is refused: the response does not say so, the transport is on the list, and
the reconnect handler is to look for it. -/
theorem connectDevice_refused :
    ¬ FailsCleanly .adb refused (ascii "10.0.0.1") started false (init []) ∧
    ∃ τ, connectDevice .adb refused (ascii "10.0.0.1") started false (init []) =
        .ok (ascii "failed to connect to 10.0.0.1:5555", τ) ∧
      τ.transportList = [0] ∧ τ.reconnectQueue = [⟨0, 6⟩] := by
  have htest : returns (connectDevice .adb refused (ascii "10.0.0.1") started false (init []))
      (fun r => r.1 = ascii "failed to connect to 10.0.0.1:5555" && r.2.transportList = [0] &&
        r.2.reconnectQueue = [⟨0, 6⟩]) = true := by decide +kernel
  obtain ⟨⟨response, τ⟩, hrun, h⟩ := returns_iff.mp htest
  simp only [Bool.and_eq_true, decide_eq_true_eq] at h
  obtain ⟨⟨hresponse, hlist⟩, hqueue⟩ := h
  rw [hresponse] at hrun
  refine ⟨?_, τ, hrun, hlist, hqueue⟩
  intro hclean
  obtain ⟨⟨τ', hrun'⟩, -⟩ := hclean
    (ascii "unable to connect to 10.0.0.1:5555: Connection refused") (by decide) (by rfl)
  rw [hrun] at hrun'
  have htext : ascii "failed to connect to 10.0.0.1:5555" =
      ascii "unable to connect to 10.0.0.1:5555: Connection refused" :=
    congrArg Prod.fst (Except.ok.inj hrun')
  exact absurd htext (by decide)

end Server

end Adb

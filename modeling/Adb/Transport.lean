import Adb.Lib.Store
import Adb.Packet

/-!
# Transports

The fields of `class atransport` that the modelled functions read or write. Transports live
in a `Store`; `ref_count` counts the started connections (a connection gives its reference
back when its error callback runs). A deleted transport is released from the store.
-/

namespace Adb

open Lib

abbrev TPtr := ℕ

inductive TransportType
  | kTransportUsb
  | kTransportLocal
  | kTransportAny
  | kTransportHost
deriving DecidableEq, Repr

abbrev PrivateKey := ℕ

/-- A registered `adisconnect`: that of a listener (by number) or `usb_disconnect`. -/
inductive Disconnect
  | listener (l : ℕ)
  | usb
deriving DecidableEq, Repr

/-- `class BlockingConnectionAdapter`: whether its threads run, and its `error_flag_`. The
reader thread ends on its own when a read fails. -/
structure Connection where
  started : Bool := false
  stopped : Bool := false
  errorFlag : Bool := false
  readFailed : Bool := false
deriving DecidableEq, Repr

namespace Connection

def reading (c : Connection) : Bool := c.started && !c.stopped && !c.readFailed

end Connection

structure ATransport where
  id : ℕ := 0
  connectionState : ConnectionState := .kCsOffline
  online : Bool := false
  kicked : Bool := false
  refCount : ℕ := 0
  type : TransportType := .kTransportAny
  serial : Bytes := []
  product : Bytes := []
  model : Bytes := []
  device : Bytes := []
  devpath : Bytes := []
  features : List Bytes := []
  protocolVersion : Int := 0x01000000
  maxPayload : ℕ := Adb.maxPayload
  token : Bytes := List.replicate tokenSize 0
  failedAuthAttempts : ℕ := 0
  keys : List (Option PrivateKey) := []
  disconnects : List Disconnect := []
  connection : Connection := {}
deriving DecidableEq, Repr

namespace ATransport

def updateVersion (t : ATransport) (version payload : UInt32) : ATransport :=
  { t with
    protocolVersion := min version.toBitVec.toInt A_VERSION.toBitVec.toInt
    maxPayload := min payload.toNat Adb.maxPayload }

def isTcpDevice (t : ATransport) : Bool := t.type = .kTransportLocal

def serialName (t : ATransport) : Bytes :=
  if t.serial.isEmpty then ascii "<unknown>" else t.serial

end ATransport

def checkHeader (p : APacket) (t : ATransport) : Bool :=
  p.msg.magic == p.msg.command ^^^ 0xffffffff && p.msg.dataLength.toNat ≤ t.maxPayload

/-- The header that `send_packet` completes: the magic, and a checksum for peers that do
not skip it. -/
def sealPacket (p : APacket) (t : ATransport) : APacket :=
  { p with
    msg := { p.msg with
      magic := p.msg.command ^^^ 0xffffffff
      dataCheck :=
        if t.protocolVersion ≥ A_VERSION_SKIP_CHECKSUM.toBitVec.toInt then 0
        else calculateApacketChecksum p } }

end Adb

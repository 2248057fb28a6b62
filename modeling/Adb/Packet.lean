import Mathlib.Data.UInt
import Adb.Halt

/-!
# Messages and packets

`struct amessage` and `struct apacket` of `types.h`, with the command words and limits of
`adb.h`. The header words are `uint32_t`, as in the source.
-/

namespace Adb

abbrev Bytes := List UInt8

def ascii (s : String) : Bytes := s.toList.map fun c => c.toNat.toUInt8

def cString (b : Bytes) : Bytes := b.takeWhile (· ≠ 0)

def maxPayloadV1 : ℕ := 4 * 1024

def maxPayload : ℕ := 1024 * 1024

def tokenSize : ℕ := 20

def A_SYNC : UInt32 := 0x434e5953
def A_CNXN : UInt32 := 0x4e584e43
def A_OPEN : UInt32 := 0x4e45504f
def A_OKAY : UInt32 := 0x59414b4f
def A_CLSE : UInt32 := 0x45534c43
def A_WRTE : UInt32 := 0x45545257
def A_AUTH : UInt32 := 0x48545541

def A_VERSION_MIN : UInt32 := 0x01000000
def A_VERSION_SKIP_CHECKSUM : UInt32 := 0x01000001
def A_VERSION : UInt32 := 0x01000001

def ADB_AUTH_TOKEN : UInt32 := 1
def ADB_AUTH_SIGNATURE : UInt32 := 2
def ADB_AUTH_RSAPUBLICKEY : UInt32 := 3

structure AMessage where
  command : UInt32
  arg0 : UInt32 := 0
  arg1 : UInt32 := 0
  dataLength : UInt32 := 0
  dataCheck : UInt32 := 0
  magic : UInt32 := 0
deriving DecidableEq, Repr

structure APacket where
  msg : AMessage
  payload : Bytes := []
deriving DecidableEq, Repr

/-- A packet whose header is in order. -/
def packetOf (command arg0 arg1 : UInt32) (payload : Bytes := []) : APacket where
  msg :=
    { command := command
      arg0 := arg0
      arg1 := arg1
      dataLength := .ofNat payload.length
      magic := command ^^^ 0xffffffff }
  payload := payload

/-- `calculate_apacket_checksum`: the sum of the first `data_length` payload bytes. -/
def calculateApacketChecksum (p : APacket) : UInt32 :=
  ((p.payload.take p.msg.dataLength.toNat).map UInt8.toUInt32).sum

inductive ConnectionState
  | kCsConnecting
  | kCsAuthorizing
  | kCsUnauthorized
  | kCsNoPerm
  | kCsOffline
  | kCsBootloader
  | kCsDevice
  | kCsHost
  | kCsRecovery
  | kCsSideload
deriving DecidableEq, Repr

def connectionStateIsOnline : ConnectionState → Bool
  | .kCsBootloader | .kCsDevice | .kCsHost | .kCsRecovery | .kCsSideload => true
  | _ => false

end Adb

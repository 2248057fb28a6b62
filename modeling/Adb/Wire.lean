import Adb.Lib.LittleEndian
import Adb.Packet

/-!
# The bytes of a message

`struct amessage` as it goes over the wire: six words of 32 bits, the lowest byte first.
-/

namespace Adb

open Lib

namespace AMessage

def size : ℕ := 24

def ofBytes (b : Bytes) : AMessage where
  command := word32 b
  arg0 := word32 (b.drop 4)
  arg1 := word32 (b.drop 8)
  dataLength := word32 (b.drop 12)
  dataCheck := word32 (b.drop 16)
  magic := word32 (b.drop 20)

def bytes (m : AMessage) : Bytes :=
  le32 m.command ++ le32 m.arg0 ++ le32 m.arg1 ++ le32 m.dataLength ++ le32 m.dataCheck ++
    le32 m.magic

end AMessage

end Adb

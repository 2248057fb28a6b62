import Adb.Packet
import Mathlib.Data.List.DropRight

/-!
# File names

`Basename` and `Dirname` of `android::base`, as POSIX has them, and `escape_arg` of `adb_utils.cpp`.
-/

namespace Adb

def slash : UInt8 := 47

def basename (path : Bytes) : Bytes :=
  let p := path.rdropWhile (· = slash)
  if path.isEmpty then ascii "."
  else if p.isEmpty then ascii "/"
  else p.rtakeWhile (· ≠ slash)

def dirname (path : Bytes) : Bytes :=
  let p := path.rdropWhile (· = slash)
  let dir := p.rdropWhile (· ≠ slash)
  if path.isEmpty then ascii "."
  else if p.isEmpty then ascii "/"
  else if dir.isEmpty then ascii "."
  else
    let dir := dir.rdropWhile (· = slash)
    if dir.isEmpty then ascii "/" else dir

def escapeArg (s : Bytes) : Bytes :=
  [39] ++ s.flatMap (fun c => if c = 39 then [39, 92, 39, 39] else [c]) ++ [39]

example : (basename (ascii "/sdcard/a/"), dirname (ascii "/sdcard/a/")) =
    (ascii "a", ascii "/sdcard") := by
  decide

end Adb

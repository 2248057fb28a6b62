import Adb.Packet
import Mathlib.Data.List.Sort

/-!
# Fast deploy

`DeployPatchGenerator` looks for the entries of the APK that the device has already, and makes a patch
from the rest; `DeployAgent` applies it. A Java `long` is an `Int`, with `long` where an operation may
overflow. An `InputStream` gives as many bytes at once as it likes.
-/

namespace Adb.FastDeploy

/-- `APKEntry`. The names of the entries and their uncompressed sizes are only printed. -/
structure APKEntry where
  crc32 : Int64
  dataOffset : Int64
  compressedSize : Int64
deriving DecidableEq, Repr

inductive PatchException
  | io (message : String)
  | format (message : String)
  | indexOutOfBounds
  /-- `String.format` does not know `%ld` -/
  | unknownFormatConversion
  | hang
deriving DecidableEq, Repr

abbrev Res (α : Type) := Except PatchException α

/-! ## Numbers -/

def unsigned (x : Int) : ℕ := (x % 2 ^ 64).toNat

def signed (bits : ℕ) : Int := (bits : Int).bmod (2 ^ 64)

def long (x : Int) : Int := x.bmod (2 ^ 64)

def int (x : Int) : Int := x.bmod (2 ^ 32)

def negativeMask : ℕ := 2 ^ 63

def lowBytes : ℕ → ℕ → Bytes
  | 0, _ => []
  | n + 1, y => UInt8.ofNat y :: lowBytes n (y >>> 8)

def writeFormattedLong (value : Int) : Bytes :=
  let y := if value < 0 then unsigned (-value) ||| negativeMask else unsigned value
  lowBytes 8 y

/-! ## Streams -/

/-- An `InputStream`: what it reads, the position, and how many bytes the next reads give at
most. -/
structure InputStream where
  data : Bytes
  pos : ℕ := 0
  grants : List ℕ := []
deriving DecidableEq, Repr

namespace InputStream

def left (s : InputStream) : Bytes := s.data.drop s.pos

def readByte (s : InputStream) : Int × InputStream :=
  match s.left with
  | [] => (-1, s)
  | b :: _ => (b.toNat, { s with pos := s.pos + 1 })

def granted (n : ℕ) (s : InputStream) : ℕ := min (min n s.left.length) (max 1 (s.grants.headD n))

/-- `FileInputStream.skip`, which may go past the end. -/
def skip (n : Int) (s : InputStream) : Res (Int × InputStream) :=
  if s.pos + n < 0 then throw (.io "Seek error")
  else pure (n, { s with pos := (s.pos + n).toNat })

end InputStream

/-- The loop of `readFully`. It comes to its end in `n` rounds if it is to read `n` bytes, as every
read gives at least one. -/
def readRounds : ℕ → ℕ → InputStream → Res (Bytes × InputStream)
  | 0, _, s => pure ([], s)
  | n + 1, numBytes, s =>
    if numBytes = 0 then pure ([], s)
    else if s.granted numBytes = 0 then throw (.io "truncated input stream")
    else do
      let readNow := s.granted numBytes
      let (more, rest) ← readRounds n (numBytes - readNow)
        { s with pos := s.pos + readNow, grants := s.grants.tail }
      pure (s.left.take readNow ++ more, rest)

/-- `readFully`: what is then in the buffer. -/
def readFully (numBytes : ℕ) (s : InputStream) : Res (Bytes × InputStream) :=
  readRounds numBytes numBytes s

def bufferSize : ℕ := 128 * 1024

/-- The number of bytes that one round of `pipe` copies, with a buffer of this size. -/
def maxCopy (buffer : ℕ) (copyLength : Int) : Int := min buffer (int copyLength)

/-- The loop of `pipe`, in at most `n` rounds, from what `readFully` reads. What is written from a
buffer of negative length fails. -/
def pipeRounds {σ : Type} (readFully : ℕ → σ → Res (Bytes × σ)) (buffer : ℕ) :
    ℕ → Int → σ → Bytes → Res (σ × Bytes)
  | 0, copyLength, s, out => if copyLength > 0 then throw .hang else pure (s, out)
  | n + 1, copyLength, s, out =>
    if copyLength > 0 then
      if maxCopy buffer copyLength < 0 then throw .indexOutOfBounds
      else do
        let (bytes, s) ← readFully (maxCopy buffer copyLength).toNat s
        pipeRounds readFully buffer n (copyLength - maxCopy buffer copyLength) s (out ++ bytes)
    else pure (s, out)

/-- `pipe`, from a stream. A round that copies nothing is not the last one. -/
def pipe (buffer : ℕ) (copyLength : Int) (s : InputStream) (out : Bytes) :
    Res (InputStream × Bytes) :=
  pipeRounds readFully buffer copyLength.toNat copyLength s out

/-- The loop of `readFormattedLong` and `readBsdiffLong`, for the last `n` bytes. At the end of
the stream `read()` returns -1. -/
def readBits : ℕ → ℕ → ℕ → InputStream → ℕ × InputStream
  | 0, _, result, s => (result, s)
  | n + 1, bitshift, result, s =>
    let (b, s) := s.readByte
    readBits n (bitshift + 8) (result ||| unsigned (b <<< bitshift)) s

def formattedLong (bits : ℕ) : Int :=
  if long (signed bits - signed negativeMask) > 0 then
    long (-(bits &&& (negativeMask - 1) : ℕ))
  else
    signed bits

def readFormattedLong (s : InputStream) : Int × InputStream :=
  (formattedLong (readBits 8 0 0 s).1, (readBits 8 0 0 s).2)

def readBsdiffLong (s : InputStream) : Res (Int × InputStream) :=
  let (bits, s) := readBits 8 0 0 s
  if bits = negativeMask then throw (.format "read negative zero")
  else if bits &&& negativeMask ≠ 0 then
    pure (long (-(bits &&& (negativeMask - 1) : ℕ)), s)
  else
    pure (signed bits, s)

def signature : Bytes := ascii "HAMADI/IHD"

/-! ## The generator -/

/-- `getIdenticalContents`. `Collections.sort` is stable. -/
def getIdenticalContents (deviceZipEntries hostZipEntries : List APKEntry) :
    List (APKEntry × APKEntry) :=
  let identicalContents := deviceZipEntries.flatMap fun d =>
    (hostZipEntries.filter fun h => d.crc32 = h.crc32).map fun h => (d, h)
  identicalContents.insertionSort fun p q => p.2.dataOffset ≤ q.2.dataOffset

structure Generator where
  hostFileInputStream : InputStream
  patchStream : Bytes
  totalBytesWritten : Int := 0
deriving DecidableEq, Repr

def createPatchEntry (deviceAPKEntry hostAPKEntry : APKEntry) (g : Generator) :
    Res Generator := do
  let newDataLen := long (hostAPKEntry.dataOffset.toInt - g.totalBytesWritten)
  let oldDataOffset := deviceAPKEntry.dataOffset.toInt
  let oldDataLen := deviceAPKEntry.compressedSize.toInt
  let (host, patch) ← pipe bufferSize newDataLen g.hostFileInputStream
    (g.patchStream ++ writeFormattedLong newDataLen)
  let (skip, host) ← host.skip oldDataLen
  if skip ≠ oldDataLen then
    throw (.format ("skip error: attempted to skip " ++ toString oldDataLen ++
      " bytes but return code was " ++ toString skip))
  else
    pure
      { hostFileInputStream := host
        patchStream := patch ++ writeFormattedLong oldDataOffset ++ writeFormattedLong oldDataLen
        totalBytesWritten := long (g.totalBytesWritten + long (oldDataLen + newDataLen)) }

def createPatchEntries : List (APKEntry × APKEntry) → Generator → Res Generator
  | [], g => pure g
  | (d, h) :: rest, g => do
    let g ← createPatchEntry d h g
    createPatchEntries rest g

def createPatchRemainder (hostFile : Bytes) (g : Generator) : Res Bytes := do
  let remainderLen := long (hostFile.length - g.totalBytesWritten)
  let (_, patch) ← pipe bufferSize remainderLen g.hostFileInputStream
    (g.patchStream ++ writeFormattedLong remainderLen)
  pure (patch ++ writeFormattedLong 0 ++ writeFormattedLong 0)

/-- `createPatch`: what is written to the stream. -/
def createPatch (zipEntrySimpleEntrys : List (APKEntry × APKEntry)) (hostFile : Bytes)
    (grants : List ℕ) : Res Bytes := do
  let g ← createPatchEntries zipEntrySimpleEntrys
    { hostFileInputStream := { data := hostFile, grants := grants }
      patchStream := signature ++ writeFormattedLong hostFile.length }
  createPatchRemainder hostFile g

/-! ## The agent -/

structure RandomAccessFile where
  data : Bytes
  pos : ℕ := 0
deriving DecidableEq, Repr

namespace RandomAccessFile

def seek (pos : Int) (f : RandomAccessFile) : Res RandomAccessFile :=
  if pos < 0 then throw (.io "Negative seek offset") else pure { f with pos := pos.toNat }

def readFully (n : ℕ) (f : RandomAccessFile) : Res (Bytes × RandomAccessFile) :=
  let bytes := (f.data.drop f.pos).take n
  if bytes.length < n then throw (.io "EOFException")
  else pure (bytes, { f with pos := f.pos + n })

def pipe (buffer : ℕ) (copyLength : Int) (f : RandomAccessFile) (out : Bytes) :
    Res (RandomAccessFile × Bytes) :=
  pipeRounds readFully buffer copyLength.toNat copyLength f out

end RandomAccessFile

structure Agent where
  oldData : RandomAccessFile
  patchData : InputStream
  outputStream : Bytes := []
  newDataBytesWritten : Int := 0
deriving DecidableEq, Repr

def writeNewData (copyLen : Int) (patchData : InputStream) (out : Bytes) :
    Res (InputStream × Bytes) :=
  if copyLen > 0 then pipe bufferSize (int copyLen) patchData out else pure (patchData, out)

def writeOldData (oldDataLen : Int) (oldData : RandomAccessFile) (out : Bytes) :
    Res (RandomAccessFile × Bytes) :=
  if oldDataLen > 0 then oldData.pipe bufferSize (int oldDataLen) out else pure (oldData, out)

def writePatchedEntry (a : Agent) : Res Agent := do
  let copyLen := readFormattedLong a.patchData
  let new ← writeNewData copyLen.1 copyLen.2 a.outputStream
  let oldDataOffset := readFormattedLong new.1
  let oldDataLen := readFormattedLong oldDataOffset.2
  let oldData ← a.oldData.seek oldDataOffset.1
  let old ← writeOldData oldDataLen.1 oldData new.2
  pure
    { oldData := old.1
      patchData := oldDataLen.2
      outputStream := old.2
      newDataBytesWritten := long (a.newDataBytesWritten + long (copyLen.1 + oldDataLen.1)) }

/-- The loop of `writePatchedDataToStream`, in at most `n` rounds. -/
def writePatchedEntries (newSize : Int) : ℕ → Agent → Res Agent
  | 0, _ => throw .hang
  | n + 1, a =>
    if a.newDataBytesWritten < newSize then do
      let a ← writePatchedEntry a
      writePatchedEntries newSize n a
    else
      pure a

/-- `writePatchedDataToStream`. A round that begins at the end of the patch fails in `seek`, as the
numbers it reads are negative; the others read at least one byte. -/
def writePatchedDataToStream (oldData : RandomAccessFile) (newSize : Int) (patchData : InputStream) :
    Res (Bytes × Int) := do
  let a ← writePatchedEntries newSize (patchData.left.length + 2)
    { oldData := oldData, patchData := patchData }
  pure (a.outputStream, a.newDataBytesWritten)

def readPatchHeader (patchData : InputStream) : Res (Int × InputStream) :=
  match readFully signature.length patchData with
  | .error _ => throw (.format "truncated signature")
  | .ok (signatureBuffer, patchData) =>
    if signatureBuffer ≠ signature then throw (.format "bad signature")
    else do
      let (newSize, patchData) ← readBsdiffLong patchData
      if newSize < 0 ∨ newSize > 2 ^ 31 - 1 then throw (.format "bad newSize")
      else pure (newSize, patchData)

/-- `writePatchToStream`: what is written to the stream, and what is returned. -/
def writePatchToStream (oldData : Bytes) (patchData : InputStream) : Res (Bytes × Int) := do
  let (newSize, patchData) ← readPatchHeader patchData
  let (out, bytesWritten) ← writePatchedDataToStream { data := oldData } newSize patchData
  if bytesWritten ≠ newSize then throw .unknownFormatConversion
  else pure (out, bytesWritten)

end Adb.FastDeploy

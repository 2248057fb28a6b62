import Adb.FileSync
import Adb.Lib.Numeral

/-!
# The sync client

`client/file_sync_client.cpp`. The device at the other end of the connection is a function: what it
has sent when it has seen all that the client has written, and whether it has closed the connection
then. The client reads of this what it wants, and waits if it is not there.
-/

namespace Adb.SyncClient

open Lib FileSync

/-! ## The state -/

inductive Poll
  | now
  | early
  | fails (e : Errno)
deriving DecidableEq, Repr

inductive Report
  | error (text : Bytes)
  | warning (text : Bytes)
  | info (text : Bytes)
  /-- `ReportTransferRate`: files transferred and skipped since `NewTransfer` -/
  | rate (name : Bytes) (files skipped : ℕ)
deriving DecidableEq, Repr

structure CopyInfo where
  lpath : Bytes
  rpath : Bytes
  time : UInt64 := 0
  mode : UInt32
  size : UInt64 := 0
  skip : Bool := false
deriving DecidableEq, Repr

structure Client where
  peer : Bytes → Bytes × Bool
  written : Bytes := []
  consumed : ℕ := 0
  /-- what becomes of the writes to it: some fail, after so many bytes -/
  sends : List (Option (ℕ × Errno)) := []
  polls : List Poll := []
  disk : Disk := {}
  attr : Path → Attr := fun _ => {}
  /-- the size that `stat` reports, where it is not that of the content -/
  sizes : Path → Option UInt64 := fun _ => none
  /-- `readdir`, if the directory can be opened -/
  entries : Path → Except Errno (List Bytes) := fun _ => .error .ENOENT
  umask : UInt32 := 0o022
  errno : Option Errno := none
  expectDone : Bool := false
  haveStatV2 : Bool := true
  shell2 : Bool := false
  filesTransferred : ℕ := 0
  filesSkipped : ℕ := 0
  reports : List Report := []
  commands : List Bytes := []
  /-- the names that the device has listed -/
  names : List Bytes := []
  /-- how many bytes were to be read into the `buffer` of `sync_recv` -/
  buffered : List ℕ := []
  /-- the payloads of the `ID_DATA` messages that were written -/
  chunks : List Bytes := []
  /-- the local paths that were created, unlinked or written -/
  targets : List Bytes := []

inductive Stop
  /-- it waits for bytes that do not come -/
  | waits
  | fatal (message : Bytes)
  | exits
  /-- a reason longer than its buffer is read -/
  | overrun
  /-- a loop or recursion has no end -/
  | hangs
deriving DecidableEq, Repr

abbrev Res (α : Type) := Except (Stop × Client) α

def decimal (n : ℕ) : Bytes := numeral 10 n

def signed (n : UInt32) : Bytes :=
  if n.toNat < 2 ^ 31 then decimal n.toNat else ascii "-" ++ decimal (2 ^ 32 - n.toNat)

def errorText (σ : Client) : Bytes :=
  match σ.errno with
  | none => ascii "Success"
  | some e => strerror e

def report (r : Report) (σ : Client) : Client := { σ with reports := σ.reports ++ [r] }

def error (text : Bytes) (σ : Client) : Client := report (.error text) σ

def errorErrno (text : Bytes) (σ : Client) : Client := error (text ++ ascii ": " ++ errorText σ) σ

def quoted (path : Bytes) : Bytes := ascii "'" ++ path ++ ascii "'"

def newTransfer (σ : Client) : Client := { σ with filesTransferred := 0, filesSkipped := 0 }

def reportTransferRate (name : Bytes) (σ : Client) : Client :=
  report (.rate name σ.filesTransferred σ.filesSkipped) σ

/-! ## The connection -/

def writeFdExactly (data : Bytes) (σ : Client) : Bool × Client :=
  match σ.sends with
  | some (n, e) :: rest =>
    (false, { σ with
      sends := rest
      written := σ.written ++ data.take n
      errno := if e = .EPIPE then none else some e })
  | none :: rest => (true, { σ with sends := rest, written := σ.written ++ data })
  | [] => (true, { σ with written := σ.written ++ data })

def readFdExactly (n : ℕ) (σ : Client) : Res (Option Bytes × Client) :=
  let (sent, closed) := σ.peer σ.written
  let left := sent.drop σ.consumed
  if n ≤ left.length then .ok (some (left.take n), { σ with consumed := σ.consumed + n })
  else if closed then .ok (none, { σ with consumed := sent.length, errno := none })
  else .error (.waits, σ)

def receivedError (σ : Client) : Bool × Client :=
  let (sent, closed) := σ.peer σ.written
  match σ.polls.headD .now with
  | .now => (decide (σ.consumed < sent.length) || closed, { σ with polls := σ.polls.tail })
  | .early => (false, { σ with polls := σ.polls.tail })
  | .fails e =>
    (true, errorErrno (ascii "failed to poll") { σ with polls := σ.polls.tail, errno := some e })

def sendRequest (id : UInt32) (path : Bytes) (σ : Client) : Bool × Client :=
  if path.length > 1024 then
    (false, { error (ascii "SendRequest failed: path too long: " ++ decimal path.length) σ with
      errno := some .ENAMETOOLONG })
  else writeFdExactly (header id (UInt32.ofNat path.length) ++ path) σ

def sendStat (path : Bytes) (σ : Client) : Bool × Client :=
  if !σ.haveStatV2 then (false, { σ with errno := some .ENOTSUP })
  else sendRequest ID_STAT_V2 path σ

def sendLstat (path : Bytes) (σ : Client) : Bool × Client :=
  sendRequest (if σ.haveStatV2 then ID_LSTAT_V2 else ID_LSTAT_V1) path σ

def wrongId (id : UInt32) : Stop :=
  .fatal (ascii "protocol fault: stat response has wrong message id: " ++ numeral 16 id.toNat)

def acceptStatV2 (msg : Bytes) (σ : Client) : Res (Option Stat × Client) :=
  if idOf msg ≠ ID_LSTAT_V2 ∧ idOf msg ≠ ID_STAT_V2 then .error (wrongId (idOf msg), σ)
  else if wordOf msg ≠ 0 then .ok (none, { σ with errno := some (errnoFromWire (wordOf msg)) })
  else .ok (some (parseStatV2 msg), σ)

def acceptStatV1 (msg : Bytes) (σ : Client) : Res (Option Stat × Client) :=
  if idOf msg ≠ ID_LSTAT_V1 then .error (wrongId (idOf msg), σ)
  else if field32 4 msg = 0 ∧ field32 8 msg = 0 ∧ field32 12 msg = 0 then
    -- There's no way for us to know what the error was.
    .ok (none, { σ with errno := some .ENOPROTOOPT })
  else .ok (some (parseStatV1 msg), σ)

def finishStat (σ : Client) : Res (Option Stat × Client) := do
  let (msg, σ) ← readFdExactly (if σ.haveStatV2 then 72 else 16) σ
  match msg with
  | none => .error (.fatal (ascii "protocol fault: failed to read stat response"), σ)
  | some msg => if σ.haveStatV2 then acceptStatV2 msg σ else acceptStatV1 msg σ

def syncStat (path : Bytes) (σ : Client) : Res (Option Stat × Client) :=
  match sendStat path σ with
  | (false, σ) => .ok (none, σ)
  | (true, σ) => finishStat σ

def syncLstat (path : Bytes) (σ : Client) : Res (Option Stat × Client) :=
  match sendLstat path σ with
  | (false, σ) => .ok (none, σ)
  | (true, σ) => finishStat σ

/-- If the target is a symlink, figure out whether it's a file or a directory. -/
def resolveLink (path : Bytes) (st : Stat) (σ : Client) : Res (Option Stat × Client) := do
  let (tmp, σ) ← syncLstat (path ++ [slash]) σ
  let mode := st.mode &&& ~~~S_IFMT
  pure (some { st with size := 0, mode := mode ||| if tmp.isSome then S_IFDIR else S_IFREG }, σ)

/-- What `sync_stat_fallback` does for older devices. -/
def emulateStat (path : Bytes) (σ : Client) : Res (Option Stat × Client) := do
  let (st, σ) ← syncLstat path σ
  match st with
  | none => pure (none, σ)
  | some st => if isKind S_IFLNK st.mode then resolveLink path st σ else pure (some st, σ)

def syncStatFallback (path : Bytes) (σ : Client) : Res (Option Stat × Client) := do
  let (st, σ) ← syncStat path σ
  match st with
  | some st => pure (some st, σ)
  | none => if σ.errno ≠ some .ENOTSUP then pure (none, σ) else emulateStat path σ

/-! ## Sending a file -/

def copyFailed (src dst : Bytes) : Bytes :=
  ascii "failed to copy " ++ quoted src ++ ascii " to " ++ quoted dst

/-- `ReportCopyFailure`. The buffer has `msglen + 1` bytes, modulo 2^32. -/
def reportCopyFailure (src dst msg : Bytes) (σ : Client) : Res (Bool × Client) :=
  if wordOf msg + 1 = 0 then .error (.overrun, σ)
  else do
    let (reason, σ) ← readFdExactly (wordOf msg).toNat σ
    match reason with
    | none => pure (false, errorErrno (copyFailed src dst ++ ascii "; failed to read reason (!)") σ)
    | some reason =>
      pure (false, error (copyFailed src dst ++ ascii ": remote " ++ cString reason) σ)

def copyDone (src dst : Bytes) (σ : Client) : Res (Bool × Client) := do
  let (msg, σ) ← readFdExactly 8 σ
  match msg with
  | none => pure (false, error (copyFailed src dst ++ ascii ": couldn't read from device") σ)
  | some msg =>
    if idOf msg = ID_OKAY then
      if σ.expectDone then
        pure (true, { σ with expectDone := false, filesTransferred := σ.filesTransferred + 1 })
      else pure (true, error (copyFailed src dst ++ ascii ": received premature success") σ)
    else if idOf msg ≠ ID_FAIL then
      pure (false, error (copyFailed src dst ++ ascii ": unknown reason " ++ signed (idOf msg)) σ)
    else reportCopyFailure src dst msg σ

/-- What `WriteOrDie` does when the connection was reset: it may have been told why. -/
def reportReset (src dst : Bytes) (σ : Client) : Res Client := do
  let (msg, σ) ← readFdExactly 8 σ
  match msg with
  | none => pure (errorErrno (copyFailed src dst ++ ascii ": no response") σ)
  | some msg =>
    if idOf msg ≠ ID_FAIL then
      pure (error (copyFailed src dst ++ ascii ": not ID_FAIL: " ++ signed (idOf msg)) σ)
    else do
      let (_, σ) ← reportCopyFailure src dst msg σ
      pure σ

def writeOrDie (src dst data : Bytes) (σ : Client) : Res Client :=
  match writeFdExactly data σ with
  | (true, σ) => pure σ
  | (false, σ) =>
    if σ.errno = some .ECONNRESET then do
      let σ ← reportReset src dst σ
      .error (.exits, σ)
    else
      .error (.exits, errorErrno (decimal data.length ++ ascii "-byte write failed") σ)

def sendSmallFile (pathAndMode lpath rpath : Bytes) (mtime : UInt32) (data : Bytes) (σ : Client) :
    Res (Bool × Client) :=
  if pathAndMode.length > 1024 then
    pure (false,
      { error (ascii "SendSmallFile failed: path too long: " ++ decimal pathAndMode.length) σ with
        errno := some .ENAMETOOLONG })
  else do
    let buf := header ID_SEND (UInt32.ofNat pathAndMode.length) ++ pathAndMode ++
      (header ID_DATA (UInt32.ofNat data.length) ++ data) ++ header ID_DONE mtime
    let σ ← writeOrDie lpath rpath buf { σ with chunks := σ.chunks ++ [data] }
    pure (true, { σ with expectDone := true })

def onDisk {α : Type} (f : Disk → Except Errno α × Disk) (σ : Client) : Option α × Client :=
  match f σ.disk with
  | (.ok a, disk) => (some a, { σ with disk := disk })
  | (.error e, disk) => (none, { σ with disk := disk, errno := some e })

def statLocal (f : Path → Disk → Except Errno Node × Disk) (path : Bytes) (σ : Client) :
    Option Stat × Client :=
  let (node, σ) := onDisk (f path) σ
  (node.map fun node =>
    let st := statOf (σ.attr path) node
    { st with size := (σ.sizes path).getD st.size }, σ)

/-- The loop of `SendLargeFile`: whether the file could be read. A round reads at least one byte. -/
def sendDataRounds (lpath rpath : Bytes) : ℕ → File → Client → Res (Bool × Client)
  | 0, _, σ => .error (.hangs, σ)
  | n + 1, f, σ =>
    match σ.disk.read f (syncDataMax - 8) with
    | (.error e, _, disk) =>
      pure (false, errorErrno (ascii "reading " ++ quoted lpath ++ ascii " locally failed")
        { σ with disk := disk, errno := some e })
    | (.ok data, f, disk) =>
      if data.isEmpty then pure (true, { σ with disk := disk })
      else do
        let msg := header ID_DATA (UInt32.ofNat data.length) ++ data
        let σ ← writeOrDie lpath rpath msg { σ with disk := disk, chunks := σ.chunks ++ [data] }
        match receivedError σ with
        | (true, σ) => pure (true, σ)
        | (false, σ) => sendDataRounds lpath rpath n f σ

/-- `SendLargeFile`, once the file is open. -/
def sendOpenFile (lpath rpath : Bytes) (mtime : UInt32) (f : File) (σ : Client) :
    Res (Bool × Client) := do
  let (ok, σ) ← sendDataRounds lpath rpath (((σ.disk.content lpath).getD []).length + 1) f σ
  if !ok then pure (false, σ)
  else do
    let σ ← writeOrDie lpath rpath (header ID_DONE mtime) { σ with expectDone := true }
    pure (true, σ)

def sendLargeFile (pathAndMode lpath rpath : Bytes) (mtime : UInt32) (σ : Client) :
    Res (Bool × Client) :=
  match sendRequest ID_SEND pathAndMode σ with
  | (false, σ) =>
    pure (false, errorErrno (ascii "failed to send ID_SEND message " ++ quoted pathAndMode) σ)
  | (true, σ) =>
    match statLocal Disk.stat lpath σ with
    | (none, σ) => pure (false, errorErrno (ascii "cannot stat " ++ quoted lpath) σ)
    | (some _, σ) =>
      match onDisk (Disk.openFile lpath) σ with
      | (none, σ) =>
        pure (false, errorErrno (ascii "opening " ++ quoted lpath ++ ascii " locally failed") σ)
      | (some f, σ) => sendOpenFile lpath rpath mtime f σ

def sameFile (mode mtime : UInt32) (st : Stat) : Bool :=
  isKind S_IFREG (mode &&& st.mode) && st.mtime = mtime.toUInt64 ||
    isKind S_IFLNK (mode &&& st.mode) && mtime.toUInt64.toInt64 ≤ st.mtime.toInt64

/-- The `sync` part of `sync_send`: whether the file is skipped. -/
def skipFile (rpath : Bytes) (mtime mode : UInt32) (σ : Client) : Res (Bool × Client) := do
  let (st, σ) ← syncLstat rpath σ
  if st.any (sameFile mode mtime) then
    pure (true, { σ with filesSkipped := σ.filesSkipped + 1 })
  else pure (false, σ)

def pathMax : ℕ := 4096

def readLocalLink (lpath : Bytes) (σ : Client) : Option Bytes × Client :=
  match onDisk (Disk.lstat lpath) σ with
  | (some (.link target), σ) => (some (target.take (pathMax - 1)), σ)
  | (some _, σ) => (none, { σ with errno := some .EINVAL })
  | (none, σ) => (none, σ)

/-- `if (!send(...)) return false; return CopyDone(...)`. -/
def thenCopyDone (lpath rpath : Bytes) (sent : Res (Bool × Client)) : Res (Bool × Client) := do
  let (ok, σ) ← sent
  if ok then copyDone lpath rpath σ else pure (false, σ)

def sendLink (pathAndMode lpath rpath : Bytes) (mtime : UInt32) (σ : Client) :
    Res (Bool × Client) :=
  match readLocalLink lpath σ with
  | (none, σ) => pure (false, errorErrno (ascii "readlink " ++ quoted lpath ++ ascii " failed") σ)
  | (some target, σ) =>
    thenCopyDone lpath rpath (sendSmallFile pathAndMode lpath rpath mtime (target ++ [0]) σ)

def readFileToString (lpath : Bytes) (σ : Client) : Option Bytes × Client :=
  onDisk (Disk.readAll 8192 lpath) σ

def sendFile (pathAndMode lpath rpath : Bytes) (mtime : UInt32) (σ : Client) :
    Res (Bool × Client) :=
  match statLocal Disk.stat lpath σ with
  | (none, σ) => pure (false, errorErrno (ascii "failed to stat local file " ++ quoted lpath) σ)
  | (some st, σ) =>
    if st.size.toNat < syncDataMax then
      match readFileToString lpath σ with
      | (none, σ) => pure (false, errorErrno (ascii "failed to read all of " ++ quoted lpath) σ)
      | (some data, σ) =>
        thenCopyDone lpath rpath (sendSmallFile pathAndMode lpath rpath mtime data σ)
    else thenCopyDone lpath rpath (sendLargeFile pathAndMode lpath rpath mtime σ)

def syncSend (lpath rpath : Bytes) (mtime mode : UInt32) (sync : Bool) (σ : Client) :
    Res (Bool × Client) := do
  let pathAndMode := rpath ++ ascii "," ++ signed mode
  let (skip, σ) ← if sync then skipFile rpath mtime mode σ else pure (false, σ)
  if skip then pure (true, σ)
  else if isKind S_IFLNK mode then sendLink pathAndMode lpath rpath mtime σ
  else sendFile pathAndMode lpath rpath mtime σ

/-! ## Receiving a file -/

/-- `adb_unlink(lpath)`, whatever it returns. -/
def unlinkLocal (lpath : Bytes) (σ : Client) : Client := (onDisk (Disk.unlink lpath) σ).2

/-- The payload of a message is read and written to the file: the file, if this goes well. -/
def recvData (lpath : Bytes) (size : ℕ) (f : File) (σ : Client) : Res (Option File × Client) := do
  let (data, σ) ← readFdExactly size { σ with buffered := σ.buffered ++ [size] }
  match data with
  | none => pure (none, unlinkLocal lpath σ)
  | some data =>
    match σ.disk.writeExactly f data with
    | (.ok (), f, disk) => pure (some f, { σ with disk := disk })
    | (.error e, _, disk) =>
      let σ := { σ with disk := disk, errno := some e }
      pure (none, unlinkLocal lpath (errorErrno (ascii "cannot write " ++ quoted lpath) σ))

inductive RecvNext
  | again (f : File)
  | done
  | fail
deriving DecidableEq, Repr

def recvMessage (rpath lpath : Bytes) (f : File) (σ : Client) : Res (RecvNext × Client) := do
  let (msg, σ) ← readFdExactly 8 σ
  match msg with
  | none => pure (.fail, unlinkLocal lpath σ)
  | some msg =>
    if idOf msg = ID_DONE then pure (.done, σ)
    else if idOf msg ≠ ID_DATA then do
      let (_, σ) ← reportCopyFailure rpath lpath msg (unlinkLocal lpath σ)
      pure (.fail, σ)
    else if (wordOf msg).toNat > syncDataMax then
      pure (.fail, unlinkLocal lpath (error (ascii "msg.data.size too large: " ++
        decimal (wordOf msg).toNat ++ ascii " (max " ++ decimal syncDataMax ++ ascii ")") σ))
    else do
      let (f, σ) ← recvData lpath (wordOf msg).toNat f σ
      match f with
      | none => pure (.fail, σ)
      | some f => pure (.again f, σ)

/-- The loop of `sync_recv`. A round reads at least eight bytes. -/
def recvRounds (rpath lpath : Bytes) : ℕ → File → Client → Res (Bool × Client)
  | 0, _, σ => .error (.hangs, σ)
  | n + 1, f, σ => do
    let (next, σ) ← recvMessage rpath lpath f σ
    match next with
    | .again f => recvRounds rpath lpath n f σ
    | .done => pure (true, { σ with filesTransferred := σ.filesTransferred + 1 })
    | .fail => pure (false, σ)

def syncRecv (rpath lpath : Bytes) (σ : Client) : Res (Bool × Client) :=
  match sendRequest ID_RECV rpath σ with
  | (false, σ) => pure (false, σ)
  | (true, σ) =>
    let σ := { σ with targets := σ.targets ++ [lpath] }
    match onDisk (Disk.creat lpath) (unlinkLocal lpath σ) with
    | (none, σ) => pure (false, errorErrno (ascii "cannot create " ++ quoted lpath) σ)
    | (some f, σ) => recvRounds rpath lpath ((σ.peer σ.written).1.length + 1) f σ

/-- `SendQuit`, when the connection is given up. -/
def quit (σ : Client) : Client := (sendRequest ID_QUIT [] σ).2

end Adb.SyncClient

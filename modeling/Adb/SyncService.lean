import Adb.FileSync
import Adb.ProtocolString

/-!
# The sync service

`daemon/file_sync_service.cpp`. The service reads the bytes that the client has sent so far; where
`ReadFdExactly` has to wait for more of them, the run ends there.
-/

namespace Adb.SyncService

open Lib FileSync

inductive FdOp
  | opened
  | closed
deriving DecidableEq, Repr

structure Daemon where
  input : Bytes := []
  eof : Bool := false
  hungUp : Bool := false
  output : Bytes := []
  disk : Disk := {}
  attr : Path → Attr := fun _ => {}
  /-- `readdir`, if the directory can be opened -/
  entries : Path → Option (List Bytes) := fun _ => none
  /-- the capabilities that `fs_config` gives a file; none where there is no `fs_config` -/
  capabilities : Path → UInt64 := fun _ => 0
  /-- `buffer`, as far as it has been written to; the rest is zero -/
  buffer : Bytes := []
  errno : Errno := .ENOENT
  fdOps : List FdOp := []

abbrev Res (α : Type) := Except Daemon α

/-! ## Reading and writing -/

def readFdExactly (n : ℕ) (σ : Daemon) : Res (Option Bytes × Daemon) :=
  if n ≤ σ.input.length then .ok (some (σ.input.take n), { σ with input := σ.input.drop n })
  else if σ.eof then .ok (none, { σ with input := [] })
  else .error σ

def reply (data : Bytes) (σ : Daemon) : Bool × Daemon :=
  if σ.hungUp then (false, { σ with errno := .EPIPE })
  else (true, { σ with output := σ.output ++ data })

def sendSyncFail (reason : Bytes) (σ : Daemon) : Daemon :=
  let (ok, σ) := reply (header ID_FAIL (UInt32.ofNat reason.length)) σ
  if ok then (reply reason σ).2 else σ

def sendSyncFailErrno (reason : Bytes) (σ : Daemon) : Daemon :=
  sendSyncFail (reason ++ ascii ": " ++ strerror σ.errno) σ

/-- A call on the disk, which sets `errno` if it fails. -/
def onDisk {α : Type} (f : Disk → Except Errno α × Disk) (σ : Daemon) : Option α × Daemon :=
  match f σ.disk with
  | (.ok a, disk) => (some a, { σ with disk := disk })
  | (.error e, disk) => (none, { σ with disk := disk, errno := e })

/-- `adb_unlink(path)`, whatever it returns. -/
def unlink (path : Bytes) (σ : Daemon) : Daemon := (onDisk (Disk.unlink path) σ).2

def close (σ : Daemon) : Daemon := { σ with fdOps := σ.fdOps ++ [.closed] }

def fill (data : Bytes) (σ : Daemon) : Daemon :=
  { σ with buffer := data ++ σ.buffer.drop data.length }

/-! ## Directories -/

/-- `update_capabilities`; the result of `removexattr` does not count. -/
def updateCapabilities (path : Bytes) (capabilities : UInt64) (σ : Daemon) : Bool × Daemon :=
  if capabilities = 0 then (true, σ)
  else
    let (r, σ) := onDisk (Disk.touch { name := path, node := path }) σ
    (r.isSome, σ)

def secureMkdirsLoop : List Bytes → Bytes → Daemon → Bool × Daemon
  | [], _, σ => (true, σ)
  | component :: rest, partialPath, σ =>
    if component.isEmpty then secureMkdirsLoop rest partialPath σ
    else
      let partialPath :=
        (if partialPath.getLast? = some slash then partialPath else partialPath ++ [slash]) ++
          component
      match onDisk (Disk.mkdir partialPath) σ with
      | (none, σ) =>
        if σ.errno ≠ .EEXIST then (false, σ) else secureMkdirsLoop rest partialPath σ
      | (some (), σ) =>
        -- `chown`
        match onDisk (Disk.touch { name := partialPath, node := partialPath }) σ with
        | (none, σ) => (false, σ)
        | (some (), σ) =>
          match updateCapabilities partialPath (σ.capabilities partialPath) σ with
          | (false, σ) => (false, σ)
          | (true, σ) => secureMkdirsLoop rest partialPath σ

def secureMkdirs (path : Bytes) (σ : Daemon) : Bool × Daemon :=
  if path.head? ≠ some slash then (false, σ)
  else secureMkdirsLoop (path.splitOn slash) [] σ

/-! ## `stat` and `LIST` -/

/-- A path that ends in `/` is that of a directory, and a link at its end is followed. -/
def statDirectory (path : Bytes) (disk : Disk) : Except Errno Node × Disk :=
  match disk.stat (path.rdropWhile (· = slash)) with
  | (.ok .directory, disk) => (.ok .directory, disk)
  | (.ok _, disk) => (.error .ENOTDIR, disk)
  | (.error e, disk) => (.error e, disk)

/-- The path ends in `/`, and is not the root. -/
def endsInSlash (path : Bytes) : Bool :=
  path.getLast? = some slash && !(path.rdropWhile (· = slash)).isEmpty

def lstatNode (path : Bytes) (disk : Disk) : Except Errno Node × Disk :=
  if endsInSlash path then statDirectory path disk else disk.lstat path

def statNode (path : Bytes) (disk : Disk) : Except Errno Node × Disk :=
  if endsInSlash path then statDirectory path disk else disk.stat path

def statPath (f : Bytes → Disk → Except Errno Node × Disk) (path : Bytes) (σ : Daemon) :
    Option Stat × Daemon :=
  let (node, σ) := onDisk (f path) σ
  (node.map (statOf (σ.attr path)), σ)

def doLstatV1 (path : Bytes) (σ : Daemon) : Bool × Daemon :=
  let (st, σ) := statPath lstatNode path σ
  let st := st.getD {}
  reply (statV1 st.mode st.size.toUInt32 st.mtime.toUInt32) σ

def doStatV2 (id : UInt32) (path : Bytes) (σ : Daemon) : Bool × Daemon :=
  match statPath (if id = ID_STAT_V2 then statNode else lstatNode) path σ with
  | (none, σ) => reply (statV2 id (errnoToWire σ.errno) {}) σ
  | (some st, σ) => reply (statV2 id 0 st) σ

def listEntries (path : Bytes) : List Bytes → Daemon → Bool × Daemon
  | [], σ => (true, σ)
  | name :: rest, σ =>
    match statPath lstatNode (path ++ [slash] ++ name) σ with
    | (none, σ) => listEntries path rest σ
    | (some st, σ) =>
      let msg := dent ID_DENT st.mode st.size.toUInt32 st.mtime.toUInt32
        (UInt32.ofNat name.length)
      match reply msg σ with
      | (false, σ) => (false, σ)
      | (true, σ) =>
        match reply name σ with
        | (false, σ) => (false, σ)
        | (true, σ) => listEntries path rest σ

def doList (path : Bytes) (σ : Daemon) : Bool × Daemon :=
  match listEntries path ((σ.entries path).getD []) σ with
  | (false, σ) => (false, σ)
  | (true, σ) => reply (dent ID_DONE 0 0 0 0) σ

/-! ## `SEND` -/

def openNew (path : Bytes) (σ : Daemon) : Option File × Daemon := onDisk (Disk.openExcl path) σ

/-- The last attempt to open the file, which may be there. -/
def openOld (path : Bytes) (σ : Daemon) : Option File × Daemon :=
  if σ.errno = .EEXIST then onDisk (Disk.openFile path) σ else (none, σ)

/-- The attempt to create the file, once its directory is there. -/
def openAgain (path : Bytes) (σ : Daemon) : Option File × Daemon :=
  match openNew path σ with
  | (some f, σ) => (some f, σ)
  | (none, σ) => openOld path σ

/-- How `handle_send_file` opens the file, or what it fails with. -/
def openTarget (path : Bytes) (σ : Daemon) : Except Bytes File × Daemon :=
  let opened : Option File × Daemon → Except Bytes File × Daemon := fun r =>
    match r with
    | (some f, σ) => (.ok f, { σ with fdOps := σ.fdOps ++ [.opened] })
    | (none, σ) => (.error (ascii "couldn't create file"), σ)
  match openNew path σ with
  | (some f, σ) => opened (some f, σ)
  | (none, σ) =>
    if σ.errno = .ENOENT then
      match secureMkdirs (dirname path) σ with
      | (false, σ) => (.error (ascii "secure_mkdirs failed"), σ)
      | (true, σ) => opened (openAgain path σ)
    else opened (openOld path σ)

inductive Next
  | again (f : File)
  | done (timestamp : UInt32)
  | fail
  | abort
deriving DecidableEq, Repr

def receiveData (size : ℕ) (f : File) (σ : Daemon) : Res (Next × Daemon) := do
  let (data, σ) ← readFdExactly size σ
  match data with
  | none => pure (.abort, σ)
  | some data =>
    let σ := fill data σ
    match σ.disk.writeExactly f data with
    | (.ok (), f, disk) => pure (.again f, { σ with disk := disk })
    | (.error e, _, disk) =>
      pure (.fail, sendSyncFailErrno (ascii "write failed") { σ with disk := disk, errno := e })

def receiveMessage (f : File) (σ : Daemon) : Res (Next × Daemon) := do
  let (msg, σ) ← readFdExactly 8 σ
  match msg with
  | none => pure (.fail, σ)
  | some msg =>
    if idOf msg ≠ ID_DATA then
      if idOf msg = ID_DONE then pure (.done (wordOf msg), σ)
      else pure (.abort, sendSyncFail (ascii "invalid data message") σ)
    else if (wordOf msg).toNat > syncDataMax then
      pure (.abort, sendSyncFail (ascii "oversize data message") σ)
    else receiveData (wordOf msg).toNat f σ

/-- The loop. A round consumes bytes, so there are no more rounds than bytes. -/
def receiveRounds : ℕ → File → Daemon → Res (Next × Daemon)
  | 0, _, σ => .error σ
  | n + 1, f, σ => do
    let (next, σ) ← receiveMessage f σ
    match next with
    | .again f => receiveRounds n f σ
    | next => pure (next, σ)

/-- The loop after `fail:`, in which messages are thrown away. -/
def discardRounds : ℕ → Daemon → Res (Unit × Daemon)
  | 0, σ => .error σ
  | n + 1, σ => do
    let (msg, σ) ← readFdExactly 8 σ
    match msg with
    | none => pure ((), σ)
    | some msg =>
      if idOf msg ≠ ID_DATA ∨ (wordOf msg).toNat > syncDataMax then pure ((), σ)
      else do
        let (data, σ) ← readFdExactly (wordOf msg).toNat σ
        match data with
        | none => pure ((), σ)
        | some data => discardRounds n (fill data σ)

def abort (opened doUnlink : Bool) (path : Bytes) (σ : Daemon) : Bool × Daemon :=
  let σ := if opened then close σ else σ
  (false, if doUnlink then unlink path σ else σ)

def fail (opened doUnlink : Bool) (path : Bytes) (σ : Daemon) : Res (Bool × Daemon) := do
  let ((), σ) ← discardRounds (σ.input.length + 1) σ
  pure (abort opened doUnlink path σ)

/-- The end of `handle_send_file`, after `DONE`. -/
def finishSend (doUnlink : Bool) (path : Bytes) (capabilities : UInt64) (σ : Daemon) :
    Res (Bool × Daemon) :=
  match updateCapabilities path capabilities (close σ) with
  | (false, σ) => fail true doUnlink path (sendSyncFailErrno (ascii "update_capabilities failed") σ)
  | (true, σ) => pure (reply (header ID_OKAY 0) σ)

/-- `handle_send_file` from `fchown` on. -/
def receiveFile (f : File) (doUnlink : Bool) (path : Bytes) (capabilities : UInt64) (σ : Daemon) :
    Res (Bool × Daemon) :=
  match onDisk (Disk.touch f) σ with
  | (none, σ) => fail true doUnlink path (sendSyncFailErrno (ascii "fchown failed") σ)
  | (some (), σ) => do
    let (next, σ) ← receiveRounds (σ.input.length + 1) f σ
    match next with
    | .done _ => finishSend doUnlink path capabilities σ
    | .abort => pure (abort true doUnlink path σ)
    | _ => fail true doUnlink path σ

def handleSendFile (path : Bytes) (capabilities : UInt64) (doUnlink : Bool) (σ : Daemon) :
    Res (Bool × Daemon) :=
  match openTarget path σ with
  | (.error reason, σ) => fail false doUnlink path (sendSyncFailErrno reason σ)
  | (.ok f, σ) => receiveFile f doUnlink path capabilities σ

/-- `symlink(&buffer[0], path)`, with `secure_mkdirs` if the directory is not there; or what
`handle_send_link` fails with. -/
def makeLink (path : Bytes) (σ : Daemon) : Option Bytes × Daemon :=
  match onDisk (Disk.symlink (cString σ.buffer) path) σ with
  | (some (), σ) => (none, σ)
  | (none, σ) =>
    if σ.errno ≠ .ENOENT then (some (ascii "symlink failed"), σ)
    else
      match secureMkdirs (dirname path) σ with
      | (false, σ) => (some (ascii "secure_mkdirs failed"), σ)
      | (true, σ) =>
        match onDisk (Disk.symlink (cString σ.buffer) path) σ with
        | (some (), σ) => (none, σ)
        | (none, σ) => (some (ascii "symlink failed"), σ)

/-- The end of `handle_send_link`. -/
def finishLink (σ : Daemon) : Res (Bool × Daemon) := do
  let (msg, σ) ← readFdExactly 8 σ
  match msg with
  | none => pure (false, σ)
  | some msg =>
    if idOf msg = ID_DONE then pure (reply (header ID_OKAY 0) σ)
    else pure (false, sendSyncFail (ascii "invalid data message: expected ID_DONE") σ)

/-- The target of the link is read into `buffer`. -/
def receiveLink (size : ℕ) (path : Bytes) (σ : Daemon) : Res (Bool × Daemon) := do
  let (data, σ) ← readFdExactly size σ
  match data with
  | none => pure (false, σ)
  | some data =>
    match makeLink path (fill data σ) with
    | (some reason, σ) => pure (false, sendSyncFailErrno reason σ)
    | (none, σ) => finishLink σ

def handleSendLink (path : Bytes) (σ : Daemon) : Res (Bool × Daemon) := do
  let (msg, σ) ← readFdExactly 8 σ
  match msg with
  | none => pure (false, σ)
  | some msg =>
    if idOf msg ≠ ID_DATA then
      pure (false, sendSyncFail (ascii "invalid data message: expected ID_DATA") σ)
    else if (wordOf msg).toNat > syncDataMax then
      pure (false, sendSyncFail (ascii "oversize data message") σ)
    else receiveLink (wordOf msg).toNat path σ

def digitBelow (b : ℕ) (c : UInt8) : Option ℕ := (hexDigit c).filter (· < b)

def numberBase (s : Bytes) : ℕ × Bytes :=
  match s with
  | 48 :: rest =>
    match rest with
    | x :: c :: rest' =>
      if (x = 120 || x = 88) && (hexDigit c).isSome then (16, c :: rest') else (8, s)
    | _ => (8, s)
  | _ => (10, s)

/-- `strtoul(s, nullptr, 0)`, and whether it overflows. -/
def strtoul (s : Bytes) : ℕ × Bool :=
  let t := s.dropWhile isSpace
  let negative := t.head? = some 45
  let u := if negative || t.head? = some 43 then t.tail else t
  let (b, digits) := numberBase u
  let n := readNumeral (digitBelow b) b 0 (digits.takeWhile fun c => (digitBelow b c).isSome)
  if 2 ^ 64 ≤ n then (2 ^ 64 - 1, true)
  else (if negative then (2 ^ 64 - n) % 2 ^ 64 else n, false)

/-- `spec` is of the form "/some/path,0755". Break it up. -/
def splitSpec (spec : Bytes) : Option (Bytes × Bytes) :=
  if 44 ∈ spec then
    some ((spec.rdropWhile (· ≠ 44)).dropLast, spec.rtakeWhile (· ≠ 44))
  else none

/-- The file is not to be deleted if it is neither regular nor a link. -/
def deletable (st : Option Stat) : Bool :=
  st.all fun st => isKind S_IFREG st.mode || isKind S_IFLNK st.mode

def doSend (spec : Bytes) (σ : Daemon) : Res (Bool × Daemon) :=
  match splitSpec spec with
  | none => pure (false, sendSyncFail (ascii "missing , in ID_SEND") σ)
  | some (path, modeText) =>
    let (mode, overflow) := strtoul modeText
    if overflow then pure (false, sendSyncFail (ascii "bad mode") σ)
    else
      let (st, σ) := statPath lstatNode path σ
      let doUnlink := deletable st
      let σ := if doUnlink then unlink path σ else σ
      if isKind S_IFLNK (UInt32.ofNat mode) then handleSendLink path σ
      else handleSendFile path (σ.capabilities path) doUnlink σ

/-! ## `RECV` and the service -/

/-- The loop of `do_recv`. A round reads bytes of the file or an outcome that is left for it. -/
def sendRounds : ℕ → File → Daemon → Bool × Daemon
  | 0, _, σ => (false, σ)
  | n + 1, f, σ =>
    match σ.disk.read f (syncDataMax - 8) with
    | (.error e, _, disk) =>
      (false, close (sendSyncFailErrno (ascii "read failed")
        { σ with disk := disk, errno := e }))
    | (.ok data, f, disk) =>
      let σ := { σ with disk := disk }
      if data.isEmpty then reply (header ID_DONE 0) (close σ)
      else
        match reply (header ID_DATA (UInt32.ofNat data.length)) (fill data σ) with
        | (false, σ) => (false, close σ)
        | (true, σ) =>
          match reply data σ with
          | (false, σ) => (false, close σ)
          | (true, σ) => sendRounds n f σ

def doRecv (path : Bytes) (σ : Daemon) : Bool × Daemon :=
  match onDisk (Disk.openFile path) σ with
  | (none, σ) => (false, sendSyncFailErrno (ascii "open failed") σ)
  | (some f, σ) =>
    sendRounds (((σ.disk.content path).getD []).length + 1) f
      { σ with fdOps := σ.fdOps ++ [.opened] }

def hex8 (n : ℕ) : Bytes :=
  List.replicate (8 - (numeral 16 n).length) 48 ++ numeral 16 n

def dispatch (id : UInt32) (name : Bytes) (σ : Daemon) : Res (Bool × Daemon) :=
  if id = ID_LSTAT_V1 then pure (doLstatV1 name σ)
  else if id = ID_LSTAT_V2 ∨ id = ID_STAT_V2 then pure (doStatV2 id name σ)
  else if id = ID_LIST then pure (doList name σ)
  else if id = ID_SEND then doSend name σ
  else if id = ID_RECV then pure (doRecv name σ)
  else if id = ID_QUIT then pure (false, σ)
  else pure (false, sendSyncFail (ascii "unknown command " ++ hex8 id.toNat) σ)

def readName (id : UInt32) (length : ℕ) (σ : Daemon) : Res (Bool × Daemon) := do
  let (name, σ) ← readFdExactly length σ
  match name with
  | none => pure (false, sendSyncFail (ascii "filename read failure") σ)
  | some name => dispatch id (cString name) σ

def handleSyncCommand (σ : Daemon) : Res (Bool × Daemon) := do
  let (request, σ) ← readFdExactly 8 σ
  match request with
  | none => pure (false, sendSyncFail (ascii "command read failure") σ)
  | some request =>
    if (wordOf request).toNat > 1024 then pure (false, sendSyncFail (ascii "path too long") σ)
    else readName (idOf request) (wordOf request).toNat σ

/-- `file_sync_service`. A request has bytes, so there are no more rounds than bytes. -/
def serviceRounds : ℕ → Daemon → Res (Unit × Daemon)
  | 0, σ => .error σ
  | n + 1, σ => do
    let (more, σ) ← handleSyncCommand σ
    if more then serviceRounds n σ else pure ((), σ)

def fileSyncService (σ : Daemon) : Res (Unit × Daemon) := serviceRounds (σ.input.length + 1) σ

end Adb.SyncService

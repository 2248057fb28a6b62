import Adb.SyncClient

/-!
# Pushing and pulling directories

The second half of `client/file_sync_client.cpp`. What recurses over directories has the depth as an
argument: neither the local tree nor what a device lists need have an end.
-/

namespace Adb.SyncClient

open Lib FileSync

/-! ## Paths -/

def ensureTrailingSeparator (path : Bytes) : Bytes :=
  if path.getLast? = some slash then path else path ++ [slash]

def shouldPushFile (mode : UInt32) : Bool := isKind S_IFREG mode || isKind S_IFLNK mode

def CopyInfo.make (lpath rpath name : Bytes) (mode : UInt32) : CopyInfo :=
  let lpath := ensureTrailingSeparator lpath ++ name
  let rpath := ensureTrailingSeparator rpath ++ name
  if isKind S_IFDIR mode then
    { lpath := ensureTrailingSeparator lpath
      rpath := ensureTrailingSeparator rpath
      mode := mode }
  else { lpath := lpath, rpath := rpath, mode := mode }

def isDotOrDotDot (name : Bytes) : Bool := name = ascii "." || name = ascii ".."

def warnSpecial (path : Bytes) (mode : UInt32) (σ : Client) : Client :=
  report (.warning (ascii "skipping special file " ++ quoted path ++ ascii " (mode = 0o" ++
    numeral 8 mode.toNat ++ ascii ")")) σ

/-! ## The list of what is pushed -/

structure PushList where
  files : List CopyInfo := []
  directories : List Bytes := []
deriving DecidableEq, Repr

/-- The loop over `readdir`: files are listed at once, directories are kept in `dirlist`. -/
def localEntries (lpath rpath : Bytes) :
    List Bytes → List CopyInfo → PushList → Client → List CopyInfo × PushList × Client
  | [], dirlist, list, σ => (dirlist, list, σ)
  | name :: rest, dirlist, list, σ =>
    if isDotOrDotDot name then localEntries lpath rpath rest dirlist list σ
    else
      match statLocal Disk.lstat (lpath ++ name) σ with
      | (none, σ) =>
        localEntries lpath rpath rest dirlist list
          (errorErrno (ascii "cannot lstat " ++ quoted (lpath ++ name)) σ)
      | (some st, σ) =>
        let ci := CopyInfo.make lpath rpath name st.mode
        if isKind S_IFDIR st.mode then
          localEntries lpath rpath rest (dirlist ++ [ci]) list σ
        else
          let ci := { ci with time := st.mtime, size := st.size, skip := !shouldPushFile st.mode }
          localEntries lpath rpath rest dirlist { list with files := list.files ++ [ci] }
            (if ci.skip then warnSpecial lpath st.mode σ else σ)

/-- The recursion of `local_build_list`; what it returns does not count. -/
def localDirectories
    (build : Bytes → Bytes → PushList → Client → Res (Bool × PushList × Client)) :
    List CopyInfo → PushList → Client → Res (PushList × Client)
  | [], list, σ => pure (list, σ)
  | ci :: rest, list, σ => do
    let (_, list, σ) ←
      build ci.lpath ci.rpath { list with directories := list.directories ++ [ci.rpath] } σ
    localDirectories build rest list σ

def localBuildList : ℕ → Bytes → Bytes → PushList → Client → Res (Bool × PushList × Client)
  | 0, _, _, _, σ => .error (.hangs, σ)
  | n + 1, lpath, rpath, list, σ =>
    match σ.entries lpath with
    | .error e =>
      pure (false, list,
        errorErrno (ascii "cannot open " ++ quoted lpath) { σ with errno := some e })
    | .ok names => do
      let (dirlist, list, σ) := localEntries lpath rpath names [] list σ
      let (list, σ) ← localDirectories (localBuildList n) dirlist list σ
      pure (true, list, σ)

/-- The directories above `rpath`, up to the root: a relative path has no root above it. -/
def parents : ℕ → Bytes → Option (List Bytes)
  | 0, _ => none
  | n + 1, dirpath =>
    if dirpath = ascii "/" then some []
    else (parents n (dirname dirpath)).map (· ++ [dirpath])

/-- The loop that makes the directories with commands of the shell: the last command, if no path is
too long. -/
def mkdirCommands : List Bytes → Bytes → Client → Option Bytes × Client
  | [], cmd, σ => (some cmd, σ)
  | dir :: rest, cmd, σ =>
    let escaped := escapeArg dir
    if escaped.length > 16384 then (none, error (ascii "path too long: " ++ escaped) σ)
    else if cmd.length + escaped.length > 32768 then
      mkdirCommands rest (ascii "mkdir " ++ escaped) { σ with commands := σ.commands ++ [cmd] }
    else mkdirCommands rest (cmd ++ ascii " " ++ escaped) σ

/-- The workaround with `mkdir`, on devices that have `shell_v2`. -/
def makeDirectories (directories : List Bytes) (σ : Client) : Bool × Client :=
  if !σ.shell2 then (true, σ)
  else
    match mkdirCommands directories (ascii "mkdir") σ with
    | (none, σ) => (false, σ)
    | (some cmd, σ) =>
      (true, if cmd = ascii "mkdir" then σ else { σ with commands := σ.commands ++ [cmd] })

/-! ## Pushing a directory -/

def sendLstats : List CopyInfo → Client → Bool × Client
  | [], σ => (true, σ)
  | ci :: rest, σ =>
    match sendLstat ci.rpath σ with
    | (false, σ) => (false, error (ascii "failed to send lstat") σ)
    | (true, σ) => sendLstats rest σ

def upToDate (ci : CopyInfo) (st : Stat) : Bool :=
  st.size = ci.size && (isKind S_IFREG (ci.mode &&& st.mode) && st.mtime = ci.time ||
      isKind S_IFLNK (ci.mode &&& st.mode) && ci.time.toInt64 ≤ st.mtime.toInt64)

def finishStats : List CopyInfo → Client → Res (List CopyInfo × Client)
  | [], σ => pure ([], σ)
  | ci :: rest, σ => do
    let (st, σ) ← finishStat σ
    let (rest, σ) ← finishStats rest σ
    pure ({ ci with skip := ci.skip || st.any (upToDate ci) } :: rest, σ)

def checkTimestamps (files : List CopyInfo) (σ : Client) : Res (Option (List CopyInfo) × Client) :=
  match sendLstats files σ with
  | (false, σ) => pure (none, σ)
  | (true, σ) => do
    let (files, σ) ← finishStats files σ
    pure (some files, σ)

def recordFilesSkipped (skipped : ℕ) (σ : Client) : Client :=
  { σ with filesSkipped := σ.filesSkipped + skipped }

def pushFiles (listOnly : Bool) : List CopyInfo → ℕ → Client → Res (Bool × Client)
  | [], skipped, σ => pure (true, recordFilesSkipped skipped σ)
  | ci :: rest, skipped, σ =>
    if ci.skip then pushFiles listOnly rest (skipped + 1) σ
    else if listOnly then
      pushFiles listOnly rest skipped
        (report (.info (ascii "would push: " ++ ci.lpath ++ ascii " -> " ++ ci.rpath)) σ)
    else do
      let (ok, σ) ← syncSend ci.lpath ci.rpath ci.time.toUInt32 ci.mode false σ
      if ok then pushFiles listOnly rest skipped σ else pure (false, σ)

/-- `copy_local_dir_remote`, once the files are listed. -/
def pushList (lpath : Bytes) (checkTimes listOnly : Bool) (list : PushList) (σ : Client) :
    Res (Bool × Client) :=
  match makeDirectories list.directories σ with
  | (false, σ) => pure (false, σ)
  | (true, σ) => do
    let (files, σ) ← if checkTimes then checkTimestamps list.files σ else pure (some list.files, σ)
    match files with
    | none => pure (false, σ)
    | some files => do
      let (ok, σ) ← pushFiles listOnly files 0 σ
      pure (ok, if ok then reportTransferRate lpath σ else σ)

def copyLocalDirRemote (n : ℕ) (lpath rpath : Bytes) (checkTimes listOnly : Bool) (σ : Client) :
    Res (Bool × Client) :=
  let lpath := ensureTrailingSeparator lpath
  let rpath := ensureTrailingSeparator rpath
  match parents (rpath.length + 1) rpath with
  | none => .error (.hangs, σ)
  | some directories => do
    let (ok, list, σ) ←
      localBuildList n lpath rpath { directories := directories } (newTransfer σ)
    if ok then pushList lpath checkTimes listOnly list σ else pure (false, σ)

inductive Loop
  | next (ok : Bool)
  | stop
deriving DecidableEq, Repr

def sources (one : Bytes → Client → Res (Loop × Client)) :
    List Bytes → Bool → Client → Res (Bool × Client)
  | [], success, σ => pure (success, σ)
  | src :: rest, success, σ => do
    let (loop, σ) ← one src σ
    match loop with
    | .next ok => sources one rest (success && ok) σ
    | .stop => pure (false, σ)

/-- The source directory is copied as a child of the destination, if that was there. -/
def childOf (dst src : Bytes) : Bytes := ensureTrailingSeparator dst ++ basename src

def pushDirectory (n : ℕ) (dst : Bytes) (dstExists dstIsdir sync : Bool) (src : Bytes)
    (σ : Client) : Res (Loop × Client) :=
  if dstExists && !dstIsdir then
    pure (.stop, error (ascii "target " ++ quoted dst ++ ascii " is not a directory") σ)
  else do
    let (ok, σ) ←
      copyLocalDirRemote n src (if dstExists then childOf dst src else dst) sync false σ
    pure (.next ok, σ)

def pushSource (n : ℕ) (dst : Bytes) (dstExists dstIsdir sync : Bool) (src : Bytes)
    (σ : Client) : Res (Loop × Client) :=
  match statLocal Disk.stat src σ with
  | (none, σ) => pure (.next false, errorErrno (ascii "cannot stat " ++ quoted src) σ)
  | (some st, σ) =>
    if isKind S_IFDIR st.mode then pushDirectory n dst dstExists dstIsdir sync src σ
    else if !shouldPushFile st.mode then pure (.next true, warnSpecial src st.mode σ)
    else do
      let dstPath := if dstIsdir then childOf dst src else dst
      let (ok, σ) ← syncSend src dstPath st.mtime.toUInt32 st.mode sync (newTransfer σ)
      pure (.next ok, reportTransferRate src σ)

def badTarget (srcs : List Bytes) (dst : Bytes) (dstExists dstIsdir : Bool) : Option Bytes :=
  if dstIsdir then none
  else if srcs.length > 1 then
    some (ascii "target " ++ quoted dst ++ ascii " is not a directory")
  else if dst.getLast? = some slash && dstExists then
    some (ascii "failed to access " ++ quoted dst ++ ascii ": Not a directory")
  else none

/-- The loop of `do_sync_push`, if the target is good for it. -/
def pushTo (n : ℕ) (srcs : List Bytes) (dst : Bytes) (dstExists dstIsdir sync : Bool)
    (σ : Client) : Res (Bool × Client) :=
  match badTarget srcs dst dstExists dstIsdir with
  | some text => pure (false, error text σ)
  | none => sources (pushSource n dst dstExists dstIsdir sync) srcs true σ

def push (n : ℕ) (srcs : List Bytes) (dst : Bytes) (sync : Bool) (σ : Client) :
    Res (Bool × Client) := do
  let (st, σ) ← syncStatFallback dst σ
  match st with
  | some st => pushTo n srcs dst true (isKind S_IFDIR st.mode) sync σ
  | none =>
    if σ.errno = some .ENOENT ∨ σ.errno = some .ENOPROTOOPT then
      pushTo n srcs dst false false sync σ
    else
      pure (false, errorErrno (ascii "stat failed when trying to push to " ++ dst) σ)

def doSyncSync (n : ℕ) (lpath rpath : Bytes) (listOnly : Bool) (σ : Client) :
    Res (Bool × Client) := do
  let (ok, σ) ← copyLocalDirRemote n lpath rpath true listOnly σ
  pure (ok, quit σ)

/-! ## The list of what is pulled -/

structure PullLists where
  files : List CopyInfo := []
  dirs : List CopyInfo := []
  links : List CopyInfo := []
deriving DecidableEq, Repr

end Adb.SyncClient

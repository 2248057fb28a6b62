import Adb.ShellProtocol

/-!
# A shell session

`Subprocess::PassDataStreams` of `shell_service.cpp` passes data between the client and a process,
until one of them is gone. Every `select` and what follows it is one round; what the calls of the
round return is part of its input.
-/

namespace Adb

open Lib

inductive SubprocessType
  | kPty
  | kRaw
deriving DecidableEq, Repr

inductive SubprocessProtocol
  | kNone
  | kShell
deriving DecidableEq, Repr

namespace Subprocess

inductive Sfd
  | protocol
  | stdinout
  | stderr
deriving DecidableEq, Repr

structure FdSet where
  protocol : Bool := false
  stdinout : Bool := false
  stderr : Bool := false
deriving DecidableEq, Repr

namespace FdSet

def has (set : FdSet) : Sfd → Bool
  | .protocol => set.protocol
  | .stdinout => set.stdinout
  | .stderr => set.stderr

def put (sfd : Sfd) (value : Bool) (set : FdSet) : FdSet :=
  match sfd with
  | .protocol => { set with protocol := value }
  | .stdinout => { set with stdinout := value }
  | .stderr => { set with stderr := value }

end FdSet

inductive Deed
  /-- `input_->Read()`, with `input_bytes_left_` -/
  | read (left : ℕ)
  /-- `adb_write` on `stdinout_sfd_`, with `input_bytes_left_` and `data_length()` -/
  | write (left length : ℕ)
deriving DecidableEq, Repr

inductive StdinWrite
  | takes (n : ℕ)
  | fails (e : Errno)
deriving DecidableEq, Repr

inductive OutputRead
  | data (bytes : Bytes)
  | fails (e : Errno)
deriving DecidableEq, Repr

end Subprocess

open Subprocess in
structure Subprocess where
  type : SubprocessType
  sfds : FdSet
  masterReadSet : FdSet
  masterWriteSet : FdSet := {}
  input : ShellProtocol
  inputBytesLeft : ℕ := 0
  written : Bytes := []
  output : List (ShellId × Bytes) := []
  deeds : List Deed := []
deriving DecidableEq, Repr

namespace Subprocess

def start (type : SubprocessType) (sfds : FdSet) (input : ShellProtocol) : Subprocess where
  type := type
  sfds := sfds
  masterReadSet := sfds
  input := input

def passes (s : Subprocess) : Bool := s.sfds.protocol && (s.sfds.stdinout || s.sfds.stderr)

def setRead (sfd : Sfd) (s : Subprocess) : Res Subprocess :=
  if s.sfds.has sfd then pure { s with masterReadSet := s.masterReadSet.put sfd true }
  else throw .wild

def setWrite (sfd : Sfd) (s : Subprocess) : Res Subprocess :=
  if s.sfds.has sfd then pure { s with masterWriteSet := s.masterWriteSet.put sfd true }
  else throw .wild

/-- Where `PassInput` goes when it has read a packet. -/
inductive Accepted
  | goesOn
  | returns (dead : Option Sfd)
deriving DecidableEq, Repr

/-- `switch (input_->id())`. The window size is not followed further. -/
def acceptPacket (shutdown : Bool) (s : Subprocess) : Accepted × Subprocess :=
  if s.sfds.stdinout then
    if s.input.id = ShellId.kIdStdin.byte then
      (.goesOn, { s with inputBytesLeft := s.input.dataLength })
    else if s.input.id = ShellId.kIdCloseStdin.byte then
      match s.type with
      -- PTYs can't close just input
      | .kPty => (.goesOn, s)
      | .kRaw => (.returns (if shutdown then none else some .stdinout), s)
    else (.goesOn, s)
  else (.goesOn, s)

def writeInput (w : StdinWrite) (s : Subprocess) : Option Sfd × Subprocess :=
  if s.inputBytesLeft = 0 then (none, s)
  else
    let index := s.input.dataLength - s.inputBytesLeft
    let bytes := (s.input.data.drop index).take s.inputBytesLeft
    let s := { s with deeds := s.deeds ++ [.write s.inputBytesLeft s.input.dataLength] }
    match w with
    | .fails .EAGAIN => (none, s)
    | .fails _ => (some .stdinout, { s with inputBytesLeft := 0 })
    | .takes n =>
      let k := min n s.inputBytesLeft
      -- stdin is done, mark this packet as finished
      if k = 0 then (some .stdinout, { s with inputBytesLeft := 0 })
      else
        (none, { s with
          inputBytesLeft := s.inputBytesLeft - k
          written := s.written ++ bytes.take k })

/-- `PassInput`, from when a packet has been read. -/
def acceptInput (w : StdinWrite) (shutdown : Bool) (s : Subprocess) : Option Sfd × Subprocess :=
  match acceptPacket shutdown s with
  | (.returns dead, s) => (dead, s)
  | (.goesOn, s) => writeInput w s

def passInput (w : StdinWrite) (shutdown : Bool) (s : Subprocess) :
    Res (Option Sfd × Subprocess) :=
  if s.inputBytesLeft = 0 then do
    let (ok, input) ← s.input.read
    let s := { s with input := input, deeds := s.deeds ++ [.read s.inputBytesLeft] }
    pure (if ok then acceptInput w shutdown s else (some .protocol, s))
  else pure (writeInput w s)

/-- `PassOutput`, with what `adb_read` and `output_->Write` return. -/
def passOutput (sfd : Sfd) (id : ShellId) (r : OutputRead) (sent : Bool) (s : Subprocess) :
    Option Sfd × Subprocess :=
  match r with
  | .fails .EAGAIN => (none, s)
  | .fails _ => (some sfd, s)
  | .data [] => (some sfd, s)
  | .data bytes =>
    if sent then (none, { s with output := s.output ++ [(id, bytes)] })
    else (some .protocol, s)

inductive Selected
  | failed (e : Errno)
  | ready (readSet writeSet : FdSet)
deriving DecidableEq, Repr

structure Round where
  select : Selected
  stdout : OutputRead := .fails .EAGAIN
  stdoutSent : Bool := true
  stderr : OutputRead := .fails .EAGAIN
  stderrSent : Bool := true
  /-- the `PassInput` when there is something to read, and the one when there is room to write -/
  stdin : StdinWrite := .fails .EAGAIN
  stdin2 : StdinWrite := .fails .EAGAIN
  shutdown : Bool := true
deriving DecidableEq, Repr

/-- `ValidAndInSet(sfd, &set)`; `select` leaves no descriptor in the set that was not there. -/
def ready (sfd : Sfd) (master set : FdSet) (s : Subprocess) : Bool :=
  s.sfds.has sfd && master.has sfd && set.has sfd

/-- `if (!dead_sfd && ...)`. -/
def unlessDead (condition : Subprocess → Bool) (f : Subprocess → Res (Option Sfd × Subprocess))
    (x : Option Sfd × Subprocess) : Res (Option Sfd × Subprocess) :=
  if x.1 = none ∧ condition x.2 = true then f x.2 else pure x

def readProtocol (r : Round) (s : Subprocess) : Res (Option Sfd × Subprocess) := do
  let (dead, s) ← passInput r.stdin r.shutdown s
  -- If we didn't finish writing, block on stdin write.
  if s.inputBytesLeft = 0 then pure (dead, s)
  else do
    let s ← setWrite .stdinout { s with masterReadSet := s.masterReadSet.put .protocol false }
    pure (dead, s)

/-- Continue writing to stdin; only happens if a previous write blocked. -/
def writeStdin (r : Round) (s : Subprocess) : Res (Option Sfd × Subprocess) := do
  let (dead, s) ← passInput r.stdin2 r.shutdown s
  -- If we finished writing, go back to blocking on protocol read.
  if s.inputBytesLeft = 0 then do
    let s ← setRead .protocol s
    pure (dead, { s with masterWriteSet := s.masterWriteSet.put .stdinout false })
  else pure (dead, s)

/-- The body of the loop of `SelectLoop`, when `select` has returned the sets. -/
def passData (r : Round) (readSet writeSet : FdSet) (s : Subprocess) :
    Res (Option Sfd × Subprocess) := do
  -- Read stdout, write to protocol FD.
  let x ← unlessDead (ready .stdinout s.masterReadSet readSet)
    (fun s => pure (passOutput .stdinout .kIdStdout r.stdout r.stdoutSent s)) (none, s)
  -- Read stderr, write to protocol FD.
  let x ← unlessDead (ready .stderr s.masterReadSet readSet)
    (fun s => pure (passOutput .stderr .kIdStderr r.stderr r.stderrSent s)) x
  let x ← unlessDead (ready .protocol s.masterReadSet readSet) (readProtocol r) x
  unlessDead (ready .stdinout s.masterWriteSet writeSet) (writeStdin r) x

def close (dead : Option Sfd) (s : Subprocess) : Subprocess :=
  match dead with
  | none => s
  | some sfd =>
    let s := { s with
      masterReadSet := s.masterReadSet.put sfd false
      masterWriteSet := s.masterWriteSet.put sfd false }
    if sfd = .protocol then { s with sfds := {} }
    else { s with sfds := s.sfds.put sfd false }

/-- One `select`, and what follows it up to the next. -/
def round (r : Round) (s : Subprocess) : Res Subprocess :=
  if !s.passes then pure s
  else
    match r.select with
    | .failed .EINTR => pure s
    | .failed _ => pure { s with sfds := { s.sfds with stdinout := false, stderr := false } }
    | .ready readSet writeSet => do
      let (dead, s) ← passData r readSet writeSet s
      pure (close dead s)

end Subprocess

end Adb

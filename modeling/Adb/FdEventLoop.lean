import Mathlib.Data.List.AList
import Adb.Lib.Run
import Adb.Lib.Store
import Adb.FdEvent

/-!
# The event loop of `fdevent.cpp`

The containers of `fdevent.cpp`: the fdevents in memory, `g_poll_node_map` keyed by fd, and
`g_pending_list`. Anybody may create, change and destroy fdevents at any time, also from the function
of an fdevent; the loop polls, and calls the functions of the pending fdevents.
-/

namespace Adb

open Lib

abbrev Mask := BitVec 8

namespace Mask

def FDE_READ : Mask := 0x01
def FDE_WRITE : Mask := 0x02
def FDE_ERROR : Mask := 0x04

def read (e : Mask) : Bool := e.getLsbD 0

def write (e : Mask) : Bool := e.getLsbD 1

end Mask

def Revents.mask (r : Revents) : Mask :=
  (if r.pollin then Mask.FDE_READ else 0) ||| (if r.pollout then Mask.FDE_WRITE else 0) |||
    (if r.hangup then Mask.FDE_READ ||| Mask.FDE_ERROR else 0)

abbrev FPtr := ℕ

structure Fde where
  fd : ℕ
  created : Bool := false
  active : Bool := true
  pending : Bool := false
  state : Mask := 0
  events : Mask := 0
deriving DecidableEq, Repr

structure MapNode extends PollNode where
  fde : FPtr
deriving DecidableEq, Repr

inductive Seen
  /-- `fdevent_set` changes the interest of `p` to `e` -/
  | changed (p : FPtr) (e : Mask)
  /-- `fdevent_process` has found the events `e` for `p` -/
  | reported (p : FPtr) (e : Mask)
  /-- the function of `p` is called with the events `e` -/
  | called (p : FPtr) (e : Mask)
deriving DecidableEq, Repr

structure FdLoop where
  fdes : Store Fde := .empty
  gPollNodeMap : AList (fun _ : ℕ => MapNode) := ∅
  gPendingList : List FPtr := []
  /-- the fdevent that `fdevent_run_setup` has created -/
  runFunc : Option FPtr := none
  seen : List Seen := []

namespace FdLoop

def deref (p : FPtr) (σ : FdLoop) : Res Fde :=
  match σ.fdes.get p with
  | none => throw .wild
  | some f => pure f

def fdeventCreate (fd : ℕ) (σ : FdLoop) : Res (FPtr × FdLoop) := do
  check (σ.gPollNodeMap.lookup fd).isNone .installExisting
  pure (σ.fdes.next, { σ with
    fdes := σ.fdes.alloc { fd := fd, created := true }
    gPollNodeMap := σ.gPollNodeMap.insert fd { fde := σ.fdes.next } })

def fdeventDestroy (p : FPtr) (σ : FdLoop) : Res FdLoop := do
  let f ← σ.deref p
  if !f.created then throw (.fatal .fdeNotCreated)
  let σ :=
    if f.active then
      { σ with
        gPollNodeMap := σ.gPollNodeMap.erase f.fd
        gPendingList := if f.pending then σ.gPendingList.filter (· ≠ p) else σ.gPendingList }
    else σ
  pure { σ with fdes := σ.fdes.free p }

def fdeventUpdate (p : FPtr) (events : Mask) (σ : FdLoop) : Res FdLoop := do
  let f ← σ.deref p
  match σ.gPollNodeMap.lookup f.fd with
  | none => throw (.check .pollNode)
  | some node =>
    pure { σ with
      gPollNodeMap := σ.gPollNodeMap.insert f.fd
        { node with pollin := events.read, pollout := events.write }
      fdes := σ.fdes.set p { f with state := events } }

def fdeventSet (p : FPtr) (events : Mask) (σ : FdLoop) : Res FdLoop := do
  let f ← σ.deref p
  if f.state = events then pure σ
  else do
    check f.active .fdeActive
    let σ ← σ.fdeventUpdate p events
    let σ := { σ with seen := σ.seen ++ [Seen.changed p events] }
    let f ← σ.deref p
    if f.pending then
      -- do not signal an event that is no longer wanted
      if f.events &&& events = 0 then
        pure { σ with
          fdes := σ.fdes.set p { f with events := f.events &&& events, pending := false }
          gPendingList := σ.gPendingList.filter (· ≠ p) }
      else
        pure { σ with fdes := σ.fdes.set p { f with events := f.events &&& events } }
    else
      pure σ

def fdeventAdd (p : FPtr) (events : Mask) (σ : FdLoop) : Res FdLoop := do
  let f ← σ.deref p
  σ.fdeventSet p (f.state ||| events)

def fdeventDel (p : FPtr) (events : Mask) (σ : FdLoop) : Res FdLoop := do
  let f ← σ.deref p
  σ.fdeventSet p (f.state &&& ~~~events)

def processPollfd (fd : ℕ) (events : Mask) (σ : FdLoop) : Res FdLoop :=
  if events = 0 then pure σ
  else
    match σ.gPollNodeMap.lookup fd with
    | none => throw (.check .processNode)
    | some node => do
      let f ← σ.deref node.fde
      check (f.fd == fd) .processFd
      pure { σ with
        fdes := σ.fdes.set node.fde { f with events := f.events ||| events, pending := true }
        gPendingList := σ.gPendingList ++ [node.fde]
        seen := σ.seen ++ [Seen.reported node.fde (f.events ||| events)] }

def processPollfds : List (ℕ × Mask) → FdLoop → Res FdLoop
  | [], σ => pure σ
  | (fd, events) :: rest, σ => do
    let σ ← σ.processPollfd fd events
    processPollfds rest σ

/-- What `adb_poll` reports for the fds of `g_poll_node_map`, in the order of the map. -/
def pollfds (polled : List (ℕ × Revents)) (σ : FdLoop) : List (ℕ × Mask) :=
  polled.filterMap fun (fd, r) =>
    (σ.gPollNodeMap.lookup fd).map fun node => (fd, (r.reported node.toPollNode).mask)

def fdeventProcess (polled : List (ℕ × Revents)) (σ : FdLoop) : Res FdLoop := do
  check (!σ.gPollNodeMap.entries.isEmpty) .pollfds
  processPollfds (σ.pollfds polled) σ

/-- `fdevent_call_fdfunc`, up to what the function of the fdevent does. Only `fdevent_run_func`
looks at its events here. -/
def fdeventCallFdfunc (p : FPtr) (σ : FdLoop) : Res FdLoop := do
  let f ← σ.deref p
  check f.pending .fdePending
  if σ.runFunc = some p then check f.events.read .runFuncRead
  pure { σ with
    fdes := σ.fdes.set p { f with events := 0, pending := false }
    seen := σ.seen ++ [Seen.called p f.events] }

def callPending (σ : FdLoop) : Res FdLoop :=
  match σ.gPendingList with
  | [] => pure σ
  | p :: rest => fdeventCallFdfunc p { σ with gPendingList := rest }

def fdeventRunSetup (fd : ℕ) (σ : FdLoop) : Res FdLoop := do
  check σ.runFunc.isNone .notifyFd
  let (p, σ) ← σ.fdeventCreate fd
  let σ ← σ.fdeventAdd p Mask.FDE_READ
  pure { σ with runFunc := some p }

/-! ## Steps -/

/-- What may happen. The calls of the functions on fdevents between two `callPending` are those of
the function that the first has called, or of any other code of the main thread. -/
inductive Op
  | create (fd : ℕ)
  | destroy (p : FPtr)
  | set (p : FPtr) (events : Mask)
  | add (p : FPtr) (events : Mask)
  | del (p : FPtr) (events : Mask)
  | runSetup (fd : ℕ)
  | process (polled : List (ℕ × Revents))
  | callPending
deriving DecidableEq

def step : Op → FdLoop → Res FdLoop
  | .create fd, σ => do
    let (_, σ) ← σ.fdeventCreate fd
    pure σ
  | .destroy p, σ => σ.fdeventDestroy p
  | .set p events, σ => σ.fdeventSet p events
  | .add p events, σ => σ.fdeventAdd p events
  | .del p events, σ => σ.fdeventDel p events
  | .runSetup fd, σ => σ.fdeventRunSetup fd
  | .process polled, σ => σ.fdeventProcess polled
  | .callPending, σ => σ.callPending

/-- Nobody has a pointer to an fdevent that has been destroyed, or to the one of
`fdevent_run_func`. -/
def mayUse (p : FPtr) (σ : FdLoop) : Bool := (σ.fdes.get p).isSome && σ.runFunc != some p

/-- The order of `fdevent_loop`: it sets up the run queue once, and polls when nothing is pending.
No fd has two fdevents, and poll reports every fd once. -/
def allowed (σ : FdLoop) : Op → Bool
  | .create fd => (σ.gPollNodeMap.lookup fd).isNone
  | .destroy p | .set p _ | .add p _ | .del p _ => σ.mayUse p
  | .runSetup fd => σ.runFunc.isNone && (σ.gPollNodeMap.lookup fd).isNone
  | .process polled => σ.runFunc.isSome && σ.gPendingList.isEmpty && (polled.map (·.1)).Nodup
  | .callPending => true

end FdLoop

end Adb

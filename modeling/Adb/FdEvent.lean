import Adb.Packet

/-!
# File descriptor events

`struct fdevent` and the interest functions of `fdevent.cpp`. An fdevent owns its fd and
`g_poll_node_map` is keyed by fd, so the node of an fdevent is kept inside it, from
`fdevent_create` to `fdevent_destroy`. The dispatch of callbacks belongs to the state they work on.
-/

namespace Adb

/-- A set of `FDE_READ`, `FDE_WRITE` and `FDE_ERROR`. -/
structure Events where
  read : Bool := false
  write : Bool := false
  error : Bool := false
deriving DecidableEq, Repr

namespace Events

def none : Events := {}

def FDE_READ : Events := { read := true }
def FDE_WRITE : Events := { write := true }

def union (a b : Events) : Events := ⟨a.read || b.read, a.write || b.write, a.error || b.error⟩

def inter (a b : Events) : Events := ⟨a.read && b.read, a.write && b.write, a.error && b.error⟩

def diff (a b : Events) : Events := ⟨a.read && !b.read, a.write && !b.write, a.error && !b.error⟩

end Events

/-- `POLLIN` and `POLLOUT` of the `pollfd` of a `PollNode`; `POLLRDHUP` is always enabled. -/
structure PollNode where
  pollin : Bool := false
  pollout : Bool := false
deriving DecidableEq, Repr

/-- `struct fdevent`: the flag bits and the event bits of `state` are kept apart. -/
structure FdEvent where
  created : Bool := true
  active : Bool := true
  pending : Bool := false
  state : Events := {}
  events : Events := {}
  node : Option PollNode := some {}
deriving DecidableEq, Repr

namespace FdEvent

def update (f : FdEvent) (events : Events) : Res FdEvent :=
  match f.node with
  | none => throw (.check .pollNode)
  | some _ =>
    pure { f with
      node := some { pollin := events.read, pollout := events.write }
      state := events }

/-- `fdevent_set`. The caller takes a pending fdevent that comes back not pending off
`g_pending_list`. -/
def set (f : FdEvent) (events : Events) : Res FdEvent :=
  if f.state = events then
    pure f
  else do
    check f.active .fdeActive
    let f ← f.update events
    if f.pending then
      -- do not signal an event that is no longer wanted
      let wanted := f.events.inter events
      pure { f with events := wanted, pending := wanted != Events.none }
    else
      pure f

end FdEvent

/-- The `revents` of one `pollfd` after `adb_poll`. -/
structure Revents where
  pollin : Bool := false
  pollout : Bool := false
  pollerr : Bool := false
  pollhup : Bool := false
  pollnval : Bool := false
  pollrdhup : Bool := false
deriving DecidableEq, Repr

namespace Revents

/-- What `poll` may report for a node: `POLLIN` and `POLLOUT` only when asked for, the
error and hang-up conditions always. -/
def reported (r : Revents) (node : PollNode) : Revents :=
  { r with pollin := r.pollin && node.pollin, pollout := r.pollout && node.pollout }

def hangup (r : Revents) : Bool := r.pollerr || r.pollhup || r.pollnval || r.pollrdhup

def toEvents (r : Revents) : Events :=
  { read := r.pollin || r.hangup, write := r.pollout, error := r.hangup }

end Revents

end Adb

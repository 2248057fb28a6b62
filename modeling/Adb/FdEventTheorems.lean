import Adb.FdEvent

/-!
# Interest in events

The fdevent of a socket is created, active and in the poll map as long as the socket lives.
On such an fdevent `fdevent_set` never fails, and `setTo` is its result.
-/

namespace Adb

open Lib

namespace Events

@[simp] lemma union_read (a b : Events) : (a.union b).read = (a.read || b.read) := rfl
@[simp] lemma union_write (a b : Events) : (a.union b).write = (a.write || b.write) := rfl
@[simp] lemma union_error (a b : Events) : (a.union b).error = (a.error || b.error) := rfl
@[simp] lemma diff_read (a b : Events) : (a.diff b).read = (a.read && !b.read) := rfl
@[simp] lemma diff_write (a b : Events) : (a.diff b).write = (a.write && !b.write) := rfl
@[simp] lemma diff_error (a b : Events) : (a.diff b).error = (a.error && !b.error) := rfl
@[simp] lemma inter_read (a b : Events) : (a.inter b).read = (a.read && b.read) := rfl
@[simp] lemma inter_write (a b : Events) : (a.inter b).write = (a.write && b.write) := rfl
@[simp] lemma none_read : none.read = false := rfl
@[simp] lemma none_write : none.write = false := rfl
@[simp] lemma FDE_READ_read : FDE_READ.read = true := rfl
@[simp] lemma FDE_READ_write : FDE_READ.write = false := rfl
@[simp] lemma FDE_READ_error : FDE_READ.error = false := rfl
@[simp] lemma FDE_WRITE_read : FDE_WRITE.read = false := rfl
@[simp] lemma FDE_WRITE_write : FDE_WRITE.write = true := rfl
@[simp] lemma FDE_WRITE_error : FDE_WRITE.error = false := rfl

end Events

namespace FdEvent

/-- The fdevent of a living socket: its poll node asks for what `state` says, only `POLLIN`
and `POLLOUT` are ever asked for, and a waiting `FDE_WRITE` event is one that is wanted. -/
structure Wf (f : FdEvent) : Prop where
  created : f.created = true
  active : f.active = true
  node : f.node = some { pollin := f.state.read, pollout := f.state.write }
  error : f.state.error = false
  masked : f.events.write = true → f.state.write = true
  idle : f.pending = false → f.events = Events.none

lemma wf_new : ({} : FdEvent).Wf :=
  ⟨rfl, rfl, rfl, rfl, by decide, fun _ => rfl⟩

def setTo (f : FdEvent) (events : Events) : FdEvent :=
  if f.state = events then f
  else
    let wanted := f.events.inter events
    { f with
      state := events
      node := some { pollin := events.read, pollout := events.write }
      events := if f.pending then wanted else f.events
      pending := f.pending && wanted != Events.none }

variable {f : FdEvent}

lemma set_eq (h : f.Wf) (events : Events) : f.set events = .ok (f.setTo events) := by
  unfold set setTo
  split
  · rfl
  simp only [h.active, check_true, ok_bind, update, h.node, pure_eq_ok]
  cases hp : f.pending with
  | false => simp
  | true => simp

@[simp] lemma setTo_state (f : FdEvent) (events : Events) : (f.setTo events).state = events := by
  unfold setTo
  split
  · assumption
  · rfl

lemma pending_of_setTo {events : Events} (h : (f.setTo events).pending = true) :
    f.pending = true := by
  unfold setTo at h
  split at h
  · exact h
  · simp only [Bool.and_eq_true] at h
    exact h.1

lemma Wf.setTo (h : f.Wf) {events : Events} (he : events.error = false) : (f.setTo events).Wf := by
  unfold FdEvent.setTo
  split
  · exact h
  refine ⟨h.created, h.active, rfl, he, ?_, ?_⟩
  · intro hw
    cases hp : f.pending with
    | false =>
      rw [hp] at hw
      simp [h.idle hp] at hw
    | true =>
      rw [hp] at hw
      simp only [if_true, Events.inter_write, Bool.and_eq_true] at hw
      exact hw.2
  · intro hp
    cases hf : f.pending with
    | false => simpa [hf] using h.idle hf
    | true => simpa [hf] using hp

end FdEvent

end Adb

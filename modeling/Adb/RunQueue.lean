import Adb.Halt
import Adb.Lib.Run

/-!
# The run queue

`fdevent_run_on_main_thread` queues a function under `run_queue_mutex`, and writes a byte to a socket
pair to wake the main thread up. The bytes are read in the function of an fdevent, and the queued
functions run when all pending fdevents have been dealt with. A byte may be read long before, or not
be written when the socket pair is full; all the same no function is left while the thread sleeps.
-/

namespace Adb

open Lib

inductive Thread
  | main
  | producer (n : ℕ)
deriving DecidableEq, Repr

inductive MainAt
  | start
  /-- in `fdevent_run_setup`, with the mutex -/
  | setup
  /-- in `fdevent_run_flush`, which `fdevent_loop` or `fdevent_run_setup` has called -/
  | flush (inLoop : Bool)
  /-- in a function that `fdevent_run_flush` has called -/
  | running (inLoop : Bool)
  | poll
  /-- in the functions of the pending fdevents; that of the notify fd is yet to come, or not -/
  | callbacks (notified : Bool)
deriving DecidableEq, Repr

/-- The main thread may be in any code that is not the loop itself. -/
def MainAt.free : MainAt → Bool
  | .start | .running _ | .callbacks _ => true
  | _ => false

structure RunQueue (Fn : Type) where
  queue : List Fn := []
  /-- `run_queue_notify_fd != -1` -/
  notifyFd : Bool := false
  /-- the bytes in the socket pair -/
  unread : ℕ := 0
  needsFlush : Bool := false
  /-- who has `run_queue_mutex` -/
  mutex : Option Thread := none
  main : MainAt := .start
  /-- all functions that have been queued -/
  pushed : List Fn := []
  /-- the functions that have been called, by which thread -/
  executed : List (Thread × Fn) := []
deriving DecidableEq, Repr

namespace RunQueue

variable {Fn : Type}

/-- What a thread does next. The mutex is taken by the first action of a pair and given back by the
second; a round of `fdevent_run_flush` takes it and gives it back. -/
inductive Action (Fn : Type)
  /-- `fdevent_run_on_main_thread`, up to `push_back` -/
  | push (fn : Fn)
  /-- the rest of it -/
  | notify
  | setup
  | setupDone
  /-- a round of `fdevent_run_flush`, up to the call of the function -/
  | flush
  | finish
  /-- `adb_poll` comes back, with `POLLIN` for the notify fd or without -/
  | polled (notified : Bool)
  | runFunc
  /-- the last pending fdevent has been dealt with -/
  | callbacksDone
deriving DecidableEq, Repr

/-- The thread can take the action now: it is there in its code, and the mutex is free if it wants
to have it. -/
def enabled (σ : RunQueue Fn) (thread : Thread) : Action Fn → Bool
  | .push _ => σ.mutex.isNone && (thread != .main || σ.main.free)
  | .notify => σ.mutex == some thread && σ.main != .setup
  | .setup => thread == .main && σ.mutex.isNone && σ.main == .start
  | .setupDone => thread == .main && σ.main == .setup
  | .flush => thread == .main && σ.mutex.isNone && (σ.main == .flush true || σ.main == .flush false)
  | .finish =>
    thread == .main && σ.mutex != some .main &&
      (σ.main == .running true || σ.main == .running false)
  | .polled notified => thread == .main && σ.main == .poll && (!notified || 0 < σ.unread)
  | .runFunc => thread == .main && σ.mutex != some .main && σ.main == .callbacks true
  | .callbacksDone => thread == .main && σ.mutex != some .main && σ.main == .callbacks false

def bufferSize : ℕ := 1024

/-- `adb_write` of one byte, to a socket pair that holds `capacity` bytes. -/
def writeByte (capacity : ℕ) (σ : RunQueue Fn) : RunQueue Fn :=
  if σ.notifyFd && σ.unread < capacity then { σ with unread := σ.unread + 1 } else σ

def act (capacity : ℕ) (thread : Thread) : Action Fn → RunQueue Fn → Res (RunQueue Fn)
  | .push fn, σ => pure { σ with
      mutex := some thread, queue := σ.queue ++ [fn], pushed := σ.pushed ++ [fn] }
  | .notify, σ => pure { σ.writeByte capacity with mutex := none }
  | .setup, σ => do
    check (!σ.notifyFd) .notifyFd
    pure { σ with mutex := some thread, main := .setup }
  | .setupDone, σ => pure { σ with mutex := none, notifyFd := true, main := .flush false }
  | .flush, σ =>
    let inLoop := σ.main == .flush true
    match σ.queue with
    | [] => pure { σ with needsFlush := if inLoop then false else σ.needsFlush, main := .poll }
    | fn :: rest => pure { σ with
        queue := rest, executed := σ.executed ++ [(thread, fn)], main := .running inLoop }
  | .finish, σ => pure { σ with main := .flush (σ.main == .running true) }
  | .polled notified, σ => pure { σ with main := .callbacks notified }
  | .runFunc, σ =>
    if σ.unread = 0 then throw (.fatal .notifyRead)
    else pure { σ with
      unread := σ.unread - min σ.unread bufferSize, needsFlush := true, main := .callbacks false }
  | .callbacksDone, σ => pure { σ with main := if σ.needsFlush then .flush true else .poll }

def step (capacity : ℕ) (turn : Thread × Action Fn) (σ : RunQueue Fn) : Res (RunQueue Fn) :=
  if σ.enabled turn.1 turn.2 then act capacity turn.1 turn.2 σ else pure σ

/-! ## Nothing is left in the queue -/

/-- The main thread has been told of what is queued, or will be: there is a byte to be read, a
thread is about to write one, or a byte was read and the queue is to be flushed. -/
def Told (σ : RunQueue Fn) : Prop :=
  σ.queue = [] ∨ 0 < σ.unread ∨ σ.mutex ≠ none ∨ σ.needsFlush = true

def MainOk (σ : RunQueue Fn) : Prop :=
  match σ.main with
  | .start => σ.notifyFd = false ∧ σ.needsFlush = false
  | .setup => σ.notifyFd = false ∧ σ.needsFlush = false ∧ σ.mutex = some .main
  | .flush inLoop => σ.notifyFd = true ∧ σ.mutex ≠ some .main ∧ (inLoop = false → σ.needsFlush = false)
  | .running inLoop => σ.notifyFd = true ∧ (inLoop = false → σ.needsFlush = false)
  | .poll => σ.notifyFd = true ∧ σ.mutex ≠ some .main ∧ σ.needsFlush = false ∧ σ.Told
  | .callbacks notified => σ.notifyFd = true ∧ (notified = true → 0 < σ.unread) ∧ σ.Told

/-- The functions that have been called are the first that were queued, in their order, and the
others are in the queue. -/
def Ordered (σ : RunQueue Fn) : Prop :=
  σ.executed ++ σ.queue.map (Prod.mk .main) = σ.pushed.map (Prod.mk .main)

structure Kept (σ : RunQueue Fn) : Prop where
  main : σ.MainOk
  ordered : σ.Ordered

variable {σ : RunQueue Fn} {capacity : ℕ} {thread : Thread}

lemma kept_empty : Kept ({} : RunQueue Fn) := ⟨⟨rfl, rfl⟩, rfl⟩

lemma push_kept (h : σ.Kept) (fn : Fn) (hfree : σ.mutex = none)
    (hmain : thread ≠ .main ∨ σ.main.free = true) :
    Kept { σ with
      mutex := some thread, queue := σ.queue ++ [fn], pushed := σ.pushed ++ [fn] } := by
  refine ⟨?_, ?_⟩
  · have hok := h.main
    unfold MainOk at hok ⊢
    cases hat : σ.main with
    | start => simpa [hat] using hok
    | setup =>
      rw [hat] at hok
      rw [hok.2.2] at hfree
      cases hfree
    | flush inLoop =>
      rw [hat] at hok
      have hother : thread ≠ .main := hmain.resolve_right (by simp [hat, MainAt.free])
      exact ⟨hok.1, by simpa using hother, hok.2.2⟩
    | running inLoop => simpa [hat] using hok
    | poll =>
      rw [hat] at hok
      have hother : thread ≠ .main := hmain.resolve_right (by simp [hat, MainAt.free])
      exact ⟨hok.1, by simpa using hother, hok.2.2.1, by simp [Told]⟩
    | callbacks notified =>
      rw [hat] at hok
      exact ⟨hok.1, hok.2.1, by simp [Told]⟩
  · have hord := h.ordered
    unfold Ordered at hord ⊢
    simp [← List.append_assoc, hord]

lemma unread_writeByte (hcap : 1 ≤ capacity) (hfd : σ.notifyFd = true) :
    0 < (σ.writeByte capacity).unread := by
  rw [writeByte, hfd, Bool.true_and]
  by_cases hroom : σ.unread < capacity
  · rw [if_pos (by simpa using hroom)]
    exact Nat.succ_pos _
  · rw [if_neg (by simpa using hroom)]
    omega

lemma notify_kept (hcap : 1 ≤ capacity) (h : σ.Kept) (hat : σ.main ≠ .setup) :
    Kept { σ.writeByte capacity with mutex := none } := by
  -- nothing else changes
  have hsame : ∃ n, σ.writeByte capacity = { σ with unread := n } ∧ σ.unread ≤ n := by
    unfold writeByte
    split
    · exact ⟨σ.unread + 1, rfl, Nat.le_succ _⟩
    · exact ⟨σ.unread, rfl, Nat.le_refl _⟩
  have hbyte := unread_writeByte (σ := σ) hcap
  obtain ⟨n, hwrite, hle⟩ := hsame
  rw [hwrite] at hbyte ⊢
  refine ⟨?_, h.ordered⟩
  have hok := h.main
  unfold MainOk at hok ⊢
  cases hmain : σ.main with
  | start => simpa [hmain] using hok
  | setup => exact absurd hmain hat
  | flush inLoop =>
    rw [hmain] at hok
    exact ⟨hok.1, by simp, hok.2.2⟩
  | running inLoop => simpa [hmain] using hok
  | poll =>
    rw [hmain] at hok
    exact ⟨hok.1, by simp, hok.2.2.1, .inr (.inl (hbyte hok.1))⟩
  | callbacks notified =>
    rw [hmain] at hok
    exact ⟨hok.1, fun _ => hbyte hok.1, .inr (.inl (hbyte hok.1))⟩

lemma flush_kept (h : σ.Kept) (hfree : σ.mutex = none) {inLoop : Bool}
    (hat : σ.main = .flush inLoop) : ∃ τ, act capacity .main .flush σ = .ok τ ∧ τ.Kept := by
  have hok := h.main
  have hord := h.ordered
  unfold MainOk at hok
  rw [hat] at hok
  rw [act]
  cases hqueue : σ.queue with
  | nil =>
    refine ⟨_, rfl, ⟨hok.1, by simp [hfree], ?_, .inl rfl⟩, by simpa [Ordered, hqueue] using hord⟩
    cases inLoop with
    | true => simp [hat]
    | false => simp [hat, hok.2.2 rfl]
  | cons fn rest =>
    refine ⟨_, rfl, ?_, ?_⟩
    · cases inLoop with
      | true => simp [MainOk, hat, hok.1]
      | false => simp [MainOk, hat, hok.1, hok.2.2 rfl]
    · unfold Ordered at hord ⊢
      simpa [hqueue] using hord

lemma act_kept (hcap : 1 ≤ capacity) (h : σ.Kept) (action : Action Fn)
    (henabled : σ.enabled thread action = true) :
    ∃ τ, act capacity thread action σ = .ok τ ∧ τ.Kept := by
  have hok := h.main
  unfold MainOk at hok
  cases action with
  | push fn =>
    simp only [enabled, Bool.and_eq_true, Option.isNone_iff_eq_none, Bool.or_eq_true,
      bne_iff_ne] at henabled
    exact ⟨_, rfl, push_kept h fn henabled.1 henabled.2⟩
  | notify =>
    simp only [enabled, Bool.and_eq_true, bne_iff_ne] at henabled
    exact ⟨_, rfl, notify_kept hcap h henabled.2⟩
  | setup =>
    simp only [enabled, Bool.and_eq_true, beq_iff_eq] at henabled
    obtain ⟨⟨rfl, -⟩, hat⟩ := henabled
    rw [hat] at hok
    have hcheck : (!σ.notifyFd) = true := by
      rw [hok.1]
      rfl
    refine ⟨{ σ with mutex := some .main, main := .setup }, ?_, ⟨hok.1, hok.2, rfl⟩, h.ordered⟩
    rw [act, hcheck]
    rfl
  | setupDone =>
    simp only [enabled, Bool.and_eq_true, beq_iff_eq] at henabled
    rw [henabled.2] at hok
    exact ⟨_, rfl, ⟨rfl, by simp, fun _ => hok.2.1⟩, h.ordered⟩
  | flush =>
    simp only [enabled, Bool.and_eq_true, beq_iff_eq, Option.isNone_iff_eq_none,
      Bool.or_eq_true] at henabled
    obtain ⟨⟨rfl, hfree⟩, hat | hat⟩ := henabled
    · exact flush_kept h hfree hat
    · exact flush_kept h hfree hat
  | finish =>
    simp only [enabled, Bool.and_eq_true, beq_iff_eq, bne_iff_ne, Bool.or_eq_true] at henabled
    obtain ⟨⟨-, hmutex⟩, hat | hat⟩ := henabled
    · rw [hat] at hok
      exact ⟨_, rfl, ⟨hok.1, hmutex, by simp [hat]⟩, h.ordered⟩
    · rw [hat] at hok
      exact ⟨_, rfl, ⟨hok.1, hmutex, fun _ => hok.2 rfl⟩, h.ordered⟩
  | polled notified =>
    simp only [enabled, Bool.and_eq_true, beq_iff_eq, Bool.or_eq_true, Bool.not_eq_true',
      decide_eq_true_eq] at henabled
    obtain ⟨⟨-, hat⟩, hbyte⟩ := henabled
    rw [hat] at hok
    refine ⟨_, rfl, ⟨hok.1, fun hn => hbyte.resolve_left (by simp [hn]), hok.2.2.2⟩, h.ordered⟩
  | runFunc =>
    simp only [enabled, Bool.and_eq_true, beq_iff_eq] at henabled
    rw [henabled.2] at hok
    have hbyte := hok.2.1 rfl
    let τ : RunQueue Fn := { σ with
      unread := σ.unread - min σ.unread bufferSize, needsFlush := true, main := .callbacks false }
    refine ⟨τ, ?_, ⟨hok.1, by simp, .inr (.inr (.inr rfl))⟩, h.ordered⟩
    rw [act, if_neg (by omega)]
    rfl
  | callbacksDone =>
    simp only [enabled, Bool.and_eq_true, beq_iff_eq, bne_iff_ne] at henabled
    obtain ⟨⟨-, hmutex⟩, hat⟩ := henabled
    rw [hat] at hok
    refine ⟨_, rfl, ?_, h.ordered⟩
    cases hflush : σ.needsFlush with
    | true => exact ⟨hok.1, hmutex, by simp⟩
    | false => exact ⟨hok.1, hmutex, rfl, by simpa [Told, hflush] using hok.2.2⟩

lemma step_kept (hcap : 1 ≤ capacity) (h : σ.Kept) (turn : Thread × Action Fn) :
    ∃ τ, step capacity turn σ = .ok τ ∧ τ.Kept := by
  unfold step
  split
  · next henabled => exact act_kept hcap h turn.2 henabled
  · exact ⟨σ, rfl, h⟩

/-- If the main thread goes to sleep while a function is queued, there is a byte that wakes it up,
or a producer has the mutex and is about to write one. -/
def Awake (capacity : ℕ) (σ : RunQueue Fn) : Prop :=
  σ.main = .poll → σ.queue ≠ [] → 0 < σ.unread ∨
    ∃ n τ, σ.mutex = some (.producer n) ∧ step capacity (.producer n, .notify) σ = .ok τ ∧
      0 < τ.unread

lemma Kept.awake (h : σ.Kept) (hcap : 1 ≤ capacity) : σ.Awake capacity := by
  intro hat hqueue
  have hok := h.main
  unfold MainOk at hok
  rw [hat] at hok
  obtain ⟨hfd, hmutex, hflush, htold⟩ := hok
  rcases htold with hnil | hbyte | hheld | hneeds
  · exact absurd hnil hqueue
  · exact .inl hbyte
  · match hm : σ.mutex with
    | none => exact absurd hm hheld
    | some .main => exact absurd hm hmutex
    | some (.producer n) =>
      refine .inr ⟨n, { σ.writeByte capacity with mutex := none }, rfl, ?_,
        unread_writeByte hcap hfd⟩
      rw [step, if_pos (by simp [enabled, hm, hat])]
      rfl
  · rw [hflush] at hneeds
    cases hneeds

/-- Whatever the order in which producers and the main thread have their turns, the main thread
does not sleep over a queued function, and functions are run at most once, in the order in which
they were queued, by the main thread. -/
theorem runQueue_kept {capacity : ℕ} (hcap : 1 ≤ capacity) (turns : List (Thread × Action Fn)) :
    ∃ τ : RunQueue Fn, runs (step capacity) turns {} = .ok τ ∧ τ.Awake capacity ∧
      τ.executed ++ τ.queue.map (Prod.mk .main) = τ.pushed.map (Prod.mk .main) := by
  obtain ⟨τ, hrun, hτ⟩ := runs_safe (I := Kept) (C := fun _ _ => True)
    (fun σ turn h _ => step_kept hcap h turn) kept_empty
    (.of_forall (fun _ _ => trivial) turns ({} : RunQueue Fn))
  exact ⟨τ, hrun, hτ.awake hcap, hτ.ordered⟩

def crowded : List (Thread × Action ℕ) :=
  [(.producer 0, .push 0), (.producer 0, .notify), (.main, .setup), (.main, .setupDone),
    (.main, .flush), (.main, .push 1), (.main, .notify), (.producer 1, .push 2),
    (.producer 1, .notify), (.main, .finish), (.main, .flush), (.main, .finish), (.main, .flush),
    (.main, .finish), (.main, .flush), (.producer 2, .push 3)]

theorem runQueue_kept_crowded :
    ∃ τ : RunQueue ℕ, runs (step 1) crowded {} = .ok τ ∧ τ.Awake 1 ∧
      τ.executed ++ τ.queue.map (Prod.mk .main) = τ.pushed.map (Prod.mk .main) :=
  runQueue_kept (Nat.le_refl 1) crowded

end RunQueue

end Adb

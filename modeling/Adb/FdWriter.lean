import Adb.FdConnection
import Adb.Lib.Disk

/-!
# The writing side of `NonblockingFdConnection`

`Write` is called on one thread, `Run` polls on another; `write_mutex_` makes `Write`, the look at
`writable_` before the poll and the writes after it atomic. What the connection does with bytes that
the socket does not take at once depends on `writable_`, which asks for `POLLOUT`.
-/

namespace Adb

open Lib List

def APacket.bytes (p : APacket) : Bytes := p.msg.bytes ++ p.payload

namespace FdWriter

inductive Writev
  | takes (n : ℕ)
  | fails (e : Errno)
deriving DecidableEq, Repr

inductive WriteResult
  | error
  | completed
  | tryAgain
deriving DecidableEq, Repr

inductive Phase
  | idle
  /-- at `while (IsRunning())` -/
  | top
  /-- the events are chosen; `POLLOUT` is among them or not -/
  | armed (pollOut : Bool)
  | polling (pollOut : Bool)
  | returned (error : String)
deriving DecidableEq, Repr

structure Entry where
  pending : Bool
  pollOut : Bool
  /-- there is something to read from `wake_fd_read_` -/
  wake : Bool
deriving DecidableEq, Repr

end FdWriter

open FdWriter in
structure FdWriter where
  writable : Bool := true
  writeBuffer : IOVector := {}
  running : Bool := true
  reader : NonblockingFdConnection := {}
  phase : FdWriter.Phase := .idle
  wakes : ℕ := 0
  /-- the packets that `Write` has been called with, one after the other -/
  offered : Bytes := []
  accepted : Bytes := []
  /-- the `errno` of the writes that were reported as failed; none for a write of no byte -/
  failures : List (Option Errno) := []
  entries : List Entry := []
deriving DecidableEq, Repr

namespace FdWriter

/-- `DispatchWrites`, with what is reported if it fails. -/
def dispatchWrites (r : Writev) (w : FdWriter) : Res (WriteResult × FdWriter) := do
  check (!w.writeBuffer.empty) .writeBuffer
  if !w.writable then pure (.tryAgain, w)
  else do
    let iovs ← w.writeBuffer.iovecs
    match r with
    | .fails e => pure (.error, { w with failures := w.failures ++ [some e] })
    | .takes n =>
      let rc := min n iovs.flatten.length
      if rc = 0 then pure (.error, { w with failures := w.failures ++ [none] })
      else do
        let (_, rest) ← w.writeBuffer.takeFront rc
        pure (if rest.empty then .completed else .tryAgain,
          { w with
            writeBuffer := rest
            accepted := w.accepted ++ iovs.flatten.take rc })

def enqueue (p : APacket) (w : FdWriter) : Res FdWriter := do
  let buffer ← w.writeBuffer.append p.msg.bytes
  let buffer ← if p.payload.isEmpty then pure buffer else buffer.append p.payload
  pure { w with writeBuffer := buffer, offered := w.offered ++ p.bytes }

def write (p : APacket) (r : Writev) (w : FdWriter) : Res (Bool × FdWriter) := do
  let w ← enqueue p w
  let (result, w) ← dispatchWrites r w
  pure (result ≠ .error, w)

inductive Polled
  | failed (strerror : String)
  /-- `POLLOUT` and `POLLIN` of the socket, with what the calls that follow return, and whether
  there is something on `wake_fd_read_` -/
  | ready (out : Option Writev) (read : Option NonblockingFdConnection.Read) (wake : Bool)
deriving DecidableEq, Repr

def onPollOut (requested : Bool) (out : Option Writev) (w : FdWriter) : Res FdWriter :=
  match requested, out with
  | true, some r => do
    let (result, w) ← dispatchWrites r w
    pure (match result with
      | .error => { w with phase := .returned "write failed" }
      | .completed => { w with writable := true }
      | .tryAgain => w)
  | _, _ => pure w

def onPollIn (read : Option NonblockingFdConnection.Read) (w : FdWriter) : Res FdWriter :=
  match read with
  | none => pure w
  | some r => do
    let reader ← w.reader.onRead r
    pure (match reader.error with
      | some error => { w with reader := reader, phase := .returned error }
      | none => { w with reader := reader })

/-- `if (pfds[1].revents)`: one wake-up is read. -/
def onWake (wake : Bool) (w : FdWriter) : Res FdWriter :=
  if wake then do
    check (w.wakes ≠ 0) .wakeSize
    pure { w with wakes := w.wakes - 1 }
  else pure w

/-- `Run` goes on after a step that may have made it return. -/
def unlessReturned (f : FdWriter → Res FdWriter) (w : FdWriter) : Res FdWriter :=
  match w.phase with
  | .returned _ => pure w
  | _ => f w

def afterPoll (requested : Bool) (polled : Polled) (w : FdWriter) : Res FdWriter :=
  match polled with
  | .failed strerror => pure { w with phase := .returned ("poll failed: " ++ strerror) }
  | .ready out read wake => do
    let w ← onPollOut requested out { w with phase := .top }
    let w ← unlessReturned (onPollIn read) w
    -- the event on `wake_fd_read_` is only there if a wake-up is
    unlessReturned (onWake (wake && w.wakes ≠ 0)) w

inductive Turn
  | write (p : APacket) (r : Writev)
  | start
  | stop
  /-- `IsRunning`, and the choice of the events -/
  | arm
  | enterPoll
  | pollReturns (polled : Polled)
deriving DecidableEq, Repr

def step (turn : Turn) (w : FdWriter) : Res FdWriter :=
  match turn with
  | .write p r => do
    let (_, w) ← write p r w
    pure w
  | .start => pure (if w.phase = .idle then { w with phase := .top, running := true } else w)
  | .stop => pure { w with running := false, wakes := w.wakes + 1 }
  | .arm =>
    pure (if w.phase = .top then
      { w with phase := if w.running then .armed (!w.writable) else .returned "connection closed" }
    else w)
  | .enterPoll =>
    match w.phase with
    | .armed pollOut =>
      pure { w with
        phase := .polling pollOut
        entries := w.entries ++
          [{ pending := !w.writeBuffer.empty, pollOut := pollOut, wake := w.wakes ≠ 0 }] }
    | _ => pure w
  | .pollReturns polled =>
    match w.phase with
    | .polling pollOut => afterPoll pollOut polled w
    | _ => pure w

def Turn.written : Turn → Option (APacket × Writev)
  | .write p r => some (p, r)
  | _ => none

/-! ## One call -/

variable {w w' : FdWriter} {p : APacket} {r : Writev}

/-- `writable_` is never cleared, and so `POLLOUT` is never requested. -/
structure Inv (w : FdWriter) : Prop where
  writable : w.writable = true
  buffer : w.writeBuffer.Wf
  offered : w.offered = w.accepted ++ w.writeBuffer.bytes
  armed : w.phase ≠ .armed true
  polling : w.phase ≠ .polling true

lemma Inv.init : Inv {} :=
  ⟨rfl, IOVector.wf_empty, rfl, by simp, by simp⟩

lemma Inv.congr (h : Inv w) (hwritable : w'.writable = w.writable)
    (hbuffer : w'.writeBuffer = w.writeBuffer) (hoffered : w'.offered = w.offered)
    (haccepted : w'.accepted = w.accepted) (hphase : w'.phase = w.phase) : Inv w' := by
  obtain ⟨writable, buffer, offered, armed, polling⟩ := h
  exact ⟨hwritable ▸ writable, hbuffer ▸ buffer, hoffered ▸ haccepted ▸ hbuffer ▸ offered,
    hphase ▸ armed, hphase ▸ polling⟩

lemma length_msg_bytes (m : AMessage) : m.bytes.length = 24 := by
  simp [AMessage.bytes]

lemma length_packet_bytes (p : APacket) : p.bytes.length = 24 + p.payload.length := by
  rw [APacket.bytes, length_append, length_msg_bytes]

lemma enqueue_spec (p : APacket) (h : w.writeBuffer.Wf) :
    ∃ buffer, enqueue p w = .ok { w with writeBuffer := buffer, offered := w.offered ++ p.bytes } ∧
      buffer.Wf ∧ buffer.bytes = w.writeBuffer.bytes ++ p.bytes := by
  have hmsg : p.msg.bytes ≠ [] := by
    intro hnil
    have hlen := length_msg_bytes p.msg
    rw [hnil] at hlen
    cases hlen
  obtain ⟨buffer, happend, hwf, hbytes⟩ := IOVector.append_spec h hmsg
  cases hpayload : p.payload with
  | nil =>
    refine ⟨buffer, ?_, hwf, by rw [hbytes, APacket.bytes, hpayload, List.append_nil]⟩
    rw [enqueue, happend, ok_bind, hpayload]
    rfl
  | cons b rest =>
    obtain ⟨buffer', happend', hwf', hbytes'⟩ :=
      IOVector.append_spec hwf (cons_ne_nil b rest)
    refine ⟨buffer', ?_, hwf', by rw [hbytes', hbytes, APacket.bytes, hpayload, append_assoc]⟩
    rw [enqueue, happend, ok_bind, hpayload]
    show (do
      let buffer ← buffer.append (b :: rest)
      pure { w with writeBuffer := buffer, offered := w.offered ++ p.bytes } : Res FdWriter) = _
    rw [happend']
    rfl

def Writev.TakesAll (n : ℕ) (r : Writev) : Prop := ∃ k, r = .takes k ∧ n ≤ k

lemma dispatchWrites_spec (r : Writev) (hwritable : w.writable = true)
    (hbuffer : w.writeBuffer.Wf) (hne : w.writeBuffer.bytes ≠ []) :
    ∃ result rest taken failures, dispatchWrites r w = .ok (result, { w with
        writeBuffer := rest
        accepted := w.accepted ++ taken
        failures := failures }) ∧
      rest.Wf ∧ w.writeBuffer.bytes = taken ++ rest.bytes ∧
      (rest.bytes = [] ↔ r.TakesAll w.writeBuffer.bytes.length) ∧
      (rest.bytes = [] → failures = w.failures) := by
  have hempty : w.writeBuffer.empty = false := hbuffer.empty_eq_false_iff.mpr hne
  obtain ⟨pieces, hiovecs, hflat⟩ := IOVector.iovecs_spec hbuffer
  have hlen : 0 < w.writeBuffer.bytes.length := length_pos_of_ne_nil hne
  cases r with
  | fails e =>
    refine ⟨.error, w.writeBuffer, [], w.failures ++ [some e], ?_, hbuffer, rfl, ?_, ?_⟩
    · rw [dispatchWrites, hempty, hwritable, hiovecs, List.append_nil]
      rfl
    · constructor
      · intro hnil
        exact absurd hnil hne
      intro hall
      obtain ⟨k, hk, -⟩ := hall
      cases hk
    · intro hnil
      exact absurd hnil hne
  | takes n =>
    by_cases hn : n = 0
    · refine ⟨.error, w.writeBuffer, [], w.failures ++ [none], ?_, hbuffer, rfl, ?_, ?_⟩
      · rw [dispatchWrites, hempty, hwritable, hiovecs, List.append_nil, hn]
        simp
      · constructor
        · intro hnil
          exact absurd hnil hne
        intro hall
        obtain ⟨k, hk, hle⟩ := hall
        cases hk
        omega
      · intro hnil
        exact absurd hnil hne
    · have hpos : 0 < min n w.writeBuffer.bytes.length := by omega
      obtain ⟨head, rest, htake, hwf, hrest⟩ := IOVector.takeFront_spec hbuffer hpos
        (by rw [hbuffer.size_eq_length]; omega)
      refine ⟨if rest.empty then .completed else .tryAgain, rest,
        w.writeBuffer.bytes.take (min n w.writeBuffer.bytes.length), w.failures, ?_, hwf, ?_, ?_,
        fun _ => rfl⟩
      · rw [dispatchWrites, hempty, hwritable, hiovecs]
        simp only [hflat, ok_bind, pure_eq_ok, check_true, Bool.not_false, Bool.not_true,
          Bool.false_eq_true, ↓reduceIte, if_neg (Nat.ne_of_gt hpos), htake]
      · rw [hrest, take_append_drop]
      rw [hrest, drop_eq_nil_iff]
      constructor
      · intro hle
        exact ⟨n, rfl, by omega⟩
      intro hall
      obtain ⟨k, hk, hle⟩ := hall
      cases hk
      omega

lemma write_spec (p : APacket) (r : Writev) (h : Inv w) :
    ∃ ok rest taken failures, write p r w = .ok (ok, { w with
        writeBuffer := rest
        offered := w.offered ++ p.bytes
        accepted := w.accepted ++ taken
        failures := failures }) ∧
      rest.Wf ∧ w.writeBuffer.bytes ++ p.bytes = taken ++ rest.bytes ∧
      (rest.bytes = [] ↔ r.TakesAll (w.writeBuffer.bytes ++ p.bytes).length) ∧
      (rest.bytes = [] → failures = w.failures) := by
  obtain ⟨buffer, henqueue, hwf, hbytes⟩ := enqueue_spec p h.buffer
  have hne : buffer.bytes ≠ [] := by
    have hlen := length_packet_bytes p
    rw [hbytes]
    apply append_ne_nil_of_right_ne_nil
    apply ne_nil_of_length_pos
    omega
  obtain ⟨result, rest, taken, failures, hdispatch, hrest, hsplit, hall, hfail⟩ :=
    dispatchWrites_spec (w := { w with writeBuffer := buffer, offered := w.offered ++ p.bytes }) r
      h.writable hwf hne
  rw [hbytes] at hsplit hall
  refine ⟨result ≠ .error, rest, taken, failures, ?_, hrest, hsplit, hall, hfail⟩
  rw [write, henqueue, ok_bind, hdispatch]
  rfl

/-! ## One turn -/

lemma Inv.write (h : Inv w) (hstep : step (.write p r) w = .ok w') :
    Inv w' ∧ w'.entries = w.entries ∧
      (w'.writeBuffer.bytes = [] ↔ r.TakesAll (w.writeBuffer.bytes ++ p.bytes).length) ∧
      (w'.writeBuffer.bytes = [] → w'.failures = w.failures) := by
  obtain ⟨ok, rest, taken, failures, hwrite, hwf, hsplit, hall, hfail⟩ := write_spec p r h
  rw [step, hwrite] at hstep
  cases hstep
  refine ⟨⟨h.writable, hwf, ?_, h.armed, h.polling⟩, rfl, hall, hfail⟩
  show w.offered ++ p.bytes = w.accepted ++ taken ++ rest.bytes
  rw [h.offered, append_assoc, hsplit, append_assoc]

structure Quiet (w w' : FdWriter) : Prop where
  writeBuffer : w'.writeBuffer = w.writeBuffer
  accepted : w'.accepted = w.accepted
  failures : w'.failures = w.failures
  entries : ∃ more, w'.entries = w.entries ++ more ∧ ∀ e ∈ more, e.pending = !w.writeBuffer.empty

/-- What a round of `Run` changes when it does not write: it is not left in `adb_poll`. -/
def Aside (w w' : FdWriter) : Prop :=
  ∃ reader phase wakes, w' = { w with reader := reader, phase := phase, wakes := wakes } ∧
    (w.phase = .top → phase = .top ∨ ∃ error, phase = .returned error)

lemma Aside.refl (w : FdWriter) : Aside w w := ⟨_, _, _, rfl, .inl⟩

lemma onPollIn_aside {read : Option NonblockingFdConnection.Read}
    (h : onPollIn read w = .ok w') : Aside w w' := by
  unfold onPollIn at h
  split at h
  · cases h
    exact .refl w
  obtain ⟨reader, -, hreader⟩ := bind_eq_ok.mp h
  cases herror : reader.error with
  | none =>
    rw [herror] at hreader
    cases hreader
    exact ⟨reader, _, _, rfl, .inl⟩
  | some error =>
    rw [herror] at hreader
    cases hreader
    exact ⟨reader, _, _, rfl, fun _ => .inr ⟨error, rfl⟩⟩

lemma onWake_aside {wake : Bool} (h : onWake wake w = .ok w') : Aside w w' := by
  unfold onWake at h
  split at h
  · obtain ⟨-, -, hw'⟩ := bind_eq_ok.mp h
    cases hw'
    exact ⟨_, _, _, rfl, .inl⟩
  · cases h
    exact .refl w

lemma afterPoll_spec {polled : Polled} (h : afterPoll false polled w = .ok w') :
    ∃ reader phase wakes, w' = { w with reader := reader, phase := phase, wakes := wakes } ∧
      (phase = .top ∨ ∃ error, phase = .returned error) := by
  cases polled with
  | failed strerror =>
    cases h
    exact ⟨w.reader, _, w.wakes, rfl, .inr ⟨_, rfl⟩⟩
  | ready out read wake =>
    obtain ⟨w1, hout, h⟩ := bind_eq_ok.mp h
    have hw1 : w1 = { w with phase := .top } := by
      cases hout
      rfl
    subst hw1
    obtain ⟨w2, hin, hwake⟩ := bind_eq_ok.mp h
    obtain ⟨reader, phase, wakes, rfl, hphase⟩ := onPollIn_aside hin
    obtain htop | ⟨error, hreturned⟩ := hphase rfl
    · rw [htop] at hwake
      obtain ⟨reader', phase', wakes', rfl, hphase'⟩ := onWake_aside hwake
      exact ⟨reader', phase', wakes', rfl, hphase' rfl⟩
    · rw [hreturned] at hwake
      cases hwake
      exact ⟨reader, _, wakes, rfl, .inr ⟨error, rfl⟩⟩

lemma Inv.quiet {turn : Turn} (h : Inv w) (hturn : turn.written = none)
    (hstep : step turn w = .ok w') : Inv w' ∧ Quiet w w' := by
  have hsame : ∀ phase reader wakes running, phase ≠ .armed true → phase ≠ .polling true →
      Inv { w with phase := phase, reader := reader, wakes := wakes, running := running } := by
    intro phase reader wakes running harmed hpolling
    exact ⟨h.writable, h.buffer, h.offered, harmed, hpolling⟩
  have hquiet : ∀ phase reader wakes running,
      Quiet w { w with phase := phase, reader := reader, wakes := wakes, running := running } := by
    intro phase reader wakes running
    exact ⟨rfl, rfl, rfl, [], by simp, by simp⟩
  cases turn with
  | write p r => cases hturn
  | start =>
    rw [step] at hstep
    split at hstep
    · cases hstep
      exact ⟨hsame .top w.reader w.wakes true (by simp) (by simp), hquiet ..⟩
    · cases hstep
      exact ⟨h, hquiet w.phase w.reader w.wakes w.running⟩
  | stop =>
    cases hstep
    exact ⟨hsame w.phase w.reader _ _ h.armed h.polling, hquiet ..⟩
  | arm =>
    rw [step] at hstep
    split at hstep
    · cases hstep
      refine ⟨hsame _ w.reader w.wakes w.running ?_ ?_, hquiet _ w.reader w.wakes w.running⟩
      · rw [h.writable]
        split <;> simp
      · rw [h.writable]
        split <;> simp
    · cases hstep
      exact ⟨h, hquiet w.phase w.reader w.wakes w.running⟩
  | enterPoll =>
    rw [step] at hstep
    split at hstep
    · next pollOut hphase =>
      cases hstep
      refine ⟨⟨h.writable, h.buffer, h.offered, by simp, ?_⟩, rfl, rfl, rfl, _, rfl, by simp⟩
      intro hpolling
      cases hpolling
      exact h.armed hphase
    · cases hstep
      exact ⟨h, hquiet w.phase w.reader w.wakes w.running⟩
  | pollReturns polled =>
    rw [step] at hstep
    split at hstep
    · next pollOut hphase =>
      cases pollOut with
      | true => exact absurd hphase h.polling
      | false =>
        obtain ⟨reader, phase, wakes, rfl, hnext⟩ := afterPoll_spec hstep
        refine ⟨hsame phase reader wakes w.running ?_ ?_, hquiet phase reader wakes w.running⟩
        · obtain rfl | ⟨error, rfl⟩ := hnext <;> simp
        · obtain rfl | ⟨error, rfl⟩ := hnext <;> simp
    · cases hstep
      exact ⟨h, hquiet w.phase w.reader w.wakes w.running⟩

/-! ## Runs -/

/-- The bytes taken are a front of the packets, a full socket is not an error, and whoever waits in
`adb_poll` with bytes in the buffer is told when there is room for them. -/
structure Good (w : FdWriter) : Prop where
  accepted : w.accepted <+: w.offered
  failures : some .EAGAIN ∉ w.failures
  entries : ∀ e ∈ w.entries, e.pending = true → e.pollOut = true ∨ e.wake = true

structure Drained (w : FdWriter) : Prop where
  inv : Inv w
  buffer : w.writeBuffer.bytes = []
  failures : w.failures = []
  entries : ∀ e ∈ w.entries, e.pending = false

lemma Inv.front (h : Inv w) : w.accepted <+: w.offered := by
  rw [h.offered]
  exact prefix_append _ _

lemma Drained.good (h : Drained w) : Good w := by
  refine ⟨h.inv.front, by simp [h.failures], ?_⟩
  intro e he hpending
  rw [h.entries e he] at hpending
  cases hpending

lemma Drained.step {turn : Turn} (h : Drained w)
    (hall : ∀ p r, turn.written = some (p, r) → r.TakesAll p.bytes.length)
    (hstep : step turn w = .ok w') : Drained w' := by
  cases hturn : turn.written with
  | none =>
    obtain ⟨hinv, hquiet⟩ := h.inv.quiet hturn hstep
    refine ⟨hinv, by rw [hquiet.writeBuffer, h.buffer], by rw [hquiet.failures, h.failures], ?_⟩
    obtain ⟨more, hmore, hpending⟩ := hquiet.entries
    intro e he
    rw [hmore, mem_append] at he
    obtain he | he := he
    · exact h.entries e he
    · rw [hpending e he, h.inv.buffer.empty_iff.mpr h.buffer]
      rfl
  | some x =>
    obtain ⟨p, r⟩ := x
    cases turn with
    | write p' r' =>
      cases hturn
      obtain ⟨hinv, hentries, hempty, hfail⟩ := h.inv.write hstep
      have hnil : w'.writeBuffer.bytes = [] := by
        rw [hempty, h.buffer]
        exact hall p r rfl
      refine ⟨hinv, hnil, by rw [hfail hnil, h.failures], ?_⟩
      rw [hentries]
      exact h.entries
    | _ => cases hturn

def writeAndPoll (x : APacket × Writev) : List Turn :=
  [.write x.1 x.2, .arm, .enterPoll, .pollReturns (.ready none none false)]

structure AtTop (w : FdWriter) : Prop where
  inv : Inv w
  phase : w.phase = .top
  running : w.running = true
  wakes : w.wakes = 0

lemma AtTop.writeAndPoll (h : AtTop w) (x : APacket × Writev) :
    ∃ w', (∀ turns, runs step (FdWriter.writeAndPoll x ++ turns) w = runs step turns w') ∧ AtTop w' ∧
      w'.entries = w.entries ++
        [{ pending := !w'.writeBuffer.empty, pollOut := false, wake := false }] ∧
      (w.writeBuffer.bytes = [] → (w'.writeBuffer.bytes = [] ↔ x.2.TakesAll x.1.bytes.length)) := by
  obtain ⟨p, r⟩ := x
  obtain ⟨ok, rest, taken, failures, hwrite, hwf, hsplit, hall, -⟩ := write_spec p r h.inv
  have hstep : step (.write p r) w = .ok { w with
      writeBuffer := rest
      offered := w.offered ++ p.bytes
      accepted := w.accepted ++ taken
      failures := failures } := by
    rw [step, hwrite]
    rfl
  obtain ⟨hinv, -⟩ := h.inv.write hstep
  refine ⟨{ w with
    writeBuffer := rest
    offered := w.offered ++ p.bytes
    accepted := w.accepted ++ taken
    failures := failures
    entries := w.entries ++ [{ pending := !rest.empty, pollOut := false, wake := false }] },
    ?_, ⟨hinv.congr rfl rfl rfl rfl rfl, h.phase, h.running, h.wakes⟩, rfl, ?_⟩
  · intro turns
    show (do
      let w ← step (.write p r) w
      runs step (.arm :: .enterPoll :: .pollReturns (.ready none none false) :: turns) w) = _
    rw [hstep, ok_bind]
    obtain ⟨writable, buffer, running, reader, phase, wakes, offered, accepted, fails, entries⟩ := w
    have hwritable := h.inv.writable
    have hphase := h.phase
    have hrunning := h.running
    have hwakes := h.wakes
    dsimp only at hwritable hphase hrunning hwakes
    subst hwritable hphase hrunning hwakes
    rfl
  · intro hnil
    rw [hnil, nil_append] at hall
    exact hall

lemma AtTop.rounds (h : AtTop w) (ws : List (APacket × Writev)) :
    ∃ w', runs step (ws.flatMap FdWriter.writeAndPoll) w = .ok w' ∧ w.entries <+: w'.entries ∧
      (Good w' → w.writeBuffer.bytes = [] → ∀ x ∈ ws, x.2.TakesAll x.1.bytes.length) := by
  induction ws generalizing w with
  | nil => exact ⟨w, rfl, prefix_rfl, by simp⟩
  | cons x rest ih =>
    obtain ⟨w1, hround, htop, hentries, hempty⟩ := h.writeAndPoll x
    obtain ⟨w', hrest, hfront, hall⟩ := ih htop
    refine ⟨w', ?_, ?_, ?_⟩
    · rw [flatMap_cons, hround]
      exact hrest
    · apply List.IsPrefix.trans _ hfront
      rw [hentries]
      exact prefix_append _ _
    intro hgood hnil y hy
    -- the entry of this round is not pending
    have hmem : ({ pending := !w1.writeBuffer.empty, pollOut := false, wake := false } : Entry) ∈
        w'.entries := hfront.subset (by simp [hentries])
    have hdrained : w1.writeBuffer.bytes = [] := by
      apply htop.inv.buffer.empty_iff.mp
      cases hpending : w1.writeBuffer.empty with
      | true => rfl
      | false =>
        have hbad := hgood.entries _ hmem (by simp [hpending])
        simp at hbad
    obtain rfl | hy := mem_cons.mp hy
    · exact (hempty hnil).mp hdrained
    · exact hall hgood hdrained y hy

lemma written_rounds (ws : List (APacket × Writev)) :
    (ws.flatMap writeAndPoll).filterMap Turn.written = ws := by
  induction ws with
  | nil => rfl
  | cons x rest ih =>
    rw [flatMap_cons, filterMap_append, ih]
    rfl

/-- Packets are written, and the socket takes what it takes: the connection is in order at all times,
however the threads take turns, if and only if the socket takes every packet at once. -/
theorem writer_good_iff (ws : List (APacket × Writev)) :
    (∀ turns w, turns.filterMap Turn.written = ws → runs step turns {} = .ok w → Good w) ↔
      ∀ x ∈ ws, x.2.TakesAll x.1.bytes.length := by
  constructor
  · intro h
    have hstart : AtTop { phase := .top } :=
      ⟨⟨rfl, IOVector.wf_empty, rfl, by simp, by simp⟩, rfl, rfl, rfl⟩
    obtain ⟨w, hrun, -, hall⟩ := hstart.rounds ws
    exact hall (h (.start :: ws.flatMap writeAndPoll) w (written_rounds ws) hrun) rfl
  · intro hall turns w hturns hrun
    have hmeets : Meets step (fun _ turn => ∀ p r, Turn.written turn = some (p, r) →
        r.TakesAll p.bytes.length) turns {} := by
      apply Meets.of_mem
      intro turn hmem _ p r hwritten
      apply hall (p, r)
      rw [← hturns]
      exact mem_filterMap.mpr ⟨turn, hmem, hwritten⟩
    have hdrained : Drained {} := ⟨Inv.init, rfl, rfl, by simp⟩
    exact (runs_invariant (fun s i t hs hC hst => Drained.step hs hC hst) hdrained hmeets hrun).good

/-- The socket takes 10 bytes of a packet: `Run` polls without `POLLOUT` while 14 bytes are in the
buffer. And a socket that is full makes `Write` fail. -/
theorem writer_stalls :
    (∃ w, runs step [.write (packetOf A_OKAY 1 2) (.takes 10), .start, .arm, .enterPoll] {} =
        .ok w ∧ w.writeBuffer.size = 14 ∧
        w.entries = [{ pending := true, pollOut := false, wake := false }] ∧ ¬ Good w) ∧
      ∃ w, runs step [.write (packetOf A_OKAY 1 2) (.fails .EAGAIN)] {} = .ok w ∧
        w.failures = [some .EAGAIN] ∧ ¬ Good w := by
  constructor
  · have htest : returns
        (runs step [.write (packetOf A_OKAY 1 2) (.takes 10), .start, .arm, .enterPoll] {})
        (fun w => decide (w.writeBuffer.size = 14) &&
          decide (w.entries = [{ pending := true, pollOut := false, wake := false }])) = true := by
      decide +kernel
    obtain ⟨w, hrun, h⟩ := returns_iff.mp htest
    obtain ⟨hsize, hentries⟩ := Bool.and_eq_true_iff.mp h
    have hentries' := of_decide_eq_true hentries
    refine ⟨w, hrun, of_decide_eq_true hsize, hentries', ?_⟩
    intro hgood
    have hbad := hgood.entries { pending := true, pollOut := false, wake := false }
      (by simp [hentries']) rfl
    simp at hbad
  · have htest : returns (runs step [.write (packetOf A_OKAY 1 2) (.fails .EAGAIN)] {})
        (fun w => decide (w.failures = [some .EAGAIN])) = true := by
      decide +kernel
    obtain ⟨w, hrun, hfailures⟩ := returns_iff.mp htest
    have hfailures' := of_decide_eq_true hfailures
    refine ⟨w, hrun, hfailures', ?_⟩
    intro hgood
    exact hgood.failures (by simp [hfailures'])

end FdWriter

end Adb

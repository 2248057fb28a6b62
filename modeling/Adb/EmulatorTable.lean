import Adb.ConnectDevice
import Adb.LeaseLists
import Adb.Lifecycle

/-!
# The table of emulators

`local_transports` of `transport_local.cpp` maps the adb port of an emulator to its transport. A call
of `local_connect_arbitrary_ports` makes a connection (`connect`), enters a transport (`init`), and
has it registered (`finish`), each under a lock of its own. The `Close` of the connection erases it.
-/

namespace Adb

open Lib List

def localTransportMax : ℕ := 16

def getEmulatorSerialString (consolePort : ℤ) : Bytes := ascii "emulator-" ++ printInt consolePort

structure EmulatorCall where
  serial : Bytes
  port : ℤ
  /-- the transport, when `init_socket_transport` has returned -/
  transport : Option TPtr := none
deriving DecidableEq, Repr

structure Emulators where
  server : Server
  localTransports : List (ℤ × TPtr) := []
  /-- the transports that have an `EmulatorConnection`, with its `local_port_` -/
  ports : List (TPtr × ℤ) := []
  calls : List EmulatorCall := []

namespace Emulators

inductive Move
  | turn (turn : Server.Turn)
  /-- `local_connect_arbitrary_ports` makes its connection -/
  | connect (consolePort adbPort : ℤ)
  /-- `init_socket_transport` in the `i`th call -/
  | init (i : ℕ)
  /-- the rest of `register_socket_transport` in the `i`th call -/
  | finish (i : ℕ)
deriving DecidableEq

def findByAdbPort (h : Emulators) (port : ℤ) : Option TPtr := h.localTransports.lookup port

def findTransport (serial : Bytes) (σ : Server) : Option TPtr :=
  σ.transportList.find? fun t => (σ.transports.get t).any fun tr => cString tr.serial == serial

/-- `local_connect_arbitrary_ports`, up to the connection, which is made. -/
def connect (consolePort adbPort : ℤ) (h : Emulators) : Emulators :=
  let serial := getEmulatorSerialString consolePort
  if (h.findByAdbPort adbPort).isSome ∨ (findTransport serial h.server).isSome then h
  else { h with calls := h.calls ++ [{ serial := serial, port := adbPort }] }

def newTransport (σ : Server) : Server :=
  { σ with
    transports := σ.transports.alloc
      { connectionState := .kCsOffline
        type := .kTransportLocal
        id := σ.nextTransportId }
    nextTransportId := σ.nextTransportId + 1 }

def deleteTransport (t : TPtr) (σ : Server) : Server :=
  { σ with transports := σ.transports.free t }

/-- `init_socket_transport` fails: the port is taken, or there are too many emulators. -/
def refuses (h : Emulators) (port : ℤ) : Bool :=
  (h.findByAdbPort port).isSome || localTransportMax ≤ h.localTransports.length

/-- The first part of `register_socket_transport`, in the `i`th call. -/
def init (i : ℕ) (call : EmulatorCall) (h : Emulators) : Emulators :=
  let t := h.server.transports.next
  if h.refuses call.port then
    { h with
      server := deleteTransport t (newTransport h.server)
      calls := h.calls.eraseIdx i }
  else
    { server := newTransport h.server
      localTransports := (call.port, t) :: h.localTransports
      ports := (t, call.port) :: h.ports
      calls := h.calls.eraseIdx i ++ [{ call with transport := some t }] }

def registerPending (t : TPtr) (tr : ATransport) (serial : Bytes) (σ : Server) : Server :=
  { σ.setTransport t { tr with serial := serial } with
    pendingList := t :: σ.pendingList
    registration := σ.registration ++ [.register t] }

/-- The second part. A serial that is on one of the lists is refused with `EALREADY`. -/
def finish (i : ℕ) (call : EmulatorCall) (t : TPtr) (h : Emulators) : Res Emulators := do
  if Server.knownSerial call.serial h.server then
    pure { h with server := deleteTransport t h.server, calls := h.calls.eraseIdx i }
  else
    let tr ← h.server.transport t
    pure { h with
      server := registerPending t tr call.serial h.server
      calls := h.calls.eraseIdx i }

def reconnectsEmulator (h : Emulators) : Bool :=
  h.server.reconnecting.any fun a => (h.ports.lookup a.transport).isSome

/-- The turn as the server takes it: an emulator is never found again, as its reconnect callback
returns `Abort`; and `local_connect` is not made there, but by the moves of this module. -/
def settle (h : Emulators) : Server.Turn → Server.Turn
  | .main ⟨.reconnectResult r, os⟩ =>
    .main ⟨.reconnectResult (if h.reconnectsEmulator then .abort else r), os⟩
  | .main ⟨c, os⟩ => .main ⟨c, { os with emulator := false }⟩
  | .flush os => .flush { os with emulator := false }
  | turn => turn

def closes (σ τ : Server) (t : TPtr) : Bool :=
  (σ.transports.get t).any (fun tr => tr.connection.started && !tr.connection.stopped) &&
    (τ.transports.get t).all (·.connection.stopped)

def erasePorts (h : Emulators) (τ : Server) : List (ℤ × TPtr) :=
  h.localTransports.filter fun e => !h.ports.any fun p => p.2 = e.1 && closes h.server τ p.1

def step (cfg : Config) (move : Move) (h : Emulators) : Res Emulators :=
  match move with
  | .turn turn => do
    let τ ← Server.turnStep cfg (h.settle turn) h.server
    pure { h with server := τ, localTransports := h.erasePorts τ }
  | .connect consolePort adbPort => pure (h.connect consolePort adbPort)
  | .init i =>
    match h.calls[i]? with
    | some call => pure (if call.transport.isNone then h.init i call else h)
    | none => pure h
  | .finish i =>
    match h.calls[i]? with
    | some call =>
      match call.transport with
      | some t => h.finish i call t
      | none => pure h
    | none => pure h

def TableOk (h : Emulators) : Prop :=
  ∀ e ∈ h.localTransports, (∃ tr, h.server.transports.get e.2 = some tr) ∧
    (e.2 ∈ h.server.pendingList ∨ e.2 ∈ h.server.transportList ∨
      ∃ call ∈ h.calls, call.transport = some e.2)

/-! ## The transport of a call -/

variable {h h' : Emulators} {cfg : Config} {t u : TPtr} {tr : ATransport} {call : EmulatorCall} {i : ℕ}

/-! ## The invariant -/

structure Inv (h : Emulators) : Prop where
  leases : h.server.leases.Ok
  calls : ∀ call ∈ h.calls, ∀ t, call.transport = some t → h.server.leases.Raw t
  distinct : h.calls.Pairwise fun c c' => ∀ t, c.transport = some t → c'.transport ≠ some t
  entries : ∀ e ∈ h.localTransports, (e.2, e.1) ∈ h.ports ∧ h.server.leases.Running e.2 ∧
    (h.server.leases.Listed e.2 ∨ ∃ call ∈ h.calls, call.transport = some e.2)

lemma Inv.tableOk (hI : Inv h) : h.TableOk := by
  intro e he
  obtain ⟨-, hrunning, hwhere⟩ := hI.entries e he
  constructor
  · obtain ⟨k, hk, -⟩ := hrunning.lease
    cases htr : h.server.transports.get e.2 with
    | some tr => exact ⟨tr, rfl⟩
    | none => simp [Server.leases, htr] at hk
  · rcases hwhere with hlisted | hcall
    · exact hlisted.imp_right .inl
    · exact .inr (.inr hcall)

variable {σ : Server}

lemma closes_of_closes {τ : Server} (hc : σ.leases.Closes τ.leases t) : closes σ τ t = true := by
  have hstarted := hc.started
  have hrunning := hc.running
  have hstopped := hc.stopped
  unfold closes
  unfold Leases.startedAt at hstarted
  unfold Leases.stoppedAt at hrunning hstopped
  cases htr : σ.transports.get t with
  | none => simp [Server.leases, htr] at hstarted
  | some tr =>
    cases htr' : τ.transports.get t with
    | none => simp [Server.leases, htr'] at hstopped
    | some tr' =>
      rw [Server.get_leases htr] at hstarted hrunning
      rw [Server.get_leases htr'] at hstopped
      have hstarted : tr.connection.started = true := hstarted
      have hrunning : tr.connection.stopped = false := hrunning
      have hstopped : tr'.connection.stopped = true := hstopped
      simp [hstarted, hrunning, hstopped]

lemma Inv.turn {turn : Server.Turn} {τ : Server} (hI : Inv h)
    (hτ : Server.turnStep cfg turn h.server = .ok τ) :
    Inv { h with server := τ, localTransports := h.erasePorts τ } := by
  have hstep := Server.turnStep_step hτ
  refine ⟨hI.leases.step hstep, ?_, hI.distinct, ?_⟩
  · intro call hcall t ht
    exact (hI.calls call hcall t ht).step hI.leases hstep
  intro e he
  obtain ⟨hmem, hkept⟩ := mem_filter.mp he
  obtain ⟨hport, hrunning, hwhere⟩ := hI.entries e hmem
  rcases hrunning.step hI.leases hstep with hstays | hcloses | ⟨hrunning', hlisted, -⟩
  · exact ⟨hport, hstays.running, hwhere.imp_left hstays.listed⟩
  · have herased : (h.ports.any fun p => p.2 = e.1 && closes h.server τ p.1) = true := by
      rw [any_eq_true]
      exact ⟨(e.2, e.1), hport, by simp [closes_of_closes hcloses]⟩
    rw [herased] at hkept
    cases hkept
  · exact ⟨hport, hrunning', hwhere.imp_left hlisted⟩

variable {calls : List EmulatorCall}

lemma mem_eraseIdx {c : EmulatorCall} (hcall : calls[i]? = some call)
    (hc : c ∈ calls) (hne : c ≠ call) : c ∈ calls.eraseIdx i := by
  obtain ⟨j, hj⟩ := mem_iff_getElem?.mp hc
  rw [mem_eraseIdx_iff_getElem?]
  refine ⟨j, ?_, hj⟩
  intro heq
  rw [heq, hcall] at hj
  cases hj
  exact hne rfl

lemma Inv.of_view (hI : Inv h) (hview : ∀ t, σ.leases.view t = h.server.leases.view t)
    (hlisted : ∀ t, h.server.leases.Listed t → σ.leases.Listed t)
    (hcalls : ∀ c, c.transport ≠ none → (c ∈ calls ↔ c ∈ h.calls))
    (hdistinct : calls.Pairwise fun c c' => ∀ t, c.transport = some t → c'.transport ≠ some t) :
    Inv { h with server := σ, calls := calls } := by
  have hstays (t : TPtr) (hrunning : h.server.leases.Running t) :
      h.server.leases.Stays σ.leases t := .of_view hrunning (by rw [hview]) (hlisted t)
  refine ⟨?_, ?_, hdistinct, ?_⟩
  · intro t
    rw [hview]
    exact hI.leases t
  · intro c hc t ht
    have hraw := hI.calls c ((hcalls c (by simp [ht])).mp hc) t ht
    exact hraw.of_stays (hstays t hraw.toRunning)
  intro e he
  obtain ⟨hport, hrunning, hwhere⟩ := hI.entries e he
  refine ⟨hport, (hstays _ hrunning).running, hwhere.imp (hlisted _) ?_⟩
  intro hcall
  obtain ⟨c, hc, ht⟩ := hcall
  exact ⟨c, (hcalls c (by simp [ht])).mpr hc, ht⟩

lemma Inv.connect (hI : Inv h) (consolePort adbPort : ℤ) : Inv (h.connect consolePort adbPort) := by
  unfold Emulators.connect
  dsimp only
  split
  · exact hI
  refine hI.of_view (fun _ => rfl) (fun _ hl => hl) ?_ ?_
  · intro c hc
    constructor
    · intro hmem
      rcases mem_append.mp hmem with hmem | hnew
      · exact hmem
      · rw [mem_singleton.mp hnew] at hc
        exact absurd rfl hc
    · exact fun hmem => mem_append_left _ hmem
  · rw [pairwise_append]
    refine ⟨hI.distinct, pairwise_singleton _ _, ?_⟩
    intro c _ c' hc' t _
    rw [mem_singleton.mp hc']
    exact nofun

lemma leases_newTransport :
    ∃ k : Lease, k.refCount = 0 ∧ k.connection = {} ∧ k.tcp = true ∧
      (newTransport σ).leases = { σ.leases with transports := σ.leases.transports.alloc k } := by
  refine ⟨ATransport.lease
    { connectionState := .kCsOffline, type := .kTransportLocal, id := σ.nextTransportId },
    rfl, rfl, rfl, ?_⟩
  simp only [Server.leases, newTransport, Store.map_alloc]

lemma view_deleteTransport (σ : Server) (t : TPtr) :
    (deleteTransport σ.transports.next (newTransport σ)).leases.view t = σ.leases.view t := by
  by_cases ht : t = σ.transports.next
  · simp [Leases.view, Server.leases, deleteTransport, newTransport, ht]
  · simp [Leases.view, Server.leases, deleteTransport, newTransport, ht]

lemma Inv.init (hI : Inv h) (hcall : h.calls[i]? = some call) (hnone : call.transport = none) :
    Inv (h.init i call) := by
  have hmem (c : EmulatorCall) (hc : c.transport ≠ none) (hin : c ∈ h.calls) :
      c ∈ h.calls.eraseIdx i := by
    refine mem_eraseIdx hcall hin ?_
    intro heq
    rw [heq] at hc
    exact hc hnone
  have hdistinct := hI.distinct.sublist (eraseIdx_sublist h.calls i)
  unfold Emulators.init
  split
  · refine hI.of_view (view_deleteTransport h.server) (fun _ hl => hl) ?_ hdistinct
    intro c hc
    exact ⟨mem_of_mem_eraseIdx, hmem c hc⟩
  obtain ⟨k, hrefs, hc, htcp, hleases⟩ := leases_newTransport
  have hnext : h.server.leases.transports.next = h.server.transports.next := rfl
  have hraw : (newTransport h.server).leases.Raw h.server.transports.next := by
    rw [hleases]
    exact Leases.raw_alloc hI.leases htcp hc
  have hne (t : TPtr) (hrunning : h.server.leases.Running t) : t ≠ h.server.transports.next := by
    obtain ⟨k, hk, -⟩ := hrunning.lease
    have hlt := Store.lt_next hk
    rw [hnext] at hlt
    exact Nat.ne_of_lt hlt
  have hstays (t : TPtr) (hrunning : h.server.leases.Running t) :
      h.server.leases.Stays (newTransport h.server).leases t := by
    refine .of_view hrunning ?_ fun hl => hl
    rw [hleases]
    simp [Leases.view, hnext, hne t hrunning]
  refine ⟨?_, ?_, ?_, ?_⟩
  · rw [hleases]
    exact hI.leases.alloc hrefs hc
  · intro c hc t ht
    rcases mem_append.mp hc with hc | hc
    · have hraw := hI.calls c (mem_of_mem_eraseIdx hc) t ht
      exact hraw.of_stays (hstays t hraw.toRunning)
    rw [mem_singleton.mp hc] at ht
    cases ht
    exact hraw
  · rw [pairwise_append]
    refine ⟨hdistinct, pairwise_singleton _ _, ?_⟩
    intro c hc c' hc' t ht
    rw [mem_singleton.mp hc']
    intro heq
    have hraw := hI.calls c (mem_of_mem_eraseIdx hc) t ht
    exact hne t hraw.toRunning (Option.some.inj heq).symm
  · intro e he
    rcases mem_cons.mp he with rfl | he
    · exact ⟨.head _, hraw.toRunning, .inr ⟨_, mem_append_right _ (.head _), rfl⟩⟩
    obtain ⟨hport, hrunning, hwhere⟩ := hI.entries e he
    refine ⟨.tail _ hport, (hstays _ hrunning).running, hwhere.imp_right ?_⟩
    intro hcall'
    obtain ⟨c, hc, ht⟩ := hcall'
    exact ⟨c, mem_append_left _ (hmem c (by simp [ht]) hc), ht⟩

lemma leases_registerPending (htr : σ.transports.get t = some tr) (serial : Bytes) :
    (registerPending t tr serial σ).leases = σ.leases.pend t := by
  have hset : (σ.setTransport t { tr with serial := serial }).leases = σ.leases :=
    Server.leases_setTransport_same htr rfl
  rw [Leases.pend, ← hset]
  rfl

lemma Inv.other (hI : Inv h) (hcall : h.calls[i]? = some call) (ht : call.transport = some t)
    {c : EmulatorCall} (hc : c ∈ h.calls.eraseIdx i) : c.transport ≠ some t := by
  obtain ⟨j, hji, hj⟩ := mem_eraseIdx_iff_getElem?.mp hc
  obtain ⟨hi', hi⟩ := List.getElem?_eq_some_iff.mp hcall
  obtain ⟨hj', hj⟩ := List.getElem?_eq_some_iff.mp hj
  have hpair := pairwise_iff_getElem.mp hI.distinct
  rcases Nat.lt_or_gt_of_ne hji with hlt | hlt
  · have hne := hpair j i hj' hi' hlt
    rw [hi, hj] at hne
    intro hct
    exact hne t hct ht
  · have hne := hpair i j hi' hj' hlt
    rw [hi, hj] at hne
    exact hne t ht

lemma Inv.pending (hI : Inv h) (hcall : h.calls[i]? = some call) (ht : call.transport = some t)
    (htr : h.server.transports.get t = some tr) :
    Inv { h with
      server := registerPending t tr call.serial h.server
      calls := h.calls.eraseIdx i } := by
  have hraw := hI.calls call (mem_of_getElem? hcall) t ht
  have hleases := leases_registerPending htr call.serial
  refine ⟨?_, ?_, hI.distinct.sublist (eraseIdx_sublist _ _), ?_⟩
  · rw [hleases]
    exact hI.leases.pend hraw
  · intro c hc u hu
    have hut : u ≠ t := by
      intro heq
      rw [heq] at hu
      exact hI.other hcall ht hc hu
    rw [hleases]
    exact (hI.calls c (mem_of_mem_eraseIdx hc) u hu).pend hut
  · intro e he
    obtain ⟨hport, hrunning, hwhere⟩ := hI.entries e he
    rw [hleases]
    refine ⟨hport, hrunning.pend t, ?_⟩
    rcases hwhere with hlisted | ⟨c, hc, hct⟩
    · exact .inl (hlisted.imp_left (mem_cons_of_mem _))
    by_cases het : e.2 = t
    · exact .inl (.inl (by rw [het]; exact .head _))
    refine .inr ⟨c, mem_eraseIdx hcall hc ?_, hct⟩
    intro heq
    rw [heq, ht] at hct
    exact het (Option.some.inj hct).symm

/-! ## Runs -/

def serialIsNew (h : Emulators) : Move → Bool
  | .finish i => (h.calls[i]?).all fun call =>
    call.transport.isNone || !Server.knownSerial call.serial h.server
  | _ => true

lemma Inv.step {move : Move} (hI : Inv h) (hnew : h.serialIsNew move = true)
    (hstep : step cfg move h = .ok h') : Inv h' := by
  cases move with
  | turn turn =>
    obtain ⟨τ, hτ, hrun⟩ := bind_eq_ok.mp hstep
    cases hrun
    exact hI.turn hτ
  | connect consolePort adbPort =>
    cases hstep
    exact hI.connect consolePort adbPort
  | init i =>
    cases hcall : h.calls[i]? with
    | none =>
      simp only [Emulators.step, hcall] at hstep
      cases hstep
      exact hI
    | some call =>
      simp only [Emulators.step, hcall] at hstep
      cases hstep
      split
      · next hnone => exact hI.init hcall (Option.isNone_iff_eq_none.mp hnone)
      · exact hI
  | finish i =>
    cases hcall : h.calls[i]? with
    | none =>
      simp only [Emulators.step, hcall] at hstep
      cases hstep
      exact hI
    | some call =>
      simp only [Emulators.step, hcall] at hstep
      cases ht : call.transport with
      | none =>
        simp only [ht] at hstep
        cases hstep
        exact hI
      | some t =>
        simp only [ht] at hstep
        have hserial : Server.knownSerial call.serial h.server = false := by
          simpa [serialIsNew, hcall, ht] using hnew
        unfold Emulators.finish at hstep
        rw [if_neg (by rw [hserial]; exact Bool.false_ne_true)] at hstep
        obtain ⟨tr, htr, hrun⟩ := bind_eq_ok.mp hstep
        cases hrun
        exact hI.pending hcall ht (Server.transport_spec.of_ok htr)

def start (name : Bytes) : Emulators := { server := Server.init name }

lemma inv_start (name : Bytes) : Inv (start name) :=
  ⟨Server.leases_ok_init, nofun, .nil, nofun⟩

/-- In every run in which no call finds its serial on the lists, the table and the transports agree,
and a call that `init_socket_transport` refuses leaves the table and the lists as they were. -/
theorem emulators_agree (cfg : Config) (name : Bytes) (moves : List Move) (h : Emulators)
    (hC : Meets (step cfg) (fun h move => h.serialIsNew move = true) moves (start name))
    (hrun : runs (step cfg) moves (start name) = .ok h) :
    h.TableOk ∧ ∀ i call, h.refuses call.port = true →
      (h.init i call).localTransports = h.localTransports ∧
        (h.init i call).server.pendingList = h.server.pendingList ∧
        (h.init i call).server.transportList = h.server.transportList := by
  have hI : Inv h := runs_invariant (fun _ _ _ hI hnew hstep => hI.step hnew hstep) (inv_start name)
    hC hrun
  refine ⟨hI.tableOk, ?_⟩
  intro i call hrefuses
  rw [Emulators.init, if_pos hrefuses]
  exact ⟨rfl, rfl, rfl⟩

def twoEmulators : List Move :=
  [.connect 5554 5555, .init 0, .connect 5556 5557, .finish 0, .init 0, .finish 0,
    .turn (.main { callback := .registration }), .turn (.main { callback := .registration }),
    .turn (.read 0 none), .turn (.flush {})]

theorem emulators_agree_twoEmulators :
    ∃ h, runs (step .adb) twoEmulators (start []) = .ok h ∧ h.localTransports = [(5557, 1)] ∧
      h.TableOk := by
  have htest : returns (runs (step .adb) twoEmulators (start []))
      (fun h => h.localTransports = [(5557, 1)]) = true := by decide +kernel
  obtain ⟨h, hrun, hlocal⟩ := returns_iff.mp htest
  have hC : Meets (step .adb) (fun h move => h.serialIsNew move = true) twoEmulators (start []) := by
    decide +kernel
  exact ⟨h, hrun, of_decide_eq_true hlocal, (emulators_agree .adb [] _ h hC hrun).1⟩

/-- The same console port with another adb port, while the first registration is pending: the second
call fails with `EALREADY`, and the table keeps a transport that has been deleted. -/
theorem emulators_dangling :
    ∃ h, runs (step .adb) [.connect 5554 5555, .init 0, .finish 0, .connect 5554 5557, .init 0,
        .finish 0] (start []) = .ok h ∧
      (5557, 1) ∈ h.localTransports ∧ h.server.transports.get 1 = none ∧ ¬ h.TableOk := by
  have htest : returns (runs (step .adb) [.connect 5554 5555, .init 0, .finish 0,
      .connect 5554 5557, .init 0, .finish 0] (start []))
      (fun h => h.localTransports.contains (5557, 1) && h.server.transports.get 1 = none) = true := by
    decide +kernel
  obtain ⟨h, hrun, htest⟩ := returns_iff.mp htest
  simp only [Bool.and_eq_true, contains_iff_mem, decide_eq_true_eq] at htest
  refine ⟨h, hrun, htest.1, htest.2, ?_⟩
  intro hok
  obtain ⟨⟨tr, htr⟩, -⟩ := hok _ htest.1
  rw [htest.2] at htr
  cases htr

end Emulators

end Adb

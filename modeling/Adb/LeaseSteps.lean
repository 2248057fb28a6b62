import Adb.LeaseBooks
import Adb.LeaseFrames
import Adb.Threads

/-!
# A turn is a step of the leases

What the threads do with the transports in one turn is one step of `Leases.Step`
(`turnStep_leases`); `Turn.event` says which.
-/

namespace Adb

open Lib List

def Lease.begun (k : Lease) : Lease :=
  { k with refCount := k.refCount + 1, connection := { k.connection with started := true } }

namespace Server

variable {σ τ : Server} {cfg : Config} {t : TPtr} {tr : ATransport}

/-- There are no threads for an inaccessible device. -/
def noPerm (σ : Server) (t : TPtr) : Bool :=
  (σ.transports.get t).any fun tr => tr.connectionState = .kCsNoPerm

def registrationEvent (σ : Server) : Leases.Event :=
  match σ.registration with
  | [] => .other
  | .remove t :: _ => .remove t
  | .register t :: _ => if σ.noPerm t then .other else .start t

/-- The transport whose connection is started in a callback, or gives its reference back in
`transport_unref`, or that is deleted. -/
def Callback.passes (c : Callback) (σ : Server) : Leases.Event :=
  match c with
  | .error t => .unref t
  | .registration => registrationEvent σ
  | _ => .other

def Turn.event (turn : Turn) (σ : Server) : Leases.Event :=
  match turn.input σ with
  | none => .other
  | some i => i.callback.passes σ

/-! ## The functions that pass a transport on -/

lemma onSockets_leases {f : Store ATransport → Sockets → Res Sockets} :
    Sat (onSockets f σ) (fun τ => τ.leases = σ.leases) fun _ => True :=
  (Sat.any _).bind fun _ _ => rfl

lemma updateTransports_leases :
    Sat (updateTransports cfg σ) (fun τ => τ.leases = σ.leases) fun _ => True :=
  .ite (fun _ => onSockets_leases) fun _ => rfl

lemma sendConnect_leases :
    Sat (sendConnect cfg t σ) (fun τ => τ.leases = σ.leases) fun _ => True := by
  exact (Sat.any _).bind fun _ _ => .ite (fun _ => trivial) fun _ => onSockets_leases

lemma transportUnref_leases (htr : σ.transports.get t = some tr) :
    Sat (transportUnref cfg t σ)
      (fun τ => tr.refCount ≠ 0 ∧ τ.leases = σ.leases.unref cfg.host t tr.lease)
      fun _ => True := by
  unfold transportUnref
  rw [transport_eq htr, ok_bind]
  by_cases hzero : tr.refCount = 0
  · simp [hzero, Sat]
  rw [show (tr.refCount != 0) = true by simpa using hzero, check_true, ok_bind]
  have hset := leases_setTransport σ t { tr with refCount := tr.refCount - 1 }
  refine .ite (fun hlast => ?_) fun hlast => ?_
  · refine connectionStop_leases.bind fun τ hτ => ?_
    rw [hset] at hτ
    have hidle : tr.lease.refCount - 1 = 0 := hlast
    refine .ite (fun hwait => ⟨hzero, ?_⟩) fun hwait => ⟨hzero, ?_⟩
    · have hwait : (cfg.host && tr.lease.tcp && !tr.lease.kicked) = true := hwait
      simp only [Leases.unref, if_pos hidle, if_pos hwait]
      exact congrArg (Leases.track · ⟨t, 6⟩) hτ
    · have hwait : ¬ (cfg.host && tr.lease.tcp && !tr.lease.kicked) = true := hwait
      simp only [Leases.unref, if_pos hidle, if_neg hwait]
      exact congrArg (Leases.post · (.remove t)) hτ
  · have hmore : ¬ tr.lease.refCount - 1 = 0 := hlast
    refine ⟨hzero, ?_⟩
    simp only [Leases.unref, if_neg hmore]
    exact hset

private lemma unref_set {L : Leases} {host : Bool} {k k' : Lease} :
    (L.set t k').unref host t k = L.unref host t k := by
  have hset : (L.set t k').set t { k with refCount := k.refCount - 1 } =
      L.set t { k with refCount := k.refCount - 1 } := by
    simp [Leases.set]
  simp only [Leases.unref, hset]

lemma errorCallback_leases :
    Sat (errorCallback cfg t σ) (fun τ => ∃ k k', σ.leases.transports.get t = some k ∧
      (k' = k ∨ k' = { k with noPerm := false }) ∧ k.refCount ≠ 0 ∧
      τ.leases = σ.leases.unref cfg.host t k') fun _ => True := by
  refine (handleOffline_leases t σ).bind ?_
  rintro σ1 ⟨k, hk, hσ1⟩
  cases htr : σ1.transports.get t with
  | none =>
    rw [transportUnref, transport_none htr]
    trivial
  | some tr =>
    refine (transportUnref_leases htr).imp ?_
    rintro τ ⟨hrefs, hτ⟩
    have hlease := get_leases htr
    rcases hσ1 with hσ1 | hσ1
    · rw [hσ1, hk, Option.some.injEq] at hlease
      rw [hσ1, ← hlease] at hτ
      exact ⟨k, k, hk, .inl rfl, hlease ▸ hrefs, hτ⟩
    rw [hσ1, Leases.set, Store.get_set_self hk, Option.some.injEq] at hlease
    rw [hσ1, ← hlease, unref_set] at hτ
    refine ⟨k, _, hk, .inr rfl, ?_, hτ⟩
    have hsame : tr.refCount = k.refCount := congrArg (·.refCount) hlease.symm
    rw [← hsame]
    exact hrefs

lemma connectionStart_leases (htr : σ.transports.get t = some tr) :
    Sat (connectionStart t σ) (fun τ => tr.connection.started = false ∧ τ.leases = σ.leases.set t
        { tr.lease with connection := { tr.connection with started := true } }) fun _ => True := by
  unfold connectionStart
  rw [transport_eq htr, ok_bind]
  refine .ite (fun _ => trivial) fun hnew => ⟨Bool.not_eq_true _ ▸ hnew, ?_⟩
  exact leases_setTransport σ t _

/-- `transport_registration_func` starts the connection of `t`, unless `t` is inaccessible. -/
inductive Starts (t : TPtr) (L : Leases) : Leases → Prop
  | start {k} (hk : L.transports.get t = some k) (hperm : k.noPerm = false)
      (hnew : k.connection.started = false) : Starts t L (L.set t k.begun)
  | pass {k} (hk : L.transports.get t = some k) (hperm : k.noPerm = true) : Starts t L L

lemma startTransport_leases :
    Sat (startTransport cfg t σ) (fun τ => Starts t σ.leases τ.leases) fun _ => True := by
  refine (transport_spec.mono (fun _ h => h) fun _ _ => trivial).bind fun tr htr => ?_
  have hlease := get_leases htr
  refine .ite (fun hperm => ?_) fun hperm => ?_
  swap
  · exact .pass hlease (decide_eq_true (not_not.mp hperm))
  let more : ATransport := { tr with refCount := tr.refCount + 1 }
  have hget : (σ.setTransport t more).transports.get t = some more := get_setTransport_self htr more
  refine Sat.bind (Q := fun τ => Starts t σ.leases τ.leases)
    ((connectionStart_leases hget).imp ?_) fun τ hτ => ?_
  · rintro τ ⟨hnew, hτ⟩
    have hbegun : τ.leases = σ.leases.set t tr.lease.begun := by
      rw [hτ, leases_setTransport]
      simp only [Leases.set, Store.set_set]
      rfl
    rw [hbegun]
    exact .start hlease (decide_eq_false hperm) hnew
  · refine .ite (fun _ => sendConnect_leases.imp fun ρ hρ => ?_) fun _ => hτ
    rw [hρ]
    exact hτ

lemma registerTransport_leases :
    Sat (registerTransport cfg t σ) (fun τ => ∃ M, Starts t σ.leases M ∧ τ.leases = M.enlist t)
      fun _ => True := by
  refine startTransport_leases.bind fun τ hτ => ?_
  have hlists (ρ : Server) (hρ : ρ.leases = τ.leases.enlist t) :
      Sat (updateTransports cfg ρ) (fun π => ∃ M, Starts t σ.leases M ∧ π.leases = M.enlist t)
        fun _ => True := by
    refine updateTransports_leases.imp fun π hπ => ?_
    rw [hπ, hρ]
    exact ⟨_, hτ, rfl⟩
  split
  · next hmem => exact hlists _ (if_pos hmem).symm
  · next hmem => exact hlists τ (if_neg hmem).symm

lemma removeTransport_leases :
    Sat (removeTransport cfg t σ) (fun τ => τ.leases = (σ.leases.stop t).drop t) fun _ => True := by
  refine connectionStop_leases.bind fun τ hτ => ?_
  refine updateTransports_leases.imp fun ρ hρ => ?_
  have hτ : τ.leases = (σ.leases.stop t).unlist t := hτ.trans (σ.leases.unlist_stop t t)
  have hdrop : leases ({ τ with transports := τ.transports.free t }.emit (.deleted t)) =
      { τ.leases with transports := τ.leases.transports.free t } := by
    simp [leases, emit, Store.map_free]
  rw [hρ, hdrop, hτ]
  rfl

/-! ## The reconnect thread -/

lemma removeKicked_leases {queue : List ReconnectAttempt} :
    Sat (removeKicked queue σ)
      (fun (kept, τ) => kept = queue.filter (fun a => !σ.leases.kickedAt a.transport) ∧ τ = { σ with
          registration := σ.registration ++ (queue.filter fun a =>
            σ.leases.kickedAt a.transport).map fun a => .remove a.transport })
      fun _ => True := by
  induction queue generalizing σ with
  | nil => exact ⟨rfl, by simp⟩
  | cons a rest ih =>
    refine (transport_spec.mono (fun _ h => h) fun _ _ => trivial).bind fun tr htr => ?_
    have hkicked : σ.leases.kickedAt a.transport = tr.kicked := by
      simp only [Leases.kickedAt, get_leases htr]
      rfl
    refine .ite (fun hk => ?_) fun hk => ?_
    · refine ih.imp ?_
      rintro ⟨kept, τ⟩ ⟨hkept, hτ⟩
      refine ⟨?_, ?_⟩
      · rw [filter_cons_of_neg (by simp [hkicked, hk])]
        exact hkept
      rw [filter_cons_of_pos (by exact hkicked.trans hk), hτ]
      simp only [append_assoc, map_cons, singleton_append]
      rfl
    · refine ih.bind ?_
      rintro ⟨kept, τ⟩ ⟨hkept, hτ⟩
      refine ⟨?_, ?_⟩
      · rw [filter_cons_of_pos (by simp [hkicked, hk]), hkept]
      · rw [filter_cons_of_neg (by simp [hkicked, hk])]
        exact hτ

lemma reconnectScan_leases {due : Option ℕ} :
    Sat (reconnectScan due σ) (fun τ => Leases.Step cfg.host .other σ.leases τ.leases)
      fun _ => True := by
  unfold reconnectScan
  cases hidle : σ.reconnecting with
  | some a => exact .serve .refl
  | none =>
    refine removeKicked_leases.bind ?_
    rintro ⟨kept, τ⟩ ⟨hkept, hτ⟩
    have hidle : σ.leases.reconnecting = none := hidle
    cases due with
    | none =>
      have hscan : leases { τ with reconnectQueue := kept } = σ.leases.sweep := by
        rw [hkept, hτ]
        rfl
      show Leases.Step _ _ _ (leases { τ with reconnectQueue := kept })
      rw [hscan]
      exact .scan hidle
    | some i =>
      have htaken : leases
          { τ with reconnectQueue := kept.eraseIdx i, reconnecting := kept[i]? } =
          { σ.leases.sweep with
            reconnectQueue := σ.leases.sweep.reconnectQueue.eraseIdx i
            reconnecting := σ.leases.sweep.reconnectQueue[i]? } := by
        rw [hkept, hτ]
        rfl
      show Leases.Step _ _ _ (leases
        { τ with reconnectQueue := kept.eraseIdx i, reconnecting := kept[i]? })
      rw [htaken]
      exact .attempt i hidle

lemma reconnectResult_leases (r : ReconnectResult) :
    Sat (reconnectResult r σ) (fun τ => Leases.Step cfg.host .other σ.leases τ.leases)
      fun _ => True := by
  unfold reconnectResult
  cases ha : σ.reconnecting with
  | none => exact .serve .refl
  | some a =>
    have ha : σ.leases.reconnecting = some a := ha
    cases r with
    | retry => exact .ite (fun _ => .giveUp ha) fun _ => .retry ha
    | abort => exact .giveUp ha
    | success =>
      refine (transport_spec.mono (fun _ h => h) fun _ _ => trivial).bind fun tr htr => ?_
      have htr : σ.transports.get a.transport = some tr := htr
      have hnew := leases_setTransport { σ with reconnecting := none } a.transport
        { tr with connection := {} }
      have hstep : Leases.Step cfg.host .other σ.leases
          ((leases (setTransport { σ with reconnecting := none } a.transport
            { tr with connection := {} })).post (.register a.transport)) := by
        rw [hnew]
        exact .success ha (get_leases htr)
      exact hstep

/-! ## Callbacks and turns -/

lemma serve_of_keeps {x : Res Server} (h : Keeps σ id x) :
    Sat x (fun τ => Leases.Step cfg.host .other σ.leases τ.leases) fun _ => True :=
  h.imp fun _ hs => .serve hs

lemma transportRegistrationFunc_leases :
    Sat (transportRegistrationFunc cfg σ)
      (fun τ => Leases.Step cfg.host (registrationEvent σ) σ.leases τ.leases) fun _ => True := by
  unfold transportRegistrationFunc registrationEvent
  cases hmsg : σ.registration with
  | nil => exact .serve .refl
  | cons m rest =>
    have hmsg : σ.leases.registration = m :: rest := hmsg
    cases m with
    | remove t =>
      refine removeTransport_leases.imp fun τ hτ => ?_
      rw [hτ]
      exact .remove hmsg
    | register t =>
      refine registerTransport_leases.imp fun τ hτ => ?_
      obtain ⟨M, hstarts, hτ⟩ := hτ
      have hperm {k : Lease} (hk : σ.leases.transports.get t = some k) : σ.noPerm t = k.noPerm := by
        cases htr : σ.transports.get t with
        | none => simp [leases, htr] at hk
        | some tr =>
          rw [get_leases htr, Option.some.injEq] at hk
          simp only [noPerm, htr, Option.any_some, ← hk]
          rfl
      rw [hτ]
      cases hstarts with
      | start hk hp hnew =>
        dsimp only
        rw [hperm hk, hp]
        exact .start hmsg hk hnew hp
      | pass hk hp =>
        dsimp only
        rw [hperm hk, hp]
        exact .pass hmsg hk hp

lemma callback_leases {c : Callback} (hc : c.queued = false) :
    Sat (callback cfg c σ) (fun τ => Leases.Step cfg.host (c.passes σ) σ.leases τ.leases)
      fun _ => True := by
  cases c with
  | packet | error => cases hc
  | registration => exact transportRegistrationFunc_leases
  | poll => exact .serve .refl
  | event => exact serve_of_keeps fdeventCallFdfunc_keeps
  | accept l => exact serve_of_keeps listenerEvent_keeps
  | frameworkConnect => exact serve_of_keeps (.ite (.same rfl) adbdAuthListener_keeps)
  | frameworkReply response => exact serve_of_keeps (.ite (.same rfl) adbdAuthEvent_keeps)
  | usbDevice serial devpath writeable => exact .serve registerUsbTransport_serves
  | usbGone t => exact .serve unregisterUsbTransport_serves
  | tcpDevice serial => exact .serve registerSocketTransport_serves
  | kick t => exact serve_of_keeps kickTransport_keeps
  | reconnectScan due => exact .ite (fun _ => reconnectScan_leases) fun _ => .serve .refl
  | reconnectResult r => exact .ite (fun _ => reconnectResult_leases r) fun _ => .serve .refl

private lemma flush_leases (os : Os) {f : RunFn} {rest : List RunFn} (hq : σ.runQueue = f :: rest) :
    Sat (callback cfg f.callback { σ with runQueue := rest, socks := { σ.socks with os := os } })
      (fun τ => Leases.Step cfg.host (f.callback.passes σ) σ.leases τ.leases) fun _ => True := by
  have hq : σ.leases.runQueue = f :: rest := hq
  cases f with
  | packet t p => exact handlePacket_keeps.imp fun τ hτ => .handle rest hq hτ
  | error t =>
    refine errorCallback_leases.imp ?_
    rintro τ ⟨k, k', hk, hk', hrefs, hτ⟩
    rw [hτ]
    exact .unref hq hk hk' hrefs

private lemma readTurn_leases {r : Option APacket} :
    Leases.Step cfg.host .other σ.leases (readTurn t r σ).leases := by
  unfold readTurn
  split
  · exact .serve .refl
  next tr htr =>
  have hlease := get_leases htr
  split
  · next hreading =>
    cases r with
    | some p =>
      dsimp only [readCallback]
      cases checkHeader p tr with
      | true => exact .read hlease hreading
      | false =>
        have hnothing : leases { σ with runQueue := σ.runQueue ++ [] } = σ.leases := by
          simp [leases]
        exact hnothing.symm ▸ .serve .refl
    | none =>
      have hrunning : tr.connection.started = true ∧ tr.connection.stopped = false := by
        simp only [Connection.reading, Bool.and_eq_true, Bool.not_eq_true'] at hreading
        exact ⟨hreading.1.1, hreading.1.2⟩
      rw [callErrorOnce, leases_callOnce _ _ _ _ _ rfl]
      exact .fail hlease hrunning.1 hrunning.2 (.inr rfl)
  · exact .serve .refl

private lemma writeFailedTurn_leases :
    Leases.Step cfg.host .other σ.leases (writeFailedTurn t σ).leases := by
  unfold writeFailedTurn
  split
  · exact .serve .refl
  next tr htr =>
  split
  · next hrunning =>
    simp only [Bool.and_eq_true, Bool.not_eq_true'] at hrunning
    rw [callErrorOnce, leases_callOnce _ _ _ _ _ rfl]
    exact .fail (get_leases htr) hrunning.1 hrunning.2 (.inl rfl)
  · exact .serve .refl

lemma turnStep_leases (turn : Turn) :
    Sat (turnStep cfg turn σ)
      (fun τ => Leases.Step cfg.host (turn.event σ) σ.leases τ.leases) fun _ => True := by
  unfold turnStep Turn.event
  cases turn with
  | main i =>
    cases hc : i.callback.queued with
    | true =>
      rw [show Turn.input (.main i) σ = none by simp [Turn.input, hc]]
      exact .serve .refl
    | false =>
      rw [show Turn.input (.main i) σ = some i by simp [Turn.input, hc]]
      refine .ite (fun hwait => ?_) fun _ => callback_leases hc
      have hother : i.callback.passes σ = .other := by
        cases hi : i.callback with
        | registration => simp [hi, Callback.waits] at hwait
        | error => simp [hi, Callback.queued] at hc
        | _ => rfl
      dsimp only
      rw [hother]
      exact .serve .refl
  | flush os =>
    cases hpending : σ.socks.gPendingList.isEmpty with
    | false =>
      rw [show Turn.input (.flush os) σ = none by simp [Turn.input, hpending],
        show Turn.prepare (.flush os) σ = σ by simp [Turn.prepare, hpending]]
      exact .serve .refl
    | true =>
      rw [show Turn.prepare (.flush os) σ = { σ with runQueue := σ.runQueue.tail } by
        simp [Turn.prepare, hpending]]
      cases hq : σ.runQueue with
      | nil =>
        rw [show Turn.input (.flush os) σ = none by simp [Turn.input, hpending, hq]]
        have hnothing : leases { σ with runQueue := [] } = σ.leases := by simp [leases, hq]
        exact hnothing.symm ▸ .serve .refl
      | cons f rest =>
        rw [show Turn.input (.flush os) σ = some ⟨f.callback, os⟩ by
          simp [Turn.input, hpending, hq]]
        refine .ite (fun hwait => ?_) fun _ => flush_leases os hq
        simp [hpending] at hwait
  | read t r => exact readTurn_leases
  | writeFailed t => exact writeFailedTurn_leases

end Server

end Adb

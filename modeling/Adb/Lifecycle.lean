import Adb.Finality
import Adb.Handshake
import Adb.LeaseSteps

/-!
# The life cycle of a transport

Along every run of the threads, every connection that is started gives its reference back once, and
a transport is deleted once (`lifecycle`). One that is kicked is not started again if nobody is
about to do so when it is kicked (`disconnect_final`).
-/

namespace Adb

open Lib List Store

namespace Server

variable {σ τ : Server} {cfg : Config} {t : TPtr} {tr : ATransport} {turn : Turn} {i : Input}

/-! ## Runs of the threads -/

lemma leases_ok_init {name : Bytes} : (init name).leases.Ok := by
  intro t
  simp [Leases.view, leases, init, Leases.View.Ok, Leases.View.tokens]

def Turn.note (turn : Turn) (σ : Server) (b : TPtr → Leases.Book) (t : TPtr) : Leases.Book :=
  (turn.event σ).note t (b t)

def books (cfg : Config) (turns : List Turn) (σ : Server) : TPtr → Leases.Book :=
  ledger (turnStep cfg) Turn.note turns σ fun _ => {}

lemma booked_init (name : Bytes) : (init name).leases.Booked fun _ => {} where
  books t := by
    constructor
    · simp [Leases.View.refs, Leases.view, leases, init]
    · simp
    · simp
    · simp
  fresh _ _ := rfl

lemma turnStep_step (hstep : turnStep cfg turn σ = .ok τ) :
    Leases.Step cfg.host (turn.event σ) σ.leases τ.leases := (turnStep_leases turn).of_ok hstep

lemma books_ok {name : Bytes} {turns : List Turn}
    (hrun : runs (turnStep cfg) turns (init name) = .ok σ) :
    σ.Sound ∧ σ.leases.Ok ∧ σ.leases.Booked (books cfg turns (init name)) := by
  refine runs_ledger (J := fun σ b => σ.Sound ∧ σ.leases.Ok ∧ σ.leases.Booked b)
    (fun σ b turn τ h hτ => ?_) ⟨sound_init name, leases_ok_init, booked_init name⟩ hrun
  obtain ⟨hσ, hok, hbooked⟩ := h
  have hstep := turnStep_step hτ
  exact ⟨turnStep_sound hσ hτ, hok.step hstep, hbooked.step hok hstep⟩

/-- Where the callback of a turn comes from. -/
inductive InputOf (σ : Server) : Turn → Input → Prop
  | main {i : Input} (hc : i.callback.queued = false) : InputOf σ (.main i) i
  | flush {os : Os} (f : RunFn) (rest : List RunFn) (hq : σ.runQueue = f :: rest) :
      InputOf σ (.flush os) ⟨f.callback, os⟩

lemma inputOf (h : turn.input σ = some i) :
    InputOf σ turn i ∧ (turn.prepare σ).transports = σ.transports ∧
      (turn.prepare σ).registration = σ.registration := by
  cases turn with
  | main j =>
    cases hc : j.callback.queued with
    | true => simp [Turn.input, hc] at h
    | false =>
      simp only [Turn.input, hc, Bool.false_eq_true, if_false, Option.some.injEq] at h
      subst h
      exact ⟨.main hc, rfl, rfl⟩
  | flush os =>
    cases hpending : σ.socks.gPendingList.isEmpty with
    | false => simp [Turn.input, hpending] at h
    | true =>
      cases hq : σ.runQueue with
      | nil => simp [Turn.input, hpending, hq] at h
      | cons f rest =>
        simp only [Turn.input, hpending, hq, if_true, List.head?_cons, Option.map_some,
          Option.some.injEq] at h
        subst h
        simp only [Turn.prepare, hpending, if_true]
        exact ⟨.flush f rest hq, trivial, trivial⟩
  | read | writeFailed => cases h

lemma InputOf.mem_runQueue {f : RunFn} (h : InputOf σ turn i) (hi : i.callback = f.callback) :
    f ∈ σ.runQueue := by
  cases h with
  | main hc =>
    rw [hi] at hc
    cases f with
    | packet | error => cases hc
  | flush g rest hq =>
    have hfg : g = f := by
      cases g with
      | packet =>
        cases f with
        | packet =>
          cases hi
          rfl
        | error => cases hi
      | error =>
        cases f with
        | packet => cases hi
        | error =>
          cases hi
          rfl
    rw [hq, hfg]
    exact mem_cons_self

/-! ## The life cycle -/

/-- How many places there are where `t` waits for somebody: the queue of the reconnect handler, the
attempt that is being made, and the messages to `transport_registration_func`. -/
def places (σ : Server) (t : TPtr) : ℕ :=
  σ.reconnectQueue.countP (·.transport = t) + σ.reconnecting.toList.countP (·.transport = t) +
    σ.registration.count (.register t) + σ.registration.count (.remove t)

/-- The life of a transport so far, by its book. -/
structure Lived (σ : Server) (t : TPtr) (b : Leases.Book) : Prop where
  /-- every connection that has been started has given its reference back once, but for the one
  that has it now -/
  starts : b.starts = b.unrefs + σ.refs t
  refs : σ.refs t ≤ 1
  /-- which it will give back in the one error callback that is queued when it ends -/
  callbacks : ∀ tr, σ.transports.get t = some tr →
    σ.runQueue.count (.error t) = if tr.refCount = 1 ∧ tr.connection.errorFlag = true then 1 else 0
  owner : b.starts ≠ 0 → ∀ tr, σ.transports.get t = some tr → tr.refCount = 0 → σ.places t = 1
  removals : b.removals + σ.registration.count (.remove t) ≤ 1

lemma refs_leases : (σ.leases.view t).refs = σ.refs t := by
  simp only [Leases.View.refs, Leases.view, leases, refs, get_map, Option.map_map]
  rfl

lemma tokens_leases : (σ.leases.view t).tokens = σ.places t := by
  simp only [Leases.View.tokens, Leases.view, leases, places]
  omega

lemma refs_le_one (h : σ.leases.Ok) : σ.refs t ≤ 1 := by
  cases htr : σ.transports.get t with
  | none => simp [refs, htr]
  | some tr =>
    have hone := (h.owned (get_leases htr)).one
    have hrefs : tr.lease.refCount = σ.refs t := by simp [refs, htr, ATransport.lease]
    omega

variable {b : TPtr → Leases.Book}

lemma removals_le_one (hok : σ.leases.Ok) (h : σ.leases.Booked b) :
    (b t).removals + σ.registration.count (.remove t) ≤ 1 := by
  have hbook := h.books t
  have hle : σ.registration.count (.remove t) ≤ σ.places t := by
    unfold places
    omega
  have honce := hbook.once
  rw [← tokens_leases] at hle
  by_cases hb : (b t).removals = 0
  · cases htr : σ.leases.transports.get t with
    | none =>
      have hgone := (hok.gone htr).1
      omega
    | some k =>
      have hone := (hok.owned htr).one
      omega
  · have hgone := (hok.gone (hbook.removed hb)).1
    omega

lemma lived (hok : σ.leases.Ok) (h : σ.leases.Booked b) (t : TPtr) :
    Lived σ t (b t) where
  starts := by
    rw [← refs_leases]
    exact (h.books t).starts
  refs := refs_le_one hok
  callbacks tr htr := (hok.owned (get_leases htr)).errors
  owner hb tr htr hrefs := by
    have hone := ((h.books t).began hb _ (get_leases htr)).2
    have hzero : tr.lease.refCount = 0 := hrefs
    rw [tokens_leases] at hone
    omega
  removals := removals_le_one hok h

lemma halt_of_turn {e : Halt} (hσ : σ.Sound) (hok : σ.leases.Ok)
    (he : turnStep cfg turn σ = .error e) : e ≠ .check .refCount ∧ e ≠ .fatal .startedTwice := by
  obtain ⟨i, hinput, hhalt⟩ := turnStep_halt hσ he
  obtain ⟨hof, htransports, hregistration⟩ := inputOf hinput
  constructor
  · rintro rfl
    obtain ⟨u, hi, hrefs⟩ : i.callback.UnrefsTooOften ((turn.prepare σ).withOs i.os) := by
      simpa [CallbackHalt, Halt.Excused] using hhalt
    have hmem : RunFn.error u ∈ σ.runQueue := hof.mem_runQueue hi
    have hcount : σ.runQueue.count (.error u) ≠ 0 := Nat.ne_of_gt (count_pos_iff.mpr hmem)
    have hrefs : σ.refs u = 0 := by
      simp only [refs, withOs, htransports] at hrefs ⊢
      exact hrefs
    cases htr : σ.transports.get u with
    | none =>
      have hgone : σ.leases.transports.get u = none := by simp [leases, htr]
      exact hcount (hok.gone hgone).2
    | some tr =>
      have herrors := (hok.owned (get_leases htr)).errors
      have hzero : tr.refCount = 0 := by simpa [refs, htr] using hrefs
      rw [show tr.lease.refCount = 0 from hzero] at herrors
      exact hcount (herrors.trans (by simp))
  · rintro rfl
    obtain ⟨u, rest, tr, -, hmsg, htr, hstarted⟩ :
        i.callback.StartsTwice ((turn.prepare σ).withOs i.os) := by
      simpa [CallbackHalt, Halt.Excused] using hhalt
    have hmsg : σ.registration = .register u :: rest := hregistration ▸ hmsg
    have htr : σ.transports.get u = some tr := htransports ▸ htr
    have hnew := (hok.owned (get_leases htr)).registered (by simp [Leases.view, leases, hmsg])
    rw [show tr.lease.connection = tr.connection from rfl, hstarted] at hnew
    cases hnew

lemma starts_of_doomed {more : List Turn} {n : ℕ} (h : σ.leases.Doomed t) (hb : (b t).starts = n)
    (hrun : runs (turnStep cfg) more σ = .ok τ) :
    (ledger (turnStep cfg) Turn.note more σ b t).starts = n := by
  refine (runs_ledger (J := fun σ (b : TPtr → Leases.Book) => σ.leases.Doomed t ∧ (b t).starts = n)
    (fun σ b turn τ hJ hτ => ?_) ⟨h, hb⟩ hrun).2
  obtain ⟨hevent, hdoomed⟩ := hJ.1.step (turnStep_step hτ)
  refine ⟨hdoomed, ?_⟩
  rw [← hJ.2, Turn.note]
  cases he : turn.event σ with
  | start u =>
    have hne : u ≠ t := fun hut => hevent (he.trans (hut ▸ rfl))
    simp only [Leases.Event.note, if_neg hne]
  | unref u =>
    simp only [Leases.Event.note]
    split
    · rfl
    · rfl
  | remove u =>
    simp only [Leases.Event.note]
    split
    · rfl
    · rfl
  | other => rfl

/-- The life cycle of the transports, in every run of the threads: every connection that is started
gives its reference back once; a transport without a reference that has been started is in one
place; its removal is asked for once, and nothing of it is started after that; and the assertions
about this never fail. -/
theorem lifecycle {name : Bytes} {turns : List Turn}
    (hrun : runs (turnStep cfg) turns (init name) = .ok σ) :
    (∀ t, Lived σ t (books cfg turns (init name) t)) ∧
      (∀ t more τ, (books cfg turns (init name) t).removals ≠ 0 ∨ .remove t ∈ σ.registration →
        runs (turnStep cfg) more σ = .ok τ →
        (books cfg (turns ++ more) (init name) t).starts = (books cfg turns (init name) t).starts) ∧
      ∀ turn e, turnStep cfg turn σ = .error e →
        e ≠ .check .refCount ∧ e ≠ .fatal .startedTwice := by
  obtain ⟨hσ, hok, hbooked⟩ := books_ok hrun
  refine ⟨lived hok hbooked, fun t more τ hissued hmore => ?_, fun turn e => halt_of_turn hσ hok⟩
  have hdoomed : σ.leases.Doomed t := by
    rcases hissued with hb | hmsg
    · exact hbooked.doomed hok hb
    · exact hok.doomed hmsg
  rw [books, ledger_append hrun]
  exact starts_of_doomed hdoomed rfl hmore

def lostAndKicked : List Turn :=
  lostConnection [] ++ foundAgain ++ [.main { callback := .kick 0 }, .writeFailed 0, .flush {}]

theorem lifecycle_lostAndKicked :
    ∃ σ, runs (turnStep Config.adb) lostAndKicked (init []) = .ok σ ∧
      (books Config.adb lostAndKicked (init []) 0).starts = 2 ∧
      .remove 0 ∈ σ.registration ∧
      Lived σ 0 (books Config.adb lostAndKicked (init []) 0) := by
  have htest : returns (runs (turnStep Config.adb) lostAndKicked (init []))
      (fun σ => σ.registration.contains (.remove 0)) = true := by decide
  obtain ⟨σ, hrun, hmsg⟩ := returns_iff.mp htest
  exact ⟨σ, hrun, by decide, by simpa using hmsg, (lifecycle hrun).1 0⟩

/-! ## Kicked transports -/

def kickedAt (σ : Server) (t : TPtr) : Bool := (σ.transports.get t).any (·.kicked)

def kicks (cfg : Config) (turn : Turn) (σ : Server) : List TPtr :=
  match turnStep cfg turn σ with
  | .ok τ => (List.range τ.transports.next).filter fun t => τ.kickedAt t && !σ.kickedAt t
  | .error _ => []

/-- `t` is not being reconnected, no registration message waits for it, and no `A_CNXN` of it is
queued. -/
def atRest (σ : Server) (t : TPtr) : Bool :=
  decide (t < σ.transports.next) && !σ.registration.contains (.register t) &&
    !σ.reconnecting.any (·.transport = t) && !σ.runQueue.any (RunFn.connects t)

def kicksAtRest (cfg : Config) (σ : Server) (turn : Turn) : Bool :=
  (kicks cfg turn σ).all (atRest σ)

/-- The turn does not call `Start` on a connection of `t`, and does not make it online. -/
structure StaysDown (turn : Turn) (σ τ : Server) (t : TPtr) : Prop where
  event : turn.event σ ≠ .start t
  started : ∀ tr tr', σ.transports.get t = some tr → τ.transports.get t = some tr' →
    tr'.connection.started = true → tr.connection.started = true
  online : ∀ tr tr', σ.transports.get t = some tr → τ.transports.get t = some tr' →
    tr'.online = true → tr.online = true

lemma kickedAt_leases : σ.leases.kickedAt t = σ.kickedAt t := by
  simp only [Leases.kickedAt, leases, kickedAt, get_map, Option.any_map]
  rfl

lemma settled_of_atRest (h : σ.atRest t = true) : σ.leases.Settled t := by
  simp only [atRest, Bool.and_eq_true, Bool.not_eq_true', decide_eq_true_eq] at h
  obtain ⟨⟨⟨hlt, hreg⟩, htry⟩, hqueue⟩ := h
  refine ⟨by simpa [leases] using hlt, ?_, ?_, fun p hp hcnxn => ?_⟩
  · have hnot : TMsg.register t ∉ σ.registration := by simpa using hreg
    exact count_eq_zero.mpr hnot
  · cases ha : σ.reconnecting with
    | none => simp [Leases.view, leases, ha]
    | some a => simpa [Leases.view, leases, ha] using htry
  have hconnects : σ.runQueue.any (RunFn.connects t) = true :=
    any_eq_true.mpr ⟨_, hp, by simp [RunFn.connects, hcnxn]⟩
  rw [hqueue] at hconnects
  cases hconnects

lemma kickedAt_of_kicks (hstep : turnStep cfg turn σ = .ok τ)
    (hC : kicksAtRest cfg σ turn = true) (hafter : τ.leases.kickedAt t = true)
    (hbefore : σ.leases.kickedAt t = false) : σ.leases.Settled t := by
  rw [kickedAt_leases] at hafter hbefore
  have hlt : t < τ.transports.next := by
    obtain ⟨tr, htr, -⟩ := (Option.any_eq_true _ _).mp hafter
    exact lt_next htr
  have hmem : t ∈ kicks cfg turn σ := by
    simp only [kicks, hstep, mem_filter, mem_range, hafter, hbefore]
    exact ⟨hlt, rfl⟩
  exact settled_of_atRest (all_eq_true.mp hC t hmem)

variable {l : List Sockets.Act} {tr' : ATransport}

lemma Ordinary.was_online (h : Ordinary l σ τ)
    (htr' : τ.transports.get t = some tr') (hon : tr'.online = true) :
    ∃ tr, σ.transports.get t = some tr ∧ tr.online = true := by
  rcases h.transports t tr' htr' with ⟨tr, htr, hal⟩ | ⟨-, hnew⟩
  · exact ⟨tr, htr, hal.online ▸ hon⟩
  · rw [hnew.online] at hon
    cases hon

lemma Moves.was_online {c : Callback} (h : Moves cfg c σ l τ) (hhost : cfg.host = true)
    (hc : ¬ c.Connects t) (htr' : τ.transports.get t = some tr') (hon : tr'.online = true) :
    ∃ tr, σ.transports.get t = some tr ∧ tr.online = true := by
  rcases h.change htr' with ⟨tr, htr, hchange⟩ | ⟨-, -, hnew⟩
  · refine ⟨tr, htr, ?_⟩
    cases hchange with
    | same _ _ hsame => exact hsame ▸ hon
    | cnxn hpacket hp => exact absurd ⟨_, hpacket, hp⟩ hc
    | authUnknown _ _ _ _ hsame => exact hsame ▸ hon
    | authToken _ _ hrec => exact hrec.online ▸ hon
    | verified hv =>
      cases hv with
      | signature hdevice =>
        rw [hhost] at hdevice
        cases hdevice
      | framework hdevice =>
        rw [hhost] at hdevice
        cases hdevice
    | offline _ _ hoff =>
      rw [hoff] at hon
      cases hon
  · rw [hnew.online] at hon
    cases hon

lemma online_of_turn (hhost : cfg.host = true) (hσ : σ.Sound)
    (hpackets : ∀ p, .packet t p ∈ σ.runQueue → p.msg.command ≠ A_CNXN)
    (hτ : turnStep cfg turn σ = .ok τ)
    (htr' : τ.transports.get t = some tr') (hon : tr'.online = true) :
    ∃ tr, σ.transports.get t = some tr ∧ tr.online = true := by
  have hprep := turn.prepare_ordinary σ
  rcases turnStep_outcome hσ hτ with ⟨-, rfl⟩ | ⟨i, l, hinput, hl⟩
  · exact hprep.was_online htr' hon
  cases hl with
  | skipped => exact hprep.was_online htr' hon
  | moved hmoves =>
    have hnot : ¬ i.callback.Connects t := by
      rintro ⟨p, hc, hp⟩
      exact hpackets p ((inputOf hinput).1.mem_runQueue hc) hp
    obtain ⟨tr, htr, hbefore⟩ := hmoves.was_online hhost hnot htr' hon
    exact hprep.was_online htr hbefore

/-- In every run whose turns kick only transports at rest, a disconnect is final. -/
theorem disconnect_final {name : Bytes} {turns : List Turn} (hhost : cfg.host = true)
    (hC : Meets (turnStep cfg) (fun σ turn => kicksAtRest cfg σ turn = true) turns (init name))
    (hrun : runs (turnStep cfg) turns (init name) = .ok σ) (hkicked : σ.kickedAt t = true)
    (hτ : turnStep cfg turn σ = .ok τ) : StaysDown turn σ τ t := by
  obtain ⟨hσ, hfinal⟩ : σ.Sound ∧ ∀ t, σ.leases.kickedAt t = true → σ.leases.Final t := by
    refine runs_invariant (I := fun σ => σ.Sound ∧
      ∀ t, σ.leases.kickedAt t = true → σ.leases.Final t) (fun σ turn τ h hC hτ => ?_)
      ⟨sound_init name, fun t ht => ?_⟩ hC hrun
    · exact ⟨turnStep_sound h.1 hτ, fun t ht => Leases.final_step h.2 (turnStep_step hτ)
        (fun t => kickedAt_of_kicks hτ hC) ht⟩
    · simp [Leases.kickedAt, leases, init] at ht
  have hdown := hfinal t (kickedAt_leases.trans hkicked)
  obtain ⟨hevent, hrests⟩ := (turnStep_step hτ).rests hdown.known hdown.registers hdown.trying
  refine ⟨hevent, fun tr tr' htr htr' hstarted => ?_, fun tr tr' htr htr' hon => ?_⟩
  · obtain ⟨k, hk, hafter⟩ := hrests.lease _ (get_leases htr')
    rw [get_leases htr, Option.some.injEq] at hk
    subst hk
    exact hafter.started hstarted
  · obtain ⟨tr0, htr0, hbefore⟩ := online_of_turn hhost hσ hdown.packets hτ htr' hon
    rw [htr, Option.some.injEq] at htr0
    exact htr0 ▸ hbefore

def kickedWhileLost : List Turn := lostConnection [] ++ [.main { callback := .kick 0 }]

/-- The reconnect handler gives the device up. -/
theorem disconnect_final_kickedWhileLost :
    ∃ σ τ, runs (turnStep Config.adb) kickedWhileLost (init []) = .ok σ ∧
      turnStep Config.adb (.main { callback := .reconnectScan (some 0) }) σ = .ok τ ∧
      σ.kickedAt 0 = true ∧
      StaysDown (.main { callback := .reconnectScan (some 0) }) σ τ 0 := by
  have hC : Meets (turnStep Config.adb) (fun σ turn => kicksAtRest Config.adb σ turn = true)
      kickedWhileLost (init []) := by decide
  have htest : returns (runs (turnStep Config.adb) kickedWhileLost (init [])) (fun σ =>
      σ.kickedAt 0 && returns (turnStep Config.adb
        (.main { callback := .reconnectScan (some 0) }) σ) fun _ => true) = true := by decide
  obtain ⟨σ, hrun, hσ⟩ := returns_iff.mp htest
  obtain ⟨hkicked, hnext⟩ := Bool.and_eq_true_iff.mp hσ
  obtain ⟨τ, hτ, -⟩ := returns_iff.mp hnext
  exact ⟨σ, τ, hrun, hτ, hkicked, disconnect_final rfl hC hrun hkicked hτ⟩

def kickedWhileTried : List Turn :=
  lostConnection [] ++
    [.main { callback := .reconnectScan (some 0) }, .main { callback := .kick 0 },
      .main { callback := .reconnectResult .success }]

/-- It is started again, and its next `A_CNXN` makes it online. -/
theorem disconnect_not_final :
    ∃ σ τ ρ tr tr', runs (turnStep Config.adb) kickedWhileTried (init []) = .ok σ ∧
      σ.kickedAt 0 = true ∧
      turnStep Config.adb (.main { callback := .registration }) σ = .ok τ ∧
      ¬ StaysDown (.main { callback := .registration }) σ τ 0 ∧
      τ.transports.get 0 = some tr ∧ tr.kicked = true ∧ tr.online = false ∧
      runs (turnStep Config.adb) [.read 0 (some greeting), .flush {}] τ = .ok ρ ∧
      ρ.transports.get 0 = some tr' ∧ tr'.kicked = true ∧ tr'.online = true := by
  have htest : returns (runs (turnStep Config.adb) kickedWhileTried (init [])) (fun σ =>
      (σ.kickedAt 0 && decide ((Turn.main { callback := .registration }).event σ = .start 0)) &&
      returns (turnStep Config.adb (.main { callback := .registration }) σ) fun τ =>
        ((τ.transports.get 0).any fun tr => tr.kicked && !tr.online) &&
        returns (runs (turnStep Config.adb) [.read 0 (some greeting), .flush {}] τ) fun ρ =>
          (ρ.transports.get 0).any fun tr => tr.kicked && tr.online) = true := by decide
  obtain ⟨σ, hrun, hσ⟩ := returns_iff.mp htest
  obtain ⟨hstart, hnext⟩ := Bool.and_eq_true_iff.mp hσ
  obtain ⟨hkicked, hevent⟩ := Bool.and_eq_true_iff.mp hstart
  obtain ⟨τ, hτ, hτ'⟩ := returns_iff.mp hnext
  obtain ⟨hdown, hlast⟩ := Bool.and_eq_true_iff.mp hτ'
  obtain ⟨ρ, hρ, hup⟩ := returns_iff.mp hlast
  obtain ⟨tr, htr, hoff⟩ := (Option.any_eq_true _ _).mp hdown
  obtain ⟨tr', htr', hon⟩ := (Option.any_eq_true _ _).mp hup
  simp only [Bool.and_eq_true, Bool.not_eq_true'] at hoff hon
  exact ⟨σ, τ, ρ, tr, tr', hrun, hkicked, hτ, fun h => h.event (of_decide_eq_true hevent), htr,
    hoff.1, hoff.2, hρ, htr', hon.1, hon.2⟩

end Server

end Adb

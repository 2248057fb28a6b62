import Adb.EventLoop
import Mathlib.Logic.Relation

/-!
# Who owns a transport

A transport is passed around between the main thread, the threads of its connection and the
reconnect handler. `Leases.Step` says how what they see of it changes, and the invariant `Leases.Ok`
that whoever has a transport is the only one.
-/

namespace Adb

open Lib List Store

structure Lease where
  refCount : ℕ := 0
  kicked : Bool := false
  tcp : Bool := false
  noPerm : Bool := false
  connection : Connection := {}
deriving DecidableEq, Repr

def Lease.idled (k : Lease) : Lease :=
  { k with refCount := 0, connection := { k.connection with stopped := true } }

/-- The transports, and the places where they wait for one of the threads. -/
structure Leases where
  transports : Store Lease
  registration : List TMsg
  reconnectQueue : List ReconnectAttempt
  reconnecting : Option ReconnectAttempt
  runQueue : List RunFn
  pendingList : List TPtr
  transportList : List TPtr

namespace Leases

/-! ## What is done with a transport -/

def set (L : Leases) (t : TPtr) (k : Lease) : Leases := { L with transports := L.transports.set t k }

def post (L : Leases) (m : TMsg) : Leases := { L with registration := L.registration ++ [m] }

def track (L : Leases) (a : ReconnectAttempt) : Leases :=
  { L with reconnectQueue := L.reconnectQueue ++ [a] }

def add (L : Leases) (k : Lease) : Leases :=
  ({ L with
    transports := L.transports.alloc k
    pendingList := L.transports.next :: L.pendingList } : Leases).post (.register L.transports.next)

/-- The threads of the connection of `t` leave it in the state `c`, and the error callback is
queued if this has not been done. -/
def callOnce (L : Leases) (t : TPtr) (k : Lease) (c : Connection) : Leases :=
  { L.set t { k with connection := { c with errorFlag := true } } with
    runQueue := if c.errorFlag then L.runQueue else L.runQueue ++ [.error t] }

def stop (L : Leases) (t : TPtr) : Leases :=
  match L.transports.get t with
  | none => L
  | some k =>
    if !k.connection.started || k.connection.stopped then L
    else L.callOnce t k { k.connection with stopped := true }

def unref (host : Bool) (L : Leases) (t : TPtr) (k : Lease) : Leases :=
  let L := L.set t { k with refCount := k.refCount - 1 }
  if k.refCount - 1 = 0 then
    let L := L.stop t
    if host && k.tcp && !k.kicked then L.track ⟨t, 6⟩ else L.post (.remove t)
  else L

def unlist (L : Leases) (t : TPtr) : Leases :=
  { L with transportList := L.transportList.filter (· ≠ t) }

def drop (L : Leases) (t : TPtr) : Leases :=
  { L with
    transports := L.transports.free t
    transportList := L.transportList.filter (· ≠ t) }

def enlist (L : Leases) (t : TPtr) : Leases :=
  if t ∈ L.pendingList then
    { L with
      pendingList := L.pendingList.filter (· ≠ t)
      transportList := t :: L.transportList }
  else L

def kickedAt (L : Leases) (t : TPtr) : Bool := (L.transports.get t).any (·.kicked)

/-- The reconnect handler gives up the transports that have been kicked. -/
def sweep (L : Leases) : Leases :=
  { L with
    reconnectQueue := L.reconnectQueue.filter fun a => !L.kickedAt a.transport
    registration := L.registration ++
      (L.reconnectQueue.filter fun a => L.kickedAt a.transport).map fun a => .remove a.transport }

/-! ## Steps -/

inductive Minor : Leases → Leases → Prop
  | permit {L t k} (hk : L.transports.get t = some k) : Minor L (L.set t { k with noPerm := false })
  | kick {L t k} (hk : L.transports.get t = some k) (hnot : k.kicked = false) :
      Minor L ((L.set t { k with kicked := true }).stop t)
  | add {L} (tcp noPerm : Bool) : Minor L (L.add { tcp := tcp, noPerm := noPerm })
  | unlist {L t k} (hk : L.transports.get t = some k) (husb : k.tcp = false) : Minor L (L.unlist t)

def Serves : Leases → Leases → Prop := Relation.ReflTransGen Minor

inductive Event
  | start (t : TPtr)
  | unref (t : TPtr)
  | remove (t : TPtr)
  | other
deriving DecidableEq

inductive Step (host : Bool) : Event → Leases → Leases → Prop
  | serve {L M} (h : Serves L M) : Step host .other L M
  | handle {L M t p} (rest : List RunFn) (hq : L.runQueue = .packet t p :: rest)
      (h : Serves { L with runQueue := rest } M) : Step host .other L M
  | read {L t k p} (hk : L.transports.get t = some k) (hreading : k.connection.reading = true) :
      Step host .other L { L with runQueue := L.runQueue ++ [.packet t p] }
  | fail {L t k c} (hk : L.transports.get t = some k) (hstarted : k.connection.started = true)
      (hrunning : k.connection.stopped = false)
      (hc : c = k.connection ∨ c = { k.connection with readFailed := true }) :
      Step host .other L (L.callOnce t k c)
  /-- the error callback; the transport is taken offline first -/
  | unref {L t k k' rest} (hq : L.runQueue = .error t :: rest) (hk : L.transports.get t = some k)
      (hk' : k' = k ∨ k' = { k with noPerm := false }) (hrefs : k.refCount ≠ 0) :
      Step host (.unref t) L (({ L with runQueue := rest } : Leases).unref host t k')
  | start {L t k rest} (hmsg : L.registration = .register t :: rest)
      (hk : L.transports.get t = some k) (hnew : k.connection.started = false)
      (hperm : k.noPerm = false) :
      Step host (.start t) L ((({ L with registration := rest } : Leases).set t
        { k with
          refCount := k.refCount + 1
          connection := { k.connection with started := true } }).enlist t)
  | pass {L t k rest} (hmsg : L.registration = .register t :: rest)
      (hk : L.transports.get t = some k) (hperm : k.noPerm = true) :
      Step host .other L (({ L with registration := rest } : Leases).enlist t)
  | remove {L t rest} (hmsg : L.registration = .remove t :: rest) :
      Step host (.remove t) L ((({ L with registration := rest } : Leases).stop t).drop t)
  | scan {L} (hidle : L.reconnecting = none) : Step host .other L L.sweep
  | attempt {L} (i : ℕ) (hidle : L.reconnecting = none) :
      Step host .other L
        { L.sweep with
          reconnectQueue := L.sweep.reconnectQueue.eraseIdx i
          reconnecting := L.sweep.reconnectQueue[i]? }
  | retry {L a n} (ha : L.reconnecting = some a) :
      Step host .other L (({ L with reconnecting := none } : Leases).track ⟨a.transport, n⟩)
  | giveUp {L a} (ha : L.reconnecting = some a) :
      Step host .other L (({ L with reconnecting := none } : Leases).post (.remove a.transport))
  | success {L a k} (ha : L.reconnecting = some a) (hk : L.transports.get a.transport = some k) :
      Step host .other L ((({ L with reconnecting := none } : Leases).set a.transport
        { k with connection := {} }).post (.register a.transport))

/-! ## What concerns one transport -/

variable {L M : Leases} {t u : TPtr} {k k' : Lease}

structure View where
  lease : Option Lease
  registers : ℕ
  removes : ℕ
  waiting : ℕ
  trying : ℕ
  errors : ℕ

def View.tokens (v : View) : ℕ := v.registers + v.removes + v.waiting + v.trying

def view (L : Leases) (t : TPtr) : View where
  lease := L.transports.get t
  registers := L.registration.count (.register t)
  removes := L.registration.count (.remove t)
  waiting := L.reconnectQueue.countP (·.transport = t)
  trying := L.reconnecting.toList.countP (·.transport = t)
  errors := L.runQueue.count (.error t)

/-- A transport that is there is with one owner at most. -/
structure View.Owned (v : View) (k : Lease) : Prop where
  one : k.refCount + v.tokens ≤ 1
  errors : v.errors = if k.refCount = 1 ∧ k.connection.errorFlag = true then 1 else 0
  started : k.refCount = 1 → k.connection.started = true
  stopped : k.refCount = 0 → k.connection.started = true → k.connection.stopped = true
  flagged : k.connection.stopped = true → k.connection.errorFlag = true
  fresh : k.connection.started = false → k.connection.stopped = false ∧
    k.connection.errorFlag = false
  registered : v.registers ≠ 0 → k.connection.started = false

def View.Ok (v : View) : Prop :=
  match v.lease with
  | none => v.tokens = 0 ∧ v.errors = 0
  | some k => v.Owned k

def Ok (L : Leases) : Prop := ∀ t, (L.view t).Ok

lemma Ok.owned (h : L.Ok) (hk : L.transports.get t = some k) : (L.view t).Owned k := by
  have ht := h t
  unfold View.Ok at ht
  rw [show (L.view t).lease = some k from hk] at ht
  exact ht

lemma Ok.gone (h : L.Ok) (hk : L.transports.get t = none) :
    (L.view t).tokens = 0 ∧ (L.view t).errors = 0 := by
  have ht := h t
  unfold View.Ok at ht
  rw [show (L.view t).lease = none from hk] at ht
  exact ht

lemma Ok.of_view (h : L.Ok) (t : TPtr) (hother : ∀ u, u ≠ t → M.view u = L.view u)
    (ht : (M.view t).Ok) : M.Ok := by
  intro u
  by_cases hut : u = t
  · exact hut ▸ ht
  · rw [hother u hut]
    exact h u

/-! ## The invariant under the single operations -/

lemma transports_enlist : (L.enlist t).transports = L.transports := by
  unfold Leases.enlist
  split <;> rfl

lemma runQueue_enlist : (L.enlist t).runQueue = L.runQueue := by
  unfold Leases.enlist
  split <;> rfl

lemma view_enlist : (L.enlist t).view u = L.view u := by
  unfold Leases.enlist
  split <;> rfl

lemma unlist_stop (L : Leases) (t u : TPtr) : (L.unlist u).stop t = (L.stop t).unlist u := by
  unfold Leases.stop
  cases hk : L.transports.get t with
  | none => rw [show (L.unlist u).transports.get t = none from hk]
  | some k =>
    rw [show (L.unlist u).transports.get t = some k from hk]
    dsimp only
    split <;> rfl

lemma Ok.enlist (h : L.Ok) (t : TPtr) : (L.enlist t).Ok := by
  intro u
  rw [view_enlist]
  exact h u

lemma view_set_of_ne (hut : u ≠ t) : (L.set t k).view u = L.view u := by
  simp [view, set, hut]

lemma view_set_self (hk : L.transports.get t = some k) :
    (L.set t k').view t = { L.view t with lease := some k' } := by
  simp [view, set, hk]

lemma view_post_register :
    (L.post (.register t)).view u =
      { L.view u with registers := (L.view u).registers + if u = t then 1 else 0 } := by
  by_cases hut : u = t
  · simp [view, post, hut]
  · simp [view, post, hut, Ne.symm hut]

lemma view_post_remove :
    (L.post (.remove t)).view u =
      { L.view u with removes := (L.view u).removes + if u = t then 1 else 0 } := by
  by_cases hut : u = t
  · simp [view, post, hut]
  · simp [view, post, hut, Ne.symm hut]

lemma view_track (a : ReconnectAttempt) :
    (L.track a).view u =
      { L.view u with waiting := (L.view u).waiting + if u = a.transport then 1 else 0 } := by
  by_cases hu : u = a.transport
  · simp [view, track, hu]
  · simp [view, track, hu, Ne.symm hu]

lemma Ok.set_same (h : L.Ok) (hk : L.transports.get t = some k)
    (hrefs : k'.refCount = k.refCount) (hc : k'.connection = k.connection) : (L.set t k').Ok := by
  refine h.of_view t (fun u hut => view_set_of_ne hut) ?_
  have ho := h.owned hk
  rw [view_set_self hk]
  show View.Owned _ k'
  exact ⟨by rw [hrefs]; exact ho.one, by rw [hrefs, hc]; exact ho.errors,
    by rw [hrefs, hc]; exact ho.started, by rw [hrefs, hc]; exact ho.stopped,
    by rw [hc]; exact ho.flagged, by rw [hc]; exact ho.fresh, by rw [hc]; exact ho.registered⟩

lemma View.Owned.refCount_eq {v : View} (h : v.Owned k) (hstarted : k.connection.started = true)
    (hrunning : k.connection.stopped = false) : k.refCount = 1 := by
  have hone := h.one
  by_contra hne
  have hzero : k.refCount = 0 := by omega
  rw [h.stopped hzero hstarted] at hrunning
  cases hrunning

lemma Ok.callOnce {c : Connection} (h : L.Ok) (hk : L.transports.get t = some k)
    (hstarted : k.connection.started = true) (hrunning : k.connection.stopped = false)
    (hc : c.started = true) (hflag : c.errorFlag = k.connection.errorFlag) :
    (L.callOnce t k c).Ok := by
  have ho := h.owned hk
  have hrefs := ho.refCount_eq hstarted hrunning
  have hview (u : TPtr) : (L.callOnce t k c).view u =
      { (L.set t { k with connection := { c with errorFlag := true } }).view u with
        errors := (L.view u).errors + if u = t ∧ c.errorFlag = false then 1 else 0 } := by
    unfold Leases.callOnce view
    by_cases hut : u = t
    · subst hut
      cases hcflag : c.errorFlag with
      | true => simp [set]
      | false => simp [set]
    · cases hcflag : c.errorFlag with
      | true => simp [set]
      | false => simp [set, hut, Ne.symm hut]
  refine h.of_view t (fun u hut => ?_) ?_
  · rw [hview, view_set_of_ne hut]
    simp [hut]
  rw [hview, view_set_self hk]
  show View.Owned _ _
  have hone := ho.one
  have herrors := ho.errors
  refine ⟨hone, ?_, fun _ => hc, ?_, fun _ => rfl, ?_, ?_⟩
  · simp only [hrefs, true_and] at herrors ⊢
    rw [herrors, hflag]
    cases k.connection.errorFlag with
    | true => simp
    | false => simp
  · intro hzero
    simp only at hzero
    omega
  · intro hnot
    rw [hc] at hnot
    cases hnot
  · intro hreg
    simp only [View.tokens] at hone hreg
    omega

lemma Ok.stop (h : L.Ok) (t : TPtr) : (L.stop t).Ok := by
  unfold Leases.stop
  split
  · exact h
  next k hk =>
  split
  · exact h
  next hrunning =>
  obtain ⟨hstarted, hnot⟩ : k.connection.started = true ∧ k.connection.stopped = false := by
    simpa using hrunning
  exact h.callOnce hk hstarted hnot hstarted rfl

lemma Ok.add (h : L.Ok) (hrefs : k.refCount = 0) (hc : k.connection = {}) : (L.add k).Ok := by
  obtain ⟨htokens, herrors⟩ := h.gone get_next
  refine h.of_view L.transports.next (fun u hu => ?_) ?_
  · rw [Leases.add, view_post_register]
    simp [view, hu]
  have hview : (L.add k).view L.transports.next =
      { L.view L.transports.next with
        lease := some k, registers := (L.view L.transports.next).registers + 1 } := by
    rw [Leases.add, view_post_register]
    simp [view]
  rw [hview]
  show View.Owned _ k
  simp only [View.tokens] at htokens
  refine ⟨?_, ?_, ?_, ?_, ?_, ?_, ?_⟩
  · simp only [View.tokens]
    omega
  · simp [hrefs, herrors]
  · intro hone
    omega
  · simp [hc]
  · simp [hc]
  · simp [hc]
  · simp [hc]

lemma Ok.minor (h : L.Ok) (hm : Minor L M) : M.Ok := by
  cases hm with
  | permit hk => exact h.set_same hk rfl rfl
  | @kick t k hk =>
    have hkicked : (L.set t { k with kicked := true }).Ok := h.set_same hk rfl rfl
    exact hkicked.stop t
  | add => exact h.add rfl rfl
  | unlist => exact h

lemma Ok.serves (h : L.Ok) (hs : Serves L M) : M.Ok := by
  induction hs with
  | refl => exact h
  | tail _ hm ih => exact ih.minor hm

/-! ## The invariant under steps -/

structure View.Alike (v w : View) : Prop where
  lease : w.lease = v.lease
  registers : w.registers = v.registers
  tokens : w.tokens = v.tokens
  errors : w.errors = v.errors

lemma View.Ok.alike {v w : View} (h : v.Ok) (hw : v.Alike w) : w.Ok := by
  unfold View.Ok at h ⊢
  rw [hw.lease]
  cases hv : v.lease with
  | none =>
    rw [hv] at h
    exact ⟨hw.tokens.trans h.1, hw.errors.trans h.2⟩
  | some k =>
    rw [hv] at h
    exact ⟨by rw [hw.tokens]; exact h.one, hw.errors.trans h.errors, h.started, h.stopped,
      h.flagged, h.fresh, by rw [hw.registers]; exact h.registered⟩

lemma Ok.of_alike (h : L.Ok) (hw : ∀ t, (L.view t).Alike (M.view t)) : M.Ok :=
  fun t => (h t).alike (hw t)

lemma stop_of_flagged (hk : L.transports.get t = some k) (hstarted : k.connection.started = true)
    (hflag : k.connection.errorFlag = true) :
    L.stop t = L.set t { k with connection := { k.connection with stopped := true } } := by
  unfold Leases.stop
  rw [hk]
  dsimp only
  split
  · next hdone =>
    have hstopped : k.connection.stopped = true := by simpa [hstarted] using hdone
    have hsame : { k.connection with stopped := true } = k.connection := by rw [← hstopped]
    rw [hsame, Leases.set, set_get hk]
  · simp only [hflag, if_true]
    rfl

lemma Ok.of_error {rest : List RunFn} (h : L.Ok) (hq : L.runQueue = .error t :: rest)
    (hk : L.transports.get t = some k) (hrefs : k.refCount ≠ 0) :
    k.refCount = 1 ∧ k.connection.started = true ∧ k.connection.errorFlag = true ∧
      rest.count (.error t) = 0 ∧ (L.view t).tokens = 0 := by
  have ho := h.owned hk
  have hone := ho.one
  have hone' : k.refCount = 1 := by omega
  have herrors := ho.errors
  simp only [view, hq, count_cons_self, hone', true_and] at herrors
  refine ⟨hone', ho.started hone', ?_⟩
  split at herrors
  · next hflag => exact ⟨hflag, by omega, by omega⟩
  · omega

variable {host : Bool}

lemma unref_eq (hk : L.transports.get t = some k) (hrefs : k'.refCount = 1)
    (hstarted : k'.connection.started = true) (hflag : k'.connection.errorFlag = true) :
    L.unref host t k' = if host && k'.tcp && !k'.kicked then (L.set t k'.idled).track ⟨t, 6⟩
      else (L.set t k'.idled).post (.remove t) := by
  have hget : (L.set t { k' with refCount := k'.refCount - 1 }).transports.get t =
      some { k' with refCount := k'.refCount - 1 } := get_set_self hk _
  have hstop : (L.set t { k' with refCount := k'.refCount - 1 }).stop t = L.set t k'.idled := by
    rw [stop_of_flagged hget hstarted hflag]
    simp [Leases.set, hrefs, Lease.idled]
  unfold Leases.unref
  rw [if_pos (by omega), hstop]

lemma view_unref (host : Bool) (hk : L.transports.get t = some k) (hrefs : k'.refCount = 1)
    (hstarted : k'.connection.started = true) (hflag : k'.connection.errorFlag = true) (u : TPtr) :
    if u = t then ((L.unref host t k').view u).lease = some k'.idled ∧
        ((L.unref host t k').view u).tokens = (L.view u).tokens + 1 ∧
        ((L.unref host t k').view u).registers = (L.view u).registers ∧
        ((L.unref host t k').view u).errors = (L.view u).errors
      else (L.unref host t k').view u = L.view u := by
  rw [unref_eq hk hrefs hstarted hflag]
  split
  · next hut =>
    subst hut
    split
    · rw [view_track, view_set_self hk]
      refine ⟨rfl, ?_, rfl, rfl⟩
      simp only [View.tokens, if_true]
      omega
    · rw [view_post_remove, view_set_self hk]
      refine ⟨rfl, ?_, rfl, rfl⟩
      simp only [View.tokens, if_true]
      omega
  · next hut =>
    split
    · rw [view_track, view_set_of_ne hut]
      simp [hut]
    · rw [view_post_remove, view_set_of_ne hut]
      simp [hut]

lemma view_of_error {rest : List RunFn} (hq : L.runQueue = .error t :: rest) :
    L.view u = { ({ L with runQueue := rest } : Leases).view u with
      errors := rest.count (.error u) + if u = t then 1 else 0 } := by
  by_cases hut : u = t
  · simp [view, hq, hut]
  · simp [view, hq, hut, Ne.symm hut]

lemma Ok.unref {rest : List RunFn} (h : L.Ok) (hq : L.runQueue = .error t :: rest)
    (hk : L.transports.get t = some k) (hrefs : k.refCount ≠ 0)
    (hk' : k' = k ∨ k' = { k with noPerm := false }) :
    (({ L with runQueue := rest } : Leases).unref host t k').Ok := by
  obtain ⟨hone, hstarted, hflag, hlast, htokens⟩ := h.of_error hq hk hrefs
  obtain ⟨hrefs', hc'⟩ : k'.refCount = 1 ∧ k'.connection = k.connection := by
    rcases hk' with rfl | rfl
    · exact ⟨hone, rfl⟩
    · exact ⟨hone, rfl⟩
  have hview := view_unref (L := { L with runQueue := rest }) host hk hrefs' (hc' ▸ hstarted) (hc' ▸ hflag)
  refine h.of_view t (fun u hut => ?_) ?_
  · have hu := hview u
    rw [if_neg hut] at hu
    rw [hu, view_of_error hq]
    simp [hut, view]
  · have ht := hview t
    rw [if_pos rfl] at ht
    obtain ⟨hlease, htokens', hregs, herrors⟩ := ht
    have htokens : (({ L with runQueue := rest } : Leases).view t).tokens = 0 := htokens
    have hnone : (({ L with runQueue := rest } : Leases).view t).registers = 0 := by
      simp only [View.tokens] at htokens
      omega
    unfold View.Ok
    rw [hlease]
    refine ⟨?_, ?_, ?_, ?_, ?_, ?_, ?_⟩
    · simp [Lease.idled, htokens', htokens]
    · rw [herrors]
      exact hlast
    · simp [Lease.idled]
    · simp [Lease.idled]
    · simp [Lease.idled, hc', hflag]
    · simp [Lease.idled, hc', hstarted]
    · simp [hregs, hnone]

lemma Ok.of_message (h : L.Ok) (hk : L.transports.get t = some k)
    (hmsg : (L.view t).registers + (L.view t).removes ≠ 0) :
    k.refCount = 0 ∧ (L.view t).tokens = 1 := by
  have hone := (h.owned hk).one
  simp only [View.tokens] at hone ⊢
  omega

variable {rest : List TMsg}

lemma view_of_register (hmsg : L.registration = .register t :: rest)
    (u : TPtr) : L.view u = { ({ L with registration := rest } : Leases).view u with
      registers := (({ L with registration := rest } : Leases).view u).registers +
        if u = t then 1 else 0 } := by
  by_cases hut : u = t
  · simp [view, hmsg, hut]
  · simp [view, hmsg, hut, Ne.symm hut]

lemma view_of_remove (hmsg : L.registration = .remove t :: rest) :
    L.view u = { ({ L with registration := rest } : Leases).view u with
      removes := (({ L with registration := rest } : Leases).view u).removes +
        if u = t then 1 else 0 } := by
  by_cases hut : u = t
  · simp [view, hmsg, hut]
  · simp [view, hmsg, hut, Ne.symm hut]

lemma Ok.registered (h : L.Ok) (hmsg : L.registration = .register t :: rest)
    (hk : L.transports.get t = some k) : ({ L with registration := rest } : Leases).Ok ∧
      (({ L with registration := rest } : Leases).set t
        { k with
          refCount := k.refCount + 1
          connection := { k.connection with started := true } }).Ok := by
  have hview := view_of_register hmsg
  have hregs : (L.view t).registers ≠ 0 := by rw [hview]; simp
  obtain ⟨hrefs, htokens⟩ := h.of_message hk (by omega)
  have ho := h.owned hk
  have hnew := ho.registered hregs
  obtain ⟨hstopped, hflag⟩ := ho.fresh hnew
  have herrors : (L.view t).errors = 0 := by rw [ho.errors]; simp [hrefs]
  have hother (u : TPtr) (hut : u ≠ t) :
      ({ L with registration := rest } : Leases).view u = L.view u := by
    rw [hview u]
    simp [hut]
  rw [hview t] at htokens herrors
  simp only [View.tokens, if_true] at htokens herrors
  constructor
  · refine h.of_view t hother ?_
    unfold View.Ok
    rw [show (({ L with registration := rest } : Leases).view t).lease = some k from hk]
    refine ⟨?_, ?_, ho.started, ho.stopped, ho.flagged, ho.fresh, fun _ => hnew⟩
    · rw [View.tokens]
      omega
    · rw [herrors]
      simp [hrefs]
  · refine h.of_view t (fun u hut => ?_) ?_
    · rw [view_set_of_ne hut]
      exact hother u hut
    rw [view_set_self (L := { L with registration := rest }) hk]
    show View.Owned _ _
    refine ⟨?_, ?_, fun _ => rfl, ?_, ?_, ?_, ?_⟩
    · simp only [hrefs, View.tokens]
      omega
    · simp only [herrors, hflag]
      simp
    · intro hzero
      simp only at hzero
      omega
    · simp [hstopped]
    · simp
    · intro hreg
      simp only at hreg
      omega

lemma Ok.of_remove (h : L.Ok) (hmsg : L.registration = .remove t :: rest) :
    ∃ k, L.transports.get t = some k ∧ k.refCount = 0 ∧ (L.view t).tokens = 1 ∧
      ({ L with registration := rest } : Leases).stop t = { L with registration := rest } := by
  have hremoves : (L.view t).removes ≠ 0 := by rw [view_of_remove hmsg]; simp
  cases hk : L.transports.get t with
  | none =>
    have hnone := (h.gone hk).1
    simp only [View.tokens] at hnone
    omega
  | some k =>
    obtain ⟨hrefs, htokens⟩ := h.of_message hk (by omega)
    have hidle : (!k.connection.started || k.connection.stopped) = true := by
      cases hstarted : k.connection.started with
      | false => rfl
      | true => simpa using (h.owned hk).stopped hrefs hstarted
    exact ⟨k, rfl, hrefs, htokens, by simp only [Leases.stop, hk, hidle, if_true]⟩

lemma view_drop_of_ne (hmsg : L.registration = .remove t :: rest)
    (hut : u ≠ t) : (({ L with registration := rest } : Leases).drop t).view u = L.view u := by
  rw [view_of_remove hmsg]
  simp [view, drop, hut]

lemma Ok.removed (h : L.Ok) (hmsg : L.registration = .remove t :: rest) :
    ((({ L with registration := rest } : Leases).stop t).drop t).Ok := by
  obtain ⟨k, hk, hrefs, htokens, hstop⟩ := h.of_remove hmsg
  have herrors : (L.view t).errors = 0 := by rw [(h.owned hk).errors]; simp [hrefs]
  rw [hstop]
  refine h.of_view t (fun u hut => view_drop_of_ne hmsg hut) ?_
  rw [view_of_remove hmsg] at htokens herrors
  simp only [View.tokens, if_true] at htokens herrors
  unfold View.Ok
  rw [show (((({ L with registration := rest } : Leases)).drop t).view t).lease = none from
    get_free_self]
  refine ⟨?_, herrors⟩
  show _ + _ + _ + _ = 0
  simp only [view, drop] at htokens ⊢
  omega

lemma countP_sweep (kicked : TPtr → Bool) (queue : List ReconnectAttempt) (u : TPtr) :
    (queue.filter fun a => !kicked a.transport).countP (·.transport = u) +
      ((queue.filter fun a => kicked a.transport).map fun a => TMsg.remove a.transport).count
        (.remove u) = queue.countP (·.transport = u) := by
  induction queue with
  | nil => rfl
  | cons a rest ih =>
    cases hk : kicked a.transport with
    | true =>
      simp only [hk, Bool.not_true, Bool.false_eq_true, not_false_eq_true, filter_cons_of_neg,
        filter_cons_of_pos, map_cons, count_cons, countP_cons, ← ih]
      simp only [beq_iff_eq, TMsg.remove.injEq, decide_eq_true_eq]
      omega
    | false =>
      simp only [hk, Bool.not_false, Bool.false_eq_true, not_false_eq_true, filter_cons_of_neg,
        filter_cons_of_pos, countP_cons, ← ih]
      omega

lemma count_register_remove (queue : List ReconnectAttempt) (u : TPtr) :
    (queue.map fun a => TMsg.remove a.transport).count (.register u) = 0 := by
  rw [count_eq_zero]
  simp

lemma view_sweep_alike (L : Leases) (u : TPtr) : (L.view u).Alike (L.sweep.view u) where
  lease := rfl
  registers := by simp [view, sweep, count_register_remove]
  tokens := by
    have hsum := countP_sweep L.kickedAt L.reconnectQueue u
    simp only [View.tokens, view, sweep, count_append, count_register_remove]
    omega
  errors := rfl

lemma countP_eraseIdx {α : Type} (p : α → Bool) (xs : List α) (i : ℕ) :
    (xs.eraseIdx i).countP p + xs[i]?.toList.countP p = xs.countP p := by
  induction xs generalizing i with
  | nil => simp
  | cons x rest ih =>
    cases i with
    | zero => simp [countP_cons]
    | succ i =>
      have hrest := ih i
      simp only [eraseIdx_cons_succ, countP_cons, List.getElem?_cons_succ]
      omega

variable {a : ReconnectAttempt}

lemma view_of_trying (ha : L.reconnecting = some a) (u : TPtr) :
    L.view u = { ({ L with reconnecting := none } : Leases).view u with
      trying := if u = a.transport then 1 else 0 } := by
  by_cases hu : u = a.transport
  · simp [view, ha, hu]
  · simp [view, ha, hu, Ne.symm hu]

lemma view_attempt_alike (hidle : L.reconnecting = none) (i : ℕ) (u : TPtr) :
    (L.view u).Alike (({ L.sweep with
      reconnectQueue := L.sweep.reconnectQueue.eraseIdx i
      reconnecting := L.sweep.reconnectQueue[i]? } : Leases).view u) := by
  have hsweep := L.view_sweep_alike u
  refine ⟨hsweep.lease, hsweep.registers, ?_, hsweep.errors⟩
  have htokens := hsweep.tokens
  have hsplit := countP_eraseIdx (fun a => decide (a.transport = u)) L.sweep.reconnectQueue i
  have htrying : L.sweep.reconnecting = none := hidle
  simp only [View.tokens, view, hidle, htrying, Option.toList_none, countP_nil] at htokens ⊢
  omega

lemma view_retry_alike (ha : L.reconnecting = some a) (n : ℕ) (u : TPtr) :
    (L.view u).Alike
      ((({ L with reconnecting := none } : Leases).track ⟨a.transport, n⟩).view u) := by
  rw [view_track, view_of_trying ha]
  refine ⟨rfl, rfl, ?_, rfl⟩
  simp only [View.tokens, view, Option.toList_none, countP_nil]
  omega

lemma view_giveUp_alike (ha : L.reconnecting = some a) (u : TPtr) :
    (L.view u).Alike
      ((({ L with reconnecting := none } : Leases).post (.remove a.transport)).view u) := by
  rw [view_post_remove, view_of_trying ha]
  refine ⟨rfl, rfl, ?_, rfl⟩
  simp only [View.tokens, view, Option.toList_none, countP_nil]
  omega

lemma Ok.reconnected (h : L.Ok) (ha : L.reconnecting = some a)
    (hk : L.transports.get a.transport = some k) :
    ((({ L with reconnecting := none } : Leases).set a.transport
      { k with connection := {} }).post (.register a.transport)).Ok := by
  have hview := view_of_trying ha
  have ho := h.owned hk
  have hone := ho.one
  have herrors := ho.errors
  rw [hview] at hone herrors
  simp only [View.tokens, if_true] at hone herrors
  have hrefs : k.refCount = 0 := by omega
  refine h.of_view a.transport (fun u hu => ?_) ?_
  · rw [view_post_register, view_set_of_ne hu, hview u]
    simp [hu, view]
  rw [view_post_register, view_set_self (L := { L with reconnecting := none }) hk]
  show View.Owned _ _
  have hnone : (({ L with reconnecting := none } : Leases).view a.transport).trying = 0 := rfl
  refine ⟨?_, ?_, ?_, ?_, ?_, ?_, ?_⟩
  · simp only [hrefs, View.tokens, hnone, if_true]
    omega
  · simp only [herrors, hrefs]
    simp
  · simp [hrefs]
  · simp
  · simp
  · simp
  · simp

lemma Ok.step {e : Event} (h : L.Ok) (hstep : Step host e L M) : M.Ok := by
  cases hstep with
  | serve hs => exact h.serves hs
  | handle rest hq hs =>
    have hpop : ({ L with runQueue := rest } : Leases).Ok :=
      h.of_alike fun u => ⟨rfl, rfl, rfl, by simp [view, hq]⟩
    exact hpop.serves hs
  | read => exact h.of_alike fun u => ⟨rfl, rfl, rfl, by simp [view]⟩
  | fail hk hstarted hrunning hc =>
    rcases hc with rfl | rfl
    · exact h.callOnce hk hstarted hrunning hstarted rfl
    · exact h.callOnce hk hstarted hrunning hstarted rfl
  | unref hq hk hk' hrefs => exact h.unref hq hk hrefs hk'
  | start hmsg hk => exact (h.registered hmsg hk).2.enlist _
  | pass hmsg hk => exact (h.registered hmsg hk).1.enlist _
  | remove hmsg => exact h.removed hmsg
  | scan => exact h.of_alike L.view_sweep_alike
  | attempt i hidle => exact h.of_alike (view_attempt_alike hidle i)
  | retry ha => exact h.of_alike (view_retry_alike ha _)
  | giveUp ha => exact h.of_alike (view_giveUp_alike ha)
  | success ha hk => exact h.reconnected ha hk

end Leases

end Adb

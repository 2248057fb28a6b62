import Adb.Leases

/-!
# The books of the transports

How often a connection of a transport has been started, has given its reference back, and how
often the transport has been deleted: the three agree with where the transport is (`Booked`).
-/

namespace Adb

open Lib Store

namespace Leases

variable {L M : Leases} {t u : TPtr} {k k' : Lease}

/-- How often a connection of a transport has been started, has given its reference back, and how
often the transport has been deleted. -/
structure Book where
  starts : ℕ := 0
  unrefs : ℕ := 0
  removals : ℕ := 0

def Event.note (t : TPtr) (e : Event) (b : Book) : Book :=
  match e with
  | .start u => if u = t then { b with starts := b.starts + 1 } else b
  | .unref u => if u = t then { b with unrefs := b.unrefs + 1 } else b
  | .remove u => if u = t then { b with removals := b.removals + 1 } else b
  | .other => b

def View.refs (v : View) : ℕ := (v.lease.map (·.refCount)).getD 0

structure View.Booked (v : View) (b : Book) : Prop where
  starts : b.starts = b.unrefs + v.refs
  /-- a transport that has been started is with somebody -/
  began : b.starts ≠ 0 → ∀ k, v.lease = some k → k.noPerm = false ∧ k.refCount + v.tokens = 1
  once : b.removals ≤ 1
  removed : b.removals ≠ 0 → v.lease = none

/-- All books are right, and those of transports that are not there yet are empty. -/
structure Booked (L : Leases) (b : TPtr → Book) : Prop where
  books : ∀ t, (L.view t).Booked (b t)
  fresh : ∀ t, L.transports.next ≤ t → b t = {}

structure View.Kept (v w : View) : Prop where
  tokens : w.tokens = v.tokens
  lease : ∀ k', w.lease = some k' → ∃ k, v.lease = some k ∧ k'.refCount = k.refCount ∧
    (k.noPerm = false → k'.noPerm = false)
  gone : w.lease = none → v.lease = none

lemma View.Kept.refs {v w : View} (h : v.Kept w) : w.refs = v.refs := by
  unfold View.refs
  cases hw : w.lease with
  | none => rw [h.gone hw]
  | some k' =>
    obtain ⟨k, hk, hrefs, -⟩ := h.lease k' hw
    simp [hk, hrefs]

lemma View.Booked.kept {v w : View} {b : Book} (h : v.Booked b) (hk : v.Kept w) : w.Booked b where
  starts := by rw [hk.refs]; exact h.starts
  began hb k' hk' := by
    obtain ⟨k, hv, hrefs, hperm⟩ := hk.lease k' hk'
    obtain ⟨hnot, hone⟩ := h.began hb k hv
    exact ⟨hperm hnot, by rw [hrefs, hk.tokens]; exact hone⟩
  once := h.once
  removed hb := by
    cases hw : w.lease with
    | none => rfl
    | some k' =>
      obtain ⟨k, hv, -⟩ := hk.lease k' hw
      rw [h.removed hb] at hv
      cases hv

lemma View.Kept.refl (v : View) : v.Kept v :=
  ⟨rfl, fun k hk => ⟨k, hk, rfl, fun h => h⟩, fun h => h⟩

lemma view_set_kept (k' : Lease) (hk : L.transports.get t = some k)
    (hrefs : k'.refCount = k.refCount) (hperm : k.noPerm = false → k'.noPerm = false) (u : TPtr) :
    (L.view u).Kept ((L.set t k').view u) := by
  by_cases hut : u = t
  · subst hut
    rw [view_set_self hk]
    refine ⟨rfl, fun k'' hk'' => ?_, fun hnone => by cases hnone⟩
    cases hk''
    exact ⟨k, hk, hrefs, hperm⟩
  · rw [view_set_of_ne hut]
    exact .refl _

lemma view_callOnce_kept (hk : L.transports.get t = some k) (c : Connection) (u : TPtr) :
    (L.view u).Kept ((L.callOnce t k c).view u) :=
  have hset := view_set_kept (L := L) { k with connection := { c with errorFlag := true } } hk rfl (fun h => h) u
  ⟨hset.tokens, hset.lease, hset.gone⟩

lemma view_stop_kept : (L.view u).Kept ((L.stop t).view u) := by
  unfold Leases.stop
  split
  · exact .refl _
  next k hk =>
  split
  · exact .refl _
  · exact view_callOnce_kept hk _ u

lemma View.Kept.trans {v w x : View} (h : v.Kept w) (h' : w.Kept x) : v.Kept x where
  tokens := h'.tokens.trans h.tokens
  lease k'' hk'' := by
    obtain ⟨k', hk', hrefs', hperm'⟩ := h'.lease k'' hk''
    obtain ⟨k, hk, hrefs, hperm⟩ := h.lease k' hk'
    exact ⟨k, hk, hrefs'.trans hrefs, fun hnot => hperm' (hperm hnot)⟩
  gone hnone := h.gone (h'.gone hnone)

lemma next_stop : (L.stop t).transports.next = L.transports.next := by
  unfold Leases.stop
  split
  · rfl
  split
  · rfl
  · rfl

variable {b : TPtr → Book}

lemma Booked.of_kept (h : L.Booked b)
    (hkept : ∀ u, (L.view u).Kept (M.view u)) (hnext : M.transports.next = L.transports.next) :
    M.Booked b :=
  ⟨fun u => (h.books u).kept (hkept u), fun u hu => h.fresh u (hnext ▸ hu)⟩

lemma Booked.minor (h : L.Booked b) (hm : Minor L M) : M.Booked b := by
  cases hm with
  | @permit t k hk =>
    exact h.of_kept (view_set_kept { k with noPerm := false } hk rfl fun _ => rfl) rfl
  | @kick t k hk =>
    refine h.of_kept (fun u => ?_) next_stop
    have hset := view_set_kept { k with kicked := true } hk rfl (fun hp => hp) u
    exact hset.trans view_stop_kept
  | add tcp noPerm =>
    constructor
    · intro u
      by_cases hu : u = L.transports.next
      · have hb : b u = {} := h.fresh u (Nat.le_of_eq hu.symm)
        have hlease : ((L.add { tcp := tcp, noPerm := noPerm }).view u).lease =
            some { tcp := tcp, noPerm := noPerm } := by
          simp [view, Leases.add, post, hu]
        rw [hb]
        exact ⟨by simp [View.refs, hlease], by simp, by simp, by simp⟩
      · have hview : (L.add { tcp := tcp, noPerm := noPerm }).view u = L.view u := by
          rw [Leases.add, view_post_register]
          simp [view, hu]
        rw [hview]
        exact h.books u
    · intro u hu
      exact h.fresh u ((Nat.le_succ _).trans hu)
  | unlist => exact ⟨h.books, h.fresh⟩

lemma Booked.enlist (h : L.Booked b) (t : TPtr) : (L.enlist t).Booked b := by
  refine h.of_kept (fun u => ?_) ?_
  · rw [view_enlist]
    exact .refl _
  · rw [transports_enlist]

lemma Booked.serves (h : L.Booked b) (hs : Serves L M) : M.Booked b := by
  induction hs with
  | refl => exact h
  | tail _ hm ih => exact ih.minor hm

variable {e : Event}

lemma Booked.of_view (h : L.Booked b) (t : TPtr)
    (he : ∀ u, u ≠ t → e.note u (b u) = b u) (hother : ∀ u, u ≠ t → M.view u = L.view u)
    (ht : (M.view t).Booked (e.note t (b t))) (hnext : M.transports.next = L.transports.next)
    (hlt : t < L.transports.next) : M.Booked fun u => e.note u (b u) where
  books u := by
    by_cases hut : u = t
    · exact hut ▸ ht
    · rw [he u hut, hother u hut]
      exact h.books u
  fresh u hu := by
    have hle : L.transports.next ≤ u := hnext ▸ hu
    rw [he u (Nat.ne_of_gt (Nat.lt_of_lt_of_le hlt hle))]
    exact h.fresh u hle

lemma note_of_ne {b : Book} (he : e = .start t ∨ e = .unref t ∨ e = .remove t)
    (hut : u ≠ t) : e.note u b = b := by
  rcases he with rfl | rfl | rfl
  · exact if_neg (Ne.symm hut)
  · exact if_neg (Ne.symm hut)
  · exact if_neg (Ne.symm hut)

variable {host : Bool}

lemma next_unref : (L.unref host t k).transports.next = L.transports.next := by
  unfold Leases.unref
  split
  · split
    · exact next_stop
    · exact next_stop
  · rfl

lemma Booked.unref {rest : List RunFn} (h : L.Booked b)
    (hok : L.Ok) (hq : L.runQueue = .error t :: rest) (hk : L.transports.get t = some k)
    (hrefs : k.refCount ≠ 0) (hk' : k' = k ∨ k' = { k with noPerm := false }) :
    (({ L with runQueue := rest } : Leases).unref host t k').Booked
      fun u => (Event.unref t).note u (b u) := by
  obtain ⟨hone, hstarted, hflag, -, htokens⟩ := hok.of_error hq hk hrefs
  obtain ⟨hrefs', hc', hperm'⟩ : k'.refCount = 1 ∧ k'.connection = k.connection ∧
      (k.noPerm = false → k'.noPerm = false) := by
    rcases hk' with rfl | rfl
    · exact ⟨hone, rfl, fun hp => hp⟩
    · exact ⟨hone, rfl, fun _ => rfl⟩
  have hview := view_unref (L := { L with runQueue := rest }) host hk hrefs' (hc' ▸ hstarted) (hc' ▸ hflag)
  refine h.of_view t (fun u hut => note_of_ne (.inr (.inl rfl)) hut) (fun u hut => ?_) ?_
    next_unref (lt_next hk)
  · have hu := hview u
    rw [if_neg hut] at hu
    rw [hu, view_of_error hq]
    simp [hut, view]
  · have ht := hview t
    rw [if_pos rfl] at ht
    obtain ⟨hlease, htokens', -⟩ := ht
    have htokens : (({ L with runQueue := rest } : Leases).view t).tokens = 0 := htokens
    have hbook := h.books t
    have hstarts := hbook.starts
    rw [show (L.view t).refs = k.refCount by simp [View.refs, view, hk], hone] at hstarts
    have hnote : (Event.unref t).note t (b t) = { b t with unrefs := (b t).unrefs + 1 } :=
      if_pos rfl
    rw [hnote]
    refine ⟨?_, ?_, hbook.once, ?_⟩
    · simp only [View.refs, hlease]
      simpa [Lease.idled] using hstarts
    · intro hb k'' hk''
      rw [hlease] at hk''
      cases hk''
      exact ⟨hperm' (hbook.began hb k hk).1, by simp [Lease.idled, htokens', htokens]⟩
    · intro hb
      have hnone := hbook.removed hb
      rw [show (L.view t).lease = some k from hk] at hnone
      cases hnone

variable {rest : List TMsg}

lemma Booked.start (h : L.Booked b) (hok : L.Ok)
    (hmsg : L.registration = .register t :: rest) (hk : L.transports.get t = some k)
    (hperm : k.noPerm = false) : (({ L with registration := rest } : Leases).set t
      { k with
        refCount := k.refCount + 1
        connection := { k.connection with started := true } }).Booked
      fun u => (Event.start t).note u (b u) := by
  have hview := view_of_register hmsg
  have hregs : (L.view t).registers ≠ 0 := by rw [hview]; simp
  obtain ⟨hrefs, htokens⟩ := hok.of_message hk (by omega)
  refine h.of_view t (fun u hut => note_of_ne (.inl rfl) hut) (fun u hut => ?_) ?_ rfl (lt_next hk)
  · rw [view_set_of_ne hut, hview u]
    simp [hut]
  have hbook := h.books t
  have hstarts := hbook.starts
  rw [show (L.view t).refs = k.refCount by simp [View.refs, view, hk], hrefs] at hstarts
  have hnote : (Event.start t).note t (b t) = { b t with starts := (b t).starts + 1 } :=
    if_pos rfl
  rw [hnote, view_set_self (L := { L with registration := rest }) hk]
  rw [hview t] at htokens
  simp only [View.tokens, if_true] at htokens
  refine ⟨?_, ?_, hbook.once, ?_⟩
  · simp only [View.refs, Option.map_some, Option.getD_some]
    omega
  · intro _ k'' hk''
    cases hk''
    refine ⟨hperm, ?_⟩
    simp only [hrefs, View.tokens]
    omega
  · intro hb
    have hnone := hbook.removed hb
    rw [show (L.view t).lease = some k from hk] at hnone
    cases hnone

lemma Booked.pass (h : L.Booked b)
    (hmsg : L.registration = .register t :: rest) (hk : L.transports.get t = some k)
    (hperm : k.noPerm = true) : ({ L with registration := rest } : Leases).Booked b := by
  have hview := view_of_register hmsg
  have hbook := h.books t
  have hnever : (b t).starts = 0 := by
    by_contra hb
    rw [(hbook.began hb k hk).1] at hperm
    cases hperm
  have hnot : ∀ u, u ≠ t → (Event.other).note u (b u) = b u := fun _ _ => rfl
  refine h.of_view (e := .other) t hnot (fun u hut => ?_) ?_ rfl (lt_next hk)
  · rw [hview u]
    simp [hut]
  · exact ⟨hbook.starts, fun hb => absurd hnever hb, hbook.once, hbook.removed⟩

lemma Booked.remove (h : L.Booked b) (hok : L.Ok) (hmsg : L.registration = .remove t :: rest) :
    ((({ L with registration := rest } : Leases).stop t).drop t).Booked
      fun u => (Event.remove t).note u (b u) := by
  obtain ⟨k, hk, hrefs, -, hstop⟩ := hok.of_remove hmsg
  rw [hstop]
  refine h.of_view t (fun u hut => note_of_ne (.inr (.inr rfl)) hut)
    (fun u hut => view_drop_of_ne hmsg hut) ?_ rfl (lt_next hk)
  have hbook := h.books t
  have hstarts := hbook.starts
  rw [show (L.view t).refs = k.refCount by simp [View.refs, view, hk], hrefs] at hstarts
  have hnever : (b t).removals = 0 := by
    by_contra hb
    have hnone := hbook.removed hb
    rw [show (L.view t).lease = some k from hk] at hnone
    cases hnone
  have hlease : ((({ L with registration := rest } : Leases).drop t).view t).lease = none :=
    get_free_self
  have hnote : (Event.remove t).note t (b t) = { b t with removals := (b t).removals + 1 } :=
    if_pos rfl
  rw [hnote]
  exact ⟨by simpa [View.refs, hlease] using hstarts, by simp [hlease], by simp [hnever],
    fun _ => hlease⟩

lemma Booked.success {a : ReconnectAttempt} (h : L.Booked b)
    (ha : L.reconnecting = some a) (hk : L.transports.get a.transport = some k) :
    ((({ L with reconnecting := none } : Leases).set a.transport
      { k with connection := {} }).post (.register a.transport)).Booked b := by
  refine h.of_kept (fun u => ?_) rfl
  have hset := view_set_kept (L := { L with reconnecting := none })
    { k with connection := {} } hk rfl (fun hp => hp) u
  rw [view_post_register]
  refine ⟨?_, hset.lease, hset.gone⟩
  have htokens := hset.tokens
  rw [view_of_trying ha u]
  have hnone : (({ L with reconnecting := none } : Leases).view u).trying = 0 := rfl
  simp only [View.tokens, hnone] at htokens ⊢
  omega

lemma Booked.step (h : L.Booked b) (hok : L.Ok)
    (hstep : Step host e L M) : M.Booked fun t => e.note t (b t) := by
  -- steps that are not noted, and do not change what is noted
  have hkept (hview : ∀ u, (L.view u).Alike (M.view u))
      (hnext : M.transports.next = L.transports.next) : M.Booked b := by
    refine h.of_kept (fun u => ⟨(hview u).tokens, fun k' hk' => ?_, fun hnone => ?_⟩) hnext
    · rw [(hview u).lease] at hk'
      exact ⟨k', hk', rfl, fun hp => hp⟩
    · rw [(hview u).lease] at hnone
      exact hnone
  cases hstep with
  | serve hs => exact h.serves hs
  | handle rest hq hs =>
    have hpop : ({ L with runQueue := rest } : Leases).Booked b :=
      ⟨fun u => (h.books u).kept ⟨rfl, fun k hk => ⟨k, hk, rfl, fun hp => hp⟩, fun hn => hn⟩,
        h.fresh⟩
    exact hpop.serves hs
  | read => exact hkept (fun u => ⟨rfl, rfl, rfl, by simp [view]⟩) rfl
  | fail hk => exact h.of_kept (view_callOnce_kept hk _) rfl
  | unref hq hk hk' hrefs => exact h.unref hok hq hk hrefs hk'
  | start hmsg hk _ hperm => exact (h.start hok hmsg hk hperm).enlist _
  | pass hmsg hk hperm => exact (h.pass hmsg hk hperm).enlist _
  | remove hmsg => exact h.remove hok hmsg
  | scan => exact hkept L.view_sweep_alike rfl
  | attempt i hidle => exact hkept (view_attempt_alike hidle i) rfl
  | retry ha => exact hkept (view_retry_alike ha _) rfl
  | giveUp ha => exact hkept (view_giveUp_alike ha) rfl
  | success ha hk => exact h.success ha hk

end Leases

end Adb

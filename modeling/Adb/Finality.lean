import Adb.LeaseBooks

/-!
# Transports that nobody is about to start

A connection is started on a registration message only. `Rests` is what a step does with a transport
for which there is none, and none is under way. A transport that is to be deleted stays one
(`Doomed`), and so does one that has been kicked (`Final`).
-/

namespace Adb

open Lib List Store

structure Lease.After (k k' : Lease) : Prop where
  refCount : k'.refCount ≤ k.refCount
  kicked : k.kicked = true → k'.kicked = true
  started : k'.connection.started = true → k.connection.started = true
  reading : k.connection.reading = false → k'.connection.reading = false
  /-- a kick stops the connection -/
  halted : k'.kicked = true → k.kicked = true ∨ k'.connection.reading = false

namespace Lease.After

variable {k k' k'' : Lease}

lemma refl (k : Lease) : k.After k := ⟨Nat.le_refl _, id, id, id, .inl⟩

lemma trans (h : k.After k') (h' : k'.After k'') : k.After k'' where
  refCount := h'.refCount.trans h.refCount
  kicked hk := h'.kicked (h.kicked hk)
  started hs := h.started (h'.started hs)
  reading hr := h'.reading (h.reading hr)
  halted hk := by
    rcases h'.halted hk with hk' | hr
    · rcases h.halted hk' with hk | hr
      · exact .inl hk
      · exact .inr (h'.reading hr)
    · exact .inr hr

end Lease.After

namespace Leases

variable {L M N : Leases} {t u : TPtr} {k k' : Lease} {host : Bool} {e : Event}

structure Idles (L M : Leases) (t : TPtr) : Prop where
  known : L.transports.next ≤ M.transports.next
  registers : (M.view t).registers = (L.view t).registers
  waiting : (M.view t).waiting = (L.view t).waiting
  trying : (M.view t).trying = (L.view t).trying
  lease : ∀ k', M.transports.get t = some k' → ∃ k, L.transports.get t = some k ∧ k.After k'
  packets : ∀ p, .packet t p ∈ M.runQueue → .packet t p ∈ L.runQueue

namespace Idles

lemma refl (L : Leases) (t : TPtr) : Idles L L t :=
  ⟨Nat.le_refl _, rfl, rfl, rfl, fun k hk => ⟨k, hk, .refl k⟩, fun _ h => h⟩

lemma trans (h : Idles L M t) (h' : Idles M N t) : Idles L N t where
  known := h.known.trans h'.known
  registers := h'.registers.trans h.registers
  waiting := h'.waiting.trans h.waiting
  trying := h'.trying.trans h.trying
  lease k'' hk'' := by
    obtain ⟨k', hk', hafter'⟩ := h'.lease k'' hk''
    obtain ⟨k, hk, hafter⟩ := h.lease k' hk'
    exact ⟨k, hk, hafter.trans hafter'⟩
  packets p hp := h.packets p (h'.packets p hp)

lemma set (hk : L.transports.get u = some k) (hafter : k.After k') (t : TPtr) :
    Idles L (L.set u k') t := by
  refine ⟨Nat.le_refl _, rfl, rfl, rfl, fun k'' hk'' => ?_, fun _ h => h⟩
  by_cases htu : t = u
  · subst htu
    rw [Leases.set, get_set_self hk, Option.some.injEq] at hk''
    exact ⟨k, hk, hk'' ▸ hafter⟩
  · rw [Leases.set, get_set_of_ne _ htu] at hk''
    exact ⟨k'', hk'', .refl k''⟩

lemma callOnce {c : Connection} (hk : L.transports.get u = some k)
    (hafter : k.After { k with connection := { c with errorFlag := true } }) (t : TPtr) :
    Idles L (L.callOnce u k c) t := by
  have hset := set hk hafter t
  refine ⟨hset.known, hset.registers, hset.waiting, hset.trying, hset.lease, fun p hp => ?_⟩
  unfold Leases.callOnce at hp
  split at hp
  · exact hp
  · simpa using hp

lemma stop (L : Leases) (u t : TPtr) : Idles L (L.stop u) t := by
  unfold Leases.stop
  split
  · exact .refl L t
  next k hk =>
  split
  · exact .refl L t
  · refine .callOnce hk ?_ t
    exact ⟨Nat.le_refl _, id, id, fun _ => by simp [Connection.reading], .inl⟩

end Idles

lemma reading_stop (hk : (L.stop t).transports.get t = some k) : k.connection.reading = false := by
  unfold Leases.stop at hk
  split at hk
  · next hnone =>
    rw [hnone] at hk
    cases hk
  next k0 hk0 =>
  split at hk
  · next hidle =>
    rw [hk0, Option.some.injEq] at hk
    subst hk
    simp only [Connection.reading]
    simp only [Bool.or_eq_true, Bool.not_eq_true'] at hidle
    rcases hidle with h | h
    · simp [h]
    · simp [h]
  · simp only [Leases.callOnce, Leases.set, get_set_self hk0, Option.some.injEq] at hk
    subst hk
    simp [Connection.reading]

lemma Minor.idles (h : Minor L M) (hlt : t < L.transports.next) : Idles L M t := by
  cases h with
  | permit hk =>
    refine .set hk ?_ t
    exact ⟨Nat.le_refl _, id, id, id, .inl⟩
  | @kick u k hk hnot =>
    have hstop := Idles.stop (L.set u { k with kicked := true }) u t
    refine ⟨hstop.known, hstop.registers, hstop.waiting, hstop.trying, fun k' hk' => ?_,
      hstop.packets⟩
    obtain ⟨k1, hk1, hafter⟩ := hstop.lease k' hk'
    by_cases htu : t = u
    · subst htu
      rw [Leases.set, get_set_self hk, Option.some.injEq] at hk1
      subst hk1
      refine ⟨k, hk, hafter.refCount, fun hkicked => ?_, hafter.started, hafter.reading,
        fun _ => .inr (reading_stop hk')⟩
      rw [hnot] at hkicked
      cases hkicked
    · rw [Leases.set, get_set_of_ne _ htu] at hk1
      exact ⟨k1, hk1, hafter⟩
  | add tcp noPerm =>
    have hne : t ≠ L.transports.next := Nat.ne_of_lt hlt
    have hview : (L.add { tcp := tcp, noPerm := noPerm }).view t = L.view t := by
      rw [Leases.add, view_post_register]
      simp [view, hne]
    have hlease : (L.add { tcp := tcp, noPerm := noPerm }).transports.get t =
        L.transports.get t := congrArg View.lease hview
    refine ⟨Nat.le_succ _, by rw [hview], by rw [hview], by rw [hview], fun k' hk' => ?_,
      fun _ h => h⟩
    rw [hlease] at hk'
    exact ⟨k', hk', .refl k'⟩
  | unlist => exact ⟨Nat.le_refl _, rfl, rfl, rfl, fun k hk => ⟨k, hk, .refl k⟩, fun _ hp => hp⟩

lemma Serves.idles (h : Serves L M) (hlt : t < L.transports.next) : Idles L M t := by
  induction h with
  | refl => exact .refl L t
  | tail _ hm ih => exact ih.trans (hm.idles (Nat.lt_of_lt_of_le hlt ih.known))

/-- What a step does with a transport for which there is no registration message, and which the
reconnect handler is not busy with. -/
structure Rests (L M : Leases) (t : TPtr) : Prop where
  known : t < M.transports.next
  registers : (M.view t).registers = 0
  waiting : (M.view t).waiting ≠ 0 → (L.view t).waiting ≠ 0 ∨ (L.view t).refs ≠ 0
  /-- the handler does not try a transport that has been kicked -/
  trying : (M.view t).trying ≠ 0 → (L.view t).waiting ≠ 0 ∧ M.kickedAt t = false
  lease : ∀ k', M.transports.get t = some k' → ∃ k, L.transports.get t = some k ∧ k.After k'
  packets : ∀ p, .packet t p ∈ M.runQueue → .packet t p ∈ L.runQueue ∨
    ∃ k, L.transports.get t = some k ∧ M.transports.get t = some k ∧ k.connection.reading = true

lemma Idles.rests (h : Idles L M t) (hlt : t < L.transports.next)
    (hreg : (L.view t).registers = 0) (htry : (L.view t).trying = 0) : Rests L M t where
  known := Nat.lt_of_lt_of_le hlt h.known
  registers := h.registers.trans hreg
  waiting hw := .inl (h.waiting ▸ hw)
  trying ht := absurd (h.trying.trans htry) ht
  lease := h.lease
  packets p hp := .inl (h.packets p hp)

lemma rests_of_view (hview : M.view t = L.view t) (hnext : M.transports.next = L.transports.next)
    (hqueue : M.runQueue = L.runQueue) (hlt : t < L.transports.next)
    (hreg : (L.view t).registers = 0) (htry : (L.view t).trying = 0) : Rests L M t := by
  have hlease : M.transports.get t = L.transports.get t := congrArg View.lease hview
  refine Idles.rests ⟨Nat.le_of_eq hnext.symm, by rw [hview], by rw [hview], by rw [hview],
    fun k hk => ⟨k, hlease ▸ hk, .refl k⟩, fun _ hp => hqueue ▸ hp⟩ hlt hreg htry

lemma unref_rests (host : Bool) (hk : L.transports.get u = some k) (hrefs : k.refCount ≠ 0)
    (hk' : k' = k ∨ k' = { k with noPerm := false }) (hlt : t < L.transports.next)
    (hreg : (L.view t).registers = 0) (htry : (L.view t).trying = 0) :
    Rests L (L.unref host u k') t := by
  have hless : k.After { k' with refCount := k'.refCount - 1 } := by
    rcases hk' with rfl | rfl
    · exact ⟨Nat.sub_le _ _, id, id, id, .inl⟩
    · exact ⟨Nat.sub_le _ _, id, id, id, .inl⟩
  have hset := Idles.set hk hless t
  have hstop := hset.trans (.stop _ u t)
  unfold Leases.unref
  split
  · split
    · refine ⟨Nat.lt_of_lt_of_le hlt hstop.known, hstop.registers.trans hreg, fun hw => ?_,
        fun ht => absurd (hstop.trying.trans htry) ht, hstop.lease, fun p hp => .inl (hstop.packets p hp)⟩
      by_cases htu : t = u
      · subst htu
        exact .inr (by simpa [View.refs, view, hk] using hrefs)
      rw [view_track] at hw
      simp only [htu, if_false, Nat.add_zero] at hw
      exact .inl (hstop.waiting ▸ hw)
    · refine Idles.rests ⟨hstop.known, ?_, hstop.waiting, hstop.trying, hstop.lease,
        hstop.packets⟩ hlt hreg htry
      rw [view_post_remove]
      exact hstop.registers
  · exact hset.rests hlt hreg htry

lemma view_of_register_ne {rest : List TMsg} (hmsg : L.registration = .register u :: rest)
    (hreg : (L.view t).registers = 0) :
    t ≠ u ∧ ({ L with registration := rest } : Leases).view t = L.view t := by
  have hview := view_of_register hmsg t
  have hne : t ≠ u := by
    rintro rfl
    rw [hview] at hreg
    simp at hreg
  exact ⟨hne, by rw [hview]; simp [hne]⟩

lemma view_of_trying_ne {a : ReconnectAttempt} (ha : L.reconnecting = some a)
    (htry : (L.view t).trying = 0) :
    t ≠ a.transport ∧ ({ L with reconnecting := none } : Leases).view t = L.view t := by
  have hview := view_of_trying ha t
  have hne : t ≠ a.transport := by
    rintro rfl
    rw [hview] at htry
    simp at htry
  refine ⟨hne, ?_⟩
  rw [hview]
  simp [hne, view]

lemma sweep_rests (hlt : t < L.transports.next) (hreg : (L.view t).registers = 0)
    (htry : (L.view t).trying = 0) : Rests L L.sweep t := by
  have halike := L.view_sweep_alike t
  refine ⟨hlt, halike.registers.trans hreg, fun hw => .inl fun hnone => hw ?_,
    fun ht => absurd htry ht, fun k hk => ⟨k, hk, .refl k⟩, fun _ hp => .inl hp⟩
  have hsum := countP_sweep L.kickedAt L.reconnectQueue t
  simp only [view, sweep] at hnone ⊢
  omega

lemma Step.rests (h : Step host e L M) (hlt : t < L.transports.next)
    (hreg : (L.view t).registers = 0) (htry : (L.view t).trying = 0) :
    e ≠ .start t ∧ Rests L M t := by
  cases h with
  | serve hs => exact ⟨by simp, (hs.idles hlt).rests hlt hreg htry⟩
  | handle rest hq hs =>
    have hpop : Idles L { L with runQueue := rest } t :=
      ⟨Nat.le_refl _, rfl, rfl, rfl, fun k hk => ⟨k, hk, .refl k⟩, fun p hp => by
        rw [hq]
        exact mem_cons_of_mem _ hp⟩
    exact ⟨by simp, (hpop.trans (hs.idles hlt)).rests hlt hreg htry⟩
  | @read _ u k p hk hreading =>
    refine ⟨by simp, hlt, hreg, .inl, fun ht => absurd htry ht, fun k hk => ⟨k, hk, .refl k⟩,
      fun q hq => ?_⟩
    simp only [mem_append, mem_singleton, RunFn.packet.injEq] at hq
    rcases hq with hq | ⟨rfl, -⟩
    · exact .inl hq
    · exact .inr ⟨k, hk, hk, hreading⟩
  | fail hk hstarted hrunning hc =>
    refine ⟨by simp, (Idles.callOnce hk ?_ t).rests hlt hreg htry⟩
    rcases hc with rfl | rfl
    · exact ⟨Nat.le_refl _, id, id, id, .inl⟩
    · exact ⟨Nat.le_refl _, id, id, fun _ => by simp [Connection.reading], .inl⟩
  | @unref _ u k k' rest hq hk hk' hrefs =>
    have hrests : Rests { L with runQueue := rest } _ t :=
      unref_rests host hk hrefs hk' hlt hreg htry
    refine ⟨by simp, hrests.known, hrests.registers, hrests.waiting, hrests.trying, hrests.lease,
      fun p hp => (hrests.packets p hp).imp_left fun hrest => ?_⟩
    rw [hq]
    exact mem_cons_of_mem _ hrest
  | @start _ u k rest hmsg hk hnew hperm =>
    obtain ⟨hne, hview⟩ := view_of_register_ne hmsg hreg
    refine ⟨by simpa using Ne.symm hne, rests_of_view ?_ ?_ runQueue_enlist hlt hreg htry⟩
    · rw [view_enlist, view_set_of_ne hne, hview]
    · rw [transports_enlist]
      rfl
  | @pass _ u k rest hmsg hk hperm =>
    refine ⟨by simp, rests_of_view ?_ ?_ runQueue_enlist hlt hreg htry⟩
    · rw [view_enlist]
      exact (view_of_register_ne hmsg hreg).2
    · rw [transports_enlist]
  | @remove _ u rest hmsg =>
    have hstop := Idles.stop { L with registration := rest } u t
    rw [view_of_remove hmsg] at hreg
    refine ⟨by simp, Nat.lt_of_lt_of_le hlt hstop.known, hstop.registers.trans hreg,
      fun hw => .inl (hstop.waiting ▸ hw), fun ht => absurd (hstop.trying.trans htry) ht,
      fun k hk => ?_, fun p hp => .inl (hstop.packets p hp)⟩
    by_cases htu : t = u
    · subst htu
      rw [Leases.drop, get_free_self] at hk
      cases hk
    · rw [Leases.drop, get_free_of_ne htu] at hk
      exact hstop.lease k hk
  | scan hidle => exact ⟨by simp, sweep_rests hlt hreg htry⟩
  | attempt i hidle =>
    have hsweep : Rests L L.sweep t := sweep_rests hlt hreg htry
    refine ⟨by simp, hsweep.known, hsweep.registers, fun hw => hsweep.waiting fun hnone => hw ?_,
      fun ht => ?_, hsweep.lease, hsweep.packets⟩
    · have hsplit := countP_eraseIdx (fun a => decide (a.transport = t)) L.sweep.reconnectQueue i
      simp only [view] at hnone ⊢
      omega
    cases ha : L.sweep.reconnectQueue[i]? with
    | none => simp [view, ha] at ht
    | some a =>
      have hat : a.transport = t := by simpa [view, ha] using ht
      have hmem := mem_of_getElem? ha
      simp only [sweep, mem_filter, Bool.not_eq_true', hat] at hmem
      refine ⟨Nat.ne_of_gt (countP_pos_iff.mpr ⟨a, hmem.1, ?_⟩), hmem.2⟩
      simpa using hat
  | @retry _ a n ha =>
    obtain ⟨hne, hview⟩ := view_of_trying_ne ha htry
    refine ⟨by simp, rests_of_view ?_ rfl rfl hlt hreg htry⟩
    rw [view_track, hview]
    simp [hne]
  | @giveUp _ a ha =>
    obtain ⟨hne, hview⟩ := view_of_trying_ne ha htry
    refine ⟨by simp, rests_of_view ?_ rfl rfl hlt hreg htry⟩
    rw [view_post_remove, hview]
    simp [hne]
  | @success _ a k ha hk =>
    obtain ⟨hne, hview⟩ := view_of_trying_ne ha htry
    refine ⟨by simp, rests_of_view ?_ rfl rfl hlt hreg htry⟩
    rw [view_post_register, view_set_of_ne hne, hview]
    simp [hne]

/-! ## Transports that are to be deleted -/

structure Doomed (L : Leases) (t : TPtr) : Prop where
  known : t < L.transports.next
  registers : (L.view t).registers = 0
  trying : (L.view t).trying = 0
  waiting : (L.view t).waiting = 0
  refs : (L.view t).refs = 0

lemma Doomed.step (h : Doomed L t) (hstep : Step host e L M) : e ≠ .start t ∧ Doomed M t := by
  obtain ⟨hevent, hrests⟩ := hstep.rests h.known h.registers h.trying
  refine ⟨hevent, hrests.known, hrests.registers, ?_, ?_, ?_⟩
  · by_contra ht
    exact (hrests.trying ht).1 h.waiting
  · by_contra hw
    rcases hrests.waiting hw with hne | hne
    · exact hne h.waiting
    · exact hne h.refs
  · cases hk' : M.transports.get t with
    | none => simp [View.refs, view, hk']
    | some k' =>
      obtain ⟨k, hk, hafter⟩ := hrests.lease k' hk'
      have hzero := h.refs
      have hle := hafter.refCount
      simp only [View.refs, view, hk, hk', Option.map_some, Option.getD_some] at hzero ⊢
      omega

lemma Ok.doomed (h : L.Ok) (hmsg : .remove t ∈ L.registration) : Doomed L t := by
  have hcount : (L.view t).removes ≠ 0 := Nat.ne_of_gt (count_pos_iff.mpr hmsg)
  cases hk : L.transports.get t with
  | none =>
    have hnone := (h.gone hk).1
    simp only [View.tokens] at hnone
    omega
  | some k =>
    obtain ⟨hrefs, htokens⟩ := h.of_message hk (by omega)
    simp only [View.tokens] at htokens
    exact ⟨lt_next hk, by omega, by omega, by omega, by simpa [View.refs, view, hk] using hrefs⟩

lemma Booked.doomed {b : TPtr → Book} (h : L.Booked b) (hok : L.Ok) (hb : (b t).removals ≠ 0) :
    Doomed L t := by
  have hnone := (h.books t).removed hb
  obtain ⟨htokens, -⟩ := hok.gone hnone
  simp only [View.tokens] at htokens
  refine ⟨?_, by omega, by omega, by omega, by simp [View.refs, hnone]⟩
  by_contra hle
  rw [h.fresh t (Nat.le_of_not_lt hle)] at hb
  exact hb rfl

/-! ## Transports that have been kicked -/

/-- `t` is not about to be started, and no packet is queued that makes it online. -/
structure Settled (L : Leases) (t : TPtr) : Prop where
  known : t < L.transports.next
  registers : (L.view t).registers = 0
  trying : (L.view t).trying = 0
  packets : ∀ p, .packet t p ∈ L.runQueue → p.msg.command ≠ A_CNXN

/-- A transport that has been kicked is settled, and its connection does not read. -/
structure Final (L : Leases) (t : TPtr) : Prop extends Settled L t where
  halted : ∀ k, L.transports.get t = some k → k.connection.reading = false

lemma kickedAt_eq (hk : L.transports.get t = some k) : L.kickedAt t = k.kicked := by
  simp [kickedAt, hk]

lemma kickedAt_some (h : L.kickedAt t = true) :
    ∃ k, L.transports.get t = some k ∧ k.kicked = true := by
  simpa [kickedAt, Option.any_eq_true] using h

lemma final_step (h : ∀ t, L.kickedAt t = true → Final L t) (hstep : Step host e L M)
    (hkicks : ∀ t, M.kickedAt t = true → L.kickedAt t = false → Settled L t)
    (hkicked : M.kickedAt t = true) : Final M t := by
  obtain ⟨k', hk', hkick'⟩ := kickedAt_some hkicked
  have hsettled : Settled L t := by
    cases hbefore : L.kickedAt t with
    | true => exact (h t hbefore).toSettled
    | false => exact hkicks t hkicked hbefore
  obtain ⟨-, hrests⟩ := hstep.rests hsettled.known hsettled.registers hsettled.trying
  have hhalted (k : Lease) (hk : L.transports.get t = some k) (hkick : k.kicked = true) :
      k.connection.reading = false := (h t ((kickedAt_eq hk).trans hkick)).halted k hk
  refine ⟨⟨hrests.known, hrests.registers, ?_, fun p hp => ?_⟩, fun k'' hk'' => ?_⟩
  · by_contra htry
    rw [(hrests.trying htry).2] at hkicked
    cases hkicked
  · rcases hrests.packets p hp with hold | ⟨k, hk, hkM, hreading⟩
    · exact hsettled.packets p hold
    rw [hk', Option.some.injEq] at hkM
    rw [hhalted k hk (hkM ▸ hkick')] at hreading
    cases hreading
  · rw [hk', Option.some.injEq] at hk''
    subst hk''
    obtain ⟨k, hk, hafter⟩ := hrests.lease k' hk'
    rcases hafter.halted hkick' with hkick | hreading
    · exact hafter.reading (hhalted k hk hkick)
    · exact hreading

end Leases

end Adb

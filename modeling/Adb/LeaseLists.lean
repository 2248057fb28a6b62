import Adb.Leases

/-!
# The lists of transports

A transport leaves the lists only after its connection has been stopped (`Running.step`): the
message that has it removed is sent when the connection has given its reference back.
-/

namespace Adb

open Lib List Store

namespace Leases

variable {L M N : Leases} {t u : TPtr} {k k' : Lease} {host : Bool} {e : Event}

def Listed (L : Leases) (t : TPtr) : Prop := t ∈ L.pendingList ∨ t ∈ L.transportList

def startedAt (L : Leases) (t : TPtr) : Bool := (L.transports.get t).any (·.connection.started)

def stoppedAt (L : Leases) (t : TPtr) : Bool := (L.transports.get t).any (·.connection.stopped)

structure Running (L : Leases) (t : TPtr) : Prop where
  lease : ∃ k, L.transports.get t = some k ∧ k.tcp = true ∧ k.connection.stopped = false
  removes : (L.view t).removes = 0
  waiting : (L.view t).waiting = 0
  trying : (L.view t).trying = 0

structure Closes (L M : Leases) (t : TPtr) : Prop where
  started : L.startedAt t = true
  running : L.stoppedAt t = false
  stopped : M.stoppedAt t = true

structure Stays (L M : Leases) (t : TPtr) : Prop where
  running : Running M t
  listed : L.Listed t → M.Listed t
  registers : (M.view t).registers ≤ (L.view t).registers
  started : M.startedAt t = L.startedAt t

/-! ## Lists -/

lemma Listed.enlist (h : L.Listed t) (u : TPtr) : (L.enlist u).Listed t := by
  unfold Leases.enlist
  split
  · by_cases htu : t = u
    · exact .inr (by simp [htu])
    · exact h.imp (fun hp => mem_filter.mpr ⟨hp, by simpa using htu⟩) (mem_cons_of_mem _)
  · exact h

lemma Listed.unlist (h : L.Listed t) (htu : t ≠ u) : (L.unlist u).Listed t :=
  h.imp_right fun hl => mem_filter.mpr ⟨hl, by simpa using htu⟩

/-! ## The single operations -/

lemma Stays.refl (h : Running L t) : Stays L L t := ⟨h, id, Nat.le_refl _, rfl⟩

lemma Stays.trans (h : Stays L M t) (h' : Stays M N t) : Stays L N t :=
  ⟨h'.running, fun hl => h'.listed (h.listed hl), h'.registers.trans h.registers,
    h'.started.trans h.started⟩

lemma Stays.of_view (h : Running L t)
    (hview : M.view t = { L.view t with errors := (M.view t).errors })
    (hlisted : L.Listed t → M.Listed t) : Stays L M t := by
  have hget : M.transports.get t = L.transports.get t := congrArg View.lease hview
  refine ⟨⟨?_, ?_, ?_, ?_⟩, hlisted, ?_, ?_⟩
  · rw [hget]
    exact h.lease
  · rw [hview]
    exact h.removes
  · rw [hview]
    exact h.waiting
  · rw [hview]
    exact h.trying
  · rw [hview]
  · rw [startedAt, hget]
    rfl

lemma Stays.set (h : Running L t) (hk : L.transports.get u = some k) (htcp : k'.tcp = k.tcp)
    (hstarted : k'.connection.started = k.connection.started)
    (hstopped : k'.connection.stopped = k.connection.stopped) : Stays L (L.set u k') t := by
  by_cases htu : t = u
  · subst htu
    obtain ⟨k0, hk0, htcp0, hrunning⟩ := h.lease
    rw [hk] at hk0
    cases hk0
    have hget : (L.set t k').transports.get t = some k' := get_set_self hk k'
    refine ⟨⟨⟨k', hget, htcp.trans htcp0, hstopped.trans hrunning⟩, h.removes, h.waiting, h.trying⟩,
      id, Nat.le_refl _, ?_⟩
    rw [startedAt, startedAt, hget, hk]
    exact hstarted
  · exact .of_view h (by rw [view_set_of_ne htu]) id

lemma stays_callOnce {c : Connection} (h : Running L t) (hk : L.transports.get u = some k)
    (hstarted : c.started = k.connection.started) (hstopped : c.stopped = k.connection.stopped) :
    Stays L (L.callOnce u k c) t := by
  have hset : Stays L (L.set u { k with connection := { c with errorFlag := true } }) t :=
    .set h hk rfl hstarted hstopped
  exact ⟨⟨hset.running.lease, hset.running.removes, hset.running.waiting, hset.running.trying⟩,
    hset.listed, hset.registers, hset.started⟩

lemma Running.stop (h : Running L t) (u : TPtr) : Stays L (L.stop u) t ∨ Closes L (L.stop u) t := by
  unfold Leases.stop
  cases hk : L.transports.get u with
  | none => exact .inl (.refl h)
  | some k =>
    dsimp only
    split
    · exact .inl (.refl h)
    next hrunning =>
    simp only [Bool.or_eq_true, Bool.not_eq_true', not_or, Bool.not_eq_false, Bool.not_eq_true]
      at hrunning
    by_cases htu : t = u
    · subst htu
      refine .inr ⟨?_, ?_, ?_⟩
      · rw [startedAt, hk]
        exact hrunning.1
      · rw [stoppedAt, hk]
        exact hrunning.2
      · rw [stoppedAt]
        simp [Leases.callOnce, Leases.set, get_set_self hk]
    · refine .inl ?_
      refine .of_view h ?_ id
      simp [view, Leases.callOnce, Leases.set, htu]

lemma Running.minor (h : Running L t) (hm : Minor L M) : Stays L M t ∨ Closes L M t := by
  cases hm with
  | permit hk => exact .inl (.set h hk rfl rfl rfl)
  | @kick u k hk =>
    have hset : Stays L (L.set u { k with kicked := true }) t := .set h hk rfl rfl rfl
    rcases hset.running.stop u with hstays | hcloses
    · exact .inl (hset.trans hstays)
    refine .inr ⟨hset.started ▸ hcloses.started, ?_, hcloses.stopped⟩
    obtain ⟨k0, hk0, -, hrunning⟩ := h.lease
    rw [stoppedAt, hk0]
    exact hrunning
  | add tcp noPerm =>
    obtain ⟨k, hk, -⟩ := h.lease
    have hne : t ≠ L.transports.next := ne_next hk
    refine .inl (.of_view h ?_ fun hl => hl.imp_left (mem_cons_of_mem _))
    rw [Leases.add, view_post_register]
    simp [view, hne]
  | @unlist u k hk husb =>
    have htu : t ≠ u := by
      intro heq
      obtain ⟨k0, hk0, htcp, -⟩ := h.lease
      rw [heq, hk] at hk0
      cases hk0
      rw [husb] at htcp
      cases htcp
    exact .inl (.of_view h rfl fun hl => hl.unlist htu)

lemma stoppedAt_stop (h : L.stoppedAt t = true) : (L.stop u).stoppedAt t = true := by
  unfold Leases.stop
  cases hk : L.transports.get u with
  | none => exact h
  | some k =>
    dsimp only
    split
    · exact h
    by_cases htu : t = u
    · subst htu
      simp [stoppedAt, Leases.callOnce, Leases.set, get_set_self hk]
    · simpa [stoppedAt, Leases.callOnce, Leases.set, htu] using h

lemma stoppedAt_set (h : L.stoppedAt t = true) (hk : L.transports.get u = some k)
    (hstopped : k'.connection.stopped = k.connection.stopped) :
    (L.set u k').stoppedAt t = true := by
  by_cases htu : t = u
  · subst htu
    rw [stoppedAt, hk] at h
    rw [stoppedAt, Leases.set, get_set_self hk]
    exact hstopped.trans h
  · simpa [stoppedAt, Leases.set, htu] using h

lemma Minor.stoppedAt (hm : Minor L M) (h : L.stoppedAt t = true) : M.stoppedAt t = true := by
  cases hm with
  | permit hk => exact stoppedAt_set h hk rfl
  | @kick u k hk =>
    have hset : (L.set u { k with kicked := true }).stoppedAt t = true := stoppedAt_set h hk rfl
    exact stoppedAt_stop hset
  | add tcp noPerm =>
    have hne : t ≠ L.transports.next := by
      intro heq
      rw [Leases.stoppedAt, heq, get_next] at h
      cases h
    simpa [Leases.stoppedAt, Leases.add, post, hne] using h
  | unlist => exact h

lemma Running.serves (h : Running L t) (hs : Serves L M) : Stays L M t ∨ Closes L M t := by
  induction hs with
  | refl => exact .inl (.refl h)
  | tail _ hm ih =>
    rcases ih with hstays | hcloses
    · rcases hstays.running.minor hm with hstays' | hcloses
      · exact .inl (hstays.trans hstays')
      refine .inr ⟨hstays.started ▸ hcloses.started, ?_, hcloses.stopped⟩
      obtain ⟨k, hk, -, hrunning⟩ := h.lease
      rw [stoppedAt, hk]
      exact hrunning
    · exact .inr ⟨hcloses.started, hcloses.running, hm.stoppedAt hcloses.stopped⟩

/-! ## Steps -/

lemma Running.sweep (h : Running L t) : Stays L L.sweep t := by
  have hsum := countP_sweep L.kickedAt L.reconnectQueue t
  have hwaiting : L.reconnectQueue.countP (·.transport = t) = 0 := h.waiting
  have hremoves : L.registration.count (.remove t) = 0 := h.removes
  refine ⟨⟨h.lease, ?_, ?_, h.trying⟩, id, Nat.le_of_eq (L.view_sweep_alike t).registers, rfl⟩
  · simp only [view, Leases.sweep, count_append]
    omega
  · simp only [view, Leases.sweep]
    omega

lemma Running.attempt (h : Running L t) (i : ℕ) :
    Stays L { L with
      reconnectQueue := L.reconnectQueue.eraseIdx i
      reconnecting := L.reconnectQueue[i]? } t := by
  have hsplit := countP_eraseIdx (fun a => decide (a.transport = t)) L.reconnectQueue i
  have hwaiting : L.reconnectQueue.countP (·.transport = t) = 0 := h.waiting
  refine ⟨⟨h.lease, h.removes, ?_, ?_⟩, id, Nat.le_refl _, rfl⟩
  · simp only [view]
    omega
  · simp only [view]
    omega

lemma Running.ne_of_trying {a : ReconnectAttempt} (h : Running L t)
    (ha : L.reconnecting = some a) : t ≠ a.transport := by
  intro heq
  have htrying := h.trying
  rw [view_of_trying ha, if_pos heq] at htrying
  cases htrying

lemma Stays.enlist (h : Running L t) (u : TPtr) : Stays L (L.enlist u) t :=
  .of_view h (by rw [view_enlist]) fun hl => hl.enlist u

lemma Running.pop {rest : List TMsg} (h : Running L t)
    (hmsg : L.registration = .register u :: rest) : Stays L { L with registration := rest } t := by
  have hview := view_of_register hmsg t
  have hremoves := h.removes
  rw [hview] at hremoves
  refine ⟨⟨h.lease, hremoves, h.waiting, h.trying⟩, id, ?_, rfl⟩
  rw [hview]
  exact Nat.le_add_right _ _

lemma Running.step (hok : L.Ok) (h : Running L t) (hstep : Step host e L M) :
    Stays L M t ∨ Closes L M t ∨
      (Running M t ∧ (L.Listed t → M.Listed t) ∧ (L.view t).registers ≠ 0) := by
  have hlease := h.lease
  have hrunning : L.stoppedAt t = false := by
    obtain ⟨k, hk, -, hrunning⟩ := h.lease
    rw [stoppedAt, hk]
    exact hrunning
  cases hstep with
  | serve hs => exact (h.serves hs).imp_right .inl
  | handle rest hq hs =>
    have hpop : Stays L { L with runQueue := rest } t := .of_view h rfl id
    rcases hpop.running.serves hs with hstays | hcloses
    · exact .inl (hpop.trans hstays)
    · exact .inr (.inl ⟨hcloses.started, hcloses.running, hcloses.stopped⟩)
  | read => exact .inl (.of_view h rfl id)
  | fail hk hstarted hrunning hc =>
    rcases hc with rfl | rfl
    · exact .inl (stays_callOnce h hk rfl rfl)
    · exact .inl (stays_callOnce h hk rfl rfl)
  | @unref _ u k k' rest hq hk hk' hrefs =>
    obtain ⟨hone, hstarted, hflag, -, -⟩ := hok.of_error hq hk hrefs
    obtain ⟨hrefs', hc'⟩ : k'.refCount = 1 ∧ k'.connection = k.connection := by
      rcases hk' with rfl | rfl
      · exact ⟨hone, rfl⟩
      · exact ⟨hone, rfl⟩
    rw [← hc'] at hstarted hflag
    have hget : ({ L with runQueue := rest } : Leases).transports.get u = some k := hk
    by_cases htu : t = u
    · subst htu
      have hlease := view_unref host hget hrefs' hstarted hflag t
      rw [if_pos rfl] at hlease
      have hidled : (Leases.unref host { L with runQueue := rest } t k').transports.get t =
          some k'.idled := hlease.1
      refine .inr (.inl ⟨?_, hrunning, ?_⟩)
      · rw [startedAt, hk, Option.any_some, ← hc']
        exact hstarted
      · rw [stoppedAt, hidled]
        rfl
    · refine .inl ?_
      rw [unref_eq hget hrefs' hstarted hflag]
      split
      · refine .of_view h ?_ id
        rw [view_track, view_set_of_ne htu]
        simp [view, htu]
      · refine .of_view h ?_ id
        rw [view_post_remove, view_set_of_ne htu]
        simp [view, htu]
  | @start _ u k rest hmsg hk hnew hperm =>
    have hpop := h.pop hmsg
    by_cases htu : t = u
    · subst htu
      obtain ⟨k0, hk0, htcp, hstopped⟩ := hlease
      rw [hk] at hk0
      cases hk0
      have hstart : Running (({ L with registration := rest } : Leases).set t
          { k with
            refCount := k.refCount + 1
            connection := { k.connection with started := true } }) t :=
        ⟨⟨_, get_set_self hk _, htcp, hstopped⟩, hpop.running.removes, hpop.running.waiting,
          hpop.running.trying⟩
      have henlist := Stays.enlist hstart t
      refine .inr (.inr ⟨henlist.running, henlist.listed, ?_⟩)
      rw [view_of_register hmsg]
      simp
    · have hset : Stays { L with registration := rest } (({ L with registration := rest } : Leases).set u
          { k with
            refCount := k.refCount + 1
            connection := { k.connection with started := true } }) t :=
        .of_view hpop.running (by rw [view_set_of_ne htu]) id
      exact .inl ((hpop.trans hset).trans (.enlist hset.running u))
  | @pass _ u k rest hmsg hk hperm =>
    have hpop := h.pop hmsg
    exact .inl (hpop.trans (.enlist hpop.running u))
  | @remove _ u rest hmsg =>
    have htu : t ≠ u := by
      intro heq
      have hremoves := h.removes
      rw [view_of_remove hmsg, if_pos heq] at hremoves
      cases hremoves
    obtain ⟨k, hk, -, -, hstop⟩ := hok.of_remove hmsg
    rw [hstop]
    refine .inl (.of_view h ?_ fun hl => hl.unlist htu)
    rw [view_drop_of_ne hmsg htu]
  | scan => exact .inl h.sweep
  | attempt i hidle => exact .inl (h.sweep.trans (h.sweep.running.attempt i))
  | retry ha =>
    have hne := h.ne_of_trying ha
    refine .inl (.of_view h ?_ id)
    rw [view_track, view_of_trying ha]
    simp [view, hne]
  | giveUp ha =>
    have hne := h.ne_of_trying ha
    refine .inl (.of_view h ?_ id)
    rw [view_post_remove, view_of_trying ha]
    simp [view, hne]
  | success ha hk =>
    have hne := h.ne_of_trying ha
    refine .inl (.of_view h ?_ id)
    rw [view_post_register, view_set_of_ne hne, view_of_trying ha]
    simp [view, hne]

/-! ## Transports that are being made -/

structure Raw (L : Leases) (t : TPtr) : Prop extends Running L t where
  registers : (L.view t).registers = 0
  started : L.startedAt t = false

lemma Raw.of_stays (h : Raw L t) (hstays : Stays L M t) : Raw M t :=
  ⟨hstays.running, by have := hstays.registers; have := h.registers; omega,
    hstays.started.trans h.started⟩

lemma Raw.step {e : Event} (hok : L.Ok) (h : Raw L t) (hstep : Step host e L M) : Raw M t := by
  rcases h.toRunning.step hok hstep with hstays | hcloses | ⟨-, -, hregisters⟩
  · exact h.of_stays hstays
  · have hstarted := hcloses.started
    rw [h.started] at hstarted
    cases hstarted
  · exact absurd h.registers hregisters

lemma Ok.alloc (h : L.Ok) (hrefs : k.refCount = 0) (hc : k.connection = {}) :
    ({ L with transports := L.transports.alloc k } : Leases).Ok := by
  obtain ⟨htokens, herrors⟩ := h.gone (t := L.transports.next) get_next
  refine h.of_view L.transports.next (fun u hu => by simp [view, hu]) ?_
  have hview : ({ L with transports := L.transports.alloc k } : Leases).view L.transports.next =
      { L.view L.transports.next with lease := some k } := by
    simp [view]
  rw [hview]
  show View.Owned _ k
  have hregisters : (L.view L.transports.next).registers = 0 := by
    rw [View.tokens] at htokens
    omega
  refine ⟨?_, ?_, ?_, ?_, ?_, ?_, ?_⟩
  · simp only [View.tokens] at htokens ⊢
    omega
  · simp [hrefs, herrors]
  · intro hone
    omega
  · simp [hc]
  · simp [hc]
  · simp [hc]
  · simp [hregisters]

lemma raw_alloc (h : L.Ok) (htcp : k.tcp = true) (hc : k.connection = {}) :
    Raw { L with transports := L.transports.alloc k } L.transports.next := by
  obtain ⟨htokens, -⟩ := h.gone (t := L.transports.next) get_next
  rw [View.tokens] at htokens
  have hview : ({ L with transports := L.transports.alloc k } : Leases).view L.transports.next =
      { L.view L.transports.next with lease := some k } := by
    simp [view]
  refine ⟨⟨⟨k, get_alloc_self, htcp, by simp [hc]⟩, ?_, ?_, ?_⟩, ?_, ?_⟩
  · rw [hview]
    show (L.view L.transports.next).removes = 0
    omega
  · rw [hview]
    show (L.view L.transports.next).waiting = 0
    omega
  · rw [hview]
    show (L.view L.transports.next).trying = 0
    omega
  · rw [hview]
    show (L.view L.transports.next).registers = 0
    omega
  · simp [startedAt, hc]

def pend (L : Leases) (t : TPtr) : Leases :=
  ({ L with pendingList := t :: L.pendingList } : Leases).post (.register t)

lemma view_pend :
    (L.pend t).view u =
      { L.view u with registers := (L.view u).registers + if u = t then 1 else 0 } := by
  rw [pend, view_post_register]
  rfl

lemma Ok.pend (h : L.Ok) (hraw : Raw L t) : (L.pend t).Ok := by
  refine h.of_view t (fun u hut => ?_) ?_
  · rw [view_pend]
    simp [hut]
  obtain ⟨k, hk, -, -⟩ := hraw.lease
  have ho := h.owned hk
  have hnew : k.connection.started = false := by
    have hstarted := hraw.started
    rw [startedAt, hk] at hstarted
    exact hstarted
  have hrefs : k.refCount = 0 := by
    by_contra hne
    have hone := ho.one
    have hstarted := ho.started (by omega)
    rw [hnew] at hstarted
    cases hstarted
  rw [view_pend]
  unfold View.Ok
  rw [show (L.view t).lease = some k from hk]
  show View.Owned _ k
  refine ⟨?_, ?_, ho.started, ho.stopped, ho.flagged, ho.fresh, fun _ => hnew⟩
  · have hregisters := hraw.registers
    have hremoves := hraw.removes
    have hwaiting := hraw.waiting
    have htrying := hraw.trying
    simp only [View.tokens, if_true]
    omega
  · exact ho.errors

lemma Running.pend (h : Running L u) (t : TPtr) : Running (L.pend t) u := by
  refine ⟨h.lease, ?_, ?_, ?_⟩
  · rw [view_pend]
    exact h.removes
  · rw [view_pend]
    exact h.waiting
  · rw [view_pend]
    exact h.trying

lemma Raw.pend (h : Raw L u) (hut : u ≠ t) : Raw (L.pend t) u := by
  refine ⟨h.toRunning.pend t, ?_, h.started⟩
  rw [view_pend]
  simp [hut, h.registers]

end Leases

end Adb

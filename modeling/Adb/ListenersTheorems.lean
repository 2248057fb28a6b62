import Adb.ServerInv

/-!
# Listeners, kicks and forward requests

The functions that serve requests without touching the connection state of a transport or the
sockets: each of them is an ordinary step of the server.
-/

namespace Adb

open Lib List Store

namespace Server

variable {σ τ : Server} {t : TPtr} {tr tr' : ATransport}

lemma transport_eq (htr : σ.transports.get t = some tr) : σ.transport t = .ok tr := by
  rw [transport, htr]
  rfl

lemma transport_none (htr : σ.transports.get t = none) : σ.transport t = .error .dangling := by
  rw [transport, htr]
  rfl

lemma get_setTransport_self (htr : σ.transports.get t = some tr) (tr' : ATransport) :
    (σ.setTransport t tr').transports.get t = some tr' := get_set_self htr tr'

lemma get_setTransport_of_ne {u : TPtr} (hut : u ≠ t) :
    (σ.setTransport t tr').transports.get u = σ.transports.get u := get_set_of_ne _ hut tr'

lemma transport_spec :
    Sat (σ.transport t) (fun tr => σ.transports.get t = some tr) (· = .dangling) := by
  unfold transport
  cases h : σ.transports.get t with
  | none => rfl
  | some tr => rfl

/-! ## Steps apart from the sockets -/

/-- An ordinary step that leaves the sockets alone; clients may be told something. -/
structure Apart (σ τ : Server) : Prop where
  ordinary : Ordinary [] σ τ
  socks : ∃ obs, τ.socks = σ.socks.emits obs

namespace Apart

lemma ofOrdinary (h : Ordinary [] σ τ) (hs : τ.socks = σ.socks) : Apart σ τ :=
  ⟨h, [], by simp [hs, Sockets.emits]⟩

lemma refl (σ : Server) : Apart σ σ := .ofOrdinary (.refl σ) rfl

lemma trans {ρ : Server} (h : Apart σ τ) (h' : Apart τ ρ) : Apart σ ρ := by
  obtain ⟨obs, hobs⟩ := h.socks
  obtain ⟨obs', hobs'⟩ := h'.socks
  exact ⟨h.ordinary.trans h'.ordinary, obs ++ obs', by simp [hobs', hobs, Sockets.emits]⟩

end Apart

/-! ## Kicking -/

lemma connectionStop_apart : Sat (connectionStop t σ) (Apart σ) (· = .dangling) := by
  refine transport_spec.bind fun tr htr => ?_
  dsimp only
  split
  · exact .refl σ
  simp only [sat_pure, setTransport]
  split
  · exact .ofOrdinary (.setTransport htr (by exact ⟨rfl, rfl, rfl, rfl, rfl⟩) (by simp) _) rfl
  · exact .ofOrdinary (.setTransport htr (by exact ⟨rfl, rfl, rfl, rfl, rfl⟩) (by simp) _) rfl

lemma kick_apart : Sat (kick t σ) (Apart σ) (· = .dangling) := by
  refine transport_spec.bind fun tr htr => ?_
  split
  · exact .refl σ
  have hset : Apart σ (σ.setTransport t { tr with kicked := true }) :=
    .ofOrdinary (.setTransport htr (by exact ⟨rfl, rfl, rfl, rfl, rfl⟩) (by simp) _) rfl
  exact connectionStop_apart.imp fun τ hτ => hset.trans hτ

lemma kickTransport_apart : Sat (kickTransport t σ) (Apart σ) (· = .dangling) := by
  unfold kickTransport
  split
  · exact kick_apart
  · exact .refl σ

lemma kickAll_apart {select : ATransport → Bool} {list : List TPtr} :
    Sat (kickAll select list σ) (Apart σ) (· = .dangling) := by
  induction list generalizing σ with
  | nil => exact .refl σ
  | cons t rest ih =>
    refine transport_spec.bind fun tr _ => ?_
    split
    · refine kick_apart.bind fun τ hτ => ?_
      exact ih.imp fun ρ hρ => hτ.trans hρ
    · exact ih

/-! ## New transports -/

lemma tokens_addTransport :
    (addTransport tr σ).tokens t = σ.tokens t + if t = σ.transports.next then 1 else 0 := by
  unfold tokens addTransport
  have hlast : [TMsg.register σ.transports.next].countP (·.transport = t) =
      if t = σ.transports.next then 1 else 0 := by
    simp [countP_singleton, TMsg.transport, eq_comm]
  simp only [countP_append, hlast]
  omega

private lemma addTransport_ordinary (hnew : tr.New) :
    Ordinary [] σ (addTransport tr σ) where
  socks := .refl
  transports t tr' htr' := by
    by_cases ht : t = σ.transports.next
    · subst ht
      rw [addTransport, get_alloc_self] at htr'
      cases htr'
      exact .inr ⟨Nat.le_refl _, hnew.connectionState, hnew.online, hnew.refCount,
        hnew.maxPayload, hnew.terms⟩
    · rw [addTransport, get_alloc_of_ne ht] at htr'
      exact .inl ⟨tr', htr', .refl tr'⟩
  kept t tr htr :=
    ⟨tr, (get_alloc_of_ne (ne_next htr)).trans htr⟩
  next := Nat.le_succ _
  listeners x hx t hxt := .inr ⟨x, hx, hxt⟩
  listenersOk hok :=
    { hok with
      known := fun x hx t hxt => Nat.lt_succ_of_lt (hok.known x hx t hxt)
      linked := fun x hx t tr' hxt htr' => by
        have hlt := hok.known x hx t hxt
        rw [addTransport, get_alloc_of_ne (Nat.ne_of_lt hlt)] at htr'
        exact hok.linked x hx t tr' hxt htr' }
  usbTransport := rfl
  needsRetry := rfl
  frameworkFd := rfl
  tokensOk hok := by
    refine ⟨fun t => ?_, fun t ht => ?_⟩
    · rw [tokens_addTransport]
      have hone := hok.one t
      unfold refs at hone ⊢
      by_cases ht : t = σ.transports.next
      · subst ht
        have hfresh := hok.fresh σ.transports.next (Nat.le_refl _)
        simp [addTransport, hnew.refCount, hfresh]
      · simpa [addTransport, ht] using hone
    · rw [tokens_addTransport]
      have hlt : σ.transports.next < t := ht
      simp [hok.fresh t (Nat.le_of_lt hlt), Nat.ne_of_gt hlt]

lemma addTransport_apart (hnew : tr.New) :
    Apart σ (addTransport tr σ) := .ofOrdinary (addTransport_ordinary hnew) rfl

lemma registerUsbTransport_apart {serial devpath : Bytes} {writeable : Bool} :
    Apart σ (registerUsbTransport serial devpath writeable σ) := by
  refine addTransport_apart ⟨?_, rfl, rfl, rfl, rfl⟩
  cases writeable with
  | true => rfl
  | false => rfl

lemma registerSocketTransport_apart {serial : Bytes} :
    Apart σ (registerSocketTransport serial σ) := by
  unfold registerSocketTransport
  dsimp only
  split
  · exact .ofOrdinary { Ordinary.refl σ with
      listenersOk := fun hok => { hok with }
      tokensOk := fun hok => { hok with } } rfl
  · exact addTransport_apart ⟨rfl, rfl, rfl, rfl, rfl⟩

/-! ## Replies -/

lemma emit_apart {o : Obs} (ho : o.faint = true) : Apart σ (σ.emit o) :=
  ⟨.ofSocks (.single (.emit o ho)), [o], rfl⟩

lemma sendOkay_apart (reply : Option Ptr) : Apart σ (sendOkay reply σ) := by
  cases reply with
  | none => exact .refl σ
  | some s => exact emit_apart rfl

lemma sendFail_apart (reply : Option Ptr) (reason : Bytes) (σ : Server) :
    Apart σ (sendFail reply reason σ) := by
  cases reply with
  | none => exact .refl σ
  | some s => exact emit_apart rfl

variable {reply : Option Ptr}

lemma sendProtocolString_apart {text : Bytes} : Apart σ (sendProtocolString reply text σ) := by
  cases reply with
  | none => exact .refl σ
  | some s => exact emit_apart rfl

lemma sendOkayString_apart {text : Bytes} : Apart σ (sendOkayString reply text σ) :=
  (sendOkay_apart reply).trans sendProtocolString_apart

/-! ## The listener list -/

lemma addDisconnect_spec {d : Disconnect} :
    Sat (addDisconnect t d σ) (fun τ => ∃ tr, σ.transports.get t = some tr ∧
        τ = σ.setTransport t { tr with disconnects := tr.disconnects ++ [d] })
      (· = .dangling) :=
  transport_spec.bind fun tr htr => ⟨tr, htr, rfl⟩

lemma removeDisconnect_spec {d : Disconnect} :
    Sat (removeDisconnect t d σ) (fun τ => ∃ tr, σ.transports.get t = some tr ∧
        τ = σ.setTransport t { tr with disconnects := tr.disconnects.filter (· ≠ d) })
      (· = .dangling) :=
  transport_spec.bind fun tr htr => ⟨tr, htr, rfl⟩

lemma num_ne_of_mem_eraseP {ls : List AListener} {n : ℕ} (hnodup : (ls.map (·.num)).Nodup)
    {x : AListener} (hx : x ∈ ls.eraseP (·.num = n)) : x.num ≠ n := by
  induction ls with
  | nil => simp at hx
  | cons y rest ih =>
    simp only [map_cons, nodup_cons, mem_map, not_exists, not_and] at hnodup
    by_cases hy : y.num = n
    · -- `y` is the one that was erased
      simp only [eraseP_cons, hy, decide_true, cond_true] at hx
      rw [← hy]
      exact hnodup.1 x hx
    · simp only [eraseP_cons, hy, decide_false, cond_false, mem_cons] at hx
      rcases hx with rfl | hx
      · exact hy
      · exact ih hnodup.2 hx

/-- Listeners are told apart by their numbers, and `next` is a new one. -/
structure Numbered (ls : List AListener) (next : ℕ) : Prop where
  nums : (ls.map (·.num)).Nodup
  fresh : ∀ x ∈ ls, x.num < next

namespace Numbered

variable {ls : List AListener} {next : ℕ} (h : Numbered ls next)
include h

lemma sublist {ls' : List AListener} (hsub : ls'.Sublist ls) : Numbered ls' next :=
  ⟨(hsub.map _).nodup h.nums, fun x hx => h.fresh x (hsub.subset hx)⟩

lemma map {f : AListener → AListener} (hf : ∀ x, (f x).num = x.num) : Numbered (ls.map f) next := by
  constructor
  · rw [map_map, show (·.num) ∘ f = (·.num) from funext hf]
    exact h.nums
  intro y hy
  obtain ⟨x, hx, rfl⟩ := mem_map.mp hy
  rw [hf]
  exact h.fresh x hx

lemma append {y : AListener} (hy : y.num = next) : Numbered (ls ++ [y]) (next + 1) := by
  constructor
  · rw [map_append, nodup_append]
    refine ⟨h.nums, by simp, ?_⟩
    intro n hn m hm
    obtain ⟨x, hx, rfl⟩ := mem_map.mp hn
    have hm : m = y.num := by simpa using hm
    have hlt := h.fresh x hx
    omega
  · intro x hx
    rcases mem_append.mp hx with hx | hx
    · have hlt := h.fresh x hx
      omega
    · rw [mem_singleton.mp hx]
      omega

end Numbered

lemma ListenersOk.numbered (h : σ.ListenersOk) : Numbered σ.listenerList σ.nextListener :=
  ⟨h.nums, h.fresh⟩

lemma ListenersOk.erase (h : σ.ListenersOk) (n : ℕ) :
    ListenersOk { σ with listenerList := σ.listenerList.eraseP (·.num = n) } where
  nums := (h.numbered.sublist eraseP_sublist).nums
  fresh := (h.numbered.sublist eraseP_sublist).fresh
  known x hx := h.known x (mem_of_mem_eraseP hx)
  linked x hx := h.linked x (mem_of_mem_eraseP hx)
  owned x hx := h.owned x (mem_of_mem_eraseP hx)
  forwards x hx := h.forwards x (mem_of_mem_eraseP hx)
  short x hx := h.short x (mem_of_mem_eraseP hx)

lemma eraseListener_apart {l : AListener} : Sat (eraseListener l σ) (Apart σ) (· = .dangling) := by
  have hls : ∀ x ∈ σ.listenerList.eraseP (·.num = l.num), ∀ t, x.transport = some t →
      σ.Attachable t := fun x hx t hxt => .inr ⟨x, mem_of_mem_eraseP hx, hxt⟩
  unfold eraseListener
  cases ht : l.transport with
  | none => exact .ofOrdinary (.ofListeners (.refl _) hls fun hok => { hok.erase l.num with }) rfl
  | some t =>
    refine removeDisconnect_spec.imp ?_
    rintro _ ⟨tr, htr, rfl⟩
    refine .ofOrdinary (.ofListeners (.set htr (by exact ⟨rfl, rfl, rfl, rfl, rfl⟩)) hls fun hok => ?_) rfl
    refine { hok.erase l.num with linked := fun x hx u tu hxu hu => ?_ }
    change (σ.transports.set t _).get u = some tu at hu
    by_cases hut : u = t
    · subst hut
      rw [get_set_self htr] at hu
      cases hu
      have hne : x.num ≠ l.num := num_ne_of_mem_eraseP hok.nums hx
      have hmem := hok.linked x (mem_of_mem_eraseP hx) u tr hxu htr
      exact mem_filter.mpr ⟨hmem, by simp [hne]⟩
    · rw [get_set_of_ne _ hut] at hu
      exact hok.linked x (mem_of_mem_eraseP hx) u tu hxu hu

lemma removeListener_apart {name : Bytes} :
    Sat (removeListener name σ) (fun x => Apart σ x.2) (· = .dangling) := by
  unfold removeListener
  split
  · exact Apart.refl σ
  · exact eraseListener_apart.bind fun τ hτ => hτ

lemma removeAllListeners_apart : Sat (removeAllListeners σ) (Apart σ) (· = .dangling) := by
  unfold removeAllListeners
  generalize σ.listenerList.filter (fun l => !l.special) = ls
  induction ls generalizing σ with
  | nil => exact .refl σ
  | cons l rest ih =>
    refine eraseListener_apart.bind fun τ hτ => ?_
    exact ih.imp fun ρ hρ => hτ.trans hρ

lemma formatListeners_spec (hok : σ.ListenersOk) :
    Sat (formatListeners σ) (fun _ => True) (· = .dangling) := by
  refine (Sat.mapM fun l hl => ?_).bind fun _ _ => True.intro
  unfold formatListener
  split
  · exact True.intro
  next hspecial =>
  obtain ⟨t, ht⟩ := Option.ne_none_iff_exists'.mp fun hnone => hspecial (hok.owned l hl hnone)
  simp only [ht, Sockets.nonNull, pure_eq_ok, ok_bind]
  exact transport_spec.bind fun _ _ => True.intro

variable {connectTo : Bytes}

private lemma ListenersOk.rebind (h : σ.ListenersOk) {ts : Store ATransport} (n : ℕ)
    (hshort : connectTo.length + 1 < UInt32.size) {t : TPtr}
    (ht : t < σ.transports.next) (hnext : ts.next = σ.transports.next)
    (hts : ∀ u tu, ts.get u = some tu → ∃ su, σ.transports.get u = some su ∧
      (∀ k, k ≠ n → .listener k ∈ su.disconnects → .listener k ∈ tu.disconnects) ∧
      (u = t → .listener n ∈ tu.disconnects)) :
    ListenersOk { σ with
      transports := ts
      listenerList := σ.listenerList.map fun m =>
        if m.num = n then { m with connectTo := connectTo, transport := some t } else m } := by
  have hmem : ∀ x ∈ σ.listenerList.map (fun m =>
      if m.num = n then { m with connectTo := connectTo, transport := some t } else m),
      ∃ m ∈ σ.listenerList, x.num = m.num ∧
        (m.num = n ∧ x.transport = some t ∧ x.connectTo = connectTo ∨ m.num ≠ n ∧ x = m) := by
    intro x hx
    obtain ⟨m, hm, rfl⟩ := mem_map.mp hx
    refine ⟨m, hm, ?_⟩
    by_cases hmn : m.num = n
    · simp [hmn]
    · simp [hmn]
  have hnumbered := h.numbered.map (f := fun m => if m.num = n then
    { m with connectTo := connectTo, transport := some t } else m) fun m => by split <;> rfl
  refine ⟨hnumbered.nums, hnumbered.fresh, ?_, ?_, ?_, ?_, ?_⟩
  · intro x hx u hxu
    show u < ts.next
    rw [hnext]
    obtain ⟨m, hm, -, ⟨-, hxt, -⟩ | ⟨-, rfl⟩⟩ := hmem x hx
    · rw [hxt] at hxu
      cases hxu
      exact ht
    · exact h.known x hm u hxu
  · intro x hx u tu hxu hu
    obtain ⟨su, hsu, hkeep, hnew⟩ := hts u tu hu
    obtain ⟨m, hm, hnum, ⟨hmn, hxt, -⟩ | ⟨hmn, rfl⟩⟩ := hmem x hx
    · rw [hxt] at hxu
      cases hxu
      rw [hnum, hmn]
      exact hnew rfl
    · exact hkeep _ hmn (h.linked x hm u su hxu hsu)
  · intro x hx hnone
    obtain ⟨m, hm, -, ⟨-, hxt, -⟩ | ⟨-, rfl⟩⟩ := hmem x hx
    · rw [hxt] at hnone
      cases hnone
    · exact h.owned x hm hnone
  · intro x hx hf
    obtain ⟨m, hm, -, ⟨-, hxt, -⟩ | ⟨-, rfl⟩⟩ := hmem x hx
    · simp [hxt]
    · exact h.forwards x hm hf
  · intro x hx
    obtain ⟨m, hm, -, ⟨-, -, hto⟩ | ⟨-, rfl⟩⟩ := hmem x hx
    · rw [hto]
      exact hshort
    · exact h.short x hm

lemma ListenersOk.attachable_lt (h : σ.ListenersOk) (ht : σ.Attachable t) :
    t < σ.transports.next := by
  rcases ht with ⟨tr, htr, -⟩ | ⟨x, hx, hxt⟩
  · exact lt_next htr
  · exact h.known x hx t hxt

variable {noRebind : Bool}

lemma rebindListener_apart (hok : σ.ListenersOk) {l : AListener} (hl : l ∈ σ.listenerList)
    (hshort : connectTo.length + 1 < UInt32.size) (ht : σ.Attachable t) :
    Sat (rebindListener l connectTo t noRebind σ) (fun x => Apart σ x.2) (· = .dangling) := by
  have hls : ∀ x ∈ σ.listenerList.map (fun m =>
      if m.num = l.num then { m with connectTo := connectTo, transport := some t } else m),
      ∀ u, x.transport = some u → σ.Attachable u := by
    intro x hx u hxu
    obtain ⟨m, hm, rfl⟩ := mem_map.mp hx
    split at hxu
    · cases hxu
      exact ht
    · exact .inr ⟨m, hm, hxu⟩
  have hlt := hok.attachable_lt ht
  unfold rebindListener
  split
  · exact Apart.refl σ
  next hspecial =>
  split
  · exact Apart.refl σ
  dsimp only
  split
  · -- the listener changes its transport
    next hne =>
    obtain ⟨old, hold⟩ := Option.ne_none_iff_exists'.mp fun hnone => hspecial (hok.owned l hl hnone)
    have hot : old ≠ t := by
      rintro rfl
      exact hne hold
    simp only [hold, Sockets.nonNull, pure_eq_ok, ok_bind]
    refine removeDisconnect_spec.bind ?_
    rintro _ ⟨tro, htro, rfl⟩
    refine addDisconnect_spec.bind ?_
    rintro _ ⟨tr, htr, rfl⟩
    have htr' : σ.transports.get t = some tr :=
      (get_setTransport_of_ne hot.symm).symm.trans htr
    refine .ofOrdinary (.ofListeners ((SameTransports.set htro (by exact ⟨rfl, rfl, rfl, rfl, rfl⟩)).trans
      (.set htr (by exact ⟨rfl, rfl, rfl, rfl, rfl⟩))) hls fun _ => ?_) rfl
    refine hok.rebind l.num hshort hlt (by exact rfl) fun u tu hu => ?_
    by_cases hut : u = t
    · subst hut
      rw [get_setTransport_self htr] at hu
      cases hu
      exact ⟨tr, htr', fun k _ hk => by simp [hk], fun _ => by simp⟩
    · rw [get_setTransport_of_ne hut] at hu
      by_cases huo : u = old
      · subst huo
        rw [get_setTransport_self htro] at hu
        cases hu
        exact ⟨tro, htro, fun k hk hm => by simp [hk, hm], fun hut' => absurd hut' hut⟩
      · rw [get_setTransport_of_ne huo] at hu
        exact ⟨tu, hu, fun _ _ hk => hk, fun hut' => absurd hut' hut⟩
  · -- it stays with its transport
    next hsame =>
    have hsame : l.transport = some t := by simpa using hsame
    simp only [pure_eq_ok, ok_bind, sat_ok]
    refine .ofOrdinary (.ofListeners (.refl _) hls fun _ => ?_) rfl
    refine hok.rebind l.num hshort hlt (by exact rfl) fun u tu hu => ?_
    refine ⟨tu, hu, fun _ _ hk => hk, ?_⟩
    rintro rfl
    exact hok.linked l hl u tu hsame hu

private lemma ListenersOk.install (h : σ.ListenersOk) (htr : σ.transports.get t = some tr)
    {y : AListener} (hnum : y.num = σ.nextListener) (hy : y.transport = some t)
    (hshort : y.connectTo.length + 1 < UInt32.size) :
    ListenersOk { σ with
      transports := σ.transports.set t
        { tr with disconnects := tr.disconnects ++ [.listener y.num] }
      listenerList := σ.listenerList ++ [y]
      nextListener := σ.nextListener + 1 } where
  nums := (h.numbered.append hnum).nums
  fresh := (h.numbered.append hnum).fresh
  known x hx u hxu := by
    rcases mem_append.mp hx with hx | hx
    · exact h.known x hx u hxu
    obtain rfl := mem_singleton.mp hx
    rw [hy] at hxu
    cases hxu
    have hlt : t < σ.transports.next := lt_next htr
    exact hlt
  linked x hx u tu hxu hu := by
    change (σ.transports.set t _).get u = some tu at hu
    by_cases hut : u = t
    · subst hut
      rw [get_set_self htr] at hu
      cases hu
      rcases mem_append.mp hx with hx | hx
      · exact mem_append_left _ (h.linked x hx u tr hxu htr)
      · obtain rfl := mem_singleton.mp hx
        simp
    · rw [get_set_of_ne _ hut] at hu
      rcases mem_append.mp hx with hx | hx
      · exact h.linked x hx u tu hxu hu
      obtain rfl := mem_singleton.mp hx
      rw [hy] at hxu
      cases hxu
      exact absurd rfl hut
  owned x hx hnone := by
    rcases mem_append.mp hx with hx | hx
    · exact h.owned x hx hnone
    obtain rfl := mem_singleton.mp hx
    rw [hy] at hnone
    cases hnone
  forwards x hx hf := by
    rcases mem_append.mp hx with hx | hx
    · exact h.forwards x hx hf
    · obtain rfl := mem_singleton.mp hx
      simp [hy]
  short x hx := by
    rcases mem_append.mp hx with hx | hx
    · exact h.short x hx
    · obtain rfl := mem_singleton.mp hx
      exact hshort

lemma installListener_apart (hok : σ.ListenersOk) {localName : Bytes}
    (hshort : connectTo.length + 1 < UInt32.size) (ht : σ.Attachable t) :
    Sat (installListener localName connectTo t noRebind σ) (fun x => Apart σ x.2)
      (· = .dangling) := by
  unfold installListener
  split
  · next l hfind =>
    exact rebindListener_apart hok (mem_of_find?_eq_some hfind) hshort ht
  split
  · exact Apart.refl σ
  next resolved _ =>
  refine addDisconnect_spec.bind ?_
  rintro _ ⟨tr, htr, rfl⟩
  refine .ofOrdinary (.ofListeners (.set htr (by exact ⟨rfl, rfl, rfl, rfl, rfl⟩)) ?_ fun _ => ?_) rfl
  · intro x hx u hxu
    rcases mem_append.mp hx with hx | hx
    · exact .inr ⟨x, hx, hxu⟩
    obtain rfl := mem_singleton.mp hx
    cases hxu
    exact ht
  · exact ListenersOk.install hok htr (by exact rfl) (by exact rfl) hshort

/-! ## `handle_forward_request` -/

variable {cfg : Config} {service : Bytes}

lemma forwardReply_apart {r : Installed} : Apart σ (forwardReply cfg service r reply σ) := by
  unfold forwardReply
  split
  · have hconnect : Apart σ (if cfg.host then sendOkay reply σ else σ) := by
      split
      · exact sendOkay_apart reply
      · exact .refl σ
    have hstatus := hconnect.trans (sendOkay_apart reply)
    dsimp only
    split
    · exact hstatus.trans sendProtocolString_apart
    · exact hstatus
  · exact sendFail_apart reply _ σ

lemma killForward_apart : Sat (killForward cfg service reply σ) (Apart σ) (· = .dangling) := by
  unfold killForward
  split
  · split
    · exact sendFail_apart reply _ σ
    refine removeListener_apart.bind ?_
    rintro ⟨status, τ⟩ hτ
    exact hτ.trans forwardReply_apart
  · exact sendFail_apart reply _ σ

private lemma length_splitOn_pair {l a b : Bytes} {x : UInt8} (h : l.splitOn x = [a, b]) :
    b.length ≤ l.length := by
  have hjoin := @intercalate_splitOn _ l _ _ x
  rw [h] at hjoin
  rw [← hjoin]
  simp only [List.intercalate, intersperse_cons_cons, intersperse_singleton,
    flatten_cons, flatten_nil, length_append, List.append_nil]
  omega

lemma forward_apart
    (hok : σ.ListenersOk) (ht : σ.Attachable t) (hshort : service.length + 1 < UInt32.size) :
    Sat (forward cfg service noRebind t reply σ) (Apart σ) (· = .dangling) := by
  unfold forward
  split
  · next name remote hsplit =>
    split
    · exact sendFail_apart reply _ σ
    have hremote : remote.length + 1 < UInt32.size := by
      have hlen := length_splitOn_pair hsplit
      omega
    refine (installListener_apart hok hremote ht).bind ?_
    rintro ⟨r, τ⟩ hτ
    exact hτ.trans forwardReply_apart
  · exact sendFail_apart reply _ σ

lemma handleForwardRequest_apart (hshort : service.length + 1 < UInt32.size)
    {acquire : Server → Option TPtr × Bytes} (hok : σ.ListenersOk)
    (hacquire : ∀ t error, acquire σ = (some t, error) → σ.Attachable t) :
    Sat (handleForwardRequest cfg service acquire reply σ) (fun x => Apart σ x.2)
      (· = .dangling) := by
  have hconnect : ∀ σ : Server, Apart σ (if cfg.host then sendOkay reply σ else σ) := by
    intro σ
    split
    · exact sendOkay_apart reply
    · exact .refl σ
  unfold handleForwardRequest
  split
  · refine (formatListeners_spec hok).bind fun listeners _ => ?_
    exact (hconnect σ).trans sendProtocolString_apart
  split
  · refine removeAllListeners_apart.bind fun τ hτ => ?_
    exact (hτ.trans (hconnect τ)).trans (sendOkay_apart reply)
  split
  · split
    · exact sendFail_apart reply _ σ
    next t error hacq =>
    have ht := hacquire t error hacq
    have hdrop (n : ℕ) : (service.drop n).length + 1 < UInt32.size := by
      rw [length_drop]
      omega
    split
    · exact killForward_apart.bind fun τ hτ => hτ
    split
    · exact (forward_apart hok ht (hdrop 17)).bind fun τ hτ => hτ
    · exact (forward_apart hok ht (hdrop 8)).bind fun τ hτ => hτ
  · exact Apart.refl σ

end Server

end Adb

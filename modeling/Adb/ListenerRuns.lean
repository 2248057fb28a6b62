import Adb.TransportTheorems

/-!
# The listeners and the transports they are bound to

A listener owns the node that the list of disconnects of its transport points at. The node is moved
when the listener is rebound, and the listener is deleted by the loop that goes through the list.
`Consistent` says that the two sides agree.
-/

namespace Adb

open Lib List Store

namespace Server

variable {σ τ : Server} {t : TPtr} {tr : ATransport} {l x : AListener}
  {ls : List AListener} {next : ℕ} {disc : TPtr → Option (List Disconnect)}

def disconnectsOf (ts : Store ATransport) (t : TPtr) : Option (List Disconnect) :=
  (ts.get t).map (·.disconnects)

/-- The list of listeners, with the number of the next one, and the lists of disconnects agree. -/
structure Consistent (ls : List AListener) (next : ℕ) (disc : TPtr → Option (List Disconnect)) :
    Prop where
  names : (ls.map (·.localName)).Nodup
  nums : (ls.map (·.num)).Nodup
  fresh : ∀ l ∈ ls, l.num < next
  /-- only a special listener has no transport -/
  owned : ∀ l ∈ ls, l.transport = none → l.special = true
  once : ∀ t ds, disc t = some ds → ∀ n, ds.count (.listener n) ≤ 1
  linked : ∀ t ds, disc t = some ds → ∀ n,
    .listener n ∈ ds ↔ ∃ l ∈ ls, l.num = n ∧ l.transport = some t

/-! ## Lists of listeners -/

lemma eraseP_num_eq_filter (h : (ls.map (·.num)).Nodup) (n : ℕ) :
    ls.eraseP (·.num = n) = ls.filter (·.num ≠ n) := by
  induction ls with
  | nil => rfl
  | cons y rest ih =>
    have hrest : (rest.map (·.num)).Nodup := h.of_cons
    have hy : ∀ x ∈ rest, x.num ≠ y.num := by
      intro x hx heq
      have hnot := (nodup_cons.mp h).1
      exact hnot (mem_map.mpr ⟨x, hx, heq⟩)
    by_cases hn : y.num = n
    · -- the rest of the list has other numbers
      have hall : rest.filter (·.num ≠ n) = rest := by
        apply filter_eq_self.mpr
        intro x hx
        exact decide_eq_true (hn ▸ hy x hx)
      rw [eraseP_cons_of_pos (by simpa using hn), filter_cons_of_neg (by simpa using hn), hall]
    · rw [eraseP_cons_of_neg (by simpa using hn), filter_cons_of_pos (by simpa using hn), ih hrest]

namespace Consistent

lemma numbered (h : Consistent ls next disc) : Numbered ls next := ⟨h.nums, h.fresh⟩

lemma eq_of_num (h : Consistent ls next disc) (hx : x ∈ ls) (hl : l ∈ ls)
    (hnum : x.num = l.num) : x = l :=
  inj_on_of_nodup_map h.nums hx hl hnum

lemma linked_iff (h : Consistent ls next disc) {ds : List Disconnect} (hds : disc t = some ds)
    (hl : l ∈ ls) : .listener l.num ∈ ds ↔ l.transport = some t := by
  rw [h.linked t ds hds l.num]
  constructor
  · rintro ⟨x, hx, hnum, hxt⟩
    rw [← h.eq_of_num hx hl hnum]
    exact hxt
  · intro hlt
    exact ⟨l, hl, rfl, hlt⟩

variable {disc' : TPtr → Option (List Disconnect)}

lemma filter (h : Consistent ls next disc) (p : AListener → Bool)
    (hdisc : ∀ t ds', disc' t = some ds' → ∃ ds, disc t = some ds ∧ ds'.Sublist ds ∧
      ∀ x ∈ ls, x.transport = some t → (.listener x.num ∈ ds' ↔ p x = true)) :
    Consistent (ls.filter p) next disc' where
  names := h.names.sublist (filter_sublist.map _)
  nums := (h.numbered.sublist filter_sublist).nums
  fresh := (h.numbered.sublist filter_sublist).fresh
  owned x hx := h.owned x (mem_of_mem_filter hx)
  once t ds' hds' n := by
    obtain ⟨ds, hds, hsub, -⟩ := hdisc t ds' hds'
    exact (hsub.count_le _).trans (h.once t ds hds n)
  linked t ds' hds' n := by
    obtain ⟨ds, hds, hsub, hiff⟩ := hdisc t ds' hds'
    constructor
    · intro hn
      obtain ⟨x, hx, rfl, hxt⟩ := (h.linked t ds hds n).mp (hsub.subset hn)
      exact ⟨x, mem_filter.mpr ⟨hx, (hiff x hx hxt).mp hn⟩, rfl, hxt⟩
    · rintro ⟨x, hx, rfl, hxt⟩
      obtain ⟨hmem, hp⟩ := mem_filter.mp hx
      exact (hiff x hmem hxt).mpr hp

lemma append (h : Consistent ls next disc) {y : AListener} (hnum : y.num = next)
    (hname : ∀ l ∈ ls, l.localName ≠ y.localName) (hy : y.transport = none → y.special = true)
    (hdisc : ∀ t ds', disc' t = some ds' → ∃ ds, disc t = some ds ∧
      ds' = if y.transport = some t then ds ++ [.listener y.num] else ds) :
    Consistent (ls ++ [y]) (next + 1) disc' := by
  have hne : ∀ l ∈ ls, l.num ≠ y.num := by
    intro l hl
    have := h.fresh l hl
    omega
  have hnone : ∀ t ds, disc t = some ds → .listener y.num ∉ ds := by
    intro t ds hds hmem
    obtain ⟨l, hl, hl', -⟩ := (h.linked t ds hds _).mp hmem
    exact hne l hl hl'
  have hnumbered := h.numbered.append hnum
  refine ⟨?_, hnumbered.nums, hnumbered.fresh, ?_, ?_, ?_⟩
  · rw [map_append, nodup_append]
    refine ⟨h.names, by simp, ?_⟩
    intro a ha b hb
    obtain ⟨l, hl, rfl⟩ := mem_map.mp ha
    rw [mem_singleton.mp hb]
    exact hname l hl
  · intro l hl hlt
    rcases mem_append.mp hl with hl | hl
    · exact h.owned l hl hlt
    · rw [mem_singleton.mp hl] at hlt ⊢
      exact hy hlt
  · intro t ds' hds' n
    obtain ⟨ds, hds, rfl⟩ := hdisc t ds' hds'
    have hn := h.once t ds hds n
    split
    · rw [count_append, count_singleton]
      by_cases hny : n = y.num
      · have : ds.count (.listener n) = 0 := count_eq_zero.mpr (hny ▸ hnone t ds hds)
        split <;> omega
      have : ¬ Disconnect.listener y.num = .listener n := by
        intro heq
        cases heq
        exact hny rfl
      rw [if_neg (by simpa using this)]
      exact hn
    · exact hn
  · intro t ds' hds' n
    obtain ⟨ds, hds, rfl⟩ := hdisc t ds' hds'
    have hn := h.linked t ds hds n
    by_cases hyt : y.transport = some t
    · rw [if_pos hyt, mem_append, hn]
      simp only [mem_singleton, Disconnect.listener.injEq, mem_append, or_and_right,
        exists_or, exists_eq_left]
      constructor
      · rintro (hl | rfl)
        · exact .inl hl
        · exact .inr ⟨rfl, hyt⟩
      · rintro (hl | ⟨rfl, -⟩)
        · exact .inl hl
        · exact .inr rfl
    · rw [if_neg hyt, hn]
      simp only [mem_append, mem_singleton, or_and_right, exists_or, exists_eq_left]
      constructor
      · exact .inl
      rintro (hl | ⟨-, hyt'⟩)
      · exact hl
      · exact absurd hyt' hyt

lemma rebind (h : Consistent ls next disc) (hl : l ∈ ls) (connectTo : Bytes) (t : TPtr)
    (hdisc : ∀ u ds', disc' u = some ds' → ∃ ds, disc u = some ds ∧
      (∀ n, n ≠ l.num → ds'.count (.listener n) = ds.count (.listener n)) ∧
      ds'.count (.listener l.num) = if u = t then 1 else 0) :
    Consistent (ls.map fun m =>
      if m.num = l.num then { m with connectTo := connectTo, transport := some t } else m)
      next disc' := by
  have hnumbered := h.numbered.map (f := fun m => if m.num = l.num then
    { m with connectTo := connectTo, transport := some t } else m) fun m => by split <;> rfl
  refine ⟨?_, hnumbered.nums, hnumbered.fresh, ?_, ?_, ?_⟩
  · rw [map_map]
    convert h.names using 2
    funext m
    simp only [Function.comp_apply]
    split <;> rfl
  · intro x hx
    obtain ⟨m, hm, rfl⟩ := mem_map.mp hx
    split
    · intro hnone
      cases hnone
    · exact h.owned m hm
  · intro u ds' hds' n
    obtain ⟨ds, hds, hother, hself⟩ := hdisc u ds' hds'
    by_cases hn : n = l.num
    · rw [hn, hself]
      split <;> omega
    · rw [hother n hn]
      exact h.once u ds hds n
  · intro u ds' hds' n
    obtain ⟨ds, hds, hother, hself⟩ := hdisc u ds' hds'
    rw [← count_pos_iff]
    by_cases hn : n = l.num
    · -- the listener that has moved
      subst hn
      rw [hself]
      constructor
      · intro hpos
        have hut : u = t := by
          by_contra hne
          rw [if_neg hne] at hpos
          omega
        exact ⟨_, mem_map.mpr ⟨l, hl, rfl⟩, by simp, by simp [hut]⟩
      · rintro ⟨x, hx, hnum, hxu⟩
        obtain ⟨m, hm, rfl⟩ := mem_map.mp hx
        split at hnum
        · next hml =>
          rw [if_pos hml] at hxu
          cases hxu
          simp
        · next hml => exact absurd hnum hml
    · rw [hother n hn, count_pos_iff, h.linked u ds hds n]
      constructor
      · rintro ⟨m, hm, rfl, hmu⟩
        exact ⟨m, mem_map.mpr ⟨m, hm, if_neg hn⟩, rfl, hmu⟩
      rintro ⟨x, hx, hnum, hxu⟩
      obtain ⟨m, hm, rfl⟩ := mem_map.mp hx
      split at hnum
      · next hml => exact absurd (hnum.symm.trans hml) hn
      next hml =>
      rw [if_neg hml] at hxu
      exact ⟨m, hm, hnum, hxu⟩

end Consistent

/-! ## The operations -/

def ListenersConsistent (σ : Server) : Prop :=
  Consistent σ.listenerList σ.nextListener (disconnectsOf σ.transports)

variable {ts : Store ATransport}

lemma disconnectsOf_set (htr : ts.get t = some tr) (tr' : ATransport)
    (u : TPtr) : disconnectsOf (ts.set t tr') u =
      if u = t then some tr'.disconnects else disconnectsOf ts u := by
  unfold disconnectsOf
  split
  · next hut =>
    rw [hut, get_set_self htr]
    rfl
  · next hut => rw [get_set_of_ne _ hut]

lemma disconnectsOf_of_get (htr : ts.get t = some tr) :
    disconnectsOf ts t = some tr.disconnects := by
  rw [disconnectsOf, htr]
  rfl

lemma disconnectsOf_set_same {tr' : ATransport}
    (htr : ts.get t = some tr) (hsame : tr'.disconnects = tr.disconnects) :
    disconnectsOf (ts.set t tr') = disconnectsOf ts := by
  funext u
  rw [disconnectsOf_set htr]
  split
  · next hut => rw [hut, disconnectsOf_of_get htr, hsame]
  · rfl

lemma eraseListener_consistent (h : σ.ListenersConsistent) (hl : l ∈ σ.listenerList)
    (hτ : eraseListener l σ = .ok τ) :
    τ.ListenersConsistent ∧ τ.listenerList = σ.listenerList.filter (·.num ≠ l.num) := by
  have herase := eraseP_num_eq_filter h.nums l.num
  unfold eraseListener at hτ
  cases ht : l.transport with
  | none =>
    rw [ht] at hτ
    cases hτ
    refine ⟨?_, herase⟩
    show Consistent (σ.listenerList.eraseP _) _ _
    rw [herase]
    apply h.filter
    intro u ds hds
    refine ⟨ds, hds, .refl ds, ?_⟩
    intro x hx hxu
    rw [h.linked_iff hds hx]
    have hne : x.num ≠ l.num := by
      intro heq
      rw [h.eq_of_num hx hl heq, ht] at hxu
      cases hxu
    simp [hxu, hne]
  | some t =>
    simp only [ht] at hτ
    obtain ⟨tr, htr, rfl⟩ := removeDisconnect_spec.of_ok hτ
    refine ⟨?_, herase⟩
    show Consistent (σ.listenerList.eraseP _) _ (disconnectsOf (σ.transports.set t _))
    rw [herase]
    apply h.filter
    intro u ds' hds'
    rw [disconnectsOf_set htr] at hds'
    split at hds'
    · next hut =>
      subst hut
      cases hds'
      refine ⟨tr.disconnects, disconnectsOf_of_get htr, filter_sublist, ?_⟩
      intro x hx hxu
      have hmem := (h.linked_iff (disconnectsOf_of_get htr) hx).mpr hxu
      simp [mem_filter, hmem]
    · next hut =>
      refine ⟨ds', hds', .refl ds', ?_⟩
      intro x hx hxu
      have hne : x.num ≠ l.num := by
        intro heq
        rw [h.eq_of_num hx hl heq, ht] at hxu
        cases hxu
        exact hut rfl
      have hmem := (h.linked_iff hds' hx).mpr hxu
      simp [hmem, hne]

lemma removeListener_consistent {name : Bytes} {r : InstallStatus} (h : σ.ListenersConsistent)
    (hτ : removeListener name σ = .ok (r, τ)) : τ.ListenersConsistent := by
  unfold removeListener at hτ
  split at hτ
  · cases hτ
    exact h
  next l hfind =>
  obtain ⟨ρ, hρ, hret⟩ := bind_eq_ok.mp hτ
  cases hret
  exact (eraseListener_consistent h (mem_of_find?_eq_some hfind) hρ).1

lemma removeAllListeners_go_consistent (h : σ.ListenersConsistent)
    (hls : ∀ x ∈ ls, x ∈ σ.listenerList) (hnums : (ls.map (·.num)).Nodup)
    (hτ : removeAllListeners.go ls σ = .ok τ) : τ.ListenersConsistent := by
  induction ls generalizing σ with
  | nil =>
    cases hτ
    exact h
  | cons l rest ih =>
    obtain ⟨ρ, hρ, hrest⟩ := bind_eq_ok.mp hτ
    obtain ⟨hcons, hlist⟩ := eraseListener_consistent h (hls l (by simp)) hρ
    refine ih hcons ?_ hnums.of_cons hrest
    -- the listeners that are left have other numbers than `l`
    intro x hx
    rw [hlist, mem_filter]
    refine ⟨hls x (by simp [hx]), decide_eq_true ?_⟩
    intro heq
    exact (nodup_cons.mp hnums).1 (mem_map.mpr ⟨x, hx, heq⟩)

lemma removeAllListeners_consistent (h : σ.ListenersConsistent)
    (hτ : removeAllListeners σ = .ok τ) : τ.ListenersConsistent :=
  removeAllListeners_go_consistent h (fun _ hx => mem_of_mem_filter hx)
    (h.nums.sublist (filter_sublist.map _)) hτ

lemma nonNull_eq_ok {p : Option ℕ} {n : ℕ} (h : Sockets.nonNull p = .ok n) : p = some n := by
  cases p with
  | none => cases h
  | some m =>
    cases h
    rfl

variable {r : Installed}

lemma rebindListener_consistent {connectTo : Bytes} {noRebind : Bool}
    (h : σ.ListenersConsistent) (hl : l ∈ σ.listenerList)
    (hτ : rebindListener l connectTo t noRebind σ = .ok (r, τ)) : τ.ListenersConsistent := by
  unfold rebindListener at hτ
  split at hτ
  · cases hτ
    exact h
  split at hτ
  · cases hτ
    exact h
  split at hτ
  · -- the node moves from the old transport to the new one
    next hne =>
    obtain ⟨old, hold, hτ⟩ := bind_eq_ok.mp hτ
    obtain ⟨ρ1, hρ1, hτ⟩ := bind_eq_ok.mp hτ
    obtain ⟨ρ, hρ, hret⟩ := bind_eq_ok.mp hτ
    cases hret
    have hlt : l.transport = some old := nonNull_eq_ok hold
    have hot : old ≠ t := by
      intro heq
      exact hne (heq ▸ hlt)
    obtain ⟨tro, htro, rfl⟩ := removeDisconnect_spec.of_ok hρ1
    obtain ⟨tr, htr, rfl⟩ := addDisconnect_spec.of_ok hρ
    change (σ.transports.set old _).get t = some tr at htr
    have htr' : σ.transports.get t = some tr := (get_set_of_ne _ hot.symm _).symm.trans htr
    refine h.rebind hl connectTo t ?_
    intro u ds' hds'
    change disconnectsOf ((σ.transports.set old _).set t _) u = some ds' at hds'
    rw [disconnectsOf_set htr] at hds'
    split at hds'
    · next hut =>
      cases hds'
      subst hut
      refine ⟨tr.disconnects, disconnectsOf_of_get htr', ?_, ?_⟩
      · intro n hn
        simp [count_append, Ne.symm hn]
      have hnot : .listener l.num ∉ tr.disconnects := by
        rw [h.linked_iff (disconnectsOf_of_get htr') hl, hlt]
        intro heq
        exact hot (Option.some.inj heq)
      simp [count_append, count_eq_zero.mpr hnot]
    · next hut =>
      rw [disconnectsOf_set htro] at hds'
      split at hds'
      · next huo =>
        cases hds'
        subst huo
        refine ⟨tro.disconnects, disconnectsOf_of_get htro, ?_, ?_⟩
        · intro n hn
          rw [count_filter]
          simpa using hn
        · rw [if_neg hut]
          apply count_eq_zero.mpr
          simp [mem_filter]
      · next huo =>
        refine ⟨ds', hds', fun n hn => rfl, ?_⟩
        rw [if_neg hut]
        apply count_eq_zero.mpr
        rw [h.linked_iff hds' hl, hlt]
        intro heq
        exact huo (Option.some.inj heq).symm
  · -- it stays with its transport
    next hsame =>
    have hlt : l.transport = some t := by simpa using hsame
    cases hτ
    refine h.rebind hl connectTo t ?_
    intro u ds' hds'
    refine ⟨ds', hds', fun n hn => rfl, ?_⟩
    have hiff := h.linked_iff hds' hl
    have hone := h.once u ds' hds' l.num
    split
    · next hut =>
      have hmem := count_pos_iff.mpr (hiff.mpr (hut ▸ hlt))
      omega
    next hut =>
    apply count_eq_zero.mpr
    rw [hiff, hlt]
    intro heq
    exact hut (Option.some.inj heq).symm

def boundName (localName : Bytes) (resolved : ℕ) : Bytes :=
  if resolved = 0 then localName else ascii "tcp:" ++ decimal resolved

/-- A port that the kernel chooses is not that of another listener. -/
def freePort (listen : Except Bytes ℕ) (ls : List AListener) : Bool :=
  match listen with
  | .ok (port + 1) => ls.all (·.localName ≠ ascii "tcp:" ++ decimal (port + 1))
  | _ => true

variable {localName : Bytes}

lemma boundName_fresh {resolved : ℕ} (hfind : ls.find? (·.localName = localName) = none)
    (hfree : freePort (.ok resolved) ls = true) :
    ∀ l ∈ ls, l.localName ≠ boundName localName resolved := by
  intro l hl
  cases resolved with
  | zero =>
    have := List.find?_eq_none.mp hfind l hl
    simpa [boundName] using this
  | succ port =>
    have := all_eq_true.mp hfree l hl
    simpa [boundName] using this

lemma installListener_consistent {connectTo : Bytes} {noRebind : Bool}
    (h : σ.ListenersConsistent) (hfree : freePort σ.socks.os.listen σ.listenerList = true)
    (hτ : installListener localName connectTo t noRebind σ = .ok (r, τ)) :
    τ.ListenersConsistent := by
  unfold installListener at hτ
  split at hτ
  · next l hfind => exact rebindListener_consistent h (mem_of_find?_eq_some hfind) hτ
  next hfind =>
  split at hτ
  · cases hτ
    exact h
  next resolved hlisten =>
  rw [hlisten] at hfree
  obtain ⟨ρ, hρ, hret⟩ := bind_eq_ok.mp hτ
  cases hret
  obtain ⟨tr, htr, rfl⟩ := addDisconnect_spec.of_ok hρ
  refine h.append rfl (boundName_fresh hfind hfree) (fun hnone => by cases hnone) ?_
  intro u ds' hds'
  change disconnectsOf (σ.transports.set t _) u = some ds' at hds'
  rw [disconnectsOf_set htr] at hds'
  split at hds'
  · next hut =>
    cases hds'
    subst hut
    exact ⟨tr.disconnects, disconnectsOf_of_get htr, (if_pos rfl).symm⟩
  · next hut =>
    refine ⟨ds', hds', (if_neg ?_).symm⟩
    intro heq
    exact hut (Option.some.inj heq).symm

lemma installSmartsocket_consistent
    (h : σ.ListenersConsistent) (hfree : freePort σ.socks.os.listen σ.listenerList = true)
    (hτ : installSmartsocket localName σ = .ok (r, τ)) : τ.ListenersConsistent := by
  unfold installSmartsocket at hτ
  split at hτ
  · next l hfind =>
    have hl := mem_of_find?_eq_some hfind
    split at hτ
    · cases hτ
      exact h
    next hspecial =>
    split at hτ
    · cases hτ
    · -- a listener without a transport is special
      next hnone => exact absurd (h.owned l hl (by simpa using hnone)) hspecial
  · next hfind =>
    split at hτ
    · cases hτ
      exact h
    next resolved hlisten =>
    rw [hlisten] at hfree
    cases hτ
    refine h.append rfl (boundName_fresh hfind hfree) (fun _ => rfl) ?_
    intro u ds hds
    exact ⟨ds, hds, rfl⟩

/-! ## A transport that goes offline -/

lemma runDisconnectFuncs_listenerList (ds : List Disconnect)
    (h : (σ.listenerList.map (·.num)).Nodup) :
    (runDisconnectFuncs ds σ).listenerList =
      σ.listenerList.filter fun x => .listener x.num ∉ ds := by
  induction ds generalizing σ with
  | nil => simp [runDisconnectFuncs]
  | cons d rest ih =>
    cases d with
    | usb =>
      rw [runDisconnectFuncs, ih (σ := usbDisconnected σ) h]
      simp [usbDisconnected]
    | listener n =>
      have herase : (listenerDisconnect n σ).listenerList = σ.listenerList.filter (·.num ≠ n) :=
        eraseP_num_eq_filter h n
      rw [runDisconnectFuncs, ih, herase, filter_filter]
      · apply filter_congr
        intro x _
        rw [Bool.eq_iff_iff]
        simp [and_comm]
      · rw [herase]
        exact h.sublist (filter_sublist.map _)

lemma runDisconnects_consistent (h : σ.ListenersConsistent) (hτ : runDisconnects t σ = .ok τ) :
    τ.ListenersConsistent ∧ τ.listenerList = σ.listenerList.filter (·.transport ≠ some t) := by
  obtain ⟨tr, htr, hret⟩ := bind_eq_ok.mp hτ
  replace htr := transport_spec.of_ok htr
  cases hret
  obtain ⟨ls, u, n, heq, -⟩ := runDisconnectFuncs_eq σ
  have hlist := runDisconnectFuncs_listenerList tr.disconnects h.nums
  rw [heq] at hlist ⊢
  have hls : ls = σ.listenerList.filter (·.transport ≠ some t) := by
    refine hlist.trans (filter_congr fun x hx => ?_)
    have hiff := h.linked_iff (disconnectsOf_of_get htr) hx
    simp [hiff]
  refine ⟨?_, hls⟩
  show Consistent ls σ.nextListener (disconnectsOf (σ.transports.set t _))
  rw [hls]
  apply h.filter
  intro u ds' hds'
  rw [disconnectsOf_set htr] at hds'
  split at hds'
  · next hut =>
    cases hds'
    subst hut
    refine ⟨_, disconnectsOf_of_get htr, nil_sublist _, ?_⟩
    intro x hx hxu
    simp [hxu]
  · next hut =>
    refine ⟨ds', hds', .refl _, ?_⟩
    intro x hx hxu
    rw [h.linked_iff hds' hx]
    simp [hxu, hut]

lemma handleOffline_consistent (h : σ.ListenersConsistent) (htr : σ.transports.get t = some tr)
    (hstate : tr.connectionState ≠ .kCsOffline) (hτ : handleOffline t σ = .ok τ) :
    τ.ListenersConsistent ∧ τ.listenerList = σ.listenerList.filter (·.transport ≠ some t) := by
  unfold handleOffline at hτ
  rw [transport_eq htr, ok_bind, if_neg hstate] at hτ
  obtain ⟨ρ, hρ, hrun⟩ := bind_eq_ok.mp hτ
  obtain ⟨socks, -, hret⟩ := bind_eq_ok.mp hρ
  cases hret
  let off : ATransport := { tr with connectionState := .kCsOffline, online := false }
  have hcons : ListenersConsistent { σ.setTransport t off with socks := socks } := by
    show Consistent σ.listenerList σ.nextListener (disconnectsOf (σ.transports.set t off))
    rw [show disconnectsOf (σ.transports.set t off) = _ from disconnectsOf_set_same htr rfl]
    exact h
  have hdone := runDisconnects_consistent hcons hrun
  exact hdone

/-! ## Sequences of operations -/

/-- An operation on the listeners, with what `socket_spec_listen` does in it. -/
inductive ListenerOp
  | install (localName connectTo : Bytes) (t : TPtr) (noRebind : Bool) (listen : Except Bytes ℕ)
  | installSmartsocket (localName : Bytes) (listen : Except Bytes ℕ)
  | remove (localName : Bytes)
  | removeAll
  | offline (t : TPtr)
  /-- the connection state of the transport changes in another way -/
  | connection (t : TPtr) (state : ConnectionState)

def withListen (listen : Except Bytes ℕ) (σ : Server) : Server :=
  { σ with socks := { σ.socks with os := { σ.socks.os with listen := listen } } }

def listenerStep : ListenerOp → Server → Res Server
  | .install localName connectTo t noRebind listen, σ => do
    let (_, σ) ← installListener localName connectTo t noRebind (σ.withListen listen)
    pure σ
  | .installSmartsocket localName listen, σ => do
    let (_, σ) ← installSmartsocket localName (σ.withListen listen)
    pure σ
  | .remove localName, σ => do
    let (_, σ) ← removeListener localName σ
    pure σ
  | .removeAll, σ => removeAllListeners σ
  | .offline t, σ => handleOffline t σ
  | .connection t state, σ => do
    let tr ← σ.transport t
    pure (σ.setTransport t { tr with connectionState := state })

/-- What `handle_forward_request` and the kernel guarantee, and a transport that goes offline is
not offline yet. -/
def ListenerOp.legal : ListenerOp → Server → Bool
  | .install _ connectTo _ _ listen, σ =>
    connectTo.head? ≠ some 42 && freePort listen σ.listenerList
  | .installSmartsocket _ listen, σ => freePort listen σ.listenerList
  | .offline t, σ =>
    match σ.transports.get t with
    | some tr => tr.connectionState ≠ .kCsOffline
    | none => true
  | _, _ => true

lemma listenerStep_consistent (σ : Server) (op : ListenerOp) (τ : Server)
    (h : σ.ListenersConsistent) (hlegal : op.legal σ = true) (hτ : listenerStep op σ = .ok τ) :
    τ.ListenersConsistent := by
  cases op with
  | install localName connectTo t noRebind listen =>
    obtain ⟨⟨r, ρ⟩, hρ, hret⟩ := bind_eq_ok.mp hτ
    cases hret
    have hfree : freePort listen σ.listenerList = true := (Bool.and_eq_true_iff.mp hlegal).2
    exact installListener_consistent (σ := σ.withListen listen) h hfree hρ
  | installSmartsocket localName listen =>
    obtain ⟨⟨r, ρ⟩, hρ, hret⟩ := bind_eq_ok.mp hτ
    cases hret
    exact installSmartsocket_consistent (σ := σ.withListen listen) h hlegal hρ
  | remove localName =>
    obtain ⟨⟨r, ρ⟩, hρ, hret⟩ := bind_eq_ok.mp hτ
    cases hret
    exact removeListener_consistent h hρ
  | removeAll => exact removeAllListeners_consistent h hτ
  | offline t =>
    have hlive := (bind_eq_ok.mp (show handleOffline t σ = .ok τ from hτ))
    obtain ⟨tr, htr, -⟩ := hlive
    replace htr := transport_spec.of_ok htr
    simp only [ListenerOp.legal, htr, decide_eq_true_eq] at hlegal
    exact (handleOffline_consistent h htr hlegal hτ).1
  | connection t state =>
    obtain ⟨tr, htr, hret⟩ := bind_eq_ok.mp hτ
    replace htr := transport_spec.of_ok htr
    cases hret
    show Consistent σ.listenerList σ.nextListener (disconnectsOf (σ.transports.set t _))
    rw [disconnectsOf_set_same htr]
    · exact h
    · rfl

def NoListeners (σ : Server) : Prop :=
  σ.listenerList = [] ∧ ∀ t tr, σ.transports.get t = some tr → ∀ n, .listener n ∉ tr.disconnects

lemma NoListeners.consistent (h : σ.NoListeners) : σ.ListenersConsistent := by
  unfold ListenersConsistent
  rw [h.1]
  have hnone : ∀ t ds, disconnectsOf σ.transports t = some ds → ∀ n, .listener n ∉ ds := by
    intro t ds hds
    obtain ⟨tr, htr, rfl⟩ := Option.map_eq_some_iff.mp hds
    exact h.2 t tr htr
  exact
    { names := .nil
      nums := .nil
      fresh := by simp
      owned := by simp
      once := fun t ds hds n => by simp [count_eq_zero.mpr (hnone t ds hds n)]
      linked := fun t ds hds n => by simp [hnone t ds hds n] }

/-- After every sequence of operations the names of the listeners are distinct, the list of a
transport has the node of each of its listeners once and no other node of a listener; and when a
transport goes offline, its listeners are deleted and the others stay. -/
theorem listeners_kept (h : σ.NoListeners) {ops : List ListenerOp}
    (hlegal : Meets listenerStep (fun ρ op => op.legal ρ = true) ops σ)
    (hrun : runs listenerStep ops σ = .ok τ) :
    (τ.listenerList.map (·.localName)).Nodup ∧ (τ.listenerList.map (·.num)).Nodup ∧
      ∀ t tr, τ.transports.get t = some tr → (∀ l ∈ τ.listenerList,
          tr.disconnects.count (.listener l.num) = if l.transport = some t then 1 else 0) ∧
        (∀ n, .listener n ∈ tr.disconnects →
          ∃ l ∈ τ.listenerList, l.num = n ∧ l.transport = some t) ∧
        (tr.connectionState ≠ .kCsOffline → ∀ ρ, handleOffline t τ = .ok ρ →
          ρ.listenerList = τ.listenerList.filter (·.transport ≠ some t)) := by
  have hτ : τ.ListenersConsistent :=
    runs_invariant listenerStep_consistent h.consistent hlegal hrun
  refine ⟨hτ.names, hτ.nums, ?_⟩
  intro t tr htr
  have hds := disconnectsOf_of_get htr
  refine ⟨?_, fun n => (hτ.linked t _ hds n).mp,
    fun hstate ρ hρ => (handleOffline_consistent hτ htr hstate hρ).2⟩
  intro l hl
  have hone := hτ.once t _ hds l.num
  have hiff := hτ.linked_iff hds hl
  split
  · next hlt =>
    have hpos := count_pos_iff.mpr (hiff.mpr hlt)
    omega
  · next hlt => exact count_eq_zero.mpr fun hmem => hlt (hiff.mp hmem)

def bareDevices : Server :=
  { transports := (Store.empty.alloc { connectionState := .kCsDevice }).alloc
      { connectionState := .kCsDevice } }

lemma bareDevices_noListeners : bareDevices.NoListeners := by
  refine ⟨rfl, ?_⟩
  intro t tr htr n hn
  have htr : (if t = 1 then some { connectionState := .kCsDevice }
      else if t = 0 then some { connectionState := .kCsDevice } else none) = some tr := htr
  have hempty : tr.disconnects = [] := by split_ifs at htr <;> cases htr <;> rfl
  rw [hempty] at hn
  cases hn

/-- A listener is rebound from the first device to the second, another one gets a port from the
kernel, and the second device goes offline. -/
theorem listeners_kept_rebound :
    ∃ τ, runs listenerStep [.installSmartsocket (ascii "tcp:5037") (.ok 0),
          .install (ascii "tcp:6100") (ascii "tcp:1") 0 false (.ok 0),
          .install (ascii "tcp:0") (ascii "tcp:2") 0 true (.ok 7000),
          .install (ascii "tcp:6100") (ascii "tcp:3") 1 false (.ok 0), .offline 1]
        bareDevices = .ok τ ∧
      τ.listenerList.map (·.localName) = [ascii "tcp:5037", ascii "tcp:7000"] ∧
      (τ.listenerList.map (·.localName)).Nodup := by
  have htest : returns (runs listenerStep [.installSmartsocket (ascii "tcp:5037") (.ok 0),
          .install (ascii "tcp:6100") (ascii "tcp:1") 0 false (.ok 0),
          .install (ascii "tcp:0") (ascii "tcp:2") 0 true (.ok 7000),
          .install (ascii "tcp:6100") (ascii "tcp:3") 1 false (.ok 0), .offline 1]
        bareDevices)
      (fun τ => τ.listenerList.map (·.localName) = [ascii "tcp:5037", ascii "tcp:7000"]) = true := by
    decide
  obtain ⟨τ, hrun, hnames⟩ := returns_iff.mp htest
  exact ⟨τ, hrun, of_decide_eq_true hnames,
    (listeners_kept bareDevices_noListeners (by decide) hrun).1⟩

end Server

end Adb

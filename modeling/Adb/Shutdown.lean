import Adb.ListenerRuns

/-!
# The end of the server

`adb_server_cleanup` begins with `close_smartsockets`, so that no client comes any more. The function
looks for listeners by the name `*smartsocket*`; but this is their destination, and their name is the
address that the server was given.
-/

namespace Adb

open Lib List

namespace Server

variable {σ τ ρ : Server} {l x : AListener} {ls : List AListener}

/-- Listeners are told apart by their numbers, and their transports exist. -/
structure Filed (σ : Server) : Prop where
  nums : (σ.listenerList.map (·.num)).Nodup
  fresh : ∀ l ∈ σ.listenerList, l.num < σ.nextListener
  bound : ∀ l ∈ σ.listenerList, ∀ t, l.transport = some t → ∃ tr, σ.transports.get t = some tr

namespace Filed

lemma numbered (h : σ.Filed) : Numbered σ.listenerList σ.nextListener := ⟨h.nums, h.fresh⟩

lemma append (h : σ.Filed) (hnum : x.num = σ.nextListener)
    (hlist : τ.listenerList = σ.listenerList ++ [x])
    (hnext : τ.nextListener = σ.nextListener + 1)
    (hbound : ∀ l ∈ τ.listenerList, ∀ t, l.transport = some t →
      ∃ tr, τ.transports.get t = some tr) : τ.Filed := by
  have hnumbered := h.numbered.append hnum
  rw [← hlist, ← hnext] at hnumbered
  exact ⟨hnumbered.nums, hnumbered.fresh, hbound⟩

lemma update (h : σ.Filed) {f : AListener → AListener} (hf : ∀ l, (f l).num = l.num)
    (hlist : τ.listenerList = σ.listenerList.map f) (hnext : τ.nextListener = σ.nextListener)
    (hbound : ∀ l ∈ σ.listenerList, ∀ t, (f l).transport = some t →
      ∃ tr, τ.transports.get t = some tr) : τ.Filed := by
  have hnumbered := h.numbered.map hf
  rw [← hlist, ← hnext] at hnumbered
  refine ⟨hnumbered.nums, hnumbered.fresh, ?_⟩
  intro l hl
  rw [hlist] at hl
  obtain ⟨m, hm, rfl⟩ := mem_map.mp hl
  exact hbound m hm

end Filed

lemma exists_setTransport {t u : TPtr} {tr' : ATransport} (h : ∃ tr, σ.transports.get u = some tr) :
    ∃ tr, (σ.setTransport t tr').transports.get u = some tr := by
  obtain ⟨tr, htr⟩ := h
  by_cases hut : u = t
  · subst hut
    exact ⟨tr', get_setTransport_self htr tr'⟩
  · exact ⟨tr, (get_setTransport_of_ne hut).trans htr⟩

variable {r : Installed}

lemma rebindListener_filed {connectTo : Bytes} {t : TPtr} {noRebind : Bool}
    (h : σ.Filed) (hl : l ∈ σ.listenerList)
    (hτ : rebindListener l connectTo t noRebind σ = .ok (r, τ)) : τ.Filed := by
  let f := fun (m : AListener) =>
    if m.num = l.num then { m with connectTo := connectTo, transport := some t } else m
  have hf : ∀ m, (f m).num = m.num := by
    intro m
    dsimp only [f]
    split <;> rfl
  -- the listener gets `t`, and the others keep what they have
  have hbound : ∀ ts : Store ATransport, (∃ tr, ts.get t = some tr) →
      (∀ u, (∃ tr, σ.transports.get u = some tr) → ∃ tr, ts.get u = some tr) →
      ∀ m ∈ σ.listenerList, ∀ u, (f m).transport = some u → ∃ tr, ts.get u = some tr := by
    intro ts ht hkept m hm u hu
    dsimp only [f] at hu
    split at hu
    · cases hu
      exact ht
    · exact hkept u (h.bound m hm u hu)
  unfold rebindListener at hτ
  split at hτ
  · cases hτ
    exact h
  split at hτ
  · cases hτ
    exact h
  split at hτ
  · obtain ⟨old, hold, hτ⟩ := bind_eq_ok.mp hτ
    obtain ⟨ρ1, hρ1, hτ⟩ := bind_eq_ok.mp hτ
    obtain ⟨ρ, hρ, hret⟩ := bind_eq_ok.mp hτ
    cases hret
    obtain ⟨tro, htro, rfl⟩ := removeDisconnect_spec.of_ok hρ1
    obtain ⟨tr, htr, rfl⟩ := addDisconnect_spec.of_ok hρ
    refine h.update hf rfl rfl (hbound _ ⟨_, get_setTransport_self htr _⟩ ?_)
    intro u hu
    exact exists_setTransport (exists_setTransport hu)
  · next hsame =>
    cases hτ
    have hlt : l.transport = some t := by simpa using hsame
    exact h.update hf rfl rfl (hbound _ (h.bound l hl t hlt) fun u hu => hu)

lemma installListener_filed {localName connectTo : Bytes} {t : TPtr} {noRebind : Bool} (h : σ.Filed)
    (hτ : installListener localName connectTo t noRebind σ = .ok (r, τ)) : τ.Filed := by
  unfold installListener at hτ
  split at hτ
  · next l hfind => exact rebindListener_filed h (mem_of_find?_eq_some hfind) hτ
  split at hτ
  · cases hτ
    exact h
  obtain ⟨ρ, hρ, hret⟩ := bind_eq_ok.mp hτ
  cases hret
  obtain ⟨tr, htr, rfl⟩ := addDisconnect_spec.of_ok hρ
  refine h.append rfl rfl rfl ?_
  intro l hl u hu
  rcases mem_append.mp hl with hl | hl
  · exact exists_setTransport (σ := { σ with nextListener := σ.nextListener + 1 })
      (h.bound l hl u hu)
  rw [mem_singleton.mp hl] at hu
  cases hu
  exact ⟨_, get_setTransport_self htr _⟩

lemma installSmartsocket_filed {localName : Bytes} (h : σ.Filed)
    (hτ : installSmartsocket localName σ = .ok (r, τ)) : τ.Filed := by
  unfold installSmartsocket at hτ
  split at hτ
  · next l hfind =>
    split at hτ
    · cases hτ
      exact h
    split at hτ
    · cases hτ
    cases hτ
    refine h.update (f := fun m => if m.num = l.num then
      { m with connectTo := ascii "*smartsocket*" } else m) ?_ rfl rfl ?_
    · intro m
      split <;> rfl
    intro m hm u hu
    refine h.bound m hm u ?_
    split at hu
    · exact hu
    · exact hu
  split at hτ
  · cases hτ
    exact h
  cases hτ
  refine h.append rfl rfl rfl ?_
  intro l hl u hu
  rcases mem_append.mp hl with hl | hl
  · exact h.bound l hl u hu
  · rw [mem_singleton.mp hl] at hu
    cases hu

/-! ## What is closed -/

lemma eraseListener_returns (h : σ.Filed) (hl : l ∈ σ.listenerList) :
    ∃ τ, eraseListener l σ = .ok τ ∧ τ.Filed ∧
      τ.listenerList = σ.listenerList.filter (·.num ≠ l.num) := by
  let ρ : Server := { σ with listenerList := σ.listenerList.eraseP (·.num = l.num) }
  have hlist : ρ.listenerList = σ.listenerList.filter (·.num ≠ l.num) :=
    eraseP_num_eq_filter h.nums l.num
  have hmem : ∀ x ∈ ρ.listenerList, x ∈ σ.listenerList := fun x hx => mem_of_mem_eraseP hx
  have hnums : (ρ.listenerList.map (·.num)).Nodup := (eraseP_sublist.map _).nodup h.nums
  have hfresh : ∀ x ∈ ρ.listenerList, x.num < ρ.nextListener := fun x hx => h.fresh x (hmem x hx)
  have hbound : ∀ x ∈ ρ.listenerList, ∀ t, x.transport = some t →
      ∃ tr, ρ.transports.get t = some tr := fun x hx => h.bound x (hmem x hx)
  unfold eraseListener
  cases ht : l.transport with
  | none => exact ⟨ρ, rfl, ⟨hnums, hfresh, hbound⟩, hlist⟩
  | some t =>
    obtain ⟨tr, htr⟩ := h.bound l hl t ht
    refine ⟨ρ.setTransport t { tr with
      disconnects := tr.disconnects.filter (· ≠ .listener l.num) }, ?_, ⟨hnums, hfresh, ?_⟩, hlist⟩
    · show removeDisconnect t (.listener l.num) ρ = _
      rw [removeDisconnect, transport_eq (σ := ρ) htr]
      rfl
    · intro x hx u hu
      exact exists_setTransport (hbound x hx u hu)

lemma eraseAll_returns (h : σ.Filed) (hls : ∀ x ∈ ls, x ∈ σ.listenerList)
    (hnums : (ls.map (·.num)).Nodup) :
    ∃ τ, removeAllListeners.go ls σ = .ok τ ∧
      τ.listenerList = σ.listenerList.filter fun x => x.num ∉ ls.map (·.num) := by
  induction ls generalizing σ with
  | nil => exact ⟨σ, rfl, by simp⟩
  | cons l rest ih =>
    obtain ⟨ρ, hρ, hfiled, hlist⟩ := eraseListener_returns h (hls l (by simp))
    have hne : ∀ x ∈ rest, x.num ≠ l.num := by
      intro x hx heq
      exact (nodup_cons.mp hnums).1 (mem_map.mpr ⟨x, hx, heq⟩)
    have hrest : ∀ x ∈ rest, x ∈ ρ.listenerList := by
      intro x hx
      rw [hlist, mem_filter]
      exact ⟨hls x (by simp [hx]), decide_eq_true (hne x hx)⟩
    obtain ⟨τ, hτ, hτlist⟩ := ih hfiled hrest hnums.of_cons
    refine ⟨τ, bind_eq_ok.mpr ⟨ρ, hρ, hτ⟩, ?_⟩
    rw [hτlist, hlist, filter_filter]
    refine filter_congr fun x _ => ?_
    rw [map_cons, ← Bool.decide_and]
    refine decide_eq_decide.mpr ?_
    rw [mem_cons, not_or, and_comm]

lemma closeSmartsockets_returns (h : σ.Filed) :
    ∃ τ, closeSmartsockets σ = .ok τ ∧
      τ.listenerList = σ.listenerList.filter (·.localName ≠ ascii "*smartsocket*") := by
  let named := σ.listenerList.filter (·.localName = ascii "*smartsocket*")
  have hnums : (named.map (·.num)).Nodup := (filter_sublist.map _).nodup h.nums
  obtain ⟨τ, hτ, hlist⟩ := eraseAll_returns h (fun x hx => mem_of_mem_filter hx) hnums
  refine ⟨τ, hτ, hlist.trans (filter_congr fun x hx => ?_)⟩
  have hiff : x.num ∈ named.map (·.num) ↔ x.localName = ascii "*smartsocket*" := by
    constructor
    · intro hnum
      obtain ⟨y, hy, heq⟩ := mem_map.mp hnum
      obtain ⟨hmem, hname⟩ := mem_filter.mp hy
      rw [← inj_on_of_nodup_map h.nums hmem hx heq]
      exact of_decide_eq_true hname
    · intro hname
      exact mem_map.mpr ⟨x, mem_filter.mpr ⟨hx, decide_eq_true hname⟩, rfl⟩
  exact decide_eq_decide.mpr (not_congr hiff)

def ShutDown (σ τ : Server) : Prop :=
  (∀ l ∈ τ.listenerList, l.connectTo ≠ ascii "*smartsocket*") ∧
    ∀ l ∈ σ.listenerList, l.connectTo ≠ ascii "*smartsocket*" → l ∈ τ.listenerList

def ListenerOp.isInstall : ListenerOp → Bool
  | .install .. | .installSmartsocket .. => true
  | _ => false

lemma install_filed (σ : Server) (op : ListenerOp) (τ : Server) (h : σ.Filed)
    (hop : op.isInstall = true) (hτ : listenerStep op σ = .ok τ) : τ.Filed := by
  cases op with
  | install localName connectTo t noRebind listen =>
    obtain ⟨⟨r, ρ⟩, hρ, hret⟩ := bind_eq_ok.mp hτ
    cases hret
    exact installListener_filed (σ := σ.withListen listen) { h with } hρ
  | installSmartsocket localName listen =>
    obtain ⟨⟨r, ρ⟩, hρ, hret⟩ := bind_eq_ok.mp hτ
    cases hret
    exact installSmartsocket_filed (σ := σ.withListen listen) { h with } hρ
  | _ => cases hop

/-- The server is shut down exactly if no listener is taken for what it is not: one has the name
that is looked for if and only if it is a smart socket. -/
theorem smartsockets_closed_iff (hempty : σ.listenerList = []) {ops : List ListenerOp}
    (hops : ∀ op ∈ ops, op.isInstall = true) (hrun : runs listenerStep ops σ = .ok τ) :
    ∃ ρ, closeSmartsockets τ = .ok ρ ∧ (ShutDown τ ρ ↔ ∀ l ∈ τ.listenerList,
        l.connectTo = ascii "*smartsocket*" ↔ l.localName = ascii "*smartsocket*") := by
  have hσ : σ.Filed := by constructor <;> simp [hempty]
  have hτ : τ.Filed := runs_invariant (C := fun _ op => op.isInstall = true) install_filed hσ
    (.of_mem (fun op hop _ => hops op hop) σ) hrun
  obtain ⟨ρ, hρ, hlist⟩ := closeSmartsockets_returns hτ
  refine ⟨ρ, hρ, ?_⟩
  unfold ShutDown
  rw [hlist]
  constructor
  · intro ⟨hclosed, hkept⟩ l hl
    constructor
    · intro hto
      by_contra hname
      exact hclosed l (mem_filter.mpr ⟨hl, decide_eq_true hname⟩) hto
    intro hname
    by_contra hto
    have hmem := (mem_filter.mp (hkept l hl hto)).2
    exact of_decide_eq_true hmem hname
  · intro hiff
    constructor
    · intro l hl hto
      obtain ⟨hmem, hname⟩ := mem_filter.mp hl
      exact of_decide_eq_true hname ((hiff l hmem).mp hto)
    intro l hl hto
    refine mem_filter.mpr ⟨hl, decide_eq_true ?_⟩
    intro hname
    exact hto ((hiff l hl).mpr hname)

/-- A server that has forwards but no smart socket. -/
theorem smartsockets_closed_forwards :
    ∃ τ ρ, runs listenerStep [.install (ascii "tcp:6100") (ascii "tcp:1") 0 false (.ok 0),
          .install (ascii "tcp:0") (ascii "tcp:2") 1 false (.ok 7000)] bareDevices = .ok τ ∧
      closeSmartsockets τ = .ok ρ ∧ ShutDown τ ρ := by
  have htest : returns (runs listenerStep
        [.install (ascii "tcp:6100") (ascii "tcp:1") 0 false (.ok 0),
          .install (ascii "tcp:0") (ascii "tcp:2") 1 false (.ok 7000)] bareDevices)
      (fun τ => decide (∀ l ∈ τ.listenerList,
        l.connectTo = ascii "*smartsocket*" ↔ l.localName = ascii "*smartsocket*")) = true := by
    decide
  obtain ⟨τ, hrun, hnames⟩ := returns_iff.mp htest
  obtain ⟨ρ, hρ, hiff⟩ := smartsockets_closed_iff rfl (by decide) hrun
  exact ⟨τ, ρ, hrun, hρ, hiff.mpr (of_decide_eq_true hnames)⟩

/-- The listener of the server, as `adb_server_main` installs it, is not closed. -/
theorem smartsockets_not_closed :
    ∃ τ ρ, runs listenerStep [.installSmartsocket (ascii "tcp:5037") (.ok 0)] {} = .ok τ ∧
      closeSmartsockets τ = .ok ρ ∧
      ∃ l ∈ ρ.listenerList, l.connectTo = ascii "*smartsocket*" := by
  have htest : returns (runs listenerStep [.installSmartsocket (ascii "tcp:5037") (.ok 0)] {})
      (fun τ => returns (closeSmartsockets τ) fun ρ =>
        decide (∃ l ∈ ρ.listenerList, l.connectTo = ascii "*smartsocket*")) = true := by
    decide
  obtain ⟨τ, hrun, hτ⟩ := returns_iff.mp htest
  obtain ⟨ρ, hρ, hleft⟩ := returns_iff.mp hτ
  exact ⟨τ, ρ, hrun, hρ, of_decide_eq_true hleft⟩

end Server

end Adb

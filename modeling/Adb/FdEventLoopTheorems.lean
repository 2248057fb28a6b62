import Adb.Lib.History
import Adb.FdEventLoop

/-!
# The bookkeeping of the event loop

`Kept` says how the fdevents, `g_poll_node_map` and `g_pending_list` belong together, in parts for
the map (`Mapped`), the list (`Queued`) and what was seen of the loop. Every step keeps it, and on a
state that has it no `CHECK` of `fdevent.cpp` fails.
-/

namespace Adb

open Lib List Store

namespace FdLoop

variable {σ τ : FdLoop} {p q : FPtr} {f f' : Fde} {fdes : Store Fde} {list : List FPtr}
  {map : AList (fun _ : ℕ => MapNode)}

/-! ## The map -/

def nodeOf (p : FPtr) (f : Fde) : MapNode :=
  { fde := p, pollin := f.state.read, pollout := f.state.write }

structure Installed (map : AList (fun _ : ℕ => MapNode)) (p : FPtr) (f : Fde) : Prop where
  created : f.created = true
  active : f.active = true
  node : map.lookup f.fd = some (nodeOf p f)
  events : f.pending = true ↔ f.events ≠ 0

structure Mapped (fdes : Store Fde) (map : AList (fun _ : ℕ => MapNode)) : Prop where
  installed : ∀ p f, fdes.get p = some f → Installed map p f
  owner : ∀ fd node, map.lookup fd = some node → ∃ f, fdes.get node.fde = some f ∧ f.fd = fd

namespace Mapped

lemma fd_ne {g : Fde} (h : Mapped fdes map) (hp : fdes.get p = some f) (hq : fdes.get q = some g)
    (hne : q ≠ p) : g.fd ≠ f.fd := by
  intro hfd
  have hnode := (h.installed q g hq).node
  rw [hfd, (h.installed p f hp).node] at hnode
  exact hne (congrArg MapNode.fde (Option.some_inj.mp hnode)).symm

lemma set {map' : AList (fun _ : ℕ => MapNode)} (h : Mapped fdes map)
    (hp : fdes.get p = some f) (hf' : Installed map' p f') (hfd : f'.fd = f.fd)
    (hother : ∀ fd, fd ≠ f.fd → map'.lookup fd = map.lookup fd) : Mapped (fdes.set p f') map' := by
  refine ⟨fun q g hq => ?_, fun fd node hnode => ?_⟩
  · by_cases hqp : q = p
    · subst hqp
      rw [get_set_self hp] at hq
      cases hq
      exact hf'
    · rw [get_set_of_ne _ hqp] at hq
      have hg := h.installed q g hq
      exact { hg with node := (hother _ (h.fd_ne hp hq hqp)).trans hg.node }
  · by_cases hf : fd = f.fd
    · subst hf
      rw [← hfd, hf'.node] at hnode
      cases hnode
      exact ⟨f', get_set_self hp f', hfd⟩
    · rw [hother fd hf] at hnode
      obtain ⟨g, hg, hgfd⟩ := h.owner fd node hnode
      have hne : node.fde ≠ p := by
        rintro rfl
        rw [hp] at hg
        cases hg
        exact hf hgfd.symm
      exact ⟨g, (get_set_of_ne _ hne _).trans hg, hgfd⟩

lemma setEvents (h : Mapped fdes map) (hp : fdes.get p = some f) {events : Mask} {pending : Bool}
    (hevents : pending = true ↔ events ≠ 0) :
    Mapped (fdes.set p { f with events := events, pending := pending }) map := by
  have hf := h.installed p f hp
  exact h.set hp ⟨hf.created, hf.active, hf.node, hevents⟩ rfl fun _ _ => rfl

lemma alloc (h : Mapped fdes map) {fd : ℕ} (hfd : map.lookup fd = none) :
    Mapped (fdes.alloc { fd := fd, created := true }) (map.insert fd { fde := fdes.next }) := by
  refine ⟨fun q g hq => ?_, fun fd' node hnode => ?_⟩
  · by_cases hqn : q = fdes.next
    · subst hqn
      rw [get_alloc_self] at hq
      cases hq
      exact ⟨rfl, rfl, (AList.lookup_insert _).trans (by simp [nodeOf, Mask.read, Mask.write]),
        by simp⟩
    · rw [get_alloc_of_ne hqn] at hq
      have hg := h.installed q g hq
      have hne : g.fd ≠ fd := by
        intro heq
        rw [← heq, hg.node] at hfd
        cases hfd
      exact { hg with node := (AList.lookup_insert_ne hne).trans hg.node }
  · by_cases heq : fd' = fd
    · subst heq
      rw [AList.lookup_insert] at hnode
      cases hnode
      exact ⟨_, get_alloc_self, rfl⟩
    · rw [AList.lookup_insert_ne heq] at hnode
      obtain ⟨g, hg, hgfd⟩ := h.owner fd' node hnode
      exact ⟨g, (get_alloc_of_ne (ne_next hg)).trans hg, hgfd⟩

lemma free (h : Mapped fdes map) (hp : fdes.get p = some f) :
    Mapped (fdes.free p) (map.erase f.fd) := by
  refine ⟨fun q g hq => ?_, fun fd node hnode => ?_⟩
  · by_cases hqp : q = p
    · subst hqp
      rw [get_free_self] at hq
      cases hq
    · rw [get_free_of_ne hqp] at hq
      have hg := h.installed q g hq
      exact { hg with node := (AList.lookup_erase_ne (h.fd_ne hp hq hqp)).trans hg.node }
  · have hf : fd ≠ f.fd := by
      rintro rfl
      rw [AList.lookup_erase] at hnode
      cases hnode
    rw [AList.lookup_erase_ne hf] at hnode
    obtain ⟨g, hg, hgfd⟩ := h.owner fd node hnode
    have hne : node.fde ≠ p := by
      rintro rfl
      rw [hp] at hg
      cases hg
      exact hf hgfd.symm
    exact ⟨g, (get_free_of_ne hne).trans hg, hgfd⟩

end Mapped

/-! ## The list -/

structure Queued (fdes : Store Fde) (list : List FPtr) : Prop where
  nodup : list.Nodup
  mem : ∀ p, p ∈ list ↔ ∃ f, fdes.get p = some f ∧ f.pending = true

namespace Queued

lemma mem_iff (h : Queued fdes list) (hp : fdes.get p = some f) : p ∈ list ↔ f.pending = true := by
  rw [h.mem, hp]
  simp

private lemma rebuild {fdes' : Store Fde} {list' : List FPtr} (h : Queued fdes list)
    (hnodup : list'.Nodup) (hother : ∀ q, q ≠ p → fdes'.get q = fdes.get q)
    (hmem : ∀ q, q ≠ p → (q ∈ list' ↔ q ∈ list))
    (hself : p ∈ list' ↔ ∃ g, fdes'.get p = some g ∧ g.pending = true) : Queued fdes' list' := by
  refine ⟨hnodup, fun q => ?_⟩
  by_cases hqp : q = p
  · rw [hqp, hself]
  · rw [hmem q hqp, h.mem, hother q hqp]

lemma set (h : Queued fdes list) (hp : fdes.get p = some f) (hsame : f'.pending = f.pending) :
    Queued (fdes.set p f') list := by
  refine h.rebuild h.nodup (fun q hq => get_set_of_ne _ hq f') (fun _ _ => Iff.rfl) ?_
  rw [h.mem_iff hp, get_set_self hp]
  simp [hsame]

lemma push (h : Queued fdes list) (hp : fdes.get p = some f) (hnot : f.pending = false)
    (hpending : f'.pending = true) : Queued (fdes.set p f') (list ++ [p]) := by
  have hmem : p ∉ list := by rw [h.mem_iff hp, hnot]; simp
  refine h.rebuild ?_ (fun q hq => get_set_of_ne _ hq f') (fun q hq => by simp [hq]) ?_
  · exact h.nodup.append (nodup_singleton p) (by simpa using hmem)
  · rw [get_set_self hp]
    simp [hpending]

lemma drop (h : Queued fdes list) (hp : fdes.get p = some f) (hnot : f'.pending = false) :
    Queued (fdes.set p f') (list.filter (· ≠ p)) := by
  refine h.rebuild (h.nodup.filter _) (fun q hq => get_set_of_ne _ hq f')
    (fun q hq => by simp [hq]) ?_
  rw [get_set_self hp]
  simp [hnot]

lemma tail {rest : List FPtr} (h : Queued fdes (p :: rest)) (hp : fdes.get p = some f)
    (hnot : f'.pending = false) : Queued (fdes.set p f') rest := by
  have hdrop := h.drop hp hnot
  have hnotmem : p ∉ rest := (nodup_cons.mp h.nodup).1
  have hfilter : rest.filter (· ≠ p) = rest :=
    filter_eq_self.mpr fun q hq => by simpa using fun heq : q = p => hnotmem (heq ▸ hq)
  rwa [filter_cons_of_neg (by simp), hfilter] at hdrop

lemma alloc (h : Queued fdes list) (hnot : f.pending = false) : Queued (fdes.alloc f) list := by
  refine h.rebuild (p := fdes.next) h.nodup (fun q hq => get_alloc_of_ne hq) (fun _ _ => Iff.rfl) ?_
  rw [h.mem, get_next, get_alloc_self]
  simp [hnot]

lemma free (h : Queued fdes list) (hp : fdes.get p = some f) :
    Queued (fdes.free p) (if f.pending then list.filter (· ≠ p) else list) := by
  have hnot : f.pending = false → p ∉ list := fun hf => by rw [h.mem_iff hp, hf]; simp
  refine h.rebuild (p := p) ?_ (fun q hq => get_free_of_ne hq) (fun q hq => ?_) ?_
  · split
    · exact h.nodup.filter _
    · exact h.nodup
  · split
    · simp [hq]
    · rfl
  rw [get_free_self]
  cases hf : f.pending with
  | true => simp
  | false => simpa using hnot hf

end Queued

/-! ## What is seen -/

/-- The interests that `p` has been given since events were last reported for it. -/
def changesSince (p : FPtr) (seen : List Seen) : List Mask :=
  seen.foldl (fun changes o =>
    match o with
    | .changed q e => if q = p then e :: changes else changes
    | .reported q _ => if q = p then [] else changes
    | .called _ _ => changes) []

@[simp] lemma changesSince_changed (seen : List Seen) (e : Mask) :
    changesSince p (seen ++ [.changed q e]) =
      if q = p then e :: changesSince p seen else changesSince p seen := by
  simp [changesSince]

@[simp] lemma changesSince_reported (seen : List Seen) (e : Mask) :
    changesSince p (seen ++ [.reported q e]) = if q = p then [] else changesSince p seen := by
  simp [changesSince]

@[simp] lemma changesSince_called (seen : List Seen) (e : Mask) :
    changesSince p (seen ++ [.called q e]) = changesSince p seen := by
  simp [changesSince]

/-- The function of an fdevent is called with events that are wanted: there are some, and each of
the interests that the fdevent was given since they were reported has all of them. -/
def Delivered (seen : List Seen) : Prop :=
  ∀ pre p e post, seen = pre ++ .called p e :: post →
    e ≠ 0 ∧ ∀ e' ∈ changesSince p pre, e &&& e' = e

lemma Delivered.snoc {seen : List Seen} {o : Seen} (h : Delivered seen)
    (ho : ∀ p e, o = .called p e → e ≠ 0 ∧ ∀ e' ∈ changesSince p seen, e &&& e' = e) :
    Delivered (seen ++ [o]) := by
  intro pre p e post heq
  rcases snoc_eq_append_cons heq with ⟨-, rfl, hcall⟩ | ⟨mid, -, hseen⟩
  · exact ho p e hcall
  · exact h pre p e mid hseen

structure Kept (σ : FdLoop) : Prop where
  mapped : Mapped σ.fdes σ.gPollNodeMap
  queued : Queued σ.fdes σ.gPendingList
  /-- nobody changes the interest of the fdevent of the run queue -/
  runFunc : ∀ p, σ.runFunc = some p → ∃ f, σ.fdes.get p = some f ∧ f.state = Mask.FDE_READ ∧
    (f.pending = true → f.events.read = true)
  wanted : ∀ p f, σ.fdes.get p = some f → f.pending = true →
    ∀ e ∈ changesSince p σ.seen, f.events &&& e = f.events
  delivered : Delivered σ.seen

lemma deref_eq (hp : σ.fdes.get p = some f) : σ.deref p = .ok f := by
  rw [deref, hp]
  rfl

lemma kept_empty : Kept {} where
  mapped := ⟨by simp, by simp⟩
  queued := ⟨nodup_nil, by simp⟩
  runFunc := by simp
  wanted := by simp
  delivered := by simp [Delivered]

/-! ## The functions on fdevents -/

lemma fdeventCreate_kept (h : σ.Kept) {fd : ℕ} (hfd : σ.gPollNodeMap.lookup fd = none) :
    ∃ τ, σ.fdeventCreate fd = .ok (σ.fdes.next, τ) ∧ τ.Kept ∧
      τ.fdes.get σ.fdes.next = some { fd := fd, created := true } ∧ τ.runFunc = σ.runFunc := by
  let τ : FdLoop := { σ with
    fdes := σ.fdes.alloc { fd := fd, created := true }
    gPollNodeMap := σ.gPollNodeMap.insert fd { fde := σ.fdes.next } }
  have hcreate : σ.fdeventCreate fd = .ok (σ.fdes.next, τ) := by
    rw [fdeventCreate, hfd]
    rfl
  refine ⟨τ, hcreate, ?_, get_alloc_self, rfl⟩
  have hold {q : FPtr} {g : Fde} (hq : σ.fdes.get q = some g) :
      (σ.fdes.alloc { fd := fd, created := true }).get q = some g :=
    (get_alloc_of_ne (ne_next hq)).trans hq
  refine ⟨h.mapped.alloc hfd, h.queued.alloc rfl, fun q hq => ?_, fun q g hq hg => ?_, h.delivered⟩
  · obtain ⟨g, hget, hg⟩ := h.runFunc q hq
    exact ⟨g, hold hget, hg⟩
  by_cases hqn : q = σ.fdes.next
  · subst hqn
    rw [get_alloc_self] at hq
    cases hq
    cases hg
  · rw [get_alloc_of_ne hqn] at hq
    exact h.wanted q g hq hg

lemma fdeventDestroy_kept (h : σ.Kept) (hp : σ.fdes.get p = some f)
    (hrun : σ.runFunc ≠ some p) : ∃ τ, σ.fdeventDestroy p = .ok τ ∧ τ.Kept := by
  have hf := h.mapped.installed p f hp
  let τ : FdLoop := { σ with
    fdes := σ.fdes.free p
    gPollNodeMap := σ.gPollNodeMap.erase f.fd
    gPendingList := if f.pending then σ.gPendingList.filter (· ≠ p) else σ.gPendingList }
  have hdestroy : σ.fdeventDestroy p = .ok τ := by
    rw [fdeventDestroy, deref_eq hp, ok_bind, hf.created, hf.active]
    rfl
  refine ⟨τ, hdestroy, ?_⟩
  refine ⟨h.mapped.free hp, h.queued.free hp, fun q hq => ?_, fun q g hq => ?_, h.delivered⟩
  · obtain ⟨g, hget, hg⟩ := h.runFunc q hq
    have hne : q ≠ p := by
      rintro rfl
      exact hrun hq
    exact ⟨g, (get_free_of_ne hne).trans hget, hg⟩
  · have hne : q ≠ p := by
      rintro rfl
      rw [get_free_self] at hq
      cases hq
    rw [get_free_of_ne hne] at hq
    exact h.wanted q g hq

def setTo (f : Fde) (events : Mask) : Fde :=
  { f with
    state := events
    events := f.events &&& events
    pending := decide (f.events &&& events ≠ 0) }

def changed (p : FPtr) (f : Fde) (events : Mask) (σ : FdLoop) : FdLoop :=
  { σ with
    fdes := σ.fdes.set p (setTo f events)
    gPollNodeMap := σ.gPollNodeMap.insert f.fd (nodeOf p (setTo f events))
    gPendingList :=
      if f.events &&& events = 0 then σ.gPendingList.filter (· ≠ p) else σ.gPendingList
    seen := σ.seen ++ [.changed p events] }

variable {events : Mask}

lemma fdeventSet_eq (h : σ.Kept) (hp : σ.fdes.get p = some f)
    (hne : f.state ≠ events) : σ.fdeventSet p events = .ok (σ.changed p f events) := by
  have hf := h.mapped.installed p f hp
  have hupdate : σ.fdeventUpdate p events = .ok { σ with
      gPollNodeMap := σ.gPollNodeMap.insert f.fd (nodeOf p (setTo f events))
      fdes := σ.fdes.set p { f with state := events } } := by
    rw [fdeventUpdate, deref_eq hp, ok_bind, hf.node]
    rfl
  have hderef (ρ : FdLoop) (hρ : ρ.fdes = σ.fdes.set p { f with state := events }) :
      ρ.deref p = .ok { f with state := events } := deref_eq (hρ ▸ get_set_self hp _)
  rw [fdeventSet, deref_eq hp, ok_bind, if_neg hne, hf.active, check_true, ok_bind, hupdate,
    ok_bind]
  dsimp only
  rw [hderef _ rfl, ok_bind]
  by_cases hpending : f.pending = true
  · rw [if_pos hpending, changed, Store.set_set, Store.set_set]
    by_cases hzero : f.events &&& events = 0
    · have hto : setTo f events =
          { f with state := events, events := f.events &&& events, pending := false } := by
        rw [setTo, decide_eq_false (not_not.mpr hzero)]
      rw [if_pos hzero, if_pos hzero, hto]
      rfl
    · have hto : setTo f events = { f with state := events, events := f.events &&& events } := by
        rw [setTo, decide_eq_true hzero, ← hpending]
      rw [if_neg hzero, if_neg hzero, hto]
      rfl
  · -- there are no events, and the fdevent is not in the list
    have hnone : f.events = 0 := by
      by_contra hsome
      exact hpending (hf.events.mpr hsome)
    have hand : f.events &&& events = 0 := by
      rw [hnone]
      exact BitVec.zero_and
    have hto : setTo f events = { f with state := events } := by
      rw [setTo, hand, decide_eq_false (by simp), ← hnone, ← Bool.eq_false_iff.mpr hpending]
    have hlist : σ.gPendingList.filter (· ≠ p) = σ.gPendingList := by
      refine filter_eq_self.mpr fun q hq => ?_
      have hqp : q ≠ p := by
        rintro rfl
        exact hpending ((h.queued.mem_iff hp).mp hq)
      simpa using hqp
    rw [if_neg hpending, changed, if_pos hand, hlist, hto]
    rfl

lemma changed_kept (h : σ.Kept) (hp : σ.fdes.get p = some f)
    (hrun : σ.runFunc ≠ some p) : (σ.changed p f events).Kept := by
  have hf := h.mapped.installed p f hp
  refine ⟨?_, ?_, fun q hq => ?_, fun q g hq hg e he => ?_, ?_⟩
  · refine h.mapped.set hp ⟨hf.created, hf.active, AList.lookup_insert _, ?_⟩ rfl
      fun fd hfd => AList.lookup_insert_ne hfd
    simp [setTo]
  · by_cases hzero : f.events &&& events = 0
    · rw [changed, if_pos hzero]
      exact h.queued.drop hp (by simp [setTo, hzero])
    have hpending : f.pending = true := by
      refine hf.events.mpr fun hnone => hzero ?_
      rw [hnone]
      exact BitVec.zero_and
    rw [changed, if_neg hzero]
    exact h.queued.set hp ((decide_eq_true hzero).trans hpending.symm)
  · obtain ⟨g, hget, hg⟩ := h.runFunc q hq
    have hne : q ≠ p := by
      rintro rfl
      exact hrun hq
    exact ⟨g, (get_set_of_ne _ hne _).trans hget, hg⟩
  · simp only [changed, changesSince_changed] at he
    by_cases hqp : q = p
    · subst hqp
      obtain rfl : setTo f events = g := Option.some_inj.mp ((get_set_self hp _).symm.trans hq)
      have hpending : f.pending = true := by
        refine hf.events.mpr fun hnone => ?_
        simp [setTo, hnone] at hg
      rw [if_pos rfl] at he
      rcases mem_cons.mp he with rfl | he
      · simp [setTo, BitVec.and_assoc]
      -- what was wanted before is still wanted
      have hold := h.wanted q f hp hpending e he
      simp only [setTo]
      rw [BitVec.and_assoc, BitVec.and_comm events e, ← BitVec.and_assoc, hold]
    · rw [if_neg (Ne.symm hqp)] at he
      exact h.wanted q g ((get_set_of_ne _ hqp _).symm.trans hq) hg e he
  · exact h.delivered.snoc fun _ _ hcall => nomatch hcall

lemma fdeventSet_kept (h : σ.Kept) (hp : σ.fdes.get p = some f) (hrun : σ.runFunc ≠ some p)
    (events : Mask) : ∃ τ, σ.fdeventSet p events = .ok τ ∧ τ.Kept := by
  by_cases hsame : f.state = events
  · refine ⟨σ, ?_, h⟩
    rw [fdeventSet, deref_eq hp, ok_bind, if_pos hsame]
    rfl
  · exact ⟨_, fdeventSet_eq h hp hsame, changed_kept h hp hrun⟩

lemma fdeventRunSetup_kept (h : σ.Kept) {fd : ℕ} (hfd : σ.gPollNodeMap.lookup fd = none)
    (hrun : σ.runFunc = none) : ∃ τ, σ.fdeventRunSetup fd = .ok τ ∧ τ.Kept := by
  obtain ⟨ρ, hcreate, hρ, hget, hnone⟩ := fdeventCreate_kept h hfd
  rw [hrun] at hnone
  have hzero : (0 : Mask) ≠ Mask.FDE_READ := by decide
  have hread : (0 : Mask) ||| Mask.FDE_READ = Mask.FDE_READ := by decide
  have hadd : ρ.fdeventAdd σ.fdes.next Mask.FDE_READ =
      .ok (ρ.changed σ.fdes.next { fd := fd, created := true } Mask.FDE_READ) := by
    rw [fdeventAdd, deref_eq hget, ok_bind]
    rw [hread, fdeventSet_eq hρ hget hzero]
  have hkept : (ρ.changed σ.fdes.next { fd := fd, created := true } Mask.FDE_READ).Kept :=
    changed_kept hρ hget (by simp [hnone])
  refine ⟨{ ρ.changed σ.fdes.next { fd := fd, created := true } Mask.FDE_READ with
    runFunc := some σ.fdes.next }, ?_, { hkept with runFunc := fun q hq => ?_ }⟩
  · rw [fdeventRunSetup, hrun, Option.isNone_none, check_true, ok_bind, hcreate, ok_bind]
    dsimp only
    rw [hadd]
    rfl
  · obtain rfl : σ.fdes.next = q := Option.some_inj.mp hq
    exact ⟨_, get_set_self hget _, rfl, by simp [setTo]⟩

/-! ## The loop -/

/-- An fd is polled whose fdevent is not pending. If it is not asked for `POLLOUT`, an event that is
reported for it is, or looks like, one for reading. -/
def Idle (σ : FdLoop) (fd : ℕ) (events : Mask) : Prop :=
  ∃ node f, σ.gPollNodeMap.lookup fd = some node ∧ σ.fdes.get node.fde = some f ∧
    f.pending = false ∧ (events ≠ 0 → node.pollout = false → events.read = true)

lemma processPollfd_kept (h : σ.Kept) {fd : ℕ} (hidle : σ.Idle fd events) :
    ∃ τ, σ.processPollfd fd events = .ok τ ∧ τ.Kept ∧
      ∀ fd' events', fd' ≠ fd → σ.Idle fd' events' → τ.Idle fd' events' := by
  obtain ⟨node, f, hnode, hp, hnot, hread⟩ := hidle
  by_cases hzero : events = 0
  · refine ⟨σ, ?_, h, fun _ _ _ h => h⟩
    rw [processPollfd, if_pos hzero]
    rfl
  obtain ⟨g, hg, hfd⟩ := h.mapped.owner fd node hnode
  obtain rfl : f = g := Option.some_inj.mp (hp.symm.trans hg)
  have hf := h.mapped.installed _ f hp
  have hnone : f.events = 0 := by
    by_contra hsome
    rw [hf.events.mpr hsome] at hnot
    cases hnot
  have hevents : f.events ||| events = events := by
    rw [hnone]
    exact BitVec.zero_or
  refine ⟨{ σ with
    fdes := σ.fdes.set node.fde { f with events := events, pending := true }
    gPendingList := σ.gPendingList ++ [node.fde]
    seen := σ.seen ++ [.reported node.fde events] }, ?_, ⟨?_, ?_, ?_, ?_, ?_⟩, ?_⟩
  · rw [processPollfd, if_neg hzero, hnode]
    dsimp only
    rw [deref_eq hp, ok_bind, hfd, beq_self_eq_true, check_true, ok_bind, hevents]
    rfl
  · exact h.mapped.setEvents hp (by simpa using hzero)
  · exact h.queued.push hp hnot rfl
  · intro q hq
    obtain ⟨g, hget, hstate, hreads⟩ := h.runFunc q hq
    by_cases hqn : q = node.fde
    · subst hqn
      obtain rfl : f = g := Option.some_inj.mp (hp.symm.trans hget)
      refine ⟨_, get_set_self hp _, hstate, fun _ => hread hzero ?_⟩
      have hsame : node = nodeOf node.fde f :=
        Option.some_inj.mp (hnode.symm.trans (hfd ▸ hf.node))
      rw [hsame, nodeOf, hstate]
      rfl
    · exact ⟨g, (get_set_of_ne _ hqn _).trans hget, hstate, hreads⟩
  · intro q g hq hg e he
    rw [changesSince_reported] at he
    by_cases hqn : q = node.fde
    · simp [hqn] at he
    · rw [if_neg (Ne.symm hqn)] at he
      exact h.wanted q g ((get_set_of_ne _ hqn _).symm.trans hq) hg e he
  · exact h.delivered.snoc fun _ _ hcall => nomatch hcall
  · rintro fd' events' hne ⟨node', f', hnode', hp', hrest⟩
    -- the other fd has another fdevent
    have hother : node'.fde ≠ node.fde := by
      intro heq
      rw [heq, hp] at hp'
      obtain ⟨g, hg', hfd'⟩ := h.mapped.owner fd' node' hnode'
      rw [heq, hp] at hg'
      cases hg'
      exact hne (hfd'.symm.trans hfd)
    exact ⟨node', f', hnode', (get_set_of_ne _ hother _).trans hp', hrest⟩

lemma processPollfds_kept {polled : List (ℕ × Mask)} :
    ∀ {σ : FdLoop}, σ.Kept → (polled.map (·.1)).Nodup → (∀ x ∈ polled, σ.Idle x.1 x.2) →
      ∃ τ, processPollfds polled σ = .ok τ ∧ τ.Kept := by
  induction polled with
  | nil =>
    intro σ h _ _
    exact ⟨σ, rfl, h⟩
  | cons x rest ih =>
    intro σ h hnodup hidle
    rw [map_cons, nodup_cons] at hnodup
    obtain ⟨ρ, hρ, hkept, hrest⟩ := processPollfd_kept h (hidle x mem_cons_self)
    obtain ⟨τ, hτ, hkept⟩ := ih hkept hnodup.2 fun y hy => by
      refine hrest y.1 y.2 ?_ (hidle y (mem_cons_of_mem _ hy))
      intro heq
      exact hnodup.1 (mem_map.mpr ⟨y, hy, heq⟩)
    refine ⟨τ, ?_, hkept⟩
    rw [processPollfds, hρ]
    exact hτ

lemma read_mask (r : Revents) {node : PollNode} (hout : node.pollout = false)
    (hne : (r.reported node).mask ≠ 0) : (r.reported node).mask.read = true := by
  have hpollout : (r.reported node).pollout = false := by simp [Revents.reported, hout]
  revert hne
  unfold Revents.mask
  rw [hpollout]
  cases (r.reported node).pollin
  · cases (r.reported node).hangup
    · decide
    · decide
  · cases (r.reported node).hangup
    · decide
    · decide

lemma fdeventProcess_kept (h : σ.Kept) {polled : List (ℕ × Revents)}
    (hrun : σ.runFunc.isSome = true) (hlist : σ.gPendingList = [])
    (hnodup : (polled.map (·.1)).Nodup) : ∃ τ, σ.fdeventProcess polled = .ok τ ∧ τ.Kept := by
  -- the fdevent of the run queue is always there
  obtain ⟨p, hp⟩ := Option.isSome_iff_exists.mp hrun
  obtain ⟨f, hget, -⟩ := h.runFunc p hp
  have hsome : σ.gPollNodeMap.entries.isEmpty = false := by
    have hlookup := (h.mapped.installed p f hget).node
    cases hentries : σ.gPollNodeMap.entries with
    | nil =>
      rw [AList.lookup, hentries] at hlookup
      cases hlookup
    | cons x rest => rfl
  have hfst : ((σ.pollfds polled).map (·.1)).Sublist (polled.map (·.1)) := by
    unfold pollfds
    clear hnodup
    induction polled with
    | nil => exact .slnil
    | cons x rest ih =>
      cases hx : σ.gPollNodeMap.lookup x.1 with
      | none => simpa [hx] using ih.cons x.1
      | some node => simpa [hx] using ih
  obtain ⟨τ, hτ, hkept⟩ := processPollfds_kept h (hnodup.sublist hfst) fun x hx => by
    obtain ⟨⟨fd, r⟩, -, hx⟩ := mem_filterMap.mp hx
    obtain ⟨node, hnode, rfl⟩ := Option.map_eq_some_iff.mp hx
    obtain ⟨g, hg, -⟩ := h.mapped.owner fd node hnode
    refine ⟨node, g, hnode, hg, ?_, fun hne hout => read_mask r hout hne⟩
    have hnot := h.queued.mem_iff hg
    rw [hlist] at hnot
    simpa using hnot
  refine ⟨τ, ?_, hkept⟩
  rw [fdeventProcess, hsome]
  exact hτ

lemma callPending_kept (h : σ.Kept) : ∃ τ, σ.callPending = .ok τ ∧ τ.Kept := by
  unfold callPending
  split
  · exact ⟨σ, rfl, h⟩
  next p rest hlist =>
  have hqueued := h.queued
  rw [hlist] at hqueued
  obtain ⟨f, hp, hpending⟩ := (hqueued.mem p).mp mem_cons_self
  have hf := h.mapped.installed p f hp
  let τ : FdLoop := { σ with
    gPendingList := rest
    fdes := σ.fdes.set p { f with events := 0, pending := false }
    seen := σ.seen ++ [.called p f.events] }
  refine ⟨τ, ?_, ⟨?_, ?_, ?_, ?_, ?_⟩⟩
  · have hderef : ({ σ with gPendingList := rest } : FdLoop).deref p = .ok f := deref_eq hp
    rw [fdeventCallFdfunc, hderef, ok_bind, hpending, check_true, ok_bind]
    by_cases hrun : σ.runFunc = some p
    · obtain ⟨g, hget, -, hread⟩ := h.runFunc p hrun
      obtain rfl : f = g := Option.some_inj.mp (hp.symm.trans hget)
      rw [if_pos hrun, hread hpending]
      rfl
    · rw [if_neg hrun]
      rfl
  · exact h.mapped.setEvents hp (by simp)
  · exact hqueued.tail hp rfl
  · intro q hq
    obtain ⟨g, hget, hstate, hreads⟩ := h.runFunc q hq
    by_cases hqp : q = p
    · subst hqp
      obtain rfl : f = g := Option.some_inj.mp (hp.symm.trans hget)
      exact ⟨_, get_set_self hp _, hstate, fun hnot => nomatch hnot⟩
    · exact ⟨g, (get_set_of_ne _ hqp _).trans hget, hstate, hreads⟩
  · intro q g hq hg e he
    simp only [τ, changesSince_called] at he
    by_cases hqp : q = p
    · subst hqp
      obtain rfl := Option.some_inj.mp ((get_set_self hp _).symm.trans hq)
      cases hg
    · exact h.wanted q g ((get_set_of_ne _ hqp _).symm.trans hq) hg e he
  · refine h.delivered.snoc fun q e hcall => ?_
    cases hcall
    exact ⟨hf.events.mp hpending, h.wanted p f hp hpending⟩

/-! ## Runs -/

lemma step_kept (h : σ.Kept) (op : Op) (hallowed : σ.allowed op = true) :
    ∃ τ, step op σ = .ok τ ∧ τ.Kept := by
  have huse (p : FPtr) (hp : σ.mayUse p = true) :
      ∃ f, σ.fdes.get p = some f ∧ σ.runFunc ≠ some p := by
    simp only [mayUse, Bool.and_eq_true, bne_iff_ne] at hp
    obtain ⟨f, hget⟩ := Option.isSome_iff_exists.mp hp.1
    exact ⟨f, hget, hp.2⟩
  cases op with
  | create fd =>
    obtain ⟨τ, hτ, hkept, -⟩ := fdeventCreate_kept h (Option.isNone_iff_eq_none.mp hallowed)
    refine ⟨τ, ?_, hkept⟩
    rw [step, hτ]
    rfl
  | destroy p =>
    obtain ⟨f, hp, hrun⟩ := huse p hallowed
    exact fdeventDestroy_kept h hp hrun
  | set p events =>
    obtain ⟨f, hp, hrun⟩ := huse p hallowed
    exact fdeventSet_kept h hp hrun events
  | add p events =>
    obtain ⟨f, hp, hrun⟩ := huse p hallowed
    rw [step, fdeventAdd, deref_eq hp]
    exact fdeventSet_kept h hp hrun _
  | del p events =>
    obtain ⟨f, hp, hrun⟩ := huse p hallowed
    rw [step, fdeventDel, deref_eq hp]
    exact fdeventSet_kept h hp hrun _
  | runSetup fd =>
    simp only [allowed, Bool.and_eq_true, Option.isNone_iff_eq_none] at hallowed
    exact fdeventRunSetup_kept h hallowed.2 hallowed.1
  | process polled =>
    simp only [allowed, Bool.and_eq_true, decide_eq_true_eq, List.isEmpty_iff] at hallowed
    exact fdeventProcess_kept h hallowed.1.1 hallowed.1.2 hallowed.2
  | callPending => exact callPending_kept h

/-- Whatever is done with fdevents, from their functions or from elsewhere, and whatever poll
reports, no `CHECK` fails, no fdevent is used that has been destroyed, and the bookkeeping is
kept. -/
theorem fdevents_kept (ops : List Op)
    (hallowed : Meets step (fun σ op => σ.allowed op = true) ops {}) :
    ∃ τ, runs step ops {} = .ok τ ∧ τ.Kept :=
  runs_safe (I := Kept) (fun _ op h => step_kept h op) kept_empty hallowed

/-- Two fdevents are pending. The function of the first destroys the second, whose fd is reused,
and the third is no longer interested in what was reported. -/
def reusedFd : List Op :=
  [.create 3, .create 4, .create 5, .runSetup 6, .set 0 Mask.FDE_READ, .set 1 Mask.FDE_READ,
    .set 2 Mask.FDE_READ,
    .process [(3, { pollin := true }), (4, { pollin := true }), (5, { pollhup := true })],
    .callPending, .destroy 1, .create 4, .set 4 Mask.FDE_WRITE, .set 2 Mask.FDE_WRITE,
    .callPending, .process [(4, { pollout := true })], .callPending]

theorem fdevents_kept_reusedFd : ∃ τ, runs step reusedFd {} = .ok τ ∧ τ.Kept :=
  fdevents_kept reusedFd (by decide)

end FdLoop

end Adb

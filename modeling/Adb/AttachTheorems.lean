import Adb.CloseTheorems

/-!
# Which transports sockets are attached to

`close_all_sockets` looks for the sockets of a transport through `local_socket_list`. That it
finds all of them, and that a socket gets a transport only where the steps of `Eff` give it
one, is shown here.
-/

namespace Adb

open Lib

namespace Sockets

variable {R : Rules} {P : TPtr → Prop} {σ τ ρ : Sockets} {l : List Act} {s r : Ptr} {a b c : ASocket}
  {t : TPtr}

/-- No socket refers to `t`, except for those that are closing. -/
def Clear (t : TPtr) (σ : Sockets) : Prop :=
  ∀ p a, σ.heap.get p = some a → a.closing = false → a.transport ≠ some t

lemma Detached.clear (h : Inv [] σ) (hd : Detached t σ) : Clear t σ := by
  intro p a hp hc ht
  cases hl : a.isLocal with
  | true =>
    have hm : p ∈ σ.localSocketList := (h.listed p).mpr ⟨a, hp, hl, hc⟩
    have hfound := hd p hm
    simp [attached, hp, ht] at hfound
  | false =>
    -- the socket belongs to a local one
    obtain ⟨s, hs⟩ := Option.ne_none_iff_exists'.mp (h.owned p a hp (by simp) hl)
    obtain ⟨-, -, b, hb, hbp, hor⟩ := h.paired p a s hp (by simp) hs
    have hbl : b.isLocal = true := hor.resolve_left (by simp [hl])
    have hm : s ∈ σ.localSocketList :=
      (h.listed s).mpr ⟨b, hb, hbl, h.not_closing_of_peer hb hbp⟩
    have hfound := hd s hm
    simp [attached, hb, hbp, hp, ht] at hfound

lemma Clear.detached (h : Inv [] σ) (hc : Clear t σ) : Detached t σ := by
  intro s hm
  obtain ⟨a, hs, -, hclosing⟩ := h.mem_list hm
  have hown := hc s a hs hclosing
  cases hpeer : a.peer with
  | none => simp [attached, hs, hpeer, hown]
  | some r =>
    obtain ⟨-, -, b, hr, hbs, -⟩ := h.paired s a r hs (by simp) hpeer
    have hother := hc r b hr (h.not_closing_of_peer hr hbs)
    simp [attached, hs, hpeer, hr, hown, hother]

/-! ## Where a transport comes from -/

/-- A socket of `τ` that is attached to a transport was so in `σ`, unless `P` allows it. A
closing socket stays one. -/
def Origin (P : TPtr → Prop) (σ τ : Sockets) : Prop :=
  ∀ p a' u, τ.heap.get p = some a' → a'.transport = some u →
    P u ∨ ∃ a, σ.heap.get p = some a ∧ a.transport = some u ∧ (a.closing = true → a'.closing = true)

namespace Origin

lemma refl (σ : Sockets) : Origin P σ σ := fun _ a' _ hp ht => .inr ⟨a', hp, ht, id⟩

lemma trans (h : Origin P σ τ) (h' : Origin P τ ρ) : Origin P σ ρ := by
  intro p a'' u hp ht
  rcases h' p a'' u hp ht with hP | ⟨a', hp', ht', hc'⟩
  · exact .inl hP
  rcases h p a' u hp' ht' with hP | ⟨a, hp, ht, hc⟩
  · exact .inl hP
  · exact .inr ⟨a, hp, ht, fun h => hc' (hc h)⟩

lemma heap (h : Origin P σ τ) (heq : ρ.heap = τ.heap) : Origin P σ ρ := by
  intro p a' u hp
  rw [heq] at hp
  exact h p a' u hp

lemma write (h : Origin P σ τ)
    (hs : ∀ u, c.transport = some u → P u ∨ ∃ a, σ.heap.get s = some a ∧ a.transport = some u ∧
        (a.closing = true → c.closing = true)) :
    Origin P σ (τ.write s c) := by
  intro p d u hp ht
  change (τ.heap.set s c).get p = some d at hp
  by_cases hps : p = s
  · subst hps
    rw [Store.get_set, if_pos rfl, Option.map_eq_some_iff] at hp
    obtain ⟨-, -, rfl⟩ := hp
    exact hs u ht
  · rw [Store.get_set_of_ne _ hps] at hp
    exact h p d u hp ht

lemma keep (h : Origin P σ τ) (hs : σ.heap.get s = some a) (ht : c.transport = a.transport)
    (hc : a.closing = true → c.closing = true) : Origin P σ (τ.write s c) :=
  h.write fun u hu => .inr ⟨a, hs, by rw [← ht]; exact hu, hc⟩

lemma give (h : Origin P σ τ) (ht : ∀ u, c.transport = some u → P u) :
    Origin P σ (τ.write s c) := h.write fun u hu => .inl (ht u hu)

lemma link (h : Origin P σ τ) (hs : σ.heap.get s = some a) (ht : c.transport = a.transport)
    (hc : a.closing = true → c.closing = true) (hr : ∀ u, b.transport = some u → P u) :
    Origin P σ (τ.link s r c b) :=
  give (c := { b with peer := some s }) (keep (c := { c with peer := some r }) h hs ht hc) hr

lemma emits (h : Origin P σ τ) (obs : List Obs) : Origin P σ (τ.emits obs) := h.heap rfl

lemma emit (h : Origin P σ τ) (o : Obs) : Origin P σ (τ.emit o) := h.heap rfl

lemma remove (h : Origin P σ τ) (s : Ptr) : Origin P σ (τ.remove s) := by
  intro p a' u hp ht
  rw [get_remove] at hp
  split at hp
  · cases hp
  · exact h p a' u hp ht

private lemma alloc (h : Origin P σ τ) (ht : ∀ u, c.transport = some u → P u)
    (heq : ρ.heap = τ.heap.alloc c) : Origin P σ ρ := by
  intro p d u hp hd
  rw [heq, Store.get_alloc] at hp
  split at hp
  · cases hp
    exact .inl (ht u hd)
  · exact h p d u hp hd

lemma addBare (h : Origin P σ τ) (ht : ∀ u, c.transport = some u → P u) :
    Origin P σ (τ.addBare c) := h.alloc ht rfl

lemma create (h : Origin P σ τ) : Origin P σ τ.create := by
  refine h.alloc (c := .newLocal τ.localSocketNextId) ?_ rfl
  intro u hu
  cases hu

lemma orphan (h : Origin P σ τ) (hs : σ.heap.get s = some a) : Origin P σ (τ.orphan s a) := by
  unfold Sockets.orphan
  split
  · split
    · exact (h.remove s).heap rfl
    · exact (h.keep (c := a.retired) hs rfl fun _ => rfl).heap rfl
  · exact h.remove s

end Origin

lemma Eff.origin (h : Eff R l σ τ) : Origin R.attach σ τ := by
  have h0 : Origin R.attach σ σ := .refl σ
  have hnone : ∀ {b : ASocket}, b.transport = none → ∀ u, b.transport = some u → R.attach u :=
    fun hb u hu => by rw [hb] at hu; cases hu
  cases h with
  | emit o => exact h0.heap rfl
  | note o => exact h0.heap rfl
  | os os => exact h0.heap rfl
  | touch hs hw ht => exact h0.keep hs ht.transport fun hc => ht.closing.trans hc
  | @arm _ s a f f' hs => exact (h0.keep (c := { a with fde := some f' }) hs rfl id).heap rfl
  | select t hs he ht => exact h0.give fun u hu => by cases hu; exact ht
  | wake hs => exact h0.keep hs rfl id
  | hush hs => exact h0.keep hs rfl id
  | readied status hs => exact (h0.heap rfl).keep hs rfl id
  | enqueue hs hl hpeer hr hb hq hd =>
    exact (h0.heap rfl).keep hs hd.transport fun hc => hd.closing.trans hc
  | drain hs hl hne hd => exact (h0.heap rfl).keep hs hd.transport fun hc => hd.closing.trans hc
  | settle t p hs hl hpeer hr hb hne hd =>
    exact (((h0.heap rfl).keep hs hd.transport fun hc => hd.closing.trans hc)).heap rfl
  | finish o left hs => exact (h0.remove _).heap rfl
  | abandon hs => exact (h0.remove _).heap rfl
  | read => exact h0.heap rfl
  | discard => exact h0.heap rfl
  | forward data t p hs => exact (h0.heap rfl).keep hs rfl id
  | close hs => exact h0.orphan hs
  | closePair hs hpeer hr => exact (h0.orphan hr).orphan hs
  | client hid => refine (((h0.create.addBare ?_).give ?_).give ?_).give ?_ <;> exact hnone rfl
  | forwardClient t p hid ht => exact (h0.create.give fun u hu => by cases hu; exact ht).heap rfl
  | @hostService _ s a r b hs =>
    refine .give (.remove (.link (c := a.plain) (.emit (.create h0) _) hs rfl id ?_) _) ?_ <;>
      exact hnone rfl
  | @track _ s a r b long hs =>
    refine .remove (.link (c := a.plain) (.emit (.addBare h0 ?_) _) hs rfl id ?_) _ <;>
      exact hnone rfl
  | handOver t p hs hl hpeer hr he ht =>
    refine ((((h0.give ?_).heap rfl).remove _).give ?_) <;>
      exact fun u hu => by cases hu; exact ht
  | accept exits remote t p hid ht =>
    refine ((((((h0.create.give ?_).addBare ?_).give ?_).give ?_).heap rfl).give ?_)
    · exact fun u hu => by cases hu
    · exact fun u hu => by cases hu; exact ht
    · exact fun u hu => by cases hu
    · exact fun u hu => by cases hu; exact ht
    · exact fun u hu => by cases hu
  | @connect _ s a remote t status hs hl hpeer hc hremote ht =>
    have hnew : ∀ u, (ASocket.newRemote remote t).transport = some u → R.attach u :=
      fun u hu => by cases hu; exact ht
    have hlinked := Origin.link (r := σ.heap.next) (c := a.plain) (h0.addBare hnew) hs rfl id hnew
    exact (hlinked.emits _).keep hs rfl id
  | deliver hs hl hpeer hr hb hq hd =>
    exact ((h0.heap rfl).keep hs hd.transport fun hc => hd.closing.trans hc).heap rfl
  | inject hs hl hpeer hr hb hq hd =>
    exact (h0.heap rfl).keep hs hd.transport fun hc => hd.closing.trans hc
  | echo => exact h0.heap rfl

lemma Effs.origin (h : Effs R l σ τ) : Origin R.attach σ τ := by
  induction h with
  | refl => exact .refl _
  | tail _ h' ih => exact ih.trans h'.origin

lemma Origin.clear (h : Origin P σ τ) (hP : ¬ P t) (hc : Clear t σ) : Clear t τ := by
  intro p a' hp hclosing ht
  rcases h p a' t hp ht with hPt | ⟨a, hpa, hta, hca⟩
  · exact hP hPt
  refine hc p a hpa ?_ hta
  by_contra hcl
  rw [hca (by simpa using hcl)] at hclosing
  cases hclosing

end Sockets

end Adb

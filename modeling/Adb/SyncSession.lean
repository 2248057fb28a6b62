import Adb.SyncPull

/-!
# A session copies files

A client sends and receives files in any order over one connection. What it does with its own files
and with those of the device is to copy them (`Copy.apply`): a file that is received is the one that
was sent last to that path, or that the device had there.
-/

namespace Adb.SyncClient

open Lib FileSync List Disk
open SyncService (Daemon Sendable serves)

variable {d : Daemon} {σ τ : Client} {rpath lpath : Bytes} {f : File}

/-! ## What receiving leaves alone -/

/-- Some outcomes of the calls on local files have been used up. -/
def Later (σ τ : Client) : Prop := After σ.disk τ.disk ∧ τ.sizes = σ.sizes

lemma Later.trans {ρ : Client} (h : Later σ τ) (h' : Later τ ρ) : Later σ ρ :=
  ⟨h.1.trans h'.1, h'.2.trans h.2⟩

lemma Talks.later (h : Talks σ τ) : Later σ τ := ⟨h.disk ▸ .refl _, h.sizes⟩

lemma unlinkLocal_later (lpath : Bytes) (σ : Client) : Later σ (unlinkLocal lpath σ) := by
  obtain ⟨errno, h⟩ := unlinkLocal_eq
  rw [h]
  exact ⟨unlink_after lpath σ.disk, rfl⟩

/-- Whatever the computation returns, it returns later. -/
def Passes {α : Type} (σ : Client) (r : Res (α × Client)) : Prop :=
  Sat r (fun x => Later σ x.2) fun _ => True

lemma readFdExactly_passes {n : ℕ} : Passes σ (readFdExactly n σ) :=
  readFdExactly_talks.mono (fun _ h => h.later) fun _ _ => trivial

lemma recvData_passes {size : ℕ} : Passes σ (recvData lpath size f σ) := by
  refine Sat.bind (readFdExactly_passes (σ := { σ with buffered := σ.buffered ++ [size] })) ?_
  intro x hx
  obtain ⟨data, ρ⟩ := x
  have hρ : Later σ ρ := hx
  cases data with
  | none => exact hρ.trans (unlinkLocal_later lpath ρ)
  | some data =>
    have hafter := writeExactly_after f data ρ.disk
    dsimp only
    split
    · next heq =>
      rw [heq] at hafter
      exact hρ.trans ⟨hafter, rfl⟩
    · next e f' disk heq =>
      rw [heq] at hafter
      refine Later.trans (τ := errorErrno _ { ρ with disk := disk, errno := some e }) ?_
        (unlinkLocal_later lpath _)
      exact hρ.trans ⟨hafter, rfl⟩

lemma recvMessage_passes : Passes σ (recvMessage rpath lpath f σ) := by
  refine Sat.bind readFdExactly_passes ?_
  intro x hρ
  obtain ⟨msg, ρ⟩ := x
  have hunlink : Later σ (unlinkLocal lpath ρ) := hρ.trans (unlinkLocal_later lpath ρ)
  cases msg with
  | none => exact hunlink
  | some msg =>
    apply Sat.ite
    · exact fun _ => hρ
    intro _
    apply Sat.ite
    · intro _
      refine Sat.bind (reportCopyFailure_talks.mono (fun _ h => h.later) fun _ _ => trivial) ?_
      exact fun x hx => hunlink.trans hx
    intro _
    apply Sat.ite
    · exact fun _ => hρ.trans (unlinkLocal_later lpath (error _ ρ))
    intro _
    refine Sat.bind recvData_passes fun x hx => ?_
    obtain ⟨f', υ⟩ := x
    cases f' with
    | none => exact hρ.trans hx
    | some f' => exact hρ.trans hx

lemma recvRounds_passes {n : ℕ} : Passes σ (recvRounds rpath lpath n f σ) := by
  induction n generalizing f σ with
  | zero => trivial
  | succ n ih =>
    refine Sat.bind recvMessage_passes fun x hx => ?_
    obtain ⟨next, ρ⟩ := x
    cases next with
    | again f' => exact ih.mono (fun _ h => hx.trans h) fun _ _ => trivial
    | done => exact hx
    | fail => exact hx

lemma syncRecv_passes : Passes σ (syncRecv rpath lpath σ) := by
  unfold syncRecv
  have hsend := (sendRequest_talks ID_RECV rpath σ).later
  split
  · next heq =>
    rw [heq] at hsend
    exact hsend
  next ρ heq =>
  rw [heq] at hsend
  have hcreat : Later σ (onDisk (Disk.creat lpath) (unlinkLocal lpath
      { ρ with targets := ρ.targets ++ [lpath] })).2 := by
    have hunlink := unlinkLocal_later lpath { ρ with targets := ρ.targets ++ [lpath] }
    obtain ⟨errno, h⟩ := onDisk_snd (g := Disk.creat lpath)
      (σ := unlinkLocal lpath { ρ with targets := ρ.targets ++ [lpath] })
    rw [h]
    exact hsend.trans (hunlink.trans ⟨creat_after lpath _, rfl⟩)
  dsimp only
  split
  · next heq' =>
    rw [heq'] at hcreat
    exact hcreat
  · next heq' =>
    rw [heq'] at hcreat
    exact recvRounds_passes.mono (fun _ h => hcreat.trans h) fun _ _ => trivial

/-! ## Copies -/

/-- A call of `sync_send` for a regular file, or of `sync_recv`. -/
inductive Copy
  | send (lpath rpath : Bytes) (mtime : UInt32) (attr : Attr)
  | recv (rpath lpath : Bytes)

namespace Copy

def run (c : Copy) (σ : Client) : Res Client :=
  match c with
  | .send lpath rpath mtime attr => do
    let (_, σ) ← syncSend lpath rpath mtime (statOf attr (.file [])).mode false σ
    pure σ
  | .recv rpath lpath => do
    let (_, σ) ← syncRecv rpath lpath σ
    pure σ

/-- The files of the client and of the device. -/
structure Files where
  here : Path → Option Node
  there : Path → Option Node

def apply (c : Copy) (a : Files) : Files :=
  match c with
  | .send lpath rpath _ _ =>
    { a with there := fun q => if q = rpath then a.here lpath else a.there q }
  | .recv rpath lpath => { a with here := fun q => if q = lpath then a.there rpath else a.here q }

/-- There is a regular file to be copied, and not to a directory, and the device can be told. -/
def Possible (a : Files) : Copy → Prop
  | .send lpath rpath _ attr =>
    (∃ c : Bytes, a.here lpath = some (.file c) ∧ c.length < 2 ^ 64) ∧
      a.there rpath ≠ some .directory ∧ SyncService.endsInSlash rpath = false ∧
      Sendable (rpath ++ ascii "," ++ signed (statOf attr (.file [])).mode)
  | .recv rpath lpath =>
    (∃ c, a.there rpath = some (.file c)) ∧ a.here lpath ≠ some .directory ∧
      SyncService.endsInSlash rpath = false ∧ Sendable rpath

/-- The client and the service are in step, and the service has the disk of the device. No call on
a file is refused, and `stat` reports the size that a file has. -/
structure InStep (d : Daemon) (σ : Client) (a : Files) : Prop where
  device : ∃ disk : Disk, Owes d disk [] σ ∧ disk.nodes = a.there ∧
    ∀ p, disk.Granted p ∧ disk.Unlinks p
  here : σ.disk.nodes = a.here
  granted : ∀ p, σ.disk.Granted p ∧ σ.disk.Unlinks p
  sizes : σ.sizes = fun _ => none

variable {a : Files}

lemma InStep.send {mtime : UInt32} {attr : Attr} (h : InStep d σ a)
    (hcan : Possible a (.send lpath rpath mtime attr)) :
    ∃ τ, run (.send lpath rpath mtime attr) σ = .ok τ ∧
      InStep d τ (apply (.send lpath rpath mtime attr) a) := by
  obtain ⟨disk, howes, hthere, hdevice⟩ := h.device
  obtain ⟨⟨c, hc, hlen⟩, hdir, hslash, hsend⟩ := hcan
  rw [← h.here] at hc
  rw [← hthere] at hdir
  have hsize : reportedSize σ lpath c = c.length := by
    rw [reportedSize, h.sizes]
    exact UInt64.toNat_ofNat_of_lt' hlen
  have hself : σ.disk.resolve lpath = .ok lpath := resolve_self (by rw [Disk.readlink, hc])
  have hmode : isKind S_IFLNK (statOf attr (.file [])).mode = false := by
    rw [isKind_statOf]
    exact decide_eq_false (show S_IFREG ≠ S_IFLNK by decide)
  obtain ⟨ok, disk', τ, hrun, hdelivered⟩ : ∃ ok disk' τ,
      sendFile (rpath ++ ascii "," ++ signed (statOf attr (.file [])).mode) lpath rpath mtime σ =
        .ok (ok, τ) ∧ Delivered d lpath rpath c disk σ disk' τ :=
    sendFile_delivered howes (fileSpec hsend)
      ⟨(hdevice rpath).1, (hdevice rpath).2, hdir, hslash⟩ hself hc
      (by rw [hsize]; exact Nat.le_of_lt) (.inr (.inl (h.granted lpath).1))
  refine ⟨τ, ?_, ⟨disk', hdelivered.owes, ?_, ?_⟩, ?_, ?_, hdelivered.sizes.trans h.sizes⟩
  · rw [run, syncSend_regular hmode, hrun]
    rfl
  · funext q
    show _ = if q = rpath then a.here lpath else a.there q
    split
    · next hq => rw [hq, (hdelivered.stored (h.granted lpath).1).1, ← h.here, hc]
    · next hq => rw [hdelivered.others q hq, hthere]
  · exact fun p => ⟨(hdevice p).1.after hdelivered.after, (hdevice p).2.after hdelivered.after⟩
  · exact hdelivered.called.nodes.trans h.here
  · have hafter := hdelivered.called.after
    exact fun p => ⟨(h.granted p).1.after hafter, (h.granted p).2.after hafter⟩

lemma InStep.recv (h : InStep d σ a) (hcan : Possible a (.recv rpath lpath)) :
    ∃ τ, run (.recv rpath lpath) σ = .ok τ ∧ InStep d τ (apply (.recv rpath lpath) a) := by
  obtain ⟨disk, howes, hthere, hdevice⟩ := h.device
  obtain ⟨⟨c, hc⟩, hdir, hslash, hsend⟩ := hcan
  rw [← hthere] at hc
  rw [← h.here] at hdir
  obtain ⟨ok, disk', τ, hrun, hpulled⟩ := syncRecv_pulled howes
    ⟨hc, (hdevice rpath).1, by simp, hslash, hsend⟩ (h.granted lpath).2
  obtain ⟨howes', hnode⟩ := hpulled.stored ⟨(h.granted lpath).1, hdir⟩
  obtain ⟨hafter, hsizes⟩ : Later σ τ := by
    have hpasses : Passes σ (syncRecv rpath lpath σ) := syncRecv_passes
    rw [hrun] at hpasses
    exact hpasses
  refine ⟨τ, ?_, ⟨disk', howes', hpulled.nodes.trans hthere, ?_⟩, ?_, ?_, hsizes.trans h.sizes⟩
  · rw [run, hrun]
    rfl
  · exact fun p => ⟨(hdevice p).1.after hpulled.after, (hdevice p).2.after hpulled.after⟩
  · funext q
    show _ = if q = lpath then a.there rpath else a.here q
    split
    · next hq => rw [hq, hnode, ← hthere, hc]
    · next hq => rw [hpulled.onlyAt.nodes q hq, h.here]
  · exact fun p => ⟨(h.granted p).1.after hafter, (h.granted p).2.after hafter⟩

end Copy

end Adb.SyncClient

import Adb.SyncClient

/-!
# What the connection leaves alone

Talking to the device changes the connection, `errno`, what has been printed and the counts of the
transfer, and nothing else.
-/

namespace Adb.SyncClient

open Lib FileSync

variable {σ τ ρ : Client}

structure Kept where
  peer : Bytes → Bytes × Bool
  disk : Disk
  attr : Path → Attr
  sizes : Path → Option UInt64
  entries : Path → Except Errno (List Bytes)
  umask : UInt32
  haveStatV2 : Bool
  names : List Bytes
  buffered : List ℕ
  chunks : List Bytes
  targets : List Bytes

def Client.kept (σ : Client) : Kept :=
  { peer := σ.peer
    disk := σ.disk
    attr := σ.attr
    sizes := σ.sizes
    entries := σ.entries
    umask := σ.umask
    haveStatV2 := σ.haveStatV2
    names := σ.names
    buffered := σ.buffered
    chunks := σ.chunks
    targets := σ.targets }

def Talks (σ τ : Client) : Prop := τ.kept = σ.kept

namespace Talks

lemma refl (σ : Client) : Talks σ σ := rfl

lemma trans (h : Talks σ τ) (h' : Talks τ ρ) : Talks σ ρ := Eq.trans h' h

lemma disk (h : Talks σ τ) : τ.disk = σ.disk := congrArg Kept.disk h

lemma attr (h : Talks σ τ) : τ.attr = σ.attr := congrArg Kept.attr h

lemma sizes (h : Talks σ τ) : τ.sizes = σ.sizes := congrArg Kept.sizes h

lemma names (h : Talks σ τ) : τ.names = σ.names := congrArg Kept.names h

lemma chunks (h : Talks σ τ) : τ.chunks = σ.chunks := congrArg Kept.chunks h

lemma targets (h : Talks σ τ) : τ.targets = σ.targets := congrArg Kept.targets h

end Talks

/-- A computation only uses the connection, also where it stops. -/
def OnlyTalks {α : Type} (σ : Client) (r : Res (α × Client)) : Prop :=
  Sat r (fun x => Talks σ x.2) fun s => Talks σ s.2

lemma OnlyTalks.after {α : Type} {r : Res (α × Client)} (h : OnlyTalks τ r) (hτ : Talks σ τ) :
    OnlyTalks σ r :=
  h.mono (fun _ hx => hτ.trans hx) fun _ hs => hτ.trans hs

lemma OnlyTalks.bind {α β : Type} {r : Res (α × Client)} {g : α × Client → Res (β × Client)}
    (h : OnlyTalks σ r) (hg : ∀ x, Talks σ x.2 → OnlyTalks x.2 (g x)) : OnlyTalks σ (r >>= g) := by
  apply Sat.bind h
  intro x hx
  exact (hg x hx).after hx

lemma readFdExactly_talks {n : ℕ} : OnlyTalks σ (readFdExactly n σ) := by
  apply Sat.ite
  · intro _
    rfl
  intro _
  apply Sat.ite
  · intro _
    rfl
  · intro _
    exact .refl σ

lemma writeFdExactly_talks (data : Bytes) (σ : Client) : Talks σ (writeFdExactly data σ).2 := by
  unfold writeFdExactly
  split
  · rfl
  · rfl
  · rfl

lemma sendRequest_talks (id : UInt32) (path : Bytes) (σ : Client) :
    Talks σ (sendRequest id path σ).2 := by
  unfold sendRequest
  split
  · rfl
  · exact writeFdExactly_talks _ σ

lemma receivedError_talks (σ : Client) : Talks σ (receivedError σ).2 := by
  unfold receivedError
  dsimp only
  split
  · rfl
  · rfl
  · rfl

lemma finishStat_talks : OnlyTalks σ (finishStat σ) := by
  apply readFdExactly_talks.bind
  intro x _
  obtain ⟨msg, τ⟩ := x
  cases msg with
  | none => exact Talks.refl τ
  | some msg =>
    have hset : ∀ e, Talks τ { τ with errno := e } := fun e => rfl
    apply Sat.ite
    · intro _
      unfold acceptStatV2
      split
      · exact Talks.refl τ
      split
      · exact hset _
      · exact Talks.refl τ
    · intro _
      unfold acceptStatV1
      split
      · exact Talks.refl τ
      split
      · exact hset _
      · exact Talks.refl τ

variable {path : Bytes}

lemma syncLstat_talks : OnlyTalks σ (syncLstat path σ) := by
  have hsend : Talks σ (sendLstat path σ).2 := sendRequest_talks _ path σ
  unfold syncLstat
  split
  · next τ heq =>
    rw [heq] at hsend
    exact hsend
  · next τ heq =>
    rw [heq] at hsend
    exact finishStat_talks.after hsend

lemma skipFile_talks {rpath : Bytes} {mtime mode : UInt32} :
    OnlyTalks σ (skipFile rpath mtime mode σ) := by
  apply syncLstat_talks.bind
  intro x _
  apply Sat.ite
  · intro _
    rfl
  · intro _
    exact Talks.refl _

variable {src dst : Bytes}

lemma reportCopyFailure_talks {msg : Bytes} : OnlyTalks σ (reportCopyFailure src dst msg σ) := by
  apply Sat.ite
  · intro _
    exact Talks.refl σ
  intro _
  apply readFdExactly_talks.bind
  intro x _
  obtain ⟨reason, τ⟩ := x
  cases reason with
  | none => exact rfl
  | some reason => exact rfl

lemma copyDone_talks : OnlyTalks σ (copyDone src dst σ) := by
  apply readFdExactly_talks.bind
  intro x _
  obtain ⟨msg, τ⟩ := x
  cases msg with
  | none => exact rfl
  | some msg =>
    dsimp only
    split
    · split
      · rfl
      · rfl
    split
    · rfl
    · exact reportCopyFailure_talks

lemma writeOrDie_talks {data : Bytes} :
    Sat (writeOrDie src dst data σ) (fun τ => Talks σ τ) fun s => Talks σ s.2 := by
  have hwrite := writeFdExactly_talks data σ
  unfold writeOrDie
  split
  · next τ heq =>
    rw [heq] at hwrite
    exact hwrite
  next τ heq =>
  rw [heq] at hwrite
  have hreset : Sat (reportReset src dst τ) (fun ρ => Talks τ ρ) fun s => Talks τ s.2 := by
    apply Sat.bind readFdExactly_talks
    intro x hx
    obtain ⟨msg, ρ⟩ := x
    cases msg with
    | none => exact hx.trans rfl
    | some msg =>
      apply Sat.ite
      · intro _
        exact hx.trans rfl
      intro _
      apply Sat.bind (reportCopyFailure_talks.mono (fun _ h => hx.trans h) (fun _ h => hx.trans h))
      intro y hy
      exact hy
  apply Sat.ite
  · intro _
    apply Sat.bind (hreset.mono (fun _ h => hwrite.trans h) (fun _ h => hwrite.trans h))
    intro ρ hρ
    exact hρ
  · intro _
    exact hwrite.trans rfl

end Adb.SyncClient

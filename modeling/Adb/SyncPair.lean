import Adb.SyncChunks
import Adb.SyncRequests

/-!
# The client and the service

The service is at the other end of the connection. Between two requests the client has read all that
the service has answered; each exchange of a request and its answer leads from such a state to
another.
-/

namespace Adb.SyncClient

open Lib FileSync List Disk
open SyncService (Daemon Reached Handles Sendable serves request request_ne_nil)

variable {d : Daemon} {disk disk' : Disk} {σ τ : Client} {ans rest req x path : Bytes}

/-- The service at the other end has handled all requests and waits for the next; the client has not
read the answer `ans`. The connection works. -/
structure Owes (d : Daemon) (disk : Disk) (ans : Bytes) (σ : Client) : Prop where
  peer : σ.peer = serves d
  stream : ∃ out, Reached d σ.written (out ++ ans) disk ∧ σ.consumed = out.length
  sends : ∀ s ∈ σ.sends, s = none
  polls : ∀ p ∈ σ.polls, ∀ e, p ≠ .fails e

lemma Owes.congr (h : Owes d disk ans σ) (hpeer : τ.peer = σ.peer)
    (hwritten : τ.written = σ.written) (hconsumed : τ.consumed = σ.consumed)
    (hsends : τ.sends = σ.sends) (hpolls : τ.polls = σ.polls) : Owes d disk ans τ := by
  obtain ⟨peer, stream, sends, polls⟩ := h
  exact ⟨hpeer ▸ peer, hwritten ▸ hconsumed ▸ stream, hsends ▸ sends, hpolls ▸ polls⟩

lemma Owes.unread (h : Owes d disk ans σ) : unread σ = ans := by
  obtain ⟨out, hreached, hconsumed⟩ := h.stream
  rw [SyncClient.unread, h.peer, hreached.serves, hconsumed]
  exact drop_left

lemma Owes.read (h : Owes d disk (x ++ rest) σ) :
    readFdExactly x.length σ = .ok (some x, { σ with consumed := σ.consumed + x.length }) ∧
      Owes d disk rest { σ with consumed := σ.consumed + x.length } := by
  refine ⟨readFdExactly_unread h.unread, h.peer, ?_, h.sends, h.polls⟩
  obtain ⟨out, hreached, hconsumed⟩ := h.stream
  refine ⟨out ++ x, by rw [append_assoc]; exact hreached, ?_⟩
  show σ.consumed + x.length = _
  rw [hconsumed, length_append]

lemma writeFdExactly_ok (h : ∀ s ∈ σ.sends, s = none) (data : Bytes) :
    writeFdExactly data σ =
      (true, { σ with sends := σ.sends.tail, written := σ.written ++ data }) := by
  unfold writeFdExactly
  split
  · next n e more heq =>
    have hnone := h (some (n, e)) (by simp [heq])
    cases hnone
  · next more heq => rw [heq, tail_cons]
  · next heq => rw [heq, tail_nil, ← heq]

lemma sendRequest_ok (h : ∀ s ∈ σ.sends, s = none) (id : UInt32) (hpath : path.length ≤ 1024) :
    sendRequest id path σ =
      (true, { σ with sends := σ.sends.tail, written := σ.written ++ request id path }) := by
  rw [sendRequest, if_neg (by omega), writeFdExactly_ok h]
  rfl

lemma Owes.asked (h : Owes d disk [] σ) (hreq : req ≠ [])
    (hh : ∀ out, Handles d req out disk (out ++ ans) disk') :
    Owes d disk' ans { σ with sends := σ.sends.tail, written := σ.written ++ req } := by
  obtain ⟨out, hreached, hconsumed⟩ := h.stream
  rw [List.append_nil] at hreached
  refine ⟨h.peer, ⟨out, hreached.handles hreq (hh out), hconsumed⟩, ?_, h.polls⟩
  intro s hs
  exact h.sends s (mem_of_mem_tail hs)

/-! ## `STAT` -/

def exchanged (req ans : Bytes) (σ : Client) : Client :=
  { σ with
    sends := σ.sends.tail
    written := σ.written ++ req
    consumed := σ.consumed + ans.length }

lemma exchanged_talks : Talks σ (exchanged req ans σ) := rfl

lemma length_statV2 (id error : UInt32) (st : Stat) : (statV2 id error st).length = 72 := by
  simp [statV2, le64]

lemma length_statV1 (mode size time : UInt32) : (statV1 mode size time).length = 16 := by
  simp [statV1]

lemma field32_append {n : ℕ} {a b : Bytes} (h : a.length = n) {w : UInt32} :
    field32 n (a ++ (le32 w ++ b)) = w := by
  rw [field32, drop_left' h, word32_append]

lemma statV2_fields (id error : UInt32) (st : Stat) :
    idOf (statV2 id error st) = id ∧ wordOf (statV2 id error st) = error ∧
      (parseStatV2 (statV2 id error st)).mode = st.mode := by
  refine ⟨?_, ?_, ?_⟩
  · simp only [statV2, append_assoc]
    exact word32_append id _
  · simp only [statV2, append_assoc]
    exact field32_append length_le32
  show field32 24 (statV2 id error st) = st.mode
  have hsplit : statV2 id error st = (le32 id ++ le32 error ++ le64 st.dev ++ le64 st.ino) ++
      (le32 st.mode ++ (le32 st.nlink ++ le32 st.uid ++ le32 st.gid ++ le64 st.size ++
        le64 st.atime ++ le64 st.mtime ++ le64 st.ctime)) := by
    simp [statV2]
  rw [hsplit]
  exact field32_append (by simp [le64])

lemma statV1_fields (mode size time : UInt32) :
    idOf (statV1 mode size time) = ID_LSTAT_V1 ∧ field32 4 (statV1 mode size time) = mode := by
  constructor
  · simp only [statV1, append_assoc]
    exact word32_append ID_LSTAT_V1 _
  · simp only [statV1, append_assoc]
    exact field32_append length_le32

variable {node : Node}

lemma syncStat_owes (h : Owes d disk [] σ) (hv2 : σ.haveStatV2 = true)
    (hpath : Sendable path) (hstat : SyncService.statNode path disk = (.ok node, disk')) :
    ∃ st, st.mode = (statOf (d.attr path) node).mode ∧
      syncStat path σ = .ok (some st, exchanged (request ID_STAT_V2 path)
        (statV2 ID_STAT_V2 0 (statOf (d.attr path) node)) σ) ∧
      Owes d disk' [] (exchanged (request ID_STAT_V2 path)
        (statV2 ID_STAT_V2 0 (statOf (d.attr path) node)) σ) := by
  obtain ⟨hid, hword, hmode⟩ := statV2_fields ID_STAT_V2 0 (statOf (d.attr path) node)
  have hlen := length_statV2 ID_STAT_V2 0 (statOf (d.attr path) node)
  generalize hans : statV2 ID_STAT_V2 0 (statOf (d.attr path) node) = ans at hid hword hmode hlen ⊢
  have hhandles : ∀ out, Handles d (request ID_STAT_V2 path) out disk (out ++ ans) disk' := by
    intro out
    rw [← hans]
    exact SyncService.handles_statV2 hpath (.inr rfl) (by rw [if_pos rfl]; exact hstat) rfl
  have howes := h.asked (request_ne_nil ID_STAT_V2 path) hhandles
  rw [← List.append_nil ans] at howes
  obtain ⟨hread, howes'⟩ := howes.read
  refine ⟨parseStatV2 ans, hmode, ?_, howes'⟩
  rw [syncStat, sendStat, if_neg (by simp [hv2]), sendRequest_ok h.sends _ hpath.length]
  dsimp only
  rw [hlen] at hread
  rw [finishStat, if_pos hv2, hread, ok_bind]
  dsimp only
  rw [if_pos hv2, acceptStatV2, if_neg (by simp [hid]), if_neg (by simp [hword]), exchanged, hlen]

lemma syncLstat_owes (h : Owes d disk [] σ) (hv1 : σ.haveStatV2 = false)
    (hpath : Sendable path) (hstat : SyncService.lstatNode path disk = (.ok node, disk')) :
    ∃ st ans, st.mode = (statOf (d.attr path) node).mode ∧
      syncLstat path σ = .ok (some st, exchanged (request ID_LSTAT_V1 path) ans σ) ∧
      Owes d disk' [] (exchanged (request ID_LSTAT_V1 path) ans σ) := by
  generalize hst : statOf (d.attr path) node = st
  obtain ⟨hid, hmode⟩ := statV1_fields st.mode st.size.toUInt32 st.mtime.toUInt32
  have hlen := length_statV1 st.mode st.size.toUInt32 st.mtime.toUInt32
  generalize hans : statV1 st.mode st.size.toUInt32 st.mtime.toUInt32 = ans at hid hmode hlen
  have hhandles : ∀ out, Handles d (request ID_LSTAT_V1 path) out disk (out ++ ans) disk' := by
    intro out
    rw [← hans]
    exact SyncService.handles_lstatV1 hpath hstat hst.symm
  have howes := h.asked (request_ne_nil ID_LSTAT_V1 path) hhandles
  rw [← List.append_nil ans] at howes
  obtain ⟨hread, howes'⟩ := howes.read
  have hnonzero : field32 4 ans ≠ 0 := by
    intro hzero
    have hkind : isKind (kindMode node) st.mode = true := by
      rw [← hst, isKind_statOf]
      exact decide_eq_true rfl
    rw [← hmode, hzero] at hkind
    cases node with
    | file c => exact absurd (show isKind S_IFREG 0 = true from hkind) (by decide)
    | link t => exact absurd (show isKind S_IFLNK 0 = true from hkind) (by decide)
    | directory => exact absurd (show isKind S_IFDIR 0 = true from hkind) (by decide)
  refine ⟨parseStatV1 ans, ans, hmode, ?_, howes'⟩
  rw [syncLstat, sendLstat, if_neg (by simp [hv1]), sendRequest_ok h.sends _ hpath.length]
  dsimp only
  rw [hlen] at hread
  rw [finishStat, if_neg (by simp [hv1]), hread, ok_bind]
  dsimp only
  rw [if_neg (by simp [hv1]), acceptStatV1, if_neg (by simp [hid]), if_neg (by simp [hnonzero]),
    exchanged, hlen]

lemma syncStatFallback_owes (h : Owes d disk [] σ) (hpath : Sendable path)
    (hstat : SyncService.statNode path disk = (.ok node, disk'))
    (hlstat : SyncService.lstatNode path disk = (.ok node, disk'))
    (hlink : ∀ target, node ≠ .link target) :
    ∃ st τ, syncStatFallback path σ = .ok (some st, τ) ∧
      st.mode = (statOf (d.attr path) node).mode ∧ Owes d disk' [] τ ∧ Talks σ τ ∧
      τ.reports = σ.reports := by
  cases hv : σ.haveStatV2 with
  | true =>
    obtain ⟨st, hmode, hsync, howes⟩ := syncStat_owes h hv hpath hstat
    refine ⟨st, _, ?_, hmode, howes, exchanged_talks, rfl⟩
    rw [syncStatFallback, hsync, ok_bind]
    rfl
  | false =>
    have hσ : Owes d disk [] { σ with errno := some .ENOTSUP } := h.congr rfl rfl rfl rfl rfl
    obtain ⟨st, ans, hmode, hsync, howes⟩ := syncLstat_owes hσ hv hpath hlstat
    refine ⟨st, _, ?_, hmode, howes, exchanged_talks, rfl⟩
    have hnone : syncStat path σ = .ok (none, { σ with errno := some .ENOTSUP }) := by
      rw [syncStat, sendStat, hv]
      rfl
    have hnot : isKind S_IFLNK st.mode = false := by
      rw [hmode, isKind_statOf]
      cases node with
      | file c => exact decide_eq_false (show S_IFREG ≠ S_IFLNK by decide)
      | link t => exact absurd rfl (hlink t)
      | directory => exact decide_eq_false (show S_IFDIR ≠ S_IFLNK by decide)
    rw [syncStatFallback, hnone, ok_bind]
    dsimp only
    rw [if_neg (by simp), emulateStat, hsync, ok_bind]
    dsimp only
    rw [hnot]
    rfl

/-- What is at `path` is not a link, and can be looked at. -/
structure Visible (path : Bytes) (node : Node) (disk : Disk) : Prop where
  here : disk.nodes path = some node
  granted : disk.Granted path
  link : ∀ target, node ≠ .link target
  slash : SyncService.endsInSlash path = false
  sendable : Sendable path

lemma Visible.resolve (h : Visible path node disk) : disk.resolve path = .ok path := by
  apply resolve_self
  rw [Disk.readlink, h.here]
  cases node with
  | link t => exact absurd rfl (h.link t)
  | file c => rfl
  | directory => rfl

lemma Visible.syncStatFallback (h : Visible path node disk) (howes : Owes d disk [] σ) :
    ∃ st τ, SyncClient.syncStatFallback path σ = .ok (some st, τ) ∧
      st.mode = (statOf (d.attr path) node).mode ∧ Owes d (disk.call path).2 [] τ ∧ Talks σ τ ∧
      τ.reports = σ.reports := by
  apply syncStatFallback_owes howes h.sendable ?_ ?_ h.link
  · rw [SyncService.statNode, h.slash]
    exact stat_granted h.granted h.resolve h.here
  · rw [SyncService.lstatNode, h.slash]
    exact lstat_granted h.granted h.here

end Adb.SyncClient

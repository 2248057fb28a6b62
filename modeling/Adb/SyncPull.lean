import Adb.SyncPush

/-!
# Several files are pulled

`do_sync_pull` goes on after a source that has failed. The answer to `RECV` has no end that the
client could look for: a file that cannot be created or written leaves the rest of its content on
the connection, where the answer to the next request is read.
-/

namespace Adb.SyncClient

open Lib FileSync List Disk
open SyncService (Daemon Reached Handles Sendable serves request request_ne_nil)

variable {d : Daemon} {disk disk' : Disk} {σ τ : Client} {chunk rest rpath lpath dst src : Bytes}
  {f : File}

/-! ## One message -/

/-- The state after a message of `RECV` has been read, up to what is done with it. -/
def readChunk (chunk : Bytes) (σ : Client) : Client :=
  { σ with
    consumed := σ.consumed + 8 + chunk.length
    buffered := σ.buffered ++ [chunk.length] }

lemma Owes.readChunk (h : Owes d disk (dataMessage chunk ++ rest) σ) :
    readFdExactly 8 σ = .ok (some (header ID_DATA (UInt32.ofNat chunk.length)),
      { σ with consumed := σ.consumed + 8 }) ∧
    readFdExactly chunk.length
        { σ with consumed := σ.consumed + 8, buffered := σ.buffered ++ [chunk.length] } =
      .ok (some chunk, SyncClient.readChunk chunk σ) ∧
    Owes d disk rest (SyncClient.readChunk chunk σ) := by
  rw [dataMessage, append_assoc] at h
  obtain ⟨hread, howes⟩ := h.read
  rw [length_header] at hread howes
  have howes' : Owes d disk (chunk ++ rest)
      { σ with consumed := σ.consumed + 8, buffered := σ.buffered ++ [chunk.length] } :=
    howes.congr rfl rfl rfl rfl rfl
  obtain ⟨hread', howes''⟩ := howes'.read
  exact ⟨hread, hread', howes''⟩

lemma toNat_ofNat_chunk (h : chunk.length ≤ syncDataMax) :
    (UInt32.ofNat chunk.length).toNat = chunk.length := by
  apply UInt32.toNat_ofNat_of_lt'
  have hmax : syncDataMax = 65536 := rfl
  show chunk.length < 2 ^ 32
  omega

variable {f' : File}

lemma recvMessage_written (rpath lpath : Bytes)
    (h : Owes d disk (dataMessage chunk ++ rest) σ) (hsmall : chunk.length ≤ syncDataMax)
    (hwrite : σ.disk.writeExactly f chunk = (.ok (), f', disk')) :
    recvMessage rpath lpath f σ = .ok (.again f', { readChunk chunk σ with disk := disk' }) := by
  obtain ⟨hheader, hchunk, -⟩ := h.readChunk
  have hdisk : (readChunk chunk σ).disk.writeExactly f chunk = (.ok (), f', disk') := hwrite
  rw [recvMessage, hheader, ok_bind]
  dsimp only
  rw [idOf_header, wordOf_header, toNat_ofNat_chunk hsmall, if_neg (by decide), if_neg (by simp),
    if_neg (by omega), recvData, hchunk, ok_bind]
  dsimp only
  rw [hdisk]
  rfl

lemma recvMessage_refused {e : Errno} (h : Owes d disk (dataMessage chunk ++ rest) σ)
    (hsmall : chunk.length ≤ syncDataMax)
    (hwrite : σ.disk.writeExactly f chunk = (.error e, f', disk')) :
    ∃ τ, recvMessage rpath lpath f σ = .ok (.fail, τ) ∧ τ.disk = (disk'.unlink lpath).2 := by
  obtain ⟨hheader, hchunk, -⟩ := h.readChunk
  have hdisk : (readChunk chunk σ).disk.writeExactly f chunk = (.error e, f', disk') := hwrite
  refine ⟨unlinkLocal lpath (errorErrno (ascii "cannot write " ++ quoted lpath)
    { readChunk chunk σ with disk := disk', errno := some e }), ?_, unlinkLocal_disk⟩
  rw [recvMessage, hheader, ok_bind]
  dsimp only
  rw [idOf_header, wordOf_header, toNat_ofNat_chunk hsmall, if_neg (by decide), if_neg (by simp),
    if_neg (by omega), recvData, hchunk, ok_bind]
  dsimp only
  rw [hdisk]
  rfl

variable {word : UInt32}

lemma recvMessage_done (h : Owes d disk (header ID_DONE word) σ) :
    recvMessage rpath lpath f σ = .ok (.done, { σ with consumed := σ.consumed + 8 }) ∧
      Owes d disk [] { σ with consumed := σ.consumed + 8 } := by
  rw [← List.append_nil (header ID_DONE word)] at h
  obtain ⟨hread, howes⟩ := h.read
  rw [length_header] at hread howes
  refine ⟨?_, howes⟩
  rw [recvMessage, hread, ok_bind]
  dsimp only
  rw [idOf_header, if_pos rfl]
  rfl

/-! ## One file -/

/-- What the target is at when `f` is open and `c` has been written. -/
structure Writing (lpath c : Bytes) (f : File) (disk : Disk) : Prop where
  file : f = { name := lpath, node := lpath, offset := c.length }
  node : disk.nodes lpath = some (.file c)

variable {c : Bytes}

lemma Writing.next (h : Writing lpath c f disk)
    (hwrite : disk.writeExactly f chunk = (.ok (), f', disk')) :
    Writing lpath (c ++ chunk) f' disk' := by
  have hfile := h.file
  subst hfile
  obtain ⟨hf, hnodes⟩ := writeExactly_ok h.node (Nat.le_refl _) hwrite
  refine ⟨?_, ?_⟩
  · rw [hf, length_append]
  · rw [hnodes, nodes_setNode_self]
    exact congrArg (fun c => some (Node.file c)) (splice_length c chunk)

lemma Writing.onlyAt (h : Writing lpath c f disk) (chunk : Bytes) :
    Disk.OnlyAt lpath disk (disk.writeExactly f chunk).2.2 := by
  have hfile := h.file
  subst hfile
  exact writeExactly_onlyAt (f := { name := lpath, node := lpath, offset := c.length }) rfl

lemma Writing.granted (h : Writing lpath c f disk) (hgranted : disk.Granted lpath)
    (chunk : Bytes) : ∃ f' disk', disk.writeExactly f chunk = (.ok (), f', disk') := by
  have hfile := h.file
  subst hfile
  obtain ⟨disk', hwrite, -⟩ := writeExactly_granted
    (f := { name := lpath, node := lpath, offset := c.length }) hgranted h.node (Nat.le_refl _)
  exact ⟨_, disk', hwrite⟩

variable {chunks : List Bytes}

lemma recvRounds_owes (n : ℕ) (h : Owes d disk (encodeFile chunks word) σ)
    (hsmall : ∀ chunk ∈ chunks, chunk.length ≤ syncDataMax) (hf : Writing lpath c f σ.disk)
    (hn : chunks.length < n) :
    ∃ ok τ, recvRounds rpath lpath n f σ = .ok (ok, τ) ∧ Disk.OnlyAt lpath σ.disk τ.disk ∧
      (σ.disk.Granted lpath → Owes d disk [] τ ∧
        τ.disk.nodes lpath = some (.file (c ++ chunks.flatten))) := by
  induction chunks generalizing c f σ n with
  | nil =>
    obtain ⟨n, rfl⟩ : ∃ m, n = m + 1 := ⟨n - 1, by omega⟩
    rw [encodeFile, flatMap_nil, nil_append] at h
    obtain ⟨hdone, howes⟩ := recvMessage_done h
    have hrun : recvRounds rpath lpath (n + 1) f σ = .ok (true, { σ with
        consumed := σ.consumed + 8
        filesTransferred := σ.filesTransferred + 1 }) := by
      rw [recvRounds, hdone]
      rfl
    refine ⟨true, _, hrun, .refl .., fun _ => ⟨howes.congr rfl rfl rfl rfl rfl, ?_⟩⟩
    rw [flatten_nil, List.append_nil]
    exact hf.node
  | cons chunk chunks ih =>
    obtain ⟨n, rfl⟩ : ∃ m, n = m + 1 := ⟨n - 1, by omega⟩
    rw [encodeFile, flatMap_cons, append_assoc] at h
    have hchunk := hsmall chunk (by simp)
    obtain ⟨-, -, howes⟩ := h.readChunk
    have honly := hf.onlyAt chunk
    cases hwrite : σ.disk.writeExactly f chunk with
    | mk result more =>
      obtain ⟨f', disk1⟩ := more
      rw [hwrite] at honly
      cases result with
      | error e =>
        obtain ⟨τ, hrun, hdisk⟩ := recvMessage_refused h hchunk hwrite
        refine ⟨false, τ, by rw [recvRounds, hrun]; rfl, ?_, ?_⟩
        · rw [hdisk]
          exact honly.trans (unlink_onlyAt ..)
        intro hgranted
        obtain ⟨f'', disk'', hok⟩ := hf.granted hgranted chunk
        rw [hwrite] at hok
        cases hok
      | ok u =>
        have hafter := writeExactly_after f chunk σ.disk
        rw [hwrite] at hafter
        have hrun := recvMessage_written rpath lpath h hchunk hwrite
        have howes' : Owes d disk (encodeFile chunks word)
            { readChunk chunk σ with disk := disk1 } := howes.congr rfl rfl rfl rfl rfl
        obtain ⟨ok, τ, hrounds, honly', hstored⟩ := ih n howes'
          (fun x hx => hsmall x (by simp [hx])) (hf.next hwrite) (by simp at hn; omega)
        refine ⟨ok, τ, ?_, honly.trans honly', ?_⟩
        · rw [recvRounds, hrun, ok_bind]
          exact hrounds
        intro hgranted
        rw [flatten_cons, ← append_assoc]
        exact hstored (hgranted.after hafter)

structure Writable (lpath : Bytes) (disk : Disk) : Prop where
  granted : disk.Granted lpath
  node : disk.nodes lpath ≠ some .directory

/-- A file with the content `c` has been requested for `lpath`. If the target can be written, it is
there, and its answer has been read to the end. -/
structure Pulled (d : Daemon) (lpath c : Bytes) (disk : Disk) (σ : Client) (disk' : Disk)
    (τ : Client) : Prop where
  nodes : disk'.nodes = disk.nodes
  after : Disk.After disk disk'
  onlyAt : Disk.OnlyAt lpath σ.disk τ.disk
  stored : Writable lpath σ.disk → Owes d disk' [] τ ∧ τ.disk.nodes lpath = some (.file c)

lemma readlink_unlink (h : disk.Unlinks lpath) : (disk.unlink lpath).2.readlink lpath = none := by
  rw [Disk.readlink]
  obtain hnone | ⟨-, hdir⟩ := nodes_unlink h
  · rw [hnone]
  · rw [hdir]

lemma creat_onlyAt (h : σ.disk.Unlinks lpath) :
    Disk.OnlyAt lpath σ.disk (onDisk (Disk.creat lpath) (unlinkLocal lpath σ)).2.disk := by
  obtain ⟨errno, hcreat⟩ := onDisk_snd
  rw [hcreat, unlinkLocal_disk]
  exact (unlink_onlyAt lpath σ.disk).trans (Disk.creat_onlyAt (readlink_unlink h))

lemma creat_writable (hunlinks : σ.disk.Unlinks lpath) (h : Writable lpath σ.disk) :
    ∃ f, (onDisk (Disk.creat lpath) (unlinkLocal lpath σ)).1 = some f := by
  have hgranted := h.granted.after (unlink_after lpath σ.disk)
  have hnone : (σ.disk.unlink lpath).2.nodes lpath = none := by
    apply (nodes_unlink hunlinks).resolve_right
    intro hdir
    exact h.node hdir.1
  obtain ⟨disk', hcreat, -⟩ := creat_granted hgranted
    (resolve_self (readlink_unlink hunlinks)) (by rw [hnone]; simp)
  refine ⟨{ name := lpath, node := lpath }, ?_⟩
  rw [onDisk_fst, unlinkLocal_disk, hcreat]
  rfl

lemma Owes.rounds (h : Owes d disk (encodeFile chunks word) σ) :
    chunks.length < (σ.peer σ.written).1.length + 1 := by
  have hunread := congrArg List.length h.unread
  have hle := SyncService.length_le_flatMap_dataMessage chunks
  rw [SyncClient.unread, length_drop, encodeFile, length_append] at hunread
  omega

lemma syncRecv_pulled (h : Owes d disk [] σ) (hsrc : Visible rpath (.file c) disk)
    (hunlinks : σ.disk.Unlinks lpath) :
    ∃ ok disk' τ, syncRecv rpath lpath σ = .ok (ok, τ) ∧ Pulled d lpath c disk σ disk' τ := by
  obtain ⟨chunks, disk', hflat, hsmall, hnodes, hafter, hhandles⟩ :=
    SyncService.handles_recv hsrc.sendable hsrc.granted hsrc.resolve hsrc.here
  have howes := h.asked (request_ne_nil ID_RECV rpath) hhandles
  have hsend := sendRequest_ok h.sends ID_RECV hsrc.sendable.length
  generalize hσ1 : ({ σ with
      sends := σ.sends.tail
      written := σ.written ++ request ID_RECV rpath
      targets := σ.targets ++ [lpath] } : Client) = σ1
  have howes1 : Owes d disk' (encodeFile chunks 0) σ1 := by
    rw [← hσ1]
    exact howes.congr rfl rfl rfl rfl rfl
  have hdisk : σ1.disk = σ.disk := by rw [← hσ1]
  have hunlinks1 : σ1.disk.Unlinks lpath := by rw [hdisk]; exact hunlinks
  have honly := creat_onlyAt hunlinks1
  obtain ⟨disk2, errno, hframe⟩ := creat_frame
  cases hcreat : onDisk (Disk.creat lpath) (unlinkLocal lpath σ1) with
  | mk opened σ2 =>
    rw [hcreat] at honly hframe
    cases opened with
    | none =>
      have hrun : syncRecv rpath lpath σ =
          .ok (false, errorErrno (ascii "cannot create " ++ quoted lpath) σ2) := by
        rw [syncRecv, hsend]
        dsimp only
        rw [hσ1, hcreat]
        rfl
      refine ⟨false, disk', _, hrun, hnodes, hafter, hdisk ▸ honly, ?_⟩
      intro hwritable
      obtain ⟨f, hf⟩ := creat_writable hunlinks1 (by rw [hdisk]; exact hwritable)
      rw [hcreat] at hf
      cases hf
    | some f =>
      have hreceiving := creat_receiving hunlinks1 (by rw [hcreat])
      rw [hcreat] at hreceiving
      have howes2 : Owes d disk' (encodeFile chunks 0) σ2 := by
        rw [show σ2 = { σ1 with disk := disk2, errno := errno } from hframe]
        exact howes1.congr rfl rfl rfl rfl rfl
      obtain ⟨ok, τ, hrounds, honly', hstored⟩ := recvRounds_owes _ howes2 hsmall
        ⟨hreceiving.file, hreceiving.node⟩ howes2.rounds
      have hrun : syncRecv rpath lpath σ = .ok (ok, τ) := by
        rw [syncRecv, hsend]
        dsimp only
        rw [hσ1, hcreat]
        exact hrounds
      refine ⟨ok, disk', τ, hrun, hnodes, hafter, (hdisk ▸ honly).trans honly', ?_⟩
      intro hwritable
      have hgranted : σ2.disk.Granted lpath := by
        have hafter2 := (unlink_after lpath σ1.disk).trans
          (creat_after lpath (σ1.disk.unlink lpath).2)
        obtain ⟨errno', hsnd⟩ := onDisk_snd
        rw [hcreat, unlinkLocal_disk] at hsnd
        rw [show σ2 = _ from hsnd]
        exact (show σ1.disk.Granted lpath by rw [hdisk]; exact hwritable.granted).after hafter2
      obtain ⟨howes', hnode⟩ := hstored hgranted
      refine ⟨howes', ?_⟩
      rw [hnode]
      simp [hflat]

/-! ## One source -/

variable {copyAttrs : Bool}

lemma Pulled.congr {ρ : Client} (h : Pulled d lpath c disk σ disk' τ)
    (hcalled : Disk.Called lpath τ.disk ρ.disk) (hpeer : ρ.peer = τ.peer)
    (hwritten : ρ.written = τ.written) (hconsumed : ρ.consumed = τ.consumed)
    (hsends : ρ.sends = τ.sends) (hpolls : ρ.polls = τ.polls) :
    Pulled d lpath c disk σ disk' ρ := by
  refine ⟨h.nodes, h.after, h.onlyAt.trans hcalled.onlyAt, ?_⟩
  intro hwritable
  obtain ⟨howes, hnode⟩ := h.stored hwritable
  exact ⟨howes.congr hpeer hwritten hconsumed hsends hpolls, by rw [hcalled.nodes]; exact hnode⟩

lemma Visible.congr {node : Node} {path : Bytes} (h : Visible path node disk)
    (hnodes : disk'.nodes = disk.nodes) (hafter : Disk.After disk disk') :
    Visible path node disk' :=
  ⟨by rw [hnodes]; exact h.here, h.granted.after hafter, h.link, h.slash, h.sendable⟩

lemma Writable.congr {path : Bytes} (honly : Disk.OnlyAt lpath disk disk') (hne : path ≠ lpath) :
    Writable path disk' ↔ Writable path disk := by
  constructor
  · intro h
    refine ⟨?_, honly.nodes path hne ▸ h.node⟩
    intro c hc
    exact h.granted c (by rw [honly.calls path hne]; exact hc)
  · intro h
    refine ⟨?_, by rw [honly.nodes path hne]; exact h.node⟩
    intro c hc
    rw [honly.calls path hne] at hc
    exact h.granted c hc

end Adb.SyncClient

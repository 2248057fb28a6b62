import Adb.Lib.Run
import Adb.SyncClient

/-!
# What a pull leaves behind

`sync_recv` against any device. The loop keeps that the file holds the payloads that were received so
far; every exit but the one after `ID_DONE` unlinks it.
-/

namespace Adb.SyncClient

open Lib FileSync List Disk

variable {σ τ ρ : Client} {rpath lpath : Bytes} {f : File} {chunks : List Bytes}

def unread (σ : Client) : Bytes := (σ.peer σ.written).1.drop σ.consumed

lemma readFdExactly_spec {n : ℕ} :
    Sat (readFdExactly n σ)
      (fun r => ∃ consumed errno, r.2 = { σ with consumed := consumed, errno := errno } ∧
        ∀ x, r.1 = some x → x.length = n ∧ unread σ = x ++ unread r.2)
      (fun s => s = (.waits, σ)) := by
  unfold readFdExactly
  dsimp only
  split
  · next hle =>
    refine ⟨_, _, rfl, fun x hx => ?_⟩
    cases hx
    refine ⟨length_take_of_le hle, ?_⟩
    show unread σ = _ ++ List.drop (σ.consumed + n) _
    rw [← drop_drop]
    exact (take_append_drop n _).symm
  split
  · exact ⟨_, _, rfl, fun x hx => by cases hx⟩
  · rfl

/-- What was to be read into the buffer of `sync_recv` fits into it. -/
def Fits (σ τ : Client) : Prop :=
  ∃ sizes, τ.buffered = σ.buffered ++ sizes ∧ ∀ n ∈ sizes, n ≤ syncDataMax

lemma Fits.refl (h : τ.buffered = σ.buffered) : Fits σ τ := ⟨[], by simp [h], by simp⟩

lemma Fits.trans (h : Fits σ τ) (h' : Fits τ ρ) : Fits σ ρ := by
  obtain ⟨sizes, hτ, hall⟩ := h
  obtain ⟨sizes', hρ, hall'⟩ := h'
  refine ⟨sizes ++ sizes', by rw [hρ, hτ, append_assoc], fun n hn => ?_⟩
  exact (mem_append.mp hn).elim (hall n) (hall' n)

lemma Fits.add {n : ℕ} (h : Fits σ τ) (hn : n ≤ syncDataMax)
    (hρ : ρ.buffered = τ.buffered ++ [n]) : Fits σ ρ :=
  h.trans ⟨[n], hρ, by simpa using hn⟩

lemma Fits.congr (h : Fits σ τ) (hρ : ρ.buffered = τ.buffered) : Fits σ ρ := h.trans (.refl hρ)

/-! ## Unlinking -/

lemma onDisk_fst {α : Type} {g : Disk → Except Errno α × Disk} :
    (onDisk g σ).1 = (g σ.disk).1.toOption := by
  unfold onDisk
  split <;> next heq => rw [heq]; rfl

lemma onDisk_snd {α : Type} {g : Disk → Except Errno α × Disk} :
    ∃ errno, (onDisk g σ).2 = { σ with disk := (g σ.disk).2, errno := errno } := by
  unfold onDisk
  split <;> next heq => exact ⟨_, by rw [heq]⟩

lemma unlinkLocal_eq :
    ∃ errno, unlinkLocal lpath σ = { σ with disk := (σ.disk.unlink lpath).2, errno := errno } :=
  onDisk_snd

lemma unlinkLocal_buffered : (unlinkLocal lpath σ).buffered = σ.buffered := by
  obtain ⟨errno, h⟩ := unlinkLocal_eq
  rw [h]

lemma unlinkLocal_disk : (unlinkLocal lpath σ).disk = (σ.disk.unlink lpath).2 := by
  obtain ⟨errno, h⟩ := unlinkLocal_eq
  rw [h]

lemma unlinkLocal_file {c : Bytes} (hunlink : σ.disk.Unlinks lpath)
    (hfile : σ.disk.nodes lpath = some (.file c)) :
    (unlinkLocal lpath σ).disk.nodes lpath = none := by
  rw [unlinkLocal_disk]
  apply (nodes_unlink hunlink).resolve_right
  intro hdir
  rw [hfile] at hdir
  cases hdir.1

/-! ## The loop -/

/-- The file holds the payloads that were received since `σ`. -/
structure Receiving (lpath : Bytes) (σ : Client) (chunks : List Bytes) (f : File) (τ : Client) :
    Prop where
  stream : unread σ = chunks.flatMap dataMessage ++ unread τ
  peer : τ.peer = σ.peer
  written : τ.written = σ.written
  file : f = { name := lpath, node := lpath, offset := chunks.flatten.length }
  node : τ.disk.nodes lpath = some (.file chunks.flatten)
  unlinks : τ.disk.Unlinks lpath
  fits : Fits σ τ

def Received (lpath : Bytes) (σ τ : Client) : Prop :=
  ∃ chunks word, unread σ = encodeFile chunks word ++ unread τ ∧
    τ.disk.nodes lpath = some (.file chunks.flatten)

lemma Receiving.write {chunk : Bytes} {f' : File} {disk : Disk} (h : Receiving lpath σ chunks f τ)
    (hwrite : τ.disk.writeExactly f chunk = (.ok (), f', disk)) :
    f' = { name := lpath, node := lpath, offset := (chunks ++ [chunk]).flatten.length } ∧
      disk.nodes lpath = some (.file (chunks ++ [chunk]).flatten) := by
  have hfile := h.file
  subst hfile
  have hflatten : (chunks ++ [chunk]).flatten = chunks.flatten ++ chunk := by simp
  have hsplice := splice_length chunks.flatten chunk
  obtain ⟨hf, hnodes⟩ := writeExactly_ok h.node (Nat.le_refl _) hwrite
  rw [hflatten, hf, hnodes, length_append, nodes_setNode_self]
  exact ⟨rfl, congrArg (fun c => some (Node.file c)) hsplice⟩

lemma Receiving.write_file (h : Receiving lpath σ chunks f τ) (chunk : Bytes) :
    ∃ c, (τ.disk.writeExactly f chunk).2.2.nodes lpath = some (.file c) := by
  have hfile := h.file
  subst hfile
  exact writeExactly_file h.node (Nat.le_refl _)

def RecvStep (lpath : Bytes) (σ : Client) (chunks : List Bytes) (τ : Client) :
    RecvNext × Client → Prop
  | (.again f, ρ) =>
    ∃ chunk, Receiving lpath σ (chunks ++ [chunk]) f ρ ∧ (unread ρ).length < (unread τ).length
  | (.done, ρ) => Received lpath σ ρ ∧ ρ.written = σ.written ∧ Fits σ ρ
  | (.fail, ρ) => ρ.disk.nodes lpath = none ∧ Fits σ ρ

def RecvStop (σ : Client) (s : Stop × Client) : Prop := s.1 ≠ .hangs ∧ Fits σ s.2

lemma reportCopyFailure_spec {src dst msg : Bytes} :
    Sat (reportCopyFailure src dst msg σ) (fun r => r.2.disk = σ.disk ∧ r.2.buffered = σ.buffered)
      (fun s => s.1 ≠ .hangs ∧ s.2.buffered = σ.buffered) := by
  apply Sat.ite
  · intro _
    exact ⟨by simp, rfl⟩
  intro _
  refine Sat.bind (readFdExactly_spec.mono (fun r hr => hr) ?_) ?_
  · intro s hs
    rw [hs]
    exact ⟨by simp, rfl⟩
  intro r hr
  obtain ⟨consumed, errno, hr2, -⟩ := hr
  obtain ⟨reason, ρ⟩ := r
  subst hr2
  cases reason with
  | none => exact ⟨rfl, rfl⟩
  | some reason => exact ⟨rfl, rfl⟩

/-- The reason and its NUL fit in the buffer, whose size is computed modulo 2^32. -/
theorem reportCopyFailure_inside_iff (msg : Bytes) :
    ((wordOf msg).toNat + 1 ≤ (wordOf msg + 1).toNat ∧
      ∀ src dst σ τ, reportCopyFailure src dst msg σ ≠ .error (.overrun, τ)) ↔
      wordOf msg ≠ 0xffffffff := by
  constructor
  · intro h hmax
    rw [hmax] at h
    exact absurd h.1 (by decide)
  intro hne
  have hmax : (wordOf msg).toNat ≠ 0xffffffff := fun h => hne (UInt32.toNat_inj.mp h)
  have hlt : (wordOf msg).toNat + 1 < 2 ^ 32 := by
    have := (wordOf msg).toNat_lt
    omega
  have hsize : (wordOf msg + 1).toNat = (wordOf msg).toNat + 1 := by
    rw [UInt32.toNat_add]
    exact Nat.mod_eq_of_lt hlt
  have hzero : wordOf msg + 1 ≠ 0 := by
    intro hzero
    rw [hzero] at hsize
    simp at hsize
  refine ⟨hsize.ge, ?_⟩
  intro src dst σ τ h
  -- reading the reason ends, or waits
  rw [reportCopyFailure, if_neg hzero] at h
  cases hr : readFdExactly (wordOf msg).toNat σ with
  | error s =>
    rw [hr, readFdExactly_spec.of_error hr] at h
    cases h
  | ok r =>
    rw [hr, ok_bind] at h
    dsimp only at h
    split at h <;> cases h

/-- The device fails with a reason of 2^32 - 1 bytes. -/
theorem copyDone_overruns :
    ∃ τ, copyDone (ascii "a") (ascii "b")
      { peer := fun _ => (header ID_FAIL 0xffffffff, false) } = .error (.overrun, τ) := ⟨_, rfl⟩

lemma recvData_spec {size consumed : ℕ} {errno : Option Errno}
    (h : Receiving lpath σ chunks f τ) (hmax : size ≤ syncDataMax)
    (hheader : unread τ = header ID_DATA (UInt32.ofNat size) ++
      unread { τ with consumed := consumed, errno := errno }) :
    Sat (recvData lpath size f { τ with consumed := consumed, errno := errno })
      (fun r => RecvStep lpath σ chunks τ ((r.1.map RecvNext.again).getD .fail, r.2))
      (RecvStop σ) := by
  have hfits : Fits σ { τ with
      consumed := consumed, errno := errno, buffered := τ.buffered ++ [size] } :=
    h.fits.add hmax rfl
  refine Sat.bind (readFdExactly_spec.mono (fun r hr => hr) ?_) ?_
  · intro s hs
    rw [hs]
    exact ⟨by simp, hfits⟩
  intro r hr
  obtain ⟨data, ρ⟩ := r
  obtain ⟨consumed', errno', rfl, hread⟩ := hr
  cases data with
  | none => exact ⟨unlinkLocal_file h.unlinks h.node, hfits.congr unlinkLocal_buffered⟩
  | some chunk =>
    obtain ⟨hlen, hpayload⟩ := hread chunk rfl
    dsimp only
    have hafter := writeExactly_after f chunk τ.disk
    split
    · next f' disk heq =>
      rw [heq] at hafter
      obtain ⟨hf, hnode⟩ := h.write heq
      have hmessage : unread τ = dataMessage chunk ++ unread { τ with
          consumed := consumed', errno := errno' } := by
        rw [hheader, dataMessage, hlen, append_assoc]
        exact congrArg _ hpayload
      refine ⟨chunk, ⟨?_, h.peer, h.written, hf, hnode, h.unlinks.after hafter, hfits⟩, ?_⟩
      · rw [h.stream, hmessage, flatMap_append, append_assoc]
        simp only [flatMap_cons, flatMap_nil, List.append_nil]
        rfl
      have hlength := congrArg List.length hmessage
      rw [dataMessage, length_append, length_append, length_header] at hlength
      show (unread { τ with consumed := consumed', errno := errno' }).length < _
      omega
    · next e f' disk heq =>
      rw [heq] at hafter
      obtain ⟨c, hc⟩ := h.write_file chunk
      rw [heq] at hc
      exact ⟨unlinkLocal_file (h.unlinks.after hafter) hc, hfits.congr unlinkLocal_buffered⟩

lemma recvMessage_spec (h : Receiving lpath σ chunks f τ) :
    Sat (recvMessage rpath lpath f τ) (RecvStep lpath σ chunks τ) (RecvStop σ) := by
  refine Sat.bind (readFdExactly_spec.mono (fun r hr => hr) ?_) ?_
  · intro s hs
    rw [hs]
    exact ⟨by simp, h.fits⟩
  intro r hr
  obtain ⟨msg, ρ⟩ := r
  obtain ⟨consumed, errno, rfl, hread⟩ := hr
  cases msg with
  | none => exact ⟨unlinkLocal_file h.unlinks h.node, h.fits.congr unlinkLocal_buffered⟩
  | some msg =>
    obtain ⟨hlen, hheader⟩ := hread msg rfl
    rw [← header_idOf_wordOf hlen] at hheader
    apply Sat.ite
    · intro hdone
      rw [hdone] at hheader
      refine ⟨⟨chunks, wordOf msg, ?_, h.node⟩, h.written, h.fits⟩
      rw [h.stream, hheader, encodeFile, append_assoc]
    intro _
    apply Sat.ite
    · intro _
      refine Sat.bind (reportCopyFailure_spec.mono (fun r hr => hr) ?_) ?_
      · intro s hs
        exact ⟨hs.1, h.fits.congr (hs.2.trans unlinkLocal_buffered)⟩
      intro r hr
      refine ⟨?_, h.fits.congr (hr.2.trans unlinkLocal_buffered)⟩
      rw [hr.1]
      exact unlinkLocal_file h.unlinks h.node
    intro hdata
    apply Sat.ite
    · intro _
      exact ⟨unlinkLocal_file h.unlinks h.node, h.fits.congr unlinkLocal_buffered⟩
    intro hmax
    have hid : idOf msg = ID_DATA := Classical.not_not.mp hdata
    rw [hid, ← UInt32.ofNat_toNat (x := wordOf msg)] at hheader
    refine Sat.bind (recvData_spec h (by omega) hheader) ?_
    intro r hr
    obtain ⟨f', ρ⟩ := r
    cases f' with
    | none => exact hr
    | some f' => exact hr

lemma recvRounds_spec {n : ℕ} (h : Receiving lpath σ chunks f τ) (hn : (unread τ).length < n) :
    Sat (recvRounds rpath lpath n f τ) (fun r => Fits σ r.2 ∧
        if r.1 then Received lpath σ r.2 ∧ r.2.written = σ.written
        else r.2.disk.nodes lpath = none)
      (RecvStop σ) := by
  induction n generalizing chunks f τ with
  | zero => omega
  | succ n ih =>
    refine Sat.bind (recvMessage_spec h) ?_
    intro r hr
    obtain ⟨next, ρ⟩ := r
    cases next with
    | again f' =>
      obtain ⟨chunk, hnext, hless⟩ := hr
      exact ih hnext (by omega)
    | done => exact ⟨hr.2.2, hr.1, hr.2.1⟩
    | fail => exact ⟨hr.2, hr.1⟩

/-! ## The whole transfer -/

lemma sendRequest_frame (id : UInt32) (path : Bytes) (σ : Client) :
    (sendRequest id path σ).2.disk = σ.disk ∧ (sendRequest id path σ).2.peer = σ.peer ∧
      (sendRequest id path σ).2.consumed = σ.consumed ∧
      (sendRequest id path σ).2.buffered = σ.buffered := by
  unfold sendRequest
  split
  · exact ⟨rfl, rfl, rfl, rfl⟩
  unfold writeFdExactly
  split <;> exact ⟨rfl, rfl, rfl, rfl⟩

lemma creat_frame :
    ∃ disk errno, (onDisk (Disk.creat lpath) (unlinkLocal lpath σ)).2 =
      { σ with disk := disk, errno := errno } := by
  obtain ⟨errno, hunlink⟩ := unlinkLocal_eq
  obtain ⟨errno', hcreat⟩ := onDisk_snd
  rw [hcreat, hunlink]
  exact ⟨_, _, rfl⟩

lemma creat_receiving (hunlink : σ.disk.Unlinks lpath)
    (h : (onDisk (Disk.creat lpath) (unlinkLocal lpath σ)).1 = some f) :
    Receiving lpath (onDisk (Disk.creat lpath) (unlinkLocal lpath σ)).2 [] f
      (onDisk (Disk.creat lpath) (unlinkLocal lpath σ)).2 := by
  have hafter := (unlink_after lpath σ.disk).trans (creat_after lpath _)
  rw [onDisk_fst, unlinkLocal_disk] at h
  obtain ⟨errno, hcreat⟩ := onDisk_snd
  rw [hcreat, unlinkLocal_disk]
  cases hd : (σ.disk.unlink lpath).2.creat lpath with
  | mk r d' =>
    rw [hd] at h hafter
    cases r with
    | error e => cases h
    | ok f' =>
      cases h
      obtain ⟨q, hq, hnot, hf, hnodes⟩ := creat_ok hd
      have hnone : (σ.disk.unlink lpath).2.nodes lpath = none := by
        rcases nodes_unlink hunlink with hnone | ⟨-, hdir⟩
        · exact hnone
        have hself := resolve_self (d := (σ.disk.unlink lpath).2) (p := lpath)
          (by rw [Disk.readlink, hdir])
        rw [hself] at hq
        cases hq
        exact absurd hdir hnot
      have hself := resolve_self (d := (σ.disk.unlink lpath).2) (p := lpath)
        (by rw [Disk.readlink, hnone])
      rw [hself] at hq
      cases hq
      refine ⟨rfl, rfl, rfl, hf, ?_, hunlink.after hafter, .refl rfl⟩
      show d'.nodes lpath = _
      rw [hnodes]
      exact nodes_setNode_self ..

lemma creat_refused (hunlink : σ.disk.Unlinks lpath)
    (h : (onDisk (Disk.creat lpath) (unlinkLocal lpath σ)).1 = none) :
    (onDisk (Disk.creat lpath) (unlinkLocal lpath σ)).2.disk.nodes lpath = none ∨
      (onDisk (Disk.creat lpath) (unlinkLocal lpath σ)).2.disk.nodes lpath =
        σ.disk.nodes lpath := by
  rw [onDisk_fst, unlinkLocal_disk] at h
  obtain ⟨errno, hcreat⟩ := onDisk_snd
  rw [hcreat, unlinkLocal_disk]
  cases hd : (σ.disk.unlink lpath).2.creat lpath with
  | mk r d' =>
    rw [hd] at h
    cases r with
    | ok f' => cases h
    | error e =>
      show d'.nodes lpath = none ∨ d'.nodes lpath = _
      rw [creat_error hd]
      rcases nodes_unlink hunlink with hnone | ⟨hold, hnew⟩
      · exact .inl hnone
      · exact .inr (hnew.trans hold.symm)

/-- Whatever the device sends, a pull leaves the whole file that was sent, or nothing new. No more is
read into the buffer than it holds, and the loop does not go round without reading. -/
theorem pull_whole_or_nothing (rpath lpath : Bytes) (σ : Client) (hunlink : σ.disk.Unlinks lpath) :
    Sat (syncRecv rpath lpath σ) (fun r => Fits σ r.2 ∧ if r.1 then
          ∃ chunks word,
            (σ.peer r.2.written).1.drop σ.consumed = encodeFile chunks word ++ unread r.2 ∧
            r.2.disk.nodes lpath = some (.file chunks.flatten)
        else
          r.2.disk.nodes lpath = none ∨ r.2.disk.nodes lpath = σ.disk.nodes lpath)
      (fun s => s.1 ≠ .hangs ∧ Fits σ s.2) := by
  have hframe := sendRequest_frame ID_RECV rpath σ
  unfold syncRecv
  cases hreq : sendRequest ID_RECV rpath σ with
  | mk sent σ1 =>
    rw [hreq] at hframe
    obtain ⟨hdisk, hpeer, hconsumed, hbuffered⟩ := hframe
    cases sent with
    | false => exact ⟨.refl hbuffered, .inr (congrArg (fun d => Disk.nodes d lpath) hdisk)⟩
    | true =>
      dsimp only at hdisk hpeer hconsumed hbuffered ⊢
      have hunlink2 : Disk.Unlinks lpath { σ1 with targets := σ1.targets ++ [lpath] }.disk := by
        rw [hdisk]
        exact hunlink
      obtain ⟨disk, errno, hsnd⟩ := creat_frame
      have hfits : Fits σ (onDisk (Disk.creat lpath)
          (unlinkLocal lpath { σ1 with targets := σ1.targets ++ [lpath] })).2 := by
        rw [hsnd]
        exact .refl hbuffered
      cases hopen : onDisk (Disk.creat lpath)
          (unlinkLocal lpath { σ1 with targets := σ1.targets ++ [lpath] }) with
      | mk opened ρ =>
        rw [hopen] at hsnd hfits
        cases opened with
        | none =>
          have hnodes := creat_refused hunlink2 (by rw [hopen])
          rw [hopen, hdisk] at hnodes
          exact ⟨hfits, hnodes⟩
        | some f =>
          have hreceiving := creat_receiving hunlink2 (by rw [hopen])
          rw [hopen] at hreceiving
          have hfuel : (unread ρ).length < (ρ.peer ρ.written).1.length + 1 := by
            rw [unread, length_drop]
            omega
          refine (recvRounds_spec hreceiving hfuel).mono ?_ ?_
          · intro r hr
            refine ⟨hfits.trans hr.1, ?_⟩
            have hr' := hr.2
            split at hr'
            · next hok =>
              obtain ⟨⟨chunks, word, hstream, hnode⟩, hwritten⟩ := hr'
              rw [if_pos hok]
              refine ⟨chunks, word, ?_, hnode⟩
              rw [← hstream, hwritten, unread, hsnd, hpeer, hconsumed]
            · next hfail =>
              rw [if_neg hfail]
              exact .inl hr'
          · intro s hs
            exact ⟨hs.1, hfits.trans hs.2⟩

/-- A device sends a file in two messages; `calls` are the outcomes of the calls on the local file,
which has an old content. -/
def pulling (calls : List Call) : Client :=
  { peer := fun _ => (encodeFile [ascii "n", ascii "ew"] 0, false)
    disk :=
      { nodes := fun p => if p = ascii "f" then some (.file (ascii "old")) else none
        calls := fun p => if p = ascii "f" then calls else [] } }

/-- The disk is full when the second payload is written. -/
theorem pull_nothing_disk_full :
    ∃ τ, syncRecv (ascii "/data/f") (ascii "f")
        (pulling [{}, {}, {}, { error := some .ENOSPC }]) = .ok (false, τ) ∧
      (τ.disk.nodes (ascii "f") = none ∨
        τ.disk.nodes (ascii "f") = some (.file (ascii "old"))) := by
  have htest : returns (syncRecv (ascii "/data/f") (ascii "f")
      (pulling [{}, {}, {}, { error := some .ENOSPC }])) (fun r => !r.1) = true := by
    decide +kernel
  obtain ⟨⟨ok, τ⟩, hrun, hok⟩ := returns_iff.mp htest
  have hok : ok = false := by simpa using hok
  subst hok
  have hunlink : (pulling [{}, {}, {}, { error := some .ENOSPC }]).disk.Unlinks (ascii "f") := by
    show ∀ c ∈ [({} : Call), {}, {}, { error := some .ENOSPC }], c.unlink = none
    decide
  have hpull := pull_whole_or_nothing (ascii "/data/f") (ascii "f") _ hunlink
  exact ⟨τ, hrun, (hpull.of_ok hrun).2⟩

end Adb.SyncClient

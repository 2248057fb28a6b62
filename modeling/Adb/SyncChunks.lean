import Adb.Lib.Granted
import Adb.SyncFrame
import Adb.SyncRecv
import Adb.SyncServiceTheorems

/-!
# The size of a chunk

`SYNC_DATA_MAX` bounds the payload of a message with data at both ends. A large file is read into a
buffer of that size, so its chunks are small enough. A small file is sent in one message, and whether
it is small is what `stat` says before it is read.
-/

namespace Adb.SyncClient

open Lib FileSync

variable {σ τ ρ : Client} {lpath rpath : Bytes}

/-! ## The data that is sent -/

/-- The data that has been sent since then comes in chunks that are small enough. -/
def Sent (σ τ : Client) : Prop :=
  ∃ more, τ.chunks = σ.chunks ++ more ∧ ∀ chunk ∈ more, chunk.length ≤ syncDataMax

lemma Sent.nothing (h : τ.chunks = σ.chunks) : Sent σ τ := ⟨[], by simp [h], by simp⟩

lemma Sent.add {chunk : Bytes} (h : Sent σ τ) (hchunk : chunk.length ≤ syncDataMax)
    (hρ : ρ.chunks = τ.chunks ++ [chunk]) : Sent σ ρ := by
  obtain ⟨more, hmore, hsmall⟩ := h
  refine ⟨more ++ [chunk], by rw [hρ, hmore, List.append_assoc], ?_⟩
  intro x hx
  obtain hx | hx := List.mem_append.mp hx
  · exact hsmall x hx
  · rw [List.mem_singleton.mp hx]
    exact hchunk

lemma Sent.congr (h : Sent σ τ) (hρ : ρ.chunks = τ.chunks) : Sent σ ρ := by
  unfold Sent
  rwa [hρ]

/-- Whether a computation returns or stops, the data that it has sent is in small enough chunks. -/
def SendsSmall {α : Type} (σ : Client) (r : Res (α × Client)) : Prop :=
  Sat r (fun x => Sent σ x.2) fun s => Sent σ s.2

lemma onDisk_chunks {α : Type} (g : Disk → Except Errno α × Disk) (σ : Client) :
    (onDisk g σ).2.chunks = σ.chunks := by
  unfold onDisk
  split
  · rfl
  · rfl

lemma statLocal_chunks (f : Path → Disk → Except Errno Node × Disk) (path : Bytes) (σ : Client) :
    (statLocal f path σ).2.chunks = σ.chunks := onDisk_chunks (f path) σ

lemma readLocalLink_spec (lpath : Bytes) (σ : Client) :
    (readLocalLink lpath σ).2.chunks = σ.chunks ∧
      ∀ target ∈ (readLocalLink lpath σ).1, target.length < pathMax := by
  have hdisk := onDisk_chunks (Disk.lstat lpath) σ
  unfold readLocalLink
  split
  · next target τ heq =>
    rw [heq] at hdisk
    refine ⟨hdisk, ?_⟩
    intro x hx
    rw [← Option.some.inj hx, List.length_take]
    have hmax : pathMax = 4096 := rfl
    omega
  · next node τ heq =>
    rw [heq] at hdisk
    exact ⟨hdisk, by simp⟩
  · next τ heq =>
    rw [heq] at hdisk
    exact ⟨hdisk, by simp⟩

lemma thenCopyDone_sendsSmall {r : Res (Bool × Client)} (h : SendsSmall σ r) :
    SendsSmall σ (thenCopyDone lpath rpath r) := by
  apply Sat.bind h
  intro x hx
  obtain ⟨ok, τ⟩ := x
  cases ok with
  | false => exact hx
  | true =>
    apply copyDone_talks.mono
    · intro y hy
      exact hx.congr hy.chunks
    · intro s hs
      exact hx.congr hs.chunks

lemma sendSmallFile_sendsSmall {data : Bytes} (pathAndMode lpath rpath : Bytes) (mtime : UInt32)
    (h : Sent σ τ) (hdata : data.length ≤ syncDataMax) :
    SendsSmall σ (sendSmallFile pathAndMode lpath rpath mtime data τ) := by
  apply Sat.ite
  · intro _
    exact h.congr rfl
  intro _
  apply Sat.bind (writeOrDie_talks |>.mono
    (fun _ hρ => h.add hdata hρ.chunks) (fun _ hs => h.add hdata hs.chunks))
  intro ρ hρ
  exact hρ.congr rfl

lemma sendDataRounds_sendsSmall (lpath rpath : Bytes) (n : ℕ) (f : File) (h : Sent σ τ) :
    SendsSmall σ (sendDataRounds lpath rpath n f τ) := by
  induction n generalizing f τ with
  | zero => exact h
  | succ n ih =>
    unfold sendDataRounds
    split
    · exact h.congr rfl
    next data f' disk heq =>
    apply Sat.ite
    · intro _
      exact h.congr rfl
    intro _
    have hdata : data.length ≤ syncDataMax := by
      have hle := Disk.length_read_le heq
      omega
    apply Sat.bind (writeOrDie_talks |>.mono
      (fun _ hρ => h.add hdata hρ.chunks) (fun _ hs => h.add hdata hs.chunks))
    intro ρ hρ
    have hpoll := receivedError_talks ρ
    split
    · next υ heq' =>
      rw [heq'] at hpoll
      exact hρ.congr hpoll.chunks
    · next υ heq' =>
      rw [heq'] at hpoll
      exact ih f' (hρ.congr hpoll.chunks)

lemma sendLargeFile_sendsSmall (pathAndMode lpath rpath : Bytes) (mtime : UInt32)
    (h : Sent σ τ) : SendsSmall σ (sendLargeFile pathAndMode lpath rpath mtime τ) := by
  have hsend := sendRequest_talks ID_SEND pathAndMode τ
  unfold sendLargeFile
  split
  · next ρ heq =>
    rw [heq] at hsend
    exact h.congr hsend.chunks
  next ρ heq =>
  rw [heq] at hsend
  have hstat := statLocal_chunks Disk.stat lpath ρ
  split
  · next υ heq' =>
    rw [heq'] at hstat
    exact h.congr (hstat.trans hsend.chunks)
  next st υ heq' =>
  rw [heq'] at hstat
  have hopen := onDisk_chunks (Disk.openFile lpath) υ
  split
  · next κ heq'' =>
    rw [heq''] at hopen
    exact h.congr (hopen.trans (hstat.trans hsend.chunks))
  next f κ heq'' =>
  rw [heq''] at hopen
  have hκ : Sent σ κ := h.congr (hopen.trans (hstat.trans hsend.chunks))
  apply Sat.bind (sendDataRounds_sendsSmall lpath rpath _ f hκ)
  intro x hx
  apply Sat.ite
  · intro _
    exact hx
  intro _
  apply Sat.bind (writeOrDie_talks (σ := { x.2 with expectDone := true }) |>.mono
    (fun _ hρ => hx.congr hρ.chunks) (fun _ hs => hx.congr hs.chunks))
  intro κ' hκ'
  exact hκ'

lemma sendLink_sendsSmall (pathAndMode lpath rpath : Bytes) (mtime : UInt32) (h : Sent σ τ) :
    SendsSmall σ (sendLink pathAndMode lpath rpath mtime τ) := by
  obtain ⟨hchunks, htarget⟩ := readLocalLink_spec lpath τ
  unfold sendLink
  split
  · next ρ heq =>
    rw [heq] at hchunks
    exact h.congr hchunks
  next target ρ heq =>
  rw [heq] at hchunks htarget
  apply thenCopyDone_sendsSmall
  apply sendSmallFile_sendsSmall pathAndMode lpath rpath mtime (h.congr hchunks)
  have hlen := htarget target rfl
  have hmax : pathMax = 4096 := rfl
  have hdata : syncDataMax = 65536 := rfl
  rw [List.length_append, List.length_singleton]
  omega

/-! ## Small files -/

/-- A file that `stat` reports to be small yields no more than a chunk when it is read. -/
def SmallFileFits (lpath : Bytes) (σ : Client) : Prop :=
  ∀ st τ data ρ, statLocal Disk.stat lpath σ = (some st, τ) → st.size.toNat < syncDataMax →
    readFileToString lpath τ = (some data, ρ) → data.length ≤ syncDataMax

structure SameFiles (σ τ : Client) : Prop where
  disk : τ.disk = σ.disk
  attr : τ.attr = σ.attr
  sizes : τ.sizes = σ.sizes

lemma onDisk_same {α : Type} (g : Disk → Except Errno α × Disk) (h : SameFiles σ τ) :
    (onDisk g τ).1 = (onDisk g σ).1 ∧ SameFiles (onDisk g σ).2 (onDisk g τ).2 := by
  unfold onDisk
  rw [h.disk]
  split
  · exact ⟨rfl, rfl, h.attr, h.sizes⟩
  · exact ⟨rfl, rfl, h.attr, h.sizes⟩

lemma statLocal_same (f : Path → Disk → Except Errno Node × Disk) (path : Bytes)
    (h : SameFiles σ τ) :
    (statLocal f path τ).1 = (statLocal f path σ).1 ∧
      SameFiles (statLocal f path σ).2 (statLocal f path τ).2 := by
  obtain ⟨hnode, hfiles⟩ := onDisk_same (f path) h
  refine ⟨?_, hfiles⟩
  unfold statLocal
  dsimp only
  rw [hnode, hfiles.attr, hfiles.sizes]

lemma SmallFileFits.congr (h : SmallFileFits lpath σ) (hτ : SameFiles σ τ) :
    SmallFileFits lpath τ := by
  intro st τ' data ρ' hstat hsize hread
  obtain ⟨hst, hfiles⟩ := statLocal_same Disk.stat lpath hτ
  rw [hstat] at hst hfiles
  obtain ⟨hdata, _⟩ := onDisk_same (Disk.readAll 8192 lpath) hfiles
  have hread' : (onDisk (Disk.readAll 8192 lpath) τ').1 = some data := congrArg Prod.fst hread
  rw [hread'] at hdata
  have hstat' : statLocal Disk.stat lpath σ = (some st, (statLocal Disk.stat lpath σ).2) :=
    Prod.ext hst.symm rfl
  exact h st _ data (readFileToString lpath (statLocal Disk.stat lpath σ).2).2 hstat' hsize
    (Prod.ext hdata.symm rfl)

lemma sendFile_sendsSmall (pathAndMode rpath : Bytes) (mtime : UInt32) (h : Sent σ τ)
    (hfits : SmallFileFits lpath τ) : SendsSmall σ (sendFile pathAndMode lpath rpath mtime τ) := by
  have hstat := statLocal_chunks Disk.stat lpath τ
  unfold sendFile
  split
  · next ρ heq =>
    rw [heq] at hstat
    exact h.congr hstat
  next st ρ heq =>
  rw [heq] at hstat
  apply Sat.ite
  · intro hsize
    have hread := onDisk_chunks (Disk.readAll 8192 lpath) ρ
    change (readFileToString lpath ρ).2.chunks = ρ.chunks at hread
    split
    · next υ heq' =>
      rw [heq'] at hread
      exact h.congr (hread.trans hstat)
    next data υ heq' =>
    rw [heq'] at hread
    apply thenCopyDone_sendsSmall
    exact sendSmallFile_sendsSmall _ _ _ _ (h.congr (hread.trans hstat))
      (hfits st ρ data υ heq hsize heq')
  · intro _
    apply thenCopyDone_sendsSmall
    exact sendLargeFile_sendsSmall _ _ _ _ (h.congr hstat)

lemma syncSend_sendsSmall (rpath : Bytes) (mtime mode : UInt32) (sync : Bool)
    (hfits : SmallFileFits lpath σ) : SendsSmall σ (syncSend lpath rpath mtime mode sync σ) := by
  have hsend : ∀ x : Bool × Client, Talks σ x.2 → SendsSmall σ (if x.1 then pure (true, x.2)
      else if isKind S_IFLNK mode then
        sendLink (rpath ++ ascii "," ++ signed mode) lpath rpath mtime x.2
      else sendFile (rpath ++ ascii "," ++ signed mode) lpath rpath mtime x.2) := by
    intro x hx
    have hsent : Sent σ x.2 := .nothing hx.chunks
    apply Sat.ite
    · intro _
      exact hsent
    intro _
    apply Sat.ite
    · intro _
      exact sendLink_sendsSmall _ lpath rpath mtime hsent
    · intro _
      exact sendFile_sendsSmall _ rpath mtime hsent (hfits.congr ⟨hx.disk, hx.attr, hx.sizes⟩)
  cases sync with
  | false => exact hsend (false, σ) (.refl σ)
  | true =>
    apply Sat.bind (skipFile_talks.mono (fun _ h => h) fun _ hs => Sent.nothing hs.chunks)
    exact hsend

lemma syncSend_small {mtime mode : UInt32} {st : Stat} {data : Bytes}
    (hmode : isKind S_IFLNK mode = false)
    (hpath : (rpath ++ ascii "," ++ signed mode).length ≤ 1024)
    (hstat : statLocal Disk.stat lpath σ = (some st, τ)) (hsize : st.size.toNat < syncDataMax)
    (hread : readFileToString lpath τ = (some data, ρ)) :
    Sat (syncSend lpath rpath mtime mode false σ) (fun x => x.2.chunks = σ.chunks ++ [data])
      fun s => s.2.chunks = σ.chunks ++ [data] := by
  have hρ : ρ.chunks = σ.chunks := by
    have hτ := statLocal_chunks Disk.stat lpath σ
    have hread' := onDisk_chunks (Disk.readAll 8192 lpath) τ
    change (readFileToString lpath τ).2.chunks = τ.chunks at hread'
    rw [hstat] at hτ
    rw [hread] at hread'
    exact hread'.trans hτ
  have hsmall : Sat (sendSmallFile (rpath ++ ascii "," ++ signed mode) lpath rpath mtime data ρ)
      (fun x => x.2.chunks = σ.chunks ++ [data]) fun s => s.2.chunks = σ.chunks ++ [data] := by
    rw [sendSmallFile, if_neg (by omega), ← hρ]
    apply Sat.bind (writeOrDie_talks |>.mono (fun _ h => h.chunks) (fun _ hs => hs.chunks))
    intro υ hυ
    exact hυ
  show Sat (if isKind S_IFLNK mode then _ else sendFile _ lpath rpath mtime σ) _ _
  rw [hmode, sendFile, hstat]
  dsimp only
  rw [if_neg (by decide), if_pos hsize, hread]
  apply Sat.bind hsmall
  intro x hx
  obtain ⟨ok, υ⟩ := x
  cases ok with
  | false => exact hx
  | true =>
    apply copyDone_talks.mono
    · intro y hy
      exact hy.chunks.trans hx
    · intro s hs
      exact hs.chunks.trans hx

end Adb.SyncClient

namespace Adb.SyncService

open Lib FileSync

variable {σ τ : Daemon} {chunks : List Bytes} {chunk : Bytes} {f : File}

/-! ## The service -/

/-- The loop of `handle_send_file` gets past these messages, unless a write to the file fails. -/
def Passes (chunks : List Bytes) : Prop :=
  ∀ (n : ℕ) (f : File) (σ : Daemon) (rest : Bytes), σ.input = chunks.flatMap dataMessage ++ rest →
    (∃ τ, receiveRounds (chunks.length + n) f σ = .ok (.fail, τ)) ∨ ∃ g τ, τ.input = rest ∧
        receiveRounds (chunks.length + n) f σ = receiveRounds n g τ

lemma passes_of_le (hchunks : ∀ chunk ∈ chunks, chunk.length ≤ syncDataMax) : Passes chunks := by
  induction chunks with
  | nil =>
    intro n f σ rest h
    exact .inr ⟨f, σ, h, by rw [List.length_nil, Nat.zero_add]⟩
  | cons chunk more ih =>
    intro n f σ rest h
    have hlen := hchunks chunk (by simp)
    rw [List.flatMap_cons, List.append_assoc] at h
    rw [List.length_cons, Nat.add_right_comm, receiveRounds, receiveMessage_data hlen h,
      receiveData_eq (σ := { σ with input := chunk ++ (more.flatMap dataMessage ++ rest) }) rfl]
    cases hwrite : σ.disk.writeExactly f chunk with
    | mk result written =>
      obtain ⟨g, disk⟩ := written
      cases result with
      | error e => exact .inl ⟨_, rfl⟩
      | ok _ =>
        rw [ok_bind]
        exact ih (fun x hx => hchunks x (by simp [hx])) n g _ rest rfl

lemma receiveMessage_oversize (hlong : syncDataMax < chunk.length) (h32 : chunk.length < 2 ^ 32)
    (h : σ.input = dataMessage chunk) :
    receiveMessage f σ =
      .ok (.abort, sendSyncFail (ascii "oversize data message") { σ with input := chunk }) := by
  have hnat : (UInt32.ofNat chunk.length).toNat = chunk.length := UInt32.toNat_ofNat_of_lt' h32
  rw [dataMessage] at h
  rw [receiveMessage, readFdExactly_header h, ok_bind]
  simp [hnat, hlong]

/-- What `do_recv` has answered: data, and how it ends. -/
def AnswersWith (accepted : Bytes → Prop) (σ τ : Daemon) : Prop :=
  ∃ (chunks : List Bytes) (ending : Bytes),
    τ.output = σ.output ++ (chunks.flatMap dataMessage ++ ending) ∧
    (∀ chunk ∈ chunks, accepted chunk) ∧
    (ending = [] ∨ ending = header ID_DONE 0 ∨ ∃ n reason, ending = header ID_FAIL n ++ reason)

variable {accepted : Bytes → Prop}

lemma Refused.answersWith (h : Refused σ τ) : AnswersWith accepted σ τ := by
  obtain h | ⟨n, reason, h⟩ := h
  · exact ⟨[], [], by simp [h], by simp, .inl rfl⟩
  · exact ⟨[], _, by simp [h], by simp, .inr (.inr ⟨n, reason, rfl⟩)⟩

lemma AnswersWith.cons {ρ : Daemon} (h : AnswersWith accepted τ ρ) (hchunk : accepted chunk)
    (hτ : τ.output = σ.output ++ dataMessage chunk) : AnswersWith accepted σ ρ := by
  obtain ⟨chunks, ending, hout, hchunks, hending⟩ := h
  refine ⟨chunk :: chunks, ending, ?_, ?_, hending⟩
  · rw [hout, hτ, List.flatMap_cons, List.append_assoc, List.append_assoc]
  intro x hx
  obtain rfl | hx := List.mem_cons.mp hx
  · exact hchunk
  · exact hchunks x hx

lemma AnswersWith.of_eq {ρ : Daemon} (h : AnswersWith accepted τ ρ)
    (hτ : τ.output = σ.output) : AnswersWith accepted σ ρ := by
  unfold AnswersWith at h
  rwa [hτ] at h

lemma sendRounds_answersWith (haccepted : ∀ chunk, chunk.length ≤ syncDataMax → accepted chunk)
    (n : ℕ) (f : File) (σ : Daemon) : AnswersWith accepted σ (sendRounds n f σ).2 := by
  induction n generalizing f σ with
  | zero => exact Refused.answersWith (.inl rfl)
  | succ n ih =>
    unfold sendRounds
    split
    · next e g disk heq =>
      exact ((sendSyncFail_refused.of_eq rfl).congr rfl).answersWith
    next data g disk heq =>
    have hdata : data.length ≤ syncDataMax := by
      have hle := Disk.length_read_le heq
      omega
    cases hup : σ.hungUp with
    | true =>
      split
      · exact Refused.answersWith (.inl (by simp [reply, close]))
      · simp only [reply, fill, if_true]
        exact Refused.answersWith (.inl rfl)
    | false =>
      split
      · exact ⟨[], header ID_DONE 0, by simp [reply, close], by simp, .inr (.inl rfl)⟩
      simp only [reply, fill, Bool.false_eq_true, if_false]
      exact (ih g _).cons (haccepted data hdata) (by
        rw [dataMessage]
        simp only [List.append_assoc])

lemma doRecv_answersWith (haccepted : ∀ chunk, chunk.length ≤ syncDataMax → accepted chunk)
    (path : Bytes) (σ : Daemon) : AnswersWith accepted σ (doRecv path σ).2 := by
  have hopen := (silent_of_calls (onDisk_calls (Disk.openFile path) σ)).1
  unfold doRecv
  split
  · next τ heq =>
    rw [heq] at hopen
    exact (sendSyncFail_refused.of_eq hopen).answersWith
  next g τ heq =>
  rw [heq] at hopen
  have hrounds := sendRounds_answersWith haccepted (((τ.disk.content path).getD []).length + 1) g
    { τ with fdOps := τ.fdOps ++ [.opened] }
  exact hrounds.of_eq hopen

end Adb.SyncService

namespace Adb.SyncClient

open Lib FileSync SyncService

variable {σ τ ρ : Client} {chunk : Bytes}

/-! ## The limit at both ends -/

lemma readFdExactly_unread {x rest : Bytes} (h : unread σ = x ++ rest) :
    readFdExactly x.length σ = .ok (some x, { σ with consumed := σ.consumed + x.length }) := by
  have hle : x.length ≤ ((σ.peer σ.written).1.drop σ.consumed).length := by
    change x.length ≤ (unread σ).length
    rw [h, List.length_append]
    omega
  have htake : ((σ.peer σ.written).1.drop σ.consumed).take x.length = x := by
    change (unread σ).take x.length = x
    rw [h, List.take_left]
  unfold readFdExactly
  dsimp only
  rw [if_pos hle, htake]

lemma readFdExactly_buffered (n : ℕ) (σ : Client) :
    Sat (readFdExactly n σ) (fun x => x.2.buffered = σ.buffered)
      fun s => s.2.buffered = σ.buffered := by
  apply readFdExactly_spec.mono
  · intro x hx
    obtain ⟨consumed, errno, heq, _⟩ := hx
    rw [heq]
  · intro s hs
    rw [hs]

/-- `sync_recv` reads the payload of a message that it finds. -/
def Accepts (chunk : Bytes) : Prop :=
  ∀ (rpath lpath : Bytes) (f : File) (σ : Client) (rest : Bytes),
    unread σ = dataMessage chunk ++ rest →
      Sat (recvMessage rpath lpath f σ) (fun x => x.2.buffered = σ.buffered ++ [chunk.length])
        fun s => s.2.buffered = σ.buffered ++ [chunk.length]

lemma accepts_of_le (hlen : chunk.length ≤ syncDataMax) : Accepts chunk := by
  intro rpath lpath f σ rest h
  rw [dataMessage, List.append_assoc] at h
  have hhead := readFdExactly_unread h
  rw [length_header] at hhead
  have hnat := toNat_length_chunk hlen
  have hnot : ¬ chunk.length > syncDataMax := by omega
  have hne : ¬ ID_DATA = ID_DONE := by decide
  rw [recvMessage, hhead, ok_bind]
  simp only [idOf_header, wordOf_header, hnat, hnot, hne, ne_eq, not_true_eq_false, if_false]
  have hdata : Sat (recvData lpath chunk.length f { σ with consumed := σ.consumed + 8 })
      (fun x => x.2.buffered = σ.buffered ++ [chunk.length])
      fun s => s.2.buffered = σ.buffered ++ [chunk.length] := by
    apply Sat.bind (readFdExactly_buffered chunk.length _)
    intro x hx
    obtain ⟨data, τ⟩ := x
    cases data with
    | none => exact (unlinkLocal_buffered).trans hx
    | some data =>
      dsimp only
      split
      · exact hx
      · exact (unlinkLocal_buffered).trans hx
  apply Sat.bind hdata
  intro x hx
  obtain ⟨g, τ⟩ := x
  cases g with
  | none => exact hx
  | some g => exact hx

/-- The data that has been sent since then is in messages that `handle_send_file` accepts. -/
def SentAccepted (σ τ : Client) : Prop :=
  ∃ more, τ.chunks = σ.chunks ++ more ∧ (∀ chunk ∈ more, chunk.length ≤ syncDataMax) ∧ Passes more

/-- Whether `sync_send` returns or stops, what it has sent is accepted. -/
def SendsAccepted {α : Type} (σ : Client) (r : Res (α × Client)) : Prop :=
  Sat r (fun x => SentAccepted σ x.2) fun s => SentAccepted σ s.2

lemma Sent.accepted (h : Sent σ τ) : SentAccepted σ τ := by
  obtain ⟨more, hmore, hsmall⟩ := h
  exact ⟨more, hmore, hsmall, passes_of_le hsmall⟩

lemma SentAccepted.last (h : SentAccepted σ τ) (hτ : τ.chunks = σ.chunks ++ [chunk]) :
    chunk.length ≤ syncDataMax := by
  obtain ⟨more, hmore, hsmall, -⟩ := h
  have heq : [chunk] = more := List.append_cancel_left (hτ.symm.trans hmore)
  exact hsmall chunk (by simp [← heq])

/-- Whatever the client is told to send under `lpath`, and whatever `do_recv` sends, is accepted at
the other end: this is so just when `stat` does not take a long file for a small one. -/
theorem chunks_accepted_iff (lpath : Bytes) (σ : Client) :
    ((∀ τ, SameFiles σ τ → ∀ rpath mtime mode sync,
        SendsAccepted τ (syncSend lpath rpath mtime mode sync τ)) ∧
      ∀ path d, AnswersWith (fun chunk => chunk.length ≤ syncDataMax ∧ Accepts chunk) d
        (doRecv path d).2) ↔
      SmallFileFits lpath σ := by
  constructor
  · intro h st τ data ρ hstat hsize hread
    have hsends := h.1 σ ⟨rfl, rfl, rfl⟩ [] 0 S_IFREG false
    have hmode : isKind S_IFLNK S_IFREG = false := by decide
    have hspec : ([] ++ ascii "," ++ signed S_IFREG : Bytes).length ≤ 1024 := by decide
    have hsmall : Sat (syncSend lpath [] 0 S_IFREG false σ) _ _ :=
      syncSend_small hmode hspec hstat hsize hread
    cases hr : syncSend lpath [] 0 S_IFREG false σ with
    | ok x =>
      rw [hr] at hsends hsmall
      exact SentAccepted.last hsends hsmall
    | error s =>
      rw [hr] at hsends hsmall
      exact SentAccepted.last hsends hsmall
  · intro hfits
    constructor
    · intro τ hτ rpath mtime mode sync
      apply (syncSend_sendsSmall rpath mtime mode sync (hfits.congr hτ)).mono
      · intro x hx
        exact Sent.accepted hx
      · intro s hs
        exact Sent.accepted hs
    · intro path d
      apply doRecv_answersWith
      intro chunk hlen
      exact ⟨hlen, accepts_of_le hlen⟩

def reporting (content : Bytes) : Client :=
  { peer := fun _ => ([], true)
    disk := { nodes := fun p => if p = ascii "f" then some (.file content) else none }
    sizes := fun _ => some 0 }

lemma reporting_sends (content : Bytes) :
    Sat (syncSend (ascii "f") (ascii "/f") 0 S_IFREG false (reporting content))
      (fun x => x.2.chunks = (reporting content).chunks ++ [content])
      fun s => s.2.chunks = (reporting content).chunks ++ [content] := by
  have hgranted : (reporting content).disk.Granted (ascii "f") := by
    intro c hc
    cases hc
  have hnode : (reporting content).disk.nodes (ascii "f") = some (.file content) := by
    simp [reporting]
  have hresolve : (reporting content).disk.resolve (ascii "f") = .ok (ascii "f") :=
    Disk.resolve_self (by simp [Disk.readlink, hnode])
  let disk := ((reporting content).disk.call (ascii "f")).2
  have hstat : statLocal Disk.stat (ascii "f") (reporting content) =
      (some { statOf {} (.file content) with size := 0 },
        { reporting content with disk := disk }) := by
    unfold statLocal onDisk
    rw [Disk.stat_granted hgranted hresolve hnode]
    rfl
  obtain ⟨disk', hread, -⟩ := Disk.readAll_granted (show 0 < 8192 by decide)
    (hgranted.after (Disk.call_after _ _)) hresolve hnode
  apply syncSend_small (τ := { reporting content with disk := disk })
    (ρ := { reporting content with disk := disk' }) (by decide) (by decide) hstat
    (show (0 : UInt64).toNat < syncDataMax by decide)
  unfold readFileToString onDisk
  rw [hread]

lemma reporting_oversize {content : Bytes} (hlong : syncDataMax < content.length)
    (h32 : content.length < 2 ^ 32) :
    ¬ SendsAccepted (reporting content)
        (syncSend (ascii "f") (ascii "/f") 0 S_IFREG false (reporting content)) ∧
      ∃ τ, receiveMessage { name := ascii "/f", node := ascii "/f" }
          { input := dataMessage content } = .ok (.abort, τ) ∧
        τ.output = header ID_FAIL 21 ++ ascii "oversize data message" := by
  refine ⟨?_, _, receiveMessage_oversize hlong h32 rfl, rfl⟩
  intro h
  have hsends := reporting_sends content
  have hle : content.length ≤ syncDataMax := by
    cases hr : syncSend (ascii "f") (ascii "/f") 0 S_IFREG false (reporting content) with
    | ok x =>
      rw [hr] at h hsends
      exact SentAccepted.last h hsends
    | error s =>
      rw [hr] at h hsends
      exact SentAccepted.last h hsends
  omega

/-- A file of one byte more than a chunk is sent in one message, to which the answer is that it is
oversize. -/
theorem syncSend_oversize :
    ¬ SendsAccepted (reporting (List.replicate 65537 0))
        (syncSend (ascii "f") (ascii "/f") 0 S_IFREG false (reporting (List.replicate 65537 0))) ∧
      ∃ τ, receiveMessage { name := ascii "/f", node := ascii "/f" }
          { input := dataMessage (List.replicate 65537 0) } = .ok (.abort, τ) ∧
        τ.output = header ID_FAIL 21 ++ ascii "oversize data message" := by
  apply reporting_oversize
  · rw [List.length_replicate]
    decide
  · rw [List.length_replicate]
    decide

end Adb.SyncClient

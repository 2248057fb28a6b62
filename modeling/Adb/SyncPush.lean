import Adb.SyncPair
import Adb.SyncTree

/-!
# Several files are pushed

`do_sync_push` goes on after a source that has failed. It stays in step with the service if nothing
has been sent for that source: a small file is read before it is sent, a large one is read while it
is sent.
-/

namespace Adb.SyncClient

open Lib FileSync List Disk
open SyncService (Daemon Reached Handles Sendable Creatable FileSpec serves request request_ne_nil)

variable {d : Daemon} {disk disk' : Disk} {σ τ : Client} {path dst src : Bytes}

/-! ## The directory -/

inductive DirectoryAt (path : Bytes) (disk : Disk) : Prop
  | plain (h : Visible path .directory disk)
  | trailing (hend : SyncService.endsInSlash path = true) (hsend : Sendable path) (q : Path)
      (hgranted : disk.Granted (path.rdropWhile (· = slash)))
      (hresolve : disk.resolve (path.rdropWhile (· = slash)) = .ok q)
      (hnode : disk.nodes q = some .directory)
  | link (hne : path ≠ []) (hlast : path.getLast? ≠ some slash)
      (hsend : Sendable (path ++ [slash])) (q target : Path) (hgranted : disk.Granted path)
      (hlink : disk.nodes path = some (.link target)) (hresolve : disk.resolve path = .ok q)
      (hnode : disk.nodes q = some .directory)

structure Looked (d : Daemon) (disk : Disk) (σ : Client) (disk' : Disk) (τ : Client) : Prop where
  owes : Owes d disk' [] τ
  nodes : disk'.nodes = disk.nodes
  after : Disk.After disk disk'
  talks : Talks σ τ
  reports : τ.reports = σ.reports

lemma isDirectory_of_mode {st : Stat} {attr : Attr}
    (h : st.mode = (statOf attr .directory).mode) : isKind S_IFDIR st.mode = true := by
  rw [h, isKind_statOf]
  decide

lemma isKind_directory {mode : UInt32} :
    isKind S_IFDIR (mode &&& ~~~S_IFMT ||| S_IFDIR) = true := by
  have hsplit : (mode &&& ~~~S_IFMT ||| S_IFDIR) &&& S_IFMT =
      (mode &&& (~~~S_IFMT &&& S_IFMT)) ||| (S_IFDIR &&& S_IFMT) := by
    apply UInt32.toNat_inj.mp
    simp only [UInt32.toNat_and, UInt32.toNat_or, Nat.and_or_distrib_right, Nat.and_assoc]
  have hzero : ~~~S_IFMT &&& S_IFMT = 0 := by decide
  rw [isKind, hsplit, hzero, UInt32.and_zero]
  decide

variable {q : Path}

lemma statDirectory_granted (hgranted : disk.Granted (path.rdropWhile (· = slash)))
    (hresolve : disk.resolve (path.rdropWhile (· = slash)) = .ok q)
    (hnode : disk.nodes q = some .directory) :
    SyncService.statDirectory path disk =
      (.ok .directory, (disk.call (path.rdropWhile (· = slash))).2) := by
  rw [SyncService.statDirectory, stat_granted hgranted hresolve hnode]

lemma DirectoryAt.stat (h : DirectoryAt path disk) (howes : Owes d disk [] σ) :
    ∃ st disk' τ, syncStatFallback path σ = .ok (some st, τ) ∧ isKind S_IFDIR st.mode = true ∧
      Looked d disk σ disk' τ := by
  cases h with
  | plain h =>
    obtain ⟨st, τ, hsync, hmode, howes', htalks, hreports⟩ := h.syncStatFallback howes
    exact ⟨st, _, τ, hsync, isDirectory_of_mode hmode, howes', rfl, call_after path disk, htalks,
      hreports⟩
  | trailing hend hsend q hgranted hresolve hnode =>
    have hstat := statDirectory_granted hgranted hresolve hnode
    obtain ⟨st, τ, hsync, hmode, howes', htalks, hreports⟩ := syncStatFallback_owes howes hsend
      (by rw [SyncService.statNode, hend]; exact hstat)
      (by rw [SyncService.lstatNode, hend]; exact hstat) (by simp)
    exact ⟨st, _, τ, hsync, isDirectory_of_mode hmode, howes', rfl, call_after _ disk, htalks,
      hreports⟩
  | link hne hlast hsend q target hgranted hlink hresolve hnode =>
    have hend : SyncService.endsInSlash path = false := by simp [SyncService.endsInSlash, hlast]
    have hsend' : Sendable path := by
      refine ⟨?_, fun hmem => hsend.nul (by simp [hmem])⟩
      have hlen := hsend.length
      rw [length_append] at hlen
      omega
    have hstat : SyncService.statNode path disk = (.ok .directory, (disk.call path).2) := by
      rw [SyncService.statNode, hend]
      exact stat_granted hgranted hresolve hnode
    have hlstat : SyncService.lstatNode path disk = (.ok (.link target), (disk.call path).2) := by
      rw [SyncService.lstatNode, hend]
      exact lstat_granted hgranted hlink
    cases hv : σ.haveStatV2 with
    | true =>
      obtain ⟨st, hmode, hsync, howes'⟩ := syncStat_owes howes hv hsend' hstat
      refine ⟨st, _, _, ?_, isDirectory_of_mode hmode, howes', rfl, call_after path disk,
        exchanged_talks, rfl⟩
      rw [syncStatFallback, hsync]
      rfl
    | false =>
      -- the link is followed by a second request, for the path with `/` at its end
      have hσ : Owes d disk [] { σ with errno := some .ENOTSUP } := howes.congr rfl rfl rfl rfl rfl
      obtain ⟨st, ans, hmode, hsync, howes'⟩ := syncLstat_owes hσ hv hsend' hlstat
      have hstrip : (path ++ [slash]).rdropWhile (· = slash) = path := by
        rw [rdropWhile_concat_pos _ _ _ (by simp), rdropWhile_eq_self_iff]
        intro hl hslash
        apply hlast
        rw [List.getLast?_eq_some_getLast hl]
        exact congrArg some (by simpa using hslash)
      have hend' : SyncService.endsInSlash (path ++ [slash]) = true := by
        simp [SyncService.endsInSlash, hstrip, hne]
      have hlstat' : SyncService.lstatNode (path ++ [slash]) (disk.call path).2 =
          (.ok .directory, ((disk.call path).2.call path).2) := by
        have hgranted' : (disk.call path).2.Granted ((path ++ [slash]).rdropWhile (· = slash)) := by
          rw [hstrip]
          exact hgranted.after (call_after path disk)
        have hdir := statDirectory_granted (q := q) hgranted' (by rw [hstrip]; exact hresolve) hnode
        rw [hstrip] at hdir
        rw [SyncService.lstatNode, hend']
        exact hdir
      obtain ⟨st', ans', -, hsync', howes''⟩ := syncLstat_owes howes' hv hsend hlstat'
      have hislink : isKind S_IFLNK st.mode = true := by
        rw [hmode, isKind_statOf]
        exact decide_eq_true rfl
      have hnone : syncStat path σ = .ok (none, { σ with errno := some .ENOTSUP }) := by
        rw [syncStat, sendStat, hv]
        rfl
      refine ⟨{ st with size := 0, mode := st.mode &&& ~~~S_IFMT ||| S_IFDIR }, _, _, ?_,
        isKind_directory, howes'', rfl,
        (call_after path disk).trans (call_after path _), rfl, rfl⟩
      rw [syncStatFallback, hnone, ok_bind]
      dsimp only
      rw [emulateStat, hsync, ok_bind]
      dsimp only
      rw [hislink, resolveLink, hsync']
      rfl

/-! ## The mode -/

lemma reads_digitBelow : Reads (SyncService.digitBelow 10) 10 := by
  intro n hn
  have hall : ∀ n : Fin 10, SyncService.digitBelow 10 (digit n) = some n.val := by decide
  exact hall ⟨n, hn⟩

lemma isSome_of_mem_decimal (n : ℕ) : ∀ c ∈ decimal n, (hexDigit c).isSome = true := by
  intro c hc
  have hdigit := isSome_of_mem_numeral (by decide) reads_digitBelow c hc
  unfold SyncService.digitBelow at hdigit
  cases hd : hexDigit c with
  | none =>
    rw [hd] at hdigit
    cases hdigit
  | some k => rfl

lemma head_decimal {n : ℕ} (hn : 0 < n) : ∃ c rest, decimal n = c :: rest ∧ c ≠ 48 := by
  unfold decimal
  induction n using numeral_induction (b := 10) (by decide) with
  | hlt n hlt =>
    have hdigit : ∀ n : Fin 10, 0 < n.val → digit n ≠ 48 := by decide
    exact ⟨digit n, [], by rw [numeral_eq (by decide), if_pos hlt], hdigit ⟨n, hlt⟩ hn⟩
  | hle n hle ih =>
    obtain ⟨c, rest, hc, hne⟩ := ih (by omega)
    exact ⟨c, rest ++ [digit (n % 10)], by
      rw [numeral_eq (by decide), if_neg (by omega), hc, cons_append], hne⟩

lemma strtoul_decimal {n : ℕ} (hpos : 0 < n) (hlt : n < 2 ^ 64) :
    SyncService.strtoul (decimal n) = (n, false) := by
  obtain ⟨c, rest, hc, hne⟩ := head_decimal hpos
  have hplain := hexDigit_plain (isSome_of_mem_decimal n c (by simp [hc]))
  have hspace : (decimal n).dropWhile isSpace = decimal n := by
    rw [hc]
    exact dropWhile_cons_of_neg (by simp [hplain.1])
  have hhead : (decimal n).head? = some c := by rw [hc, List.head?_cons]
  have hbase : SyncService.numberBase (decimal n) = (10, decimal n) := by
    rw [hc]
    unfold SyncService.numberBase
    split
    · next heq => exact absurd (List.cons.inj heq).1 hne
    · rfl
  have hall : (decimal n).takeWhile (fun c => (SyncService.digitBelow 10 c).isSome) = decimal n :=
    takeWhile_eq_self_iff.mpr (isSome_of_mem_numeral (by decide) reads_digitBelow)
  have hread : readNumeral (SyncService.digitBelow 10) 10 0 (decimal n) = n :=
    readNumeral_numeral (by decide) reads_digitBelow
  unfold SyncService.strtoul
  simp only [hspace, hhead, Option.some.injEq, hplain.2.1, hplain.2.2.1, decide_false,
    Bool.or_self, Bool.false_eq_true, if_false, hbase, hall, hread]
  rw [if_neg (by omega)]

lemma rdropWhile_append_of_all {α : Type} {p : α → Bool} (l : List α) {t : List α}
    (h : ∀ c ∈ t, p c = true) : (l ++ t).rdropWhile p = l.rdropWhile p := by
  induction t using List.reverseRecOn with
  | nil => rw [List.append_nil]
  | append_singleton t c ih =>
    rw [← append_assoc, rdropWhile_concat_pos _ _ _ (h c (by simp))]
    exact ih fun x hx => h x (by simp [hx])

lemma rtakeWhile_append_of_all {α : Type} {p : α → Bool} (l : List α) {t : List α}
    (h : ∀ c ∈ t, p c = true) : (l ++ t).rtakeWhile p = l.rtakeWhile p ++ t := by
  induction t using List.reverseRecOn with
  | nil => rw [List.append_nil, List.append_nil]
  | append_singleton t c ih =>
    rw [← append_assoc, rtakeWhile_concat_pos _ _ _ (h c (by simp)),
      ih fun x hx => h x (by simp [hx]), append_assoc]

variable {c : Bytes}

lemma fileSpec {rpath : Bytes} {attr : Attr}
    (hsend : Sendable (rpath ++ ascii "," ++ signed (statOf attr (.file c)).mode)) :
    FileSpec (rpath ++ ascii "," ++ signed (statOf attr (.file c)).mode) rpath := by
  refine ⟨?_, hsend⟩
  generalize hmode : (statOf attr (.file c)).mode = mode
  have hkind : isKind S_IFREG mode = true := by
    rw [← hmode, isKind_statOf]
    exact decide_eq_true rfl
  have hlnk : isKind S_IFLNK mode = false := by
    rw [← hmode, isKind_statOf]
    exact decide_eq_false (show S_IFREG ≠ S_IFLNK by decide)
  have hlt : mode.toNat < 2 ^ 31 := by
    rw [← hmode]
    show (S_IFREG ||| (attr.permissions &&& 0o7777)).toNat < 2 ^ 31
    rw [UInt32.toNat_or, UInt32.toNat_and]
    apply Nat.or_lt_two_pow
    · decide
    · have hle : attr.permissions.toNat &&& (0o7777 : UInt32).toNat ≤ 0o7777 := Nat.and_le_right
      omega
  have hpos : 0 < mode.toNat := by
    rw [Nat.pos_iff_ne_zero]
    intro hzero
    have heq : mode = 0 := UInt32.toNat_inj.mp hzero
    rw [heq] at hkind
    exact absurd hkind (by decide)
  have hsigned : signed mode = decimal mode.toNat := by rw [signed, if_pos hlt]
  refine ⟨decimal mode.toNat, ?_, ?_, ?_⟩
  · have hdigits : ∀ c ∈ decimal mode.toNat, decide (c ≠ 44) = true := by
      intro c hc
      have hsome := isSome_of_mem_decimal mode.toNat c hc
      refine decide_eq_true ?_
      intro heq
      rw [heq] at hsome
      exact absurd hsome (by decide)
    rw [hsigned, SyncService.splitSpec, if_pos (by simp [ascii]), rdropWhile_append_of_all _ hdigits,
      rtakeWhile_append_of_all _ hdigits]
    have hcomma : ascii "," = [44] := by decide
    rw [hcomma, rdropWhile_concat_neg _ _ _ (by decide),
      rtakeWhile_concat_neg _ _ _ (by decide), dropLast_concat, nil_append]
  · rw [strtoul_decimal hpos (by omega)]
  · rw [strtoul_decimal hpos (by omega)]
    show isKind S_IFLNK (UInt32.ofNat mode.toNat) = false
    rw [UInt32.ofNat_toNat]
    exact hlnk

/-! ## One file -/

variable {data : Bytes}

lemma writeOrDie_ok (h : ∀ s ∈ σ.sends, s = none) :
    writeOrDie src dst data σ =
      .ok { σ with sends := σ.sends.tail, written := σ.written ++ data } := by
  rw [writeOrDie, writeFdExactly_ok h]
  rfl

lemma copyDone_owes (h : Owes d disk (header ID_OKAY 0) σ) (hexpect : σ.expectDone = true) :
    ∃ τ, copyDone src dst σ = .ok (true, τ) ∧ Owes d disk [] τ ∧ Talks σ τ ∧
      τ.reports = σ.reports ∧ τ.filesTransferred = σ.filesTransferred + 1 ∧
      τ.filesSkipped = σ.filesSkipped := by
  rw [← List.append_nil (header ID_OKAY 0)] at h
  obtain ⟨hread, howes⟩ := h.read
  rw [length_header] at hread howes
  refine ⟨{ σ with
    consumed := σ.consumed + 8
    expectDone := false
    filesTransferred := σ.filesTransferred + 1 }, ?_, howes.congr rfl rfl rfl rfl rfl, rfl, rfl,
    rfl, rfl⟩
  rw [copyDone, hread, ok_bind]
  dsimp only
  rw [hexpect]
  rfl

/-- Of the local files, only `lpath` has been looked at. -/
structure LooksAt (lpath : Bytes) (σ τ : Client) : Prop where
  called : Disk.Called lpath σ.disk τ.disk
  attr : τ.attr = σ.attr
  sizes : τ.sizes = σ.sizes
  reports : τ.reports = σ.reports
  filesTransferred : τ.filesTransferred = σ.filesTransferred
  filesSkipped : τ.filesSkipped = σ.filesSkipped

lemma LooksAt.trans {lpath : Bytes} {ρ : Client} (h : LooksAt lpath σ τ)
    (h' : LooksAt lpath τ ρ) : LooksAt lpath σ ρ :=
  ⟨h.called.trans h'.called, h'.attr.trans h.attr, h'.sizes.trans h.sizes,
    h'.reports.trans h.reports, h'.filesTransferred.trans h.filesTransferred,
    h'.filesSkipped.trans h.filesSkipped⟩

structure Stored (d : Daemon) (disk : Disk) (rpath content : Bytes) (σ : Client) (disk' : Disk)
    (τ : Client) : Prop where
  owes : Owes d disk' [] τ
  nodes : disk'.nodes = (disk.setNode rpath (some (.file content))).nodes
  after : Disk.After disk disk'
  attr : τ.attr = σ.attr
  sizes : τ.sizes = σ.sizes
  reports : τ.reports = σ.reports
  filesTransferred : τ.filesTransferred = σ.filesTransferred + 1
  filesSkipped : τ.filesSkipped = σ.filesSkipped

variable {mtime : UInt32}

lemma sendSmallFile_owes {spec : Bytes} {rpath : Bytes} (h : Owes d disk [] σ)
    (hspec : FileSpec spec rpath) (hcreate : Creatable rpath disk)
    (hdata : data.length ≤ syncDataMax) {lpath : Bytes} :
    ∃ disk' τ, thenCopyDone lpath rpath (sendSmallFile spec lpath rpath mtime data σ) =
        .ok (true, τ) ∧ Stored d disk rpath data σ disk' τ ∧ τ.disk = σ.disk := by
  obtain ⟨disk', hnodes, hafter, hhandles⟩ := SyncService.handles_send [data] hspec hcreate
    (by simpa using hdata) d mtime
  have hreq : request ID_SEND spec ++ encodeFile [data] mtime ≠ [] := by simp [request_ne_nil]
  have hσ : Owes d disk [] { σ with chunks := σ.chunks ++ [data] } := h.congr rfl rfl rfl rfl rfl
  have howes := hσ.asked hreq hhandles
  obtain ⟨τ, hdone, howes', htalks, hreports, htransferred, hskipped⟩ := copyDone_owes
    (σ := { σ with
      chunks := σ.chunks ++ [data]
      sends := σ.sends.tail
      written := σ.written ++ (request ID_SEND spec ++ encodeFile [data] mtime)
      expectDone := true })
    (howes.congr rfl rfl rfl rfl rfl) rfl
  have hbuf : header ID_SEND (UInt32.ofNat spec.length) ++ spec ++
      (header ID_DATA (UInt32.ofNat data.length) ++ data) ++ header ID_DONE mtime =
      request ID_SEND spec ++ encodeFile [data] mtime := by
    rw [request, encodeFile, flatMap_cons, dataMessage]
    simp
  refine ⟨disk', τ, ?_, ⟨howes', ?_, hafter, htalks.attr, htalks.sizes, hreports, htransferred,
    hskipped⟩, htalks.disk⟩
  · rw [sendSmallFile, if_neg (by have hle := hspec.sendable.length; omega), hbuf]
    dsimp only
    rw [writeOrDie_ok (σ := { σ with chunks := σ.chunks ++ [data] }) h.sends]
    exact hdone
  · rw [hnodes, flatten_cons, flatten_nil, List.append_nil]

/-- The request for a large file and some of its data have been sent. -/
structure Sending (d : Daemon) (disk : Disk) (spec : Bytes) (chunks : List Bytes) (σ : Client) :
    Prop where
  peer : σ.peer = serves d
  stream : ∃ w out, Reached d w out disk ∧
    σ.written = w ++ (request ID_SEND spec ++ chunks.flatMap dataMessage) ∧ σ.consumed = out.length
  small : ∀ chunk ∈ chunks, chunk.length ≤ syncDataMax
  sends : ∀ s ∈ σ.sends, s = none
  polls : ∀ p ∈ σ.polls, ∀ e, p ≠ .fails e

variable {spec rpath lpath : Bytes} {chunks : List Bytes}

lemma Sending.receivedError (h : Sending d disk spec chunks σ) (hspec : FileSpec spec rpath)
    (hcreate : Creatable rpath disk) :
    SyncClient.receivedError σ = (false, { σ with polls := σ.polls.tail }) := by
  obtain ⟨w, out, hreached, hwritten, hconsumed⟩ := h.stream
  have hserves : σ.peer σ.written = (out, false) := by
    rw [h.peer, hwritten]
    exact hreached.serves_part fun δ hδ hinput =>
      SyncService.waits_send hspec hcreate h.small hδ hinput
  unfold SyncClient.receivedError
  rw [hserves, hconsumed]
  cases hpolls : σ.polls with
  | nil => simp
  | cons p rest =>
    cases p with
    | now => simp
    | early => simp
    | fails e => exact absurd rfl (h.polls (.fails e) (by simp [hpolls]) e)

lemma Sending.polled (h : Sending d disk spec chunks σ) :
    Sending d disk spec chunks { σ with polls := σ.polls.tail } :=
  ⟨h.peer, h.stream, h.small, h.sends, fun p hp => h.polls p (mem_of_mem_tail hp)⟩

lemma Sending.chunk (h : Sending d disk spec chunks σ) (hdata : data.length ≤ syncDataMax) :
    Sending d disk spec (chunks ++ [data])
      { σ with sends := σ.sends.tail, written := σ.written ++ dataMessage data } := by
  obtain ⟨w, out, hreached, hwritten, hconsumed⟩ := h.stream
  refine ⟨h.peer, ⟨w, out, hreached, ?_, hconsumed⟩, ?_,
    fun s hs => h.sends s (mem_of_mem_tail hs), h.polls⟩
  · show σ.written ++ dataMessage data = _
    rw [hwritten]
    simp
  intro x hx
  obtain hx | hx := mem_append.mp hx
  · exact h.small x hx
  · rw [mem_singleton.mp hx]
    exact hdata

lemma Sending.congr (h : Sending d disk spec chunks σ) (hpeer : τ.peer = σ.peer)
    (hwritten : τ.written = σ.written) (hconsumed : τ.consumed = σ.consumed)
    (hsends : τ.sends = σ.sends) (hpolls : τ.polls = σ.polls) : Sending d disk spec chunks τ := by
  obtain ⟨peer, stream, small, sends, polls⟩ := h
  exact ⟨hpeer ▸ peer, hwritten ▸ hconsumed ▸ stream, small, hsends ▸ sends, hpolls ▸ polls⟩

lemma sendDataRounds_sending (lpath : Bytes) (hspec : FileSpec spec rpath)
    (hcreate : Creatable rpath disk) (n : ℕ) (f : File) (hf : σ.disk.Granted f.name)
    (hc : σ.disk.nodes f.node = some (.file c)) (hn : (c.drop f.offset).length < n)
    (h : Sending d disk spec chunks σ) :
    ∃ more τ, sendDataRounds lpath rpath n f σ = .ok (true, τ) ∧
      more.flatten = c.drop f.offset ∧ Sending d disk spec (chunks ++ more) τ ∧
      LooksAt f.name σ τ := by
  induction n generalizing f σ chunks with
  | zero => omega
  | succ n ih =>
    obtain ⟨data, disk1, hread, hsplit, hempty, hnodes, hafter⟩ :=
      read_granted hf hc (show 0 < syncDataMax - 8 by decide)
    have hcalled : Disk.Called f.name σ.disk disk1 := by
      have hdisk := (read_called f (syncDataMax - 8) σ.disk).1
      rw [hread] at hdisk
      rw [show disk1 = (σ.disk.call f.name).2 from hdisk]
      exact .once f.name σ.disk
    by_cases hdata : data = []
    · refine ⟨[], { σ with disk := disk1 }, ?_, by rw [hempty hdata, flatten_nil], ?_, ?_⟩
      · rw [sendDataRounds, hread, hdata]
        rfl
      · rw [List.append_nil]
        exact h.congr rfl rfl rfl rfl rfl
      · exact ⟨hcalled, rfl, rfl, rfl, rfl, rfl⟩
    · have hpos : 0 < data.length := length_pos_iff.mpr hdata
      have hlen := congrArg List.length hsplit
      rw [length_append] at hlen
      have hsmall : data.length ≤ syncDataMax := by
        have hle := length_read_le hread
        omega
      let σ1 : Client := { σ with
        disk := disk1
        chunks := σ.chunks ++ [data]
        sends := σ.sends.tail
        written := σ.written ++ dataMessage data }
      have hsent : Sending d disk spec (chunks ++ [data]) σ1 :=
        (h.chunk hsmall).congr rfl rfl rfl rfl rfl
      obtain ⟨more, τ, hrun, hflat, hsending, hlooks⟩ :=
        ih { f with offset := f.offset + data.length } (σ := { σ1 with polls := σ1.polls.tail })
          (hf.after hafter) (show disk1.nodes f.node = _ by rw [hnodes]; exact hc)
          (by dsimp only; omega) hsent.polled
      refine ⟨data :: more, τ, ?_, ?_, ?_, ?_⟩
      · have hne : data.isEmpty = false := by simpa using hdata
        rw [sendDataRounds, hread]
        dsimp only
        rw [hne, if_neg (by decide), writeOrDie_ok
          (σ := { σ with disk := disk1, chunks := σ.chunks ++ [data] }) h.sends, ok_bind]
        have hpoll : SyncClient.receivedError { σ with
            disk := disk1
            chunks := σ.chunks ++ [data]
            sends := σ.sends.tail
            written := σ.written ++ (header ID_DATA (UInt32.ofNat data.length) ++ data) } =
            (false, { σ1 with polls := σ1.polls.tail }) := hsent.receivedError hspec hcreate
        rw [hpoll]
        exact hrun
      · rw [flatten_cons, hflat]
        exact hsplit.symm
      · rw [append_assoc] at hsending
        exact hsending
      · have honce : LooksAt f.name σ { σ1 with polls := σ1.polls.tail } :=
          ⟨hcalled, rfl, rfl, rfl, rfl, rfl⟩
        exact honce.trans hlooks

lemma statLocal_granted {node : Node} (hgranted : σ.disk.Granted path)
    (hq : σ.disk.resolve path = .ok q) (hnode : σ.disk.nodes q = some node) :
    statLocal Disk.stat path σ = (some { statOf (σ.attr path) node with
        size := (σ.sizes path).getD (statOf (σ.attr path) node).size },
        { σ with disk := (σ.disk.call path).2 }) := by
  unfold statLocal onDisk
  rw [stat_granted hgranted hq hnode]
  rfl

lemma sendLargeFile_owes (h : Owes d disk [] σ)
    (hspec : FileSpec spec rpath) (hcreate : Creatable rpath disk) (hgranted : σ.disk.Granted lpath)
    (hq : σ.disk.resolve lpath = .ok q) (hc : σ.disk.nodes q = some (.file c)) :
    ∃ disk' τ, thenCopyDone lpath rpath (sendLargeFile spec lpath rpath mtime σ) = .ok (true, τ) ∧
      Stored d disk rpath c σ disk' τ ∧ Disk.Called lpath σ.disk τ.disk := by
  have hcall := Disk.Called.once lpath σ.disk
  have hcall' := hcall.trans (.once lpath _)
  let σ1 : Client := { σ with
    sends := σ.sends.tail
    written := σ.written ++ request ID_SEND spec
    disk := (σ.disk.call lpath).2 }
  let σ2 : Client := { σ1 with disk := ((σ.disk.call lpath).2.call lpath).2 }
  -- the data
  have hstart : Sending d disk spec [] σ2 := by
    obtain ⟨out, hreached, hconsumed⟩ := h.stream
    refine ⟨h.peer, ⟨σ.written, out, by rwa [List.append_nil] at hreached, ?_, hconsumed⟩, by simp,
      fun s hs => h.sends s (mem_of_mem_tail hs), h.polls⟩
    rw [flatMap_nil, List.append_nil]
  have hcontent : σ2.disk.content lpath = some c :=
    content_of_resolve ((hcall'.resolve lpath).trans hq) (by rw [hcall'.nodes]; exact hc)
  obtain ⟨more, τ, hrounds, hflat, hsending, hlooks⟩ := sendDataRounds_sending lpath
    hspec hcreate (((σ2.disk.content lpath).getD []).length + 1) { name := lpath, node := q }
    (hgranted.after hcall'.after) (by rw [hcall'.nodes]; exact hc)
    (by rw [hcontent, Option.getD_some]; simp) hstart
  -- the end
  obtain ⟨disk', hnodes, hafter, hhandles⟩ := SyncService.handles_send more hspec hcreate
    hsending.small d mtime
  have howes : Owes d disk' (header ID_OKAY 0) { τ with
      expectDone := true
      sends := τ.sends.tail
      written := τ.written ++ header ID_DONE mtime } := by
    obtain ⟨w, out, hreached, hwritten, hconsumed⟩ := hsending.stream
    refine ⟨hsending.peer, ⟨out, ?_, hconsumed⟩,
      fun s hs => hsending.sends s (mem_of_mem_tail hs), hsending.polls⟩
    have hreq : request ID_SEND spec ++ encodeFile more mtime ≠ [] := by simp [request_ne_nil]
    have hdone := hreached.handles hreq (hhandles out)
    have hbytes : τ.written ++ header ID_DONE mtime =
        w ++ (request ID_SEND spec ++ encodeFile more mtime) := by
      rw [hwritten, encodeFile]
      simp
    show Reached d (τ.written ++ header ID_DONE mtime) _ _
    rw [hbytes]
    exact hdone
  obtain ⟨υ, hcopy, howes', htalks, hreports, htransferred, hskipped⟩ :=
    copyDone_owes howes rfl
  refine ⟨disk', υ, ?_, ⟨howes', ?_, hafter, htalks.attr.trans hlooks.attr,
    htalks.sizes.trans hlooks.sizes, hreports.trans hlooks.reports,
    htransferred.trans (congrArg (· + 1) hlooks.filesTransferred),
    hskipped.trans hlooks.filesSkipped⟩, ?_⟩
  · have hopen : onDisk (Disk.openFile lpath) σ1 = (some { name := lpath, node := q }, σ2) := by
      unfold onDisk
      rw [show σ1.disk.openFile lpath = _ from openFile_granted (hgranted.after hcall.after)
        ((hcall.resolve lpath).trans hq) (by rw [hcall.nodes]; exact hc)]
    have hstat := statLocal_granted (σ := { σ with
      sends := σ.sends.tail
      written := σ.written ++ request ID_SEND spec }) hgranted hq hc
    rw [sendLargeFile, sendRequest_ok h.sends _ hspec.sendable.length]
    dsimp only
    rw [hstat]
    dsimp only
    rw [show onDisk (Disk.openFile lpath) { σ with
      sends := σ.sends.tail
      written := σ.written ++ request ID_SEND spec
      disk := (σ.disk.call lpath).2 } = _ from hopen]
    dsimp only
    rw [sendOpenFile, hrounds, ok_bind]
    dsimp only
    rw [writeOrDie_ok (σ := { τ with expectDone := true }) hsending.sends]
    exact hcopy
  · rw [hnodes, hflat, drop_zero]
  · rw [htalks.disk]
    exact hcall'.trans hlooks.called

/-! ## One source -/

def reportedSize (σ : Client) (src content : Bytes) : ℕ :=
  ((σ.sizes src).getD (UInt64.ofNat content.length)).toNat

/-- A source of a push: a regular file. If calls on it are refused, then it is small, or one of the
first two calls is refused, which are made before anything is sent. -/
structure Pushable (dst : Bytes) (σ : Client) (src content : Bytes) : Prop where
  file : ∃ q, σ.disk.resolve src = .ok q ∧ σ.disk.nodes q = some (.file content)
  sendable : Sendable
    (childOf dst src ++ ascii "," ++ signed (statOf (σ.attr src) (.file content)).mode)
  small : reportedSize σ src content < syncDataMax → content.length ≤ syncDataMax
  early : reportedSize σ src content < syncDataMax ∨ σ.disk.Granted src ∨
    ((σ.disk.calls src).headD {}).error ≠ none ∨ ((σ.disk.calls src).tail.headD {}).error ≠ none

variable {content : Bytes}

lemma Pushable.congr (h : Pushable dst σ src content)
    (hnodes : τ.disk.nodes = σ.disk.nodes) (hcalls : τ.disk.calls src = σ.disk.calls src)
    (hattr : τ.attr = σ.attr) (hsizes : τ.sizes = σ.sizes) : Pushable dst τ src content := by
  have hsize : reportedSize τ src content = reportedSize σ src content := by
    rw [reportedSize, reportedSize, hsizes]
  refine ⟨?_, by rw [hattr]; exact h.sendable, by rw [hsize]; exact h.small, ?_⟩
  · obtain ⟨q, hq, hc⟩ := h.file
    exact ⟨q, ((readlink_of_nodes hnodes).resolve src).trans hq, by rw [hnodes]; exact hc⟩
  have hearly := h.early
  unfold Disk.Granted at hearly ⊢
  rw [hsize, hcalls]
  exact hearly

lemma statLocal_source {st : Stat} (hq : σ.disk.resolve src = .ok q)
    (hc : σ.disk.nodes q = some (.file content)) (h : statLocal Disk.stat src σ = (some st, τ)) :
    ((σ.disk.calls src).headD {}).error = none ∧ τ = { σ with disk := (σ.disk.call src).2 } ∧
      st.mode = (statOf (σ.attr src) (.file content)).mode ∧
      st.size.toNat = reportedSize σ src content := by
  cases hcall : ((σ.disk.calls src).headD {}).error with
  | some e =>
    have hrefused : σ.disk.stat src = (.error e, (σ.disk.call src).2) := by
      unfold Disk.stat
      dsimp only
      rw [show (σ.disk.call src).1.error = some e from hcall]
    unfold statLocal onDisk at h
    rw [hrefused] at h
    cases h
  | none =>
    have hok : σ.disk.stat src = (.ok (.file content), (σ.disk.call src).2) := by
      have hq' : (σ.disk.call src).2.resolve src = .ok q := hq
      have hc' : (σ.disk.call src).2.nodes q = some (.file content) := hc
      have hcall' : (σ.disk.call src).1.error = none := hcall
      simp only [Disk.stat, hcall', hq', hc']
    unfold statLocal onDisk at h
    rw [hok] at h
    cases h
    exact ⟨rfl, rfl, rfl, rfl⟩

lemma statLocal_refused (h : statLocal Disk.stat src σ = (none, τ)) :
    ∃ errno, τ = { σ with disk := (σ.disk.call src).2, errno := errno } := by
  have hcalled := stat_called src σ.disk
  unfold statLocal onDisk at h
  cases hr : σ.disk.stat src with
  | mk r disk' =>
    rw [hr] at h hcalled
    cases r with
    | ok node => cases h
    | error e =>
      cases h
      exact ⟨some e, by rw [← hcalled]⟩

/-- What becomes of one file: it is stored, or nothing is sent for it. -/
structure Delivered (d : Daemon) (src rpath content : Bytes) (disk : Disk) (σ : Client) (disk' : Disk)
    (τ : Client) : Prop where
  owes : Owes d disk' [] τ
  after : Disk.After disk disk'
  others : ∀ q, q ≠ rpath → disk'.nodes q = disk.nodes q
  called : Disk.Called src σ.disk τ.disk
  attr : τ.attr = σ.attr
  sizes : τ.sizes = σ.sizes
  reports : σ.reports <+: τ.reports
  stored : σ.disk.Granted src → disk'.nodes rpath = some (.file content) ∧
    τ.filesTransferred = σ.filesTransferred + 1 ∧ τ.filesSkipped = σ.filesSkipped

lemma Stored.delivered {ρ : Client}
    (h : Stored d disk rpath content ρ disk' τ) (hlooks : LooksAt src σ ρ)
    (hcalled : Disk.Called src ρ.disk τ.disk) : Delivered d src rpath content disk σ disk' τ := by
  refine ⟨h.owes, h.after, ?_, hlooks.called.trans hcalled, h.attr.trans hlooks.attr,
    h.sizes.trans hlooks.sizes, ?_, ?_⟩
  · intro q hq
    rw [h.nodes]
    exact nodes_setNode_of_ne hq
  · rw [h.reports, hlooks.reports]
  intro _
  refine ⟨?_, h.filesTransferred.trans (congrArg (· + 1) hlooks.filesTransferred),
    h.filesSkipped.trans hlooks.filesSkipped⟩
  rw [h.nodes]
  exact nodes_setNode_self ..

lemma Owes.notDelivered (h : Owes d disk [] σ) (hpeer : τ.peer = σ.peer)
    (hwritten : τ.written = σ.written) (hconsumed : τ.consumed = σ.consumed)
    (hsends : τ.sends = σ.sends) (hpolls : τ.polls = σ.polls)
    (hcalled : Disk.Called src σ.disk τ.disk) (hattr : τ.attr = σ.attr) (hsizes : τ.sizes = σ.sizes)
    (hreports : σ.reports <+: τ.reports) (hrefused : ¬ σ.disk.Granted src) :
    Delivered d src rpath content disk σ disk τ :=
  ⟨h.congr hpeer hwritten hconsumed hsends hpolls, .refl disk, fun _ _ => rfl, hcalled, hattr, hsizes, hreports, fun hg => absurd hg hrefused⟩

lemma sendFile_delivered (h : Owes d disk [] σ)
    (hspec : FileSpec spec rpath) (hcreate : Creatable rpath disk) (hq : σ.disk.resolve src = .ok q)
    (hc : σ.disk.nodes q = some (.file content))
    (hsmall : reportedSize σ src content < syncDataMax → content.length ≤ syncDataMax)
    (hearly : reportedSize σ src content < syncDataMax ∨ σ.disk.Granted src ∨
      ((σ.disk.calls src).headD {}).error ≠ none) :
    ∃ ok disk' τ, sendFile spec src rpath mtime σ = .ok (ok, τ) ∧
      Delivered d src rpath content disk σ disk' τ := by
  have honce := Disk.Called.once src σ.disk
  cases hstat : statLocal Disk.stat src σ with
  | mk st σ1 =>
    cases st with
    | none =>
      obtain ⟨errno, rfl⟩ := statLocal_refused hstat
      have hrun : sendFile spec src rpath mtime σ =
          .ok (false, errorErrno (ascii "failed to stat local file " ++ quoted src)
            { σ with disk := (σ.disk.call src).2, errno := errno }) := by
        rw [sendFile, hstat]
        rfl
      refine ⟨false, disk, _, hrun,
        h.notDelivered rfl rfl rfl rfl rfl honce rfl rfl (prefix_append _ _) ?_⟩
      intro hgranted
      rw [statLocal_granted hgranted hq hc] at hstat
      cases hstat
    | some st =>
      obtain ⟨hcall, rfl, -, hsize⟩ := statLocal_source hq hc hstat
      have h1 : Owes d disk [] { σ with disk := (σ.disk.call src).2 } := h.congr rfl rfl rfl rfl rfl
      have hlooks : LooksAt src σ { σ with disk := (σ.disk.call src).2 } :=
        ⟨honce, rfl, rfl, rfl, rfl, rfl⟩
      by_cases hlt : st.size.toNat < syncDataMax
      · -- a small file is read first
        have hle := hsmall (by rw [← hsize]; exact hlt)
        cases hread : Disk.readAll 8192 src (σ.disk.call src).2 with
        | mk r disk2 =>
          have hcalled : Disk.Called src (σ.disk.call src).2 disk2 := by
            have hall := readAll_called 8192 src (σ.disk.call src).2
            rw [hread] at hall
            exact hall
          cases r with
          | error e =>
            have hfile : readFileToString src { σ with disk := (σ.disk.call src).2 } =
                (none, { σ with disk := disk2, errno := some e }) := by
              unfold readFileToString onDisk
              rw [hread]
            have hrun : sendFile spec src rpath mtime σ =
                .ok (false, errorErrno (ascii "failed to read all of " ++ quoted src)
                  { σ with disk := disk2, errno := some e }) := by
              rw [sendFile, hstat]
              dsimp only
              rw [if_pos hlt, hfile]
              rfl
            refine ⟨false, disk, _, hrun, h.notDelivered rfl rfl rfl rfl rfl
              (honce.trans hcalled) rfl rfl (prefix_append _ _) ?_⟩
            intro hgranted
            obtain ⟨disk3, hread', -⟩ := readAll_granted (show 0 < 8192 by decide)
              (hgranted.after honce.after) hq hc
            rw [hread] at hread'
            cases hread'
          | ok data =>
            have hfile : readFileToString src { σ with disk := (σ.disk.call src).2 } =
                (some data, { σ with disk := disk2 }) := by
              unfold readFileToString onDisk
              rw [hread]
            have hdata := length_readAll_le (d := (σ.disk.call src).2) hq hc hread
            have h2 : Owes d disk [] { σ with disk := disk2 } := h.congr rfl rfl rfl rfl rfl
            obtain ⟨disk', τ, hsend, hstored, hdisk⟩ := sendSmallFile_owes h2 hspec hcreate
              (Nat.le_trans hdata hle)
            have hdelivered : Delivered d src rpath data disk σ disk' τ :=
              hstored.delivered ⟨honce.trans hcalled, rfl, rfl, rfl, rfl, rfl⟩ (hdisk ▸ .refl)
            have hrun : sendFile spec src rpath mtime σ = .ok (true, τ) := by
              rw [sendFile, hstat]
              dsimp only
              rw [if_pos hlt, hfile]
              exact hsend
            refine ⟨true, disk', τ, hrun, { hdelivered with stored := ?_ }⟩
            intro hgranted
            obtain ⟨disk3, hread', -⟩ := readAll_granted (show 0 < 8192 by decide)
              (hgranted.after honce.after) hq hc
            rw [hread] at hread'
            cases hread'
            exact hdelivered.stored hgranted
      · -- a large file must be readable
        have hgranted : σ.disk.Granted src := by
          obtain hs | hg | hr := hearly
          · rw [← hsize] at hs
            exact absurd hs hlt
          · exact hg
          · exact absurd hcall hr
        obtain ⟨disk', τ, hsend, hstored, hcalled⟩ := sendLargeFile_owes h1 hspec hcreate
          (hgranted.after honce.after) hq hc
        refine ⟨true, disk', τ, ?_, hstored.delivered hlooks hcalled⟩
        rw [sendFile, hstat]
        dsimp only
        rw [if_neg hlt]
        exact hsend

lemma syncSend_regular {mode : UInt32} (h : isKind S_IFLNK mode = false) :
    syncSend lpath rpath mtime mode false σ =
      sendFile (rpath ++ ascii "," ++ signed mode) lpath rpath mtime σ := by
  show (if isKind S_IFLNK mode then _ else sendFile _ lpath rpath mtime σ) = _
  rw [h]
  rfl

lemma Creatable.congr (h : Creatable path disk) (hafter : Disk.After disk disk')
    (hnode : disk'.nodes path = disk.nodes path) : Creatable path disk' :=
  ⟨h.granted.after hafter, h.unlinks.after hafter, by rw [hnode]; exact h.node, h.slash⟩

structure Connected (d : Daemon) (σ : Client) : Prop where
  peer : σ.peer = serves d
  written : σ.written = []
  consumed : σ.consumed = 0
  output : d.output = []
  eof : d.eof = false
  hungUp : d.hungUp = false
  reports : σ.reports = []
  sends : ∀ s ∈ σ.sends, s = none
  polls : ∀ p ∈ σ.polls, ∀ e, p ≠ .fails e

lemma Connected.owes (h : Connected d σ) : Owes d d.disk [] σ := by
  refine ⟨h.peer, ⟨[], ?_, h.consumed⟩, h.sends, h.polls⟩
  have hstart := Reached.start h.eof h.hungUp
  rw [h.output] at hstart
  rw [h.written]
  exact hstart

end Adb.SyncClient

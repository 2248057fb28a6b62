import Adb.Lib.Granted
import Adb.SyncServiceTheorems

/-!
# One request after the other

The service has read some requests and waits for the next. What it does then depends on its disk,
and not on what was left in its buffer or in `errno`.
-/

namespace Adb.SyncService

open Lib FileSync List Disk

variable {d δ : Daemon} {out out' w req path : Bytes} {disk disk' : Disk}

/-- What the service has sent when it has seen the bytes `w`, and whether it has ended. -/
def serves (d : Daemon) (w : Bytes) : Bytes × Bool :=
  match fileSyncService { d with input := w } with
  | .ok (_, δ) => (δ.output, true)
  | .error δ => (δ.output, false)

structure Idle (d : Daemon) (out : Bytes) (disk : Disk) (δ : Daemon) : Prop where
  output : δ.output = out
  disk : δ.disk = disk
  eof : δ.eof = false
  hungUp : δ.hungUp = false
  attr : δ.attr = d.attr
  capabilities : δ.capabilities = d.capabilities

/-- Whatever comes after `w`: the service that has read `w` waits for a request. -/
def Reached (d : Daemon) (w out : Bytes) (disk : Disk) : Prop :=
  ∃ m, ∀ more, ∃ δ, Idle d out disk δ ∧ δ.input = more ∧
    fileSyncService { d with input := w ++ more } = serviceRounds (m + more.length + 1) δ

/-- A request is handled, whatever comes after it. -/
def Handles (d : Daemon) (req out : Bytes) (disk : Disk) (out' : Bytes) (disk' : Disk) : Prop :=
  ∀ δ more, Idle d out disk δ → δ.input = req ++ more →
    ∃ δ', Idle d out' disk' δ' ∧ δ'.input = more ∧ handleSyncCommand δ = .ok (true, δ')

lemma Reached.start (heof : d.eof = false) (hup : d.hungUp = false) :
    Reached d [] d.output d.disk := by
  refine ⟨0, fun more => ⟨{ d with input := more }, ⟨rfl, rfl, heof, hup, rfl, rfl⟩, rfl, ?_⟩⟩
  rw [nil_append, fileSyncService, Nat.zero_add]

lemma Reached.handles (h : Reached d w out disk) (hreq : req ≠ [])
    (hh : Handles d req out disk out' disk') : Reached d (w ++ req) out' disk' := by
  obtain ⟨m, hm⟩ := h
  have hpos : 0 < req.length := length_pos_iff.mpr hreq
  refine ⟨m + req.length - 1, fun more => ?_⟩
  obtain ⟨δ, hδ, hinput, hrun⟩ := hm (req ++ more)
  obtain ⟨δ', hδ', hinput', hstep⟩ := hh δ more hδ hinput
  refine ⟨δ', hδ', hinput', ?_⟩
  have hfuel : m + (req ++ more).length = m + req.length - 1 + more.length + 1 := by
    rw [length_append]
    omega
  rw [append_assoc, hrun, serviceRounds, hstep, ok_bind, hfuel]
  rfl

lemma Reached.serves_part {part : Bytes} (h : Reached d w out disk)
    (hwait : ∀ δ, Idle d out disk δ → δ.input = part →
      ∃ ε, handleSyncCommand δ = .error ε ∧ ε.output = out') :
    serves d (w ++ part) = (out', false) := by
  obtain ⟨m, hm⟩ := h
  obtain ⟨δ, hδ, hinput, hrun⟩ := hm part
  obtain ⟨ε, hstep, hout⟩ := hwait δ hδ hinput
  rw [serves, hrun, serviceRounds, hstep, error_bind]
  dsimp only
  rw [hout]

lemma handleSyncCommand_waits (hδ : Idle d out disk δ) (hinput : δ.input = []) :
    handleSyncCommand δ = .error δ := by
  rw [handleSyncCommand, readFdExactly, if_neg (by simp [hinput]), hδ.eof]
  rfl

lemma Reached.serves (h : Reached d w out disk) : serves d w = (out, false) := by
  have hpart : Adb.SyncService.serves d (w ++ []) = (out, false) :=
    h.serves_part fun δ hδ hinput => ⟨δ, handleSyncCommand_waits hδ hinput, hδ.output⟩
  rwa [List.append_nil] at hpart

/-! ## A request -/

def request (id : UInt32) (path : Bytes) : Bytes :=
  header id (UInt32.ofNat path.length) ++ path

lemma request_ne_nil (id : UInt32) (path : Bytes) : request id path ≠ [] := by
  intro h
  have hlen := congrArg List.length h
  rw [request, length_append, length_header] at hlen
  simp at hlen

structure Sendable (path : Bytes) : Prop where
  length : path.length ≤ 1024
  nul : (0 : UInt8) ∉ path

lemma handleSyncCommand_request (hpath : Sendable path) {id : UInt32} {more : Bytes}
    (hinput : δ.input = request id path ++ more) :
    handleSyncCommand δ = dispatch id path { δ with input := more } := by
  have hnat : (UInt32.ofNat path.length).toNat = path.length := by
    apply UInt32.toNat_ofNat_of_lt'
    show path.length < 4294967296
    have hle := hpath.length
    omega
  have hnot : ¬ path.length > 1024 := by
    have hle := hpath.length
    omega
  rw [request, append_assoc] at hinput
  rw [handleSyncCommand, readFdExactly_header hinput, ok_bind]
  simp only [idOf_header, wordOf_header, hnat, hnot, if_false]
  rw [readName, readFdExactly_append (σ := { δ with input := path ++ more }) rfl, ok_bind]
  dsimp only
  rw [cString_eq_self hpath.nul]

lemma reply_eq (hup : δ.hungUp = false) {data : Bytes} :
    reply data δ = (true, { δ with output := δ.output ++ data }) := by
  rw [reply, hup]
  rfl

lemma onDisk_ok {α : Type} {g : Disk → Except Errno α × Disk} {a : α}
    (h : g δ.disk = (.ok a, disk')) : onDisk g δ = (some a, { δ with disk := disk' }) := by
  rw [onDisk, h]

/-! ## `STAT` -/

lemma handles_statV2 {id : UInt32} {st : Stat} {node : Node} (hpath : Sendable path)
    (hid : id = ID_LSTAT_V2 ∨ id = ID_STAT_V2)
    (hstat : (if id = ID_STAT_V2 then statNode else lstatNode) path disk = (.ok node, disk'))
    (hst : st = statOf (d.attr path) node) :
    Handles d (request id path) out disk (out ++ statV2 id 0 st) disk' := by
  intro δ more hδ hinput
  have hne : ¬ id = ID_LSTAT_V1 := by
    obtain rfl | rfl := hid
    · decide
    · decide
  refine ⟨{ δ with
    input := more
    disk := disk'
    output := out ++ statV2 id 0 st }, ⟨rfl, rfl, hδ.eof, hδ.hungUp, hδ.attr, hδ.capabilities⟩,
    rfl, ?_⟩
  have hpair : statPath (if id = ID_STAT_V2 then statNode else lstatNode) path
      { δ with input := more } = (some st, { δ with input := more, disk := disk' }) := by
    have hdisk := onDisk_ok (δ := { δ with input := more })
      (show (if id = ID_STAT_V2 then statNode else lstatNode) path δ.disk = _ by
        rw [hδ.disk]
        exact hstat)
    rw [statPath, hdisk, hst]
    rw [hδ.attr]
    rfl
  rw [handleSyncCommand_request hpath hinput, dispatch, if_neg hne, if_pos hid, doStatV2, hpair]
  dsimp only
  rw [reply_eq (δ := { δ with input := more, disk := disk' }) hδ.hungUp]
  simp [hδ.output]

lemma handles_lstatV1 {st : Stat} {node : Node} (hpath : Sendable path)
    (hstat : lstatNode path disk = (.ok node, disk')) (hst : st = statOf (d.attr path) node) :
    Handles d (request ID_LSTAT_V1 path) out disk
      (out ++ statV1 st.mode st.size.toUInt32 st.mtime.toUInt32) disk' := by
  intro δ more hδ hinput
  refine ⟨{ δ with
    input := more
    disk := disk'
    output := out ++ statV1 st.mode st.size.toUInt32 st.mtime.toUInt32 },
    ⟨rfl, rfl, hδ.eof, hδ.hungUp, hδ.attr, hδ.capabilities⟩, rfl, ?_⟩
  have hpair : statPath lstatNode path { δ with input := more } =
      (some st, { δ with input := more, disk := disk' }) := by
    have hdisk := onDisk_ok (δ := { δ with input := more }) (show lstatNode path δ.disk = _ by
        rw [hδ.disk]
        exact hstat)
    rw [statPath, hdisk, hst]
    rw [hδ.attr]
    rfl
  rw [handleSyncCommand_request hpath hinput, dispatch, if_pos rfl, doLstatV1, hpair]
  dsimp only
  rw [Option.getD_some, reply_eq (δ := { δ with input := more, disk := disk' }) hδ.hungUp]
  simp [hδ.output]

/-! ## `RECV` -/

variable {c : Bytes}

lemma sendRounds_granted (n : ℕ) (f : File) (hf : disk.Granted f.name)
    (hc : disk.nodes f.node = some (.file c)) (hn : (c.drop f.offset).length < n) :
    ∃ chunks disk', chunks.flatten = c.drop f.offset ∧
      (∀ chunk ∈ chunks, chunk.length ≤ syncDataMax) ∧ disk'.nodes = disk.nodes ∧
      Disk.After disk disk' ∧ ∀ δ : Daemon, δ.disk = disk → δ.hungUp = false →
        ∃ buffer fdOps, sendRounds n f δ = (true, { δ with
          disk := disk'
          output := δ.output ++ encodeFile chunks 0
          buffer := buffer
          fdOps := fdOps }) := by
  induction n generalizing f disk with
  | zero => omega
  | succ n ih =>
    obtain ⟨data, disk1, hread, hsplit, hempty, hnodes, hafter⟩ :=
      read_granted hf hc (show 0 < syncDataMax - 8 by decide)
    by_cases hdata : data = []
    · refine ⟨[], disk1, by rw [hempty hdata, flatten_nil], by simp, hnodes, hafter, ?_⟩
      intro δ hδ hup
      refine ⟨δ.buffer, δ.fdOps ++ [.closed], ?_⟩
      rw [sendRounds, hδ, hread, hdata]
      exact reply_eq (δ := close { δ with disk := disk1 }) hup
    · have hpos : 0 < data.length := length_pos_iff.mpr hdata
      have hlen := congrArg List.length hsplit
      rw [length_append] at hlen
      obtain ⟨chunks, disk2, hflat, hsmall, hnodes', hafter', hrun⟩ :=
        ih { f with offset := f.offset + data.length } (hf.after hafter) (hnodes ▸ hc)
          (by dsimp only; omega)
      refine ⟨data :: chunks, disk2, ?_, ?_, hnodes'.trans hnodes, hafter.trans hafter', ?_⟩
      · rw [flatten_cons, hflat]
        exact hsplit.symm
      · intro chunk hchunk
        obtain rfl | hchunk := mem_cons.mp hchunk
        · have hle := length_read_le hread
          omega
        · exact hsmall chunk hchunk
      · intro δ hδ hup
        obtain ⟨buffer, fdOps, hrest⟩ := hrun
          { fill data { δ with disk := disk1 } with
            output := δ.output ++ header ID_DATA (UInt32.ofNat data.length) ++ data } rfl hup
        refine ⟨buffer, fdOps, ?_⟩
        have hne : data.isEmpty = false := by simpa using hdata
        have hout : δ.output ++ header ID_DATA (UInt32.ofNat data.length) ++ data ++
            encodeFile chunks 0 = δ.output ++ encodeFile (data :: chunks) 0 := by
          rw [encodeFile, encodeFile, flatMap_cons, dataMessage]
          simp
        rw [sendRounds, hδ, hread]
        dsimp only
        rw [hne, reply_eq (δ := fill data { δ with disk := disk1 }) hup]
        dsimp only
        rw [reply_eq (δ := { fill data { δ with disk := disk1 } with
          output := (fill data { δ with disk := disk1 }).output ++
            header ID_DATA (UInt32.ofNat data.length) }) hup]
        rw [← hout]
        exact hrest

lemma handles_recv {q : Path} (hpath : Sendable path) (hgranted : disk.Granted path)
    (hq : disk.resolve path = .ok q) (hc : disk.nodes q = some (.file c)) :
    ∃ chunks disk', chunks.flatten = c ∧ (∀ chunk ∈ chunks, chunk.length ≤ syncDataMax) ∧
      disk'.nodes = disk.nodes ∧ Disk.After disk disk' ∧
      ∀ out, Handles d (request ID_RECV path) out disk (out ++ encodeFile chunks 0) disk' := by
  have hcall := call_after path disk
  obtain ⟨chunks, disk', hflat, hsmall, hnodes, hafter, hrun⟩ :=
    sendRounds_granted (c.length + 1) { name := path, node := q } (hgranted.after hcall)
      (show (disk.call path).2.nodes q = _ from hc) (by simp)
  refine ⟨chunks, disk', hflat, hsmall, hnodes, hcall.trans hafter, ?_⟩
  intro out δ more hδ hinput
  obtain ⟨buffer, fdOps, hrounds⟩ := hrun
    { δ with input := more, disk := (disk.call path).2, fdOps := δ.fdOps ++ [.opened] } rfl
    hδ.hungUp
  refine ⟨{ δ with
    input := more
    disk := disk'
    output := out ++ encodeFile chunks 0
    buffer := buffer
    fdOps := fdOps }, ⟨rfl, rfl, hδ.eof, hδ.hungUp, hδ.attr, hδ.capabilities⟩, rfl, ?_⟩
  · have hopen : onDisk (Disk.openFile path) { δ with input := more } =
        (some { name := path, node := q }, { δ with input := more, disk := (disk.call path).2 }) :=
      onDisk_ok (δ := { δ with input := more }) (by
        rw [show ({ δ with input := more } : Daemon).disk = disk from hδ.disk]
        exact openFile_granted hgranted hq hc)
    have hcontent : (disk.call path).2.content path = some c := content_of_resolve hq hc
    rw [handleSyncCommand_request hpath hinput, dispatch, if_neg (by decide), if_neg (by decide),
      if_neg (by decide), if_neg (by decide), if_pos rfl, doRecv, hopen]
    dsimp only
    rw [hcontent, Option.getD_some, hrounds, hδ.output]
    rfl

/-! ## `SEND` -/

structure Creatable (path : Bytes) (disk : Disk) : Prop where
  granted : disk.Granted path
  unlinks : disk.Unlinks path
  node : disk.nodes path ≠ some .directory
  slash : endsInSlash path = false

lemma prepare_granted (h : Creatable path disk) :
    ∃ disk', disk'.nodes = (disk.setNode path none).nodes ∧ Disk.After disk disk' ∧
      ∀ δ : Daemon, δ.disk = disk → deletable (statPath lstatNode path δ).1 = true ∧
        ∃ errno, unlink path (statPath lstatNode path δ).2 =
          { δ with disk := disk', errno := errno } := by
  have hcall := call_after path disk
  have hlstat : lstatNode path disk = disk.lstat path := by
    rw [lstatNode, h.slash]
    rfl
  have hunlink : ∀ δ : Daemon, δ.disk = (disk.call path).2 →
      ∃ errno, unlink path δ = { δ with disk := ((disk.call path).2.unlink path).2, errno := errno } := by
    intro δ hδ
    rw [unlink, onDisk, hδ]
    cases hr : (disk.call path).2.unlink path with
    | mk r disk' =>
      cases r with
      | ok a => exact ⟨δ.errno, rfl⟩
      | error e => exact ⟨e, rfl⟩
  refine ⟨((disk.call path).2.unlink path).2, nodes_unlink_granted (h.unlinks.after hcall) h.node,
    hcall.trans (unlink_after path _), ?_⟩
  intro δ hδ
  cases hnode : disk.nodes path with
  | none =>
    have hstat : statPath lstatNode path δ =
        (none, { δ with disk := (disk.call path).2, errno := .ENOENT }) := by
      rw [statPath, onDisk, hδ, hlstat, lstat_absent h.granted hnode]
      rfl
    obtain ⟨errno, herrno⟩ := hunlink { δ with disk := (disk.call path).2, errno := .ENOENT } rfl
    rw [hstat]
    exact ⟨rfl, errno, herrno⟩
  | some node =>
    have hstat : statPath lstatNode path δ =
        (some (statOf (δ.attr path) node), { δ with disk := (disk.call path).2 }) := by
      rw [statPath, onDisk, hδ, hlstat, lstat_granted h.granted hnode]
      rfl
    obtain ⟨errno, herrno⟩ := hunlink { δ with disk := (disk.call path).2 } rfl
    rw [hstat]
    refine ⟨?_, errno, herrno⟩
    show (isKind S_IFREG _ || isKind S_IFLNK _) = true
    rw [isKind_statOf, isKind_statOf]
    cases node with
    | file c => rfl
    | link t => rfl
    | directory => exact absurd hnode h.node

/-- What follows the last comma is the mode of a file. -/
structure FileSpec (spec path : Bytes) : Prop where
  split : ∃ modeText, splitSpec spec = some (path, modeText) ∧ (strtoul modeText).2 = false ∧
    isKind S_IFLNK (UInt32.ofNat (strtoul modeText).1) = false
  sendable : Sendable spec

variable {spec : Bytes}

lemma doSend_creates (hspec : FileSpec spec path) (h : Creatable path disk) :
    ∃ disk', disk'.nodes = (disk.setNode path (some (.file []))).nodes ∧ Disk.After disk disk' ∧
      ∀ δ : Daemon, δ.disk = disk → ∃ errno, doSend spec δ =
        receiveFile { name := path, node := path } true path (δ.capabilities path)
          { δ with disk := disk', errno := errno, fdOps := δ.fdOps ++ [.opened] } := by
  obtain ⟨modeText, hsplit, hover, hmode⟩ := hspec.split
  obtain ⟨disk1, hnodes1, hafter1, hprepare⟩ := prepare_granted h
  have hnone : disk1.nodes path = none := by
    rw [hnodes1]
    exact nodes_setNode_self ..
  obtain ⟨disk2, hopen, hnodes2, hafter2⟩ :=
    openExcl_granted (h.granted.after hafter1) hnone
  refine ⟨disk2, ?_, hafter1.trans hafter2, ?_⟩
  · rw [hnodes2]
    show (fun q => if q = path then _ else disk1.nodes q) = _
    rw [hnodes1]
    funext q
    by_cases hq : q = path
    · rw [if_pos hq, hq, nodes_setNode_self]
    · rw [if_neg hq, nodes_setNode_of_ne hq, nodes_setNode_of_ne hq]
  · intro δ hδ
    obtain ⟨hdeletable, errno, hunlink⟩ := hprepare δ hδ
    refine ⟨errno, ?_⟩
    have hnew : openNew path { δ with disk := disk1, errno := errno } =
        (some { name := path, node := path }, { δ with disk := disk2, errno := errno }) :=
      onDisk_ok (δ := { δ with disk := disk1, errno := errno }) hopen
    have htarget : openTarget path { δ with disk := disk1, errno := errno } =
        (.ok { name := path, node := path },
          { δ with disk := disk2, errno := errno, fdOps := δ.fdOps ++ [.opened] }) := by
      rw [openTarget, hnew]
    rw [doSend, hsplit]
    dsimp only
    rw [hover, if_neg (by decide), hdeletable, if_pos rfl, hmode, if_neg (by decide), hunlink,
      handleSendFile, htarget]

variable {chunks : List Bytes}

lemma receiveRounds_granted {f : File} (hsmall : ∀ chunk ∈ chunks, chunk.length ≤ syncDataMax)
    (hf : disk.Granted f.name) (hopen : Open f c disk) :
    ∃ disk', disk'.nodes =
        (disk.setNode f.node (some (.file (Disk.splice c f.offset chunks.flatten)))).nodes ∧
      Disk.After disk disk' ∧ ∀ n (δ : Daemon) rest, δ.disk = disk →
        δ.input = chunks.flatMap dataMessage ++ rest →
        ∃ buffer, receiveRounds (chunks.length + n) f δ =
          receiveRounds n { f with offset := f.offset + chunks.flatten.length }
            { δ with input := rest, disk := disk', buffer := buffer } := by
  induction chunks generalizing f c disk with
  | nil =>
    have hnothing := Disk.Wrote.nothing hopen.node hopen.offset [] rfl
    refine ⟨disk, hnothing.nodes, .refl disk, ?_⟩
    intro n δ rest hδ hinput
    refine ⟨δ.buffer, ?_⟩
    rw [flatMap_nil, nil_append] at hinput
    subst hδ hinput
    rw [length_nil, Nat.zero_add]
    rfl
  | cons chunk more ih =>
    have hlen := hsmall chunk (by simp)
    obtain ⟨disk1, hwrite, hnodes1, hafter1⟩ :=
      writeExactly_granted hf hopen.node hopen.offset
    have hopen1 : Open { f with offset := f.offset + chunk.length }
        (Disk.splice c f.offset chunk) disk1 := by
      refine ⟨?_, length_splice_ge _ hopen.offset⟩
      rw [hnodes1]
      exact nodes_setNode_self ..
    obtain ⟨disk2, hnodes2, hafter2, hrun⟩ :=
      ih (f := { f with offset := f.offset + chunk.length })
        (fun x hx => hsmall x (by simp [hx])) (hf.after hafter1) hopen1
    refine ⟨disk2, ?_, hafter1.trans hafter2, ?_⟩
    · rw [hnodes2]
      show (fun q => if q = f.node then _ else disk1.nodes q) = _
      rw [hnodes1, splice_splice, flatten_cons]
      funext q
      by_cases hq : q = f.node
      · rw [if_pos hq, hq, nodes_setNode_self]
      · rw [if_neg hq, nodes_setNode_of_ne hq, nodes_setNode_of_ne hq]
    · intro n δ rest hδ hinput
      rw [flatMap_cons, append_assoc] at hinput
      obtain ⟨buffer, hrest⟩ := hrun n { fill chunk
        { δ with input := more.flatMap dataMessage ++ rest } with disk := disk1 } rest rfl rfl
      refine ⟨buffer, ?_⟩
      have hround : receiveMessage f δ = .ok (.again { f with offset := f.offset + chunk.length },
          { fill chunk { δ with input := more.flatMap dataMessage ++ rest } with disk := disk1 }) := by
        rw [receiveMessage_data hlen hinput, receiveData_eq (σ := { δ with input := chunk ++
          (more.flatMap dataMessage ++ rest) }) rfl]
        simp only [hδ, hwrite]
      rw [length_cons, Nat.add_right_comm, receiveRounds, hround, ok_bind]
      refine Eq.trans hrest ?_
      rw [flatten_cons, length_append, ← Nat.add_assoc]
      rfl

lemma length_le_flatMap_dataMessage (chunks : List Bytes) :
    chunks.length ≤ (chunks.flatMap dataMessage).length := by
  induction chunks with
  | nil => exact Nat.le_refl 0
  | cons chunk more ih =>
    rw [flatMap_cons, length_append, dataMessage, length_append, length_header, length_cons]
    omega

lemma doSend_receives (hspec : FileSpec spec path)
    (h : Creatable path disk) (hsmall : ∀ chunk ∈ chunks, chunk.length ≤ syncDataMax) :
    ∃ disk', disk'.nodes = (disk.setNode path (some (.file chunks.flatten))).nodes ∧
      Disk.After disk disk' ∧ ∀ δ : Daemon, δ.disk = disk → (∀ timestamp more,
          δ.input = chunks.flatMap dataMessage ++ (header ID_DONE timestamp ++ more) →
          ∃ buffer errno fdOps, doSend spec δ = finishSend true path (δ.capabilities path)
            { δ with
              input := more
              disk := disk'
              buffer := buffer
              errno := errno
              fdOps := fdOps }) ∧
        (δ.input = chunks.flatMap dataMessage → δ.eof = false →
          ∃ ε, doSend spec δ = .error ε ∧ ε.output = δ.output) := by
  obtain ⟨disk1, hnodes1, hafter1, hcreates⟩ := doSend_creates hspec h
  have hgranted1 := h.granted.after hafter1
  have hafter2 := call_after path disk1
  have hopen : Open { name := path, node := path } [] (disk1.call path).2 := by
    refine ⟨?_, Nat.le_refl 0⟩
    show disk1.nodes path = _
    rw [hnodes1]
    exact nodes_setNode_self ..
  obtain ⟨disk3, hnodes3, hafter3, hrounds⟩ :=
    receiveRounds_granted hsmall (hgranted1.after hafter2) hopen
  refine ⟨disk3, ?_, (hafter1.trans hafter2).trans hafter3, ?_⟩
  · rw [hnodes3, splice_zero, drop_nil, List.append_nil]
    show (fun q => if q = path then _ else disk1.nodes q) = _
    rw [hnodes1]
    funext q
    by_cases hq : q = path
    · rw [if_pos hq, hq, nodes_setNode_self]
    · rw [if_neg hq, nodes_setNode_of_ne hq, nodes_setNode_of_ne hq]
  intro δ hδ
  obtain ⟨errno, hsend⟩ := hcreates δ hδ
  have htouch : onDisk (Disk.touch { name := path, node := path })
      { δ with disk := disk1, errno := errno, fdOps := δ.fdOps ++ [.opened] } =
      (some (), { δ with
        disk := (disk1.call path).2
        errno := errno
        fdOps := δ.fdOps ++ [.opened] }) :=
    onDisk_ok (δ := { δ with disk := disk1, errno := errno, fdOps := δ.fdOps ++ [.opened] })
      (touch_granted hgranted1)
  -- there are rounds enough for the data and one message more
  have hloop : ∀ rest, δ.input = chunks.flatMap dataMessage ++ rest →
      ∃ n f buffer, receiveRounds (δ.input.length + 1) { name := path, node := path }
          { δ with
            disk := (disk1.call path).2
            errno := errno
            fdOps := δ.fdOps ++ [.opened] } =
        receiveRounds (n + 1) f { δ with
          input := rest
          disk := disk3
          buffer := buffer
          errno := errno
          fdOps := δ.fdOps ++ [.opened] } := by
    intro rest hinput
    have hle := length_le_flatMap_dataMessage chunks
    have hlen : chunks.length ≤ δ.input.length := by
      rw [hinput, length_append]
      omega
    obtain ⟨n, hn⟩ : ∃ n, δ.input.length + 1 = chunks.length + (n + 1) :=
      ⟨δ.input.length - chunks.length, by omega⟩
    obtain ⟨buffer, hrun⟩ := hrounds (n + 1)
      { δ with disk := (disk1.call path).2, errno := errno, fdOps := δ.fdOps ++ [.opened] } rest
      rfl hinput
    exact ⟨n, _, buffer, by rw [hn]; exact hrun⟩
  constructor
  · intro timestamp more hinput
    obtain ⟨n, f, buffer, hrun⟩ := hloop _ hinput
    refine ⟨buffer, errno, δ.fdOps ++ [.opened], ?_⟩
    rw [hsend, receiveFile, htouch]
    dsimp only
    rw [hrun, receiveRounds, receiveMessage_done rfl]
    rfl
  · intro hinput heof
    obtain ⟨n, f, buffer, hrun⟩ := hloop [] (by rw [List.append_nil]; exact hinput)
    refine ⟨{ δ with
      input := []
      disk := disk3
      buffer := buffer
      errno := errno
      fdOps := δ.fdOps ++ [.opened] }, ?_, rfl⟩
    rw [hsend, receiveFile, htouch]
    dsimp only
    rw [hrun, receiveRounds, receiveMessage, readFdExactly]
    dsimp only
    rw [if_neg (by simp), heof]
    rfl

lemma dispatch_send : dispatch ID_SEND spec δ = doSend spec δ := by
  rw [dispatch, if_neg (by decide), if_neg (by decide), if_neg (by decide), if_pos rfl]

lemma handles_send (chunks : List Bytes) (hspec : FileSpec spec path) (h : Creatable path disk)
    (hsmall : ∀ chunk ∈ chunks, chunk.length ≤ syncDataMax) (d : Daemon) (timestamp : UInt32) :
    ∃ disk', disk'.nodes = (disk.setNode path (some (.file chunks.flatten))).nodes ∧
      Disk.After disk disk' ∧
      ∀ out, Handles d (request ID_SEND spec ++ encodeFile chunks timestamp) out disk
        (out ++ header ID_OKAY 0) disk' := by
  obtain ⟨disk1, hnodes, hafter, hrun⟩ := doSend_receives hspec h hsmall
  -- the capabilities are set by one more call, if there are any
  refine ⟨if d.capabilities path = 0 then disk1 else (disk1.call path).2, ?_, ?_, ?_⟩
  · split
    · exact hnodes
    · exact hnodes
  · split
    · exact hafter
    · exact hafter.trans (call_after path disk1)
  intro out δ more hδ hinput
  rw [append_assoc, encodeFile, append_assoc] at hinput
  obtain ⟨buffer, errno, fdOps, hsend⟩ := (hrun { δ with input := chunks.flatMap dataMessage ++
    (header ID_DONE timestamp ++ more) } hδ.disk).1 timestamp more rfl
  have hstart : handleSyncCommand δ = finishSend true path (d.capabilities path) { δ with
      input := more
      disk := disk1
      buffer := buffer
      errno := errno
      fdOps := fdOps } := by
    rw [handleSyncCommand_request hspec.sendable hinput, dispatch_send, hsend, hδ.capabilities]
  have hcaps : updateCapabilities path (d.capabilities path) (close { δ with
      input := more
      disk := disk1
      buffer := buffer
      errno := errno
      fdOps := fdOps }) = (true, { δ with
      input := more
      disk := if d.capabilities path = 0 then disk1 else (disk1.call path).2
      buffer := buffer
      errno := errno
      fdOps := fdOps ++ [.closed] }) := by
    unfold updateCapabilities
    split
    · rfl
    have hgranted := h.granted.after hafter
    rw [onDisk_ok (δ := close { δ with
      input := more
      disk := disk1
      buffer := buffer
      errno := errno
      fdOps := fdOps }) (touch_granted (f := { name := path, node := path }) hgranted)]
    rfl
  refine ⟨{ δ with
    input := more
    output := out ++ header ID_OKAY 0
    disk := if d.capabilities path = 0 then disk1 else (disk1.call path).2
    buffer := buffer
    errno := errno
    fdOps := fdOps ++ [.closed] }, ⟨rfl, rfl, hδ.eof, hδ.hungUp, hδ.attr, hδ.capabilities⟩, rfl, ?_⟩
  rw [hstart, finishSend, hcaps]
  dsimp only
  rw [reply, if_neg (by simp [hδ.hungUp]), hδ.output]
  rfl

lemma waits_send (hspec : FileSpec spec path) (h : Creatable path disk)
    (hsmall : ∀ chunk ∈ chunks, chunk.length ≤ syncDataMax) (hδ : Idle d out disk δ)
    (hinput : δ.input = request ID_SEND spec ++ chunks.flatMap dataMessage) :
    ∃ ε, handleSyncCommand δ = .error ε ∧ ε.output = out := by
  obtain ⟨disk1, -, -, hrun⟩ := doSend_receives hspec h hsmall
  obtain ⟨ε, hsend, hout⟩ := (hrun { δ with input := chunks.flatMap dataMessage } hδ.disk).2 rfl
    hδ.eof
  refine ⟨ε, ?_, hout.trans hδ.output⟩
  rw [handleSyncCommand_request hspec.sendable hinput, dispatch_send, hsend]

/-! ## `QUIT` -/

lemma Reached.quit (h : Reached d w out disk) :
    ∃ δ, fileSyncService { d with input := w ++ request ID_QUIT [] } = .ok ((), δ) ∧
      δ.disk = disk := by
  obtain ⟨m, hm⟩ := h
  obtain ⟨δ, hδ, hinput, hrun⟩ := hm (request ID_QUIT [])
  have hend : handleSyncCommand δ = .ok (false, { δ with input := [] }) := by
    have hinput' : δ.input = request ID_QUIT [] ++ [] := by rw [List.append_nil, hinput]
    rw [handleSyncCommand_request ⟨by decide, by decide⟩ hinput', dispatch, if_neg (by decide),
      if_neg (by decide), if_neg (by decide), if_neg (by decide), if_neg (by decide), if_pos rfl]
    rfl
  refine ⟨{ δ with input := [] }, ?_, hδ.disk⟩
  rw [hrun, serviceRounds, hend]
  rfl

end Adb.SyncService

import Adb.Lib.Run
import Adb.SyncService

/-!
# What a push leaves on the device

`handle_send_file` creates the file anew after `unlink`. Where `unlink` is refused it opens the old
file instead, and writes over the start of it.
-/

namespace Adb.SyncService

open Lib FileSync List Disk

variable {σ τ : Daemon} {path rest : Bytes} {f : File} {c chunk : Bytes} {chunks : List Bytes}
  {timestamp : UInt32}

/-! ## The bytes of a file -/

lemma readFdExactly_append {x : Bytes} (h : σ.input = x ++ rest) :
    readFdExactly x.length σ = .ok (some x, { σ with input := rest }) := by
  rw [readFdExactly, if_pos (by simp [h]), h, take_left, drop_left]

lemma readFdExactly_header {id word : UInt32} (h : σ.input = header id word ++ rest) :
    readFdExactly 8 σ = .ok (some (header id word), { σ with input := rest }) := by
  have hread := readFdExactly_append h
  rwa [length_header] at hread

lemma receiveMessage_data (hlen : chunk.length ≤ syncDataMax)
    (h : σ.input = dataMessage chunk ++ rest) :
    receiveMessage f σ = receiveData chunk.length f { σ with input := chunk ++ rest } := by
  rw [dataMessage, append_assoc] at h
  have hnat := toNat_length_chunk hlen
  have hnot : ¬ chunk.length > syncDataMax := by omega
  rw [receiveMessage, readFdExactly_header h, ok_bind]
  simp [hnat, hnot]

lemma receiveMessage_done (h : σ.input = header ID_DONE timestamp ++ rest) :
    receiveMessage f σ = .ok (.done timestamp, { σ with input := rest }) := by
  have hne : ID_DONE ≠ ID_DATA := by decide
  rw [receiveMessage, readFdExactly_header h, ok_bind]
  simp [hne]

lemma receiveData_eq (h : σ.input = chunk ++ rest) :
    receiveData chunk.length f σ =
      match σ.disk.writeExactly f chunk with
      | (.ok (), f, disk) => .ok (.again f, { fill chunk { σ with input := rest } with disk := disk })
      | (.error e, _, disk) =>
        .ok (.fail, sendSyncFailErrno (ascii "write failed")
          { fill chunk { σ with input := rest } with disk := disk, errno := e }) := by
  rw [receiveData, readFdExactly_append h]
  rfl

/-- A file is open, and has been written up to the offset. -/
structure Open (f : File) (c : Bytes) (disk : Disk) : Prop where
  node : disk.nodes f.node = some (.file c)
  offset : f.offset ≤ c.length

lemma receiveRounds_done {t : UInt32} (n : ℕ)
    (hchunks : ∀ chunk ∈ chunks, chunk.length ≤ syncDataMax)
    (hinput : σ.input = encodeFile chunks timestamp ++ rest) (hopen : Open f c σ.disk)
    (h : receiveRounds n f σ = .ok (.done t, τ)) :
    τ.disk.nodes = (σ.disk.setNode f.node
      (some (.file (Disk.splice c f.offset chunks.flatten)))).nodes := by
  induction chunks generalizing n f c σ with
  | nil =>
    cases n with
    | zero => cases h
    | succ n =>
      rw [encodeFile, flatMap_nil, nil_append] at hinput
      rw [receiveRounds, receiveMessage_done hinput, ok_bind] at h
      cases h
      have hwrote := Disk.Wrote.nothing hopen.node hopen.offset [] rfl
      exact hwrote.nodes
  | cons chunk more ih =>
    have hlen := hchunks chunk (by simp)
    have hsplit : σ.input = dataMessage chunk ++ (encodeFile more timestamp ++ rest) := by
      rw [hinput, encodeFile, encodeFile, flatMap_cons, append_assoc, append_assoc, append_assoc]
    cases n with
    | zero => cases h
    | succ n =>
      rw [receiveRounds, receiveMessage_data hlen hsplit,
        receiveData_eq (σ := { σ with input := chunk ++ (encodeFile more timestamp ++ rest) }) rfl]
        at h
      cases hwrite : σ.disk.writeExactly f chunk with
      | mk result written =>
        obtain ⟨f', disk⟩ := written
        simp only [hwrite] at h
        cases result with
        | error e => cases h
        | ok _ =>
          obtain ⟨rfl, hnodes⟩ := writeExactly_ok hopen.node hopen.offset hwrite
          have hopen' : Open { f with offset := f.offset + chunk.length }
              (Disk.splice c f.offset chunk) disk := by
            refine ⟨?_, length_splice_ge _ hopen.offset⟩
            rw [hnodes]
            exact nodes_setNode_self ..
          have hrest := ih n (fun x hx => hchunks x (by simp [hx])) rfl hopen' h
          rw [hrest]
          show (fun q => if q = f.node then _ else disk.nodes q) = _
          rw [hnodes, splice_splice, flatten_cons]
          funext q
          by_cases hq : q = f.node
          · rw [if_pos hq, hq, nodes_setNode_self]
          · rw [if_neg hq, nodes_setNode_of_ne hq, nodes_setNode_of_ne hq]

/-! ## The end of the transfer -/

variable {opened doUnlink r : Bool}

lemma abort_false (h : abort opened doUnlink path σ = (r, τ)) :
    r = false := (congrArg Prod.fst h).symm

lemma fail_false (h : fail opened doUnlink path σ = .ok (r, τ)) : r = false := by
  obtain ⟨⟨⟨⟩, ρ⟩, -, hret⟩ := bind_eq_ok.mp h
  exact abort_false (Except.ok.inj hret)

@[simp] lemma nodes_touch (f : File) (d : Disk) : (d.touch f).2.nodes = d.nodes := by
  unfold Disk.touch
  dsimp only
  split <;> rfl

variable {α : Type}

lemma nodes_onDisk {g : Disk → Except Errno α × Disk} (σ : Daemon)
    (h : (g σ.disk).2.nodes = σ.disk.nodes) : (onDisk g σ).2.disk.nodes = σ.disk.nodes := by
  unfold onDisk
  split
  · next heq => rwa [heq] at h
  · next heq => rwa [heq] at h

lemma nodes_updateCapabilities (path : Bytes) (capabilities : UInt64) (σ : Daemon) :
    (updateCapabilities path capabilities σ).2.disk.nodes = σ.disk.nodes := by
  unfold updateCapabilities
  split
  · rfl
  · exact nodes_onDisk σ (nodes_touch _ _)

variable {capabilities : UInt64}

lemma finishSend_okay (h : finishSend doUnlink path capabilities σ = .ok (true, τ)) :
    τ.disk.nodes = σ.disk.nodes := by
  have hnodes := nodes_updateCapabilities path capabilities (close σ)
  unfold finishSend at h
  split at h
  · cases fail_false h
  next ρ heq =>
  rw [heq] at hnodes
  have hreply : reply (header ID_OKAY 0) ρ = (true, τ) := Except.ok.inj h
  unfold reply at hreply
  split at hreply
  · cases hreply
  · cases hreply
    exact hnodes

lemma receiveFile_okay (hchunks : ∀ chunk ∈ chunks, chunk.length ≤ syncDataMax)
    (hinput : σ.input = encodeFile chunks timestamp ++ rest) (hopen : Open f c σ.disk)
    (h : receiveFile f doUnlink path capabilities σ = .ok (true, τ)) :
    τ.disk.nodes = (σ.disk.setNode f.node
      (some (.file (Disk.splice c f.offset chunks.flatten)))).nodes := by
  have htouch := nodes_onDisk (g := Disk.touch f) σ (nodes_touch f σ.disk)
  unfold receiveFile at h
  split at h
  · cases fail_false h
  next ρ heq =>
  have hdaemon : ρ.disk.nodes = σ.disk.nodes ∧ ρ.input = σ.input := by
    rw [heq] at htouch
    refine ⟨htouch, ?_⟩
    have hinput := congrArg (fun x => x.2.input) heq
    rw [← hinput]
    unfold onDisk
    split <;> rfl
  obtain ⟨⟨next, υ⟩, hrounds, hnext⟩ := bind_eq_ok.mp h
  cases next with
  | done t =>
    have hopen' : Open f c ρ.disk := ⟨by rw [hdaemon.1]; exact hopen.node, hopen.offset⟩
    have hwritten := receiveRounds_done _ hchunks (hdaemon.2.trans hinput) hopen' hrounds
    rw [finishSend_okay hnext, hwritten]
    show (fun q => if q = f.node then _ else ρ.disk.nodes q) = _
    rw [hdaemon.1]
    rfl
  | abort => cases abort_false (Except.ok.inj hnext)
  | fail => cases fail_false hnext
  | again g => cases fail_false hnext

/-! ## Which file is opened -/

def Calls (σ τ : Daemon) : Prop := ∃ disk errno, τ = { σ with disk := disk, errno := errno }

lemma Calls.refl (σ : Daemon) : Calls σ σ := ⟨_, _, rfl⟩

variable {ρ : Daemon}

lemma Calls.trans (h : Calls σ τ) (h' : Calls τ ρ) : Calls σ ρ := by
  obtain ⟨d, e, rfl⟩ := h
  obtain ⟨d', e', rfl⟩ := h'
  exact ⟨d', e', rfl⟩

lemma onDisk_calls (g : Disk → Except Errno α × Disk) (σ : Daemon) : Calls σ (onDisk g σ).2 := by
  unfold onDisk
  split
  · exact ⟨_, _, rfl⟩
  · exact ⟨_, _, rfl⟩

structure Made (σ τ : Daemon) : Prop where
  calls : Calls σ τ
  grown : Disk.Grown σ.disk τ.disk

lemma Made.refl (σ : Daemon) : Made σ σ := ⟨.refl σ, .of_nodes rfl⟩

lemma Made.trans (h : Made σ τ) (h' : Made τ ρ) : Made σ ρ :=
  ⟨h.calls.trans h'.calls, h.grown.trans h'.grown⟩

lemma made_onDisk {g : Disk → Except Errno α × Disk}
    (h : Disk.Grown σ.disk (g σ.disk).2) : Made σ (onDisk g σ).2 := by
  refine ⟨onDisk_calls g σ, ?_⟩
  unfold onDisk
  split
  · next heq => rwa [heq] at h
  · next heq => rwa [heq] at h

lemma made_touch (f : File) (σ : Daemon) : Made σ (onDisk (Disk.touch f) σ).2 :=
  made_onDisk (.of_nodes (nodes_touch f σ.disk))

lemma made_updateCapabilities (path : Bytes) (capabilities : UInt64) (σ : Daemon) :
    Made σ (updateCapabilities path capabilities σ).2 := by
  unfold updateCapabilities
  split
  · exact .refl σ
  · exact made_touch _ σ

lemma made_secureMkdirsLoop (components : List Bytes) (partialPath : Bytes) (σ : Daemon) :
    Made σ (secureMkdirsLoop components partialPath σ).2 := by
  induction components generalizing partialPath σ with
  | nil => exact .refl σ
  | cons component more ih =>
    unfold secureMkdirsLoop
    split
    · exact ih partialPath σ
    dsimp only
    generalize (if partialPath.getLast? = some slash then partialPath
      else partialPath ++ [slash]) ++ component = p
    have hmkdir := made_onDisk (mkdir_grown p σ.disk)
    split
    · next ρ heq =>
      rw [heq] at hmkdir
      split
      · exact hmkdir
      · exact hmkdir.trans (ih p ρ)
    · next ρ heq =>
      rw [heq] at hmkdir
      have htouch := made_touch { name := p, node := p } ρ
      split
      · next υ heq' =>
        rw [heq'] at htouch
        exact hmkdir.trans htouch
      next υ heq' =>
      rw [heq'] at htouch
      have hcaps := made_updateCapabilities p (υ.capabilities p) υ
      have hυ := hmkdir.trans htouch
      split
      · next κ heq'' =>
        rw [heq''] at hcaps
        exact hυ.trans hcaps
      · next κ heq'' =>
        rw [heq''] at hcaps
        exact (hυ.trans hcaps).trans (ih p κ)

lemma made_secureMkdirs (path : Bytes) (σ : Daemon) : Made σ (secureMkdirs path σ).2 := by
  unfold secureMkdirs
  split
  · exact .refl σ
  · exact made_secureMkdirsLoop _ _ σ

structure Target (path : Bytes) (σ : Daemon) (f : File) (τ : Daemon) : Prop where
  calls : Calls σ τ
  name : f.name = path
  resolve : τ.disk.resolve path = .ok f.node
  node : τ.disk.nodes f.node = some (.file ((σ.disk.content path).getD []))
  offset : f.offset = 0

lemma openNew_target (h : openNew path σ = (some f, τ)) : Target path σ f τ := by
  have hcalls := onDisk_calls (Disk.openExcl path) σ
  unfold openNew onDisk at h
  split at h
  · next g disk heq =>
    cases h
    obtain ⟨hnone, rfl, hnodes⟩ := openExcl_ok heq
    have hself : disk.nodes path = some (.file []) := by
      rw [hnodes]
      exact nodes_setNode_self ..
    have hlink : σ.disk.readlink path = none := by simp [Disk.readlink, hnone]
    have hlink' : disk.readlink path = none := by simp [Disk.readlink, hself]
    have hcontent : σ.disk.content path = none := by simp [Disk.content, resolve_self hlink, hnone]
    refine ⟨⟨_, _, rfl⟩, rfl, resolve_self hlink', ?_, rfl⟩
    rw [hcontent]
    exact hself
  · cases h

lemma openNew_made (h : openNew path σ = (none, τ)) : Made σ τ := by
  unfold openNew onDisk at h
  split at h
  · cases h
  next e disk heq =>
  cases h
  exact ⟨⟨_, _, rfl⟩, .of_nodes (openExcl_error heq)⟩

lemma openOld_target (h : openOld path σ = (some f, τ)) : Target path σ f τ := by
  unfold openOld at h
  split at h
  · unfold onDisk at h
    split at h
    · next g disk heq =>
      cases h
      obtain ⟨q, c, hq, hc, rfl, hnodes⟩ := openFile_ok heq
      refine ⟨⟨_, _, rfl⟩, rfl, ?_, ?_, rfl⟩
      · exact ((readlink_of_nodes hnodes).resolve path).trans hq
      rw [content_of_resolve hq hc]
      show disk.nodes q = some (.file c)
      rw [hnodes, hc]
    · cases h
  · cases h

lemma Made.target (h : Made σ τ) (ht : Target path τ f ρ) : Target path σ f ρ := by
  refine ⟨h.calls.trans ht.calls, ht.name, ht.resolve, ?_, ht.offset⟩
  rw [ht.node, h.grown.content]

lemma openAgain_target (h : openAgain path σ = (some f, τ)) : Target path σ f τ := by
  unfold openAgain at h
  split at h
  · next g ρ heq =>
    cases h
    exact openNew_target heq
  · next ρ heq => exact (openNew_made heq).target (openOld_target h)

lemma openTarget_target (h : openTarget path σ = (.ok f, τ)) :
    ∃ ρ, Target path σ f ρ ∧ τ = { ρ with fdOps := ρ.fdOps ++ [.opened] } := by
  unfold openTarget at h
  dsimp only at h
  split at h
  · next g ρ heq =>
    cases h
    exact ⟨ρ, openNew_target heq, rfl⟩
  next ρ heq =>
  have hmade := openNew_made heq
  split at h
  · have hdirs := made_secureMkdirs (dirname path) ρ
    split at h
    · cases h
    next υ heq' =>
    rw [heq'] at hdirs
    split at h
    · next g κ heq'' =>
      cases h
      exact ⟨κ, (hmade.trans hdirs).target (openAgain_target heq''), rfl⟩
    · cases h
  · split at h
    · next g κ heq'' =>
      cases h
      exact ⟨κ, hmade.target (openOld_target heq''), rfl⟩
    · cases h

/-! ## What is answered -/

/-- Nothing is answered, or that the request has failed. -/
def Refused (σ τ : Daemon) : Prop :=
  τ.output = σ.output ∨ ∃ n reason, τ.output = σ.output ++ (header ID_FAIL n ++ reason)

lemma Refused.of_eq (h : Refused τ ρ) (heq : τ.output = σ.output) : Refused σ ρ := by
  unfold Refused at h
  rwa [heq] at h

lemma Refused.congr (h : Refused σ τ) (heq : ρ.output = τ.output) : Refused σ ρ := by
  unfold Refused
  rwa [heq]

lemma sendSyncFail_refused {reason : Bytes} : Refused σ (sendSyncFail reason σ) := by
  cases hup : σ.hungUp with
  | true => exact .inl (by simp [sendSyncFail, reply, hup])
  | false => exact .inr ⟨UInt32.ofNat reason.length, reason, by simp [sendSyncFail, reply, hup]⟩

lemma sendSyncFail_fdOps {reason : Bytes} : (sendSyncFail reason σ).fdOps = σ.fdOps := by
  cases hup : σ.hungUp <;> simp [sendSyncFail, reply, hup]

/-- Nothing is answered, and no descriptor is opened or closed. -/
def Silent (σ τ : Daemon) : Prop := τ.output = σ.output ∧ τ.fdOps = σ.fdOps

lemma Silent.trans (h : Silent σ τ) (h' : Silent τ ρ) : Silent σ ρ :=
  ⟨h'.1.trans h.1, h'.2.trans h.2⟩

lemma silent_of_calls (h : Calls σ τ) : Silent σ τ := by
  obtain ⟨disk, errno, rfl⟩ := h
  exact ⟨rfl, rfl⟩

lemma readFdExactly_silent (n : ℕ) (σ : Daemon) :
    Sat (readFdExactly n σ) (fun r => Silent σ r.2) fun _ => True := by
  unfold readFdExactly
  exact .ite (fun _ => ⟨rfl, rfl⟩) fun _ => .ite (fun _ => ⟨rfl, rfl⟩) fun _ => trivial

/-- The answer, if any, to a round of the loop. -/
def Next.answers (σ τ : Daemon) : Next → Prop
  | .again _ | .done _ => Silent σ τ
  | .fail | .abort => Refused σ τ ∧ τ.fdOps = σ.fdOps

lemma Next.answers.of_silent {next : Next} (h : next.answers τ ρ) (hτ : Silent σ τ) :
    next.answers σ ρ := by
  cases next with
  | again g => exact hτ.trans h
  | done t => exact hτ.trans h
  | fail => exact ⟨h.1.of_eq hτ.1, h.2.trans hτ.2⟩
  | abort => exact ⟨h.1.of_eq hτ.1, h.2.trans hτ.2⟩

lemma receiveMessage_answers (f : File) (σ : Daemon) :
    Sat (receiveMessage f σ) (fun r => r.1.answers σ r.2) fun _ => True := by
  have hfail : ∀ {τ reason}, Silent σ τ →
      Refused σ (sendSyncFail reason τ) ∧ (sendSyncFail reason τ).fdOps = σ.fdOps :=
    fun hτ => ⟨sendSyncFail_refused.of_eq hτ.1, sendSyncFail_fdOps.trans hτ.2⟩
  refine (readFdExactly_silent 8 σ).bind fun r hr => ?_
  obtain ⟨msg, ρ⟩ := r
  cases msg with
  | none => exact ⟨.inl hr.1, hr.2⟩
  | some msg =>
    refine .ite (fun _ => .ite (fun _ => hr) fun _ => hfail hr) fun _ => ?_
    refine .ite (fun _ => hfail hr) fun _ => (readFdExactly_silent _ ρ).bind fun s hs => ?_
    obtain ⟨data, υ⟩ := s
    have hυ : Silent σ υ := hr.trans hs
    cases data with
    | none => exact ⟨.inl hυ.1, hυ.2⟩
    | some data =>
      dsimp only
      split
      · exact hυ
      · exact hfail hυ

lemma receiveRounds_answers (n : ℕ) (f : File) (σ : Daemon) :
    Sat (receiveRounds n f σ) (fun r => r.1.answers σ r.2) fun _ => True := by
  induction n generalizing f σ with
  | zero => trivial
  | succ n ih =>
    refine (receiveMessage_answers f σ).bind fun r hr => ?_
    obtain ⟨next, ρ⟩ := r
    cases next with
    | again g => exact (ih g ρ).imp fun _ h => h.of_silent hr
    | done t => exact hr
    | fail => exact hr
    | abort => exact hr

lemma discardRounds_silent (n : ℕ) (σ : Daemon) :
    Sat (discardRounds n σ) (fun r => Silent σ r.2) fun _ => True := by
  induction n generalizing σ with
  | zero => trivial
  | succ n ih =>
    refine (readFdExactly_silent 8 σ).bind fun r hr => ?_
    obtain ⟨msg, ρ⟩ := r
    cases msg with
    | none => exact hr
    | some msg =>
      refine .ite (fun _ => hr) fun _ => (readFdExactly_silent _ ρ).bind fun s hs => ?_
      obtain ⟨data, υ⟩ := s
      cases data with
      | none => exact hr.trans hs
      | some data => exact (ih _).imp fun _ h => (hr.trans hs).trans h

def closes (opened : Bool) : List FdOp := if opened then [.closed] else []

lemma abort_answers (opened doUnlink : Bool) (path : Bytes) (σ : Daemon) :
    (abort opened doUnlink path σ).2.output = σ.output ∧
      (abort opened doUnlink path σ).2.fdOps = σ.fdOps ++ closes opened := by
  have hunlink : ∀ ρ : Daemon, Silent ρ (unlink path ρ) := fun ρ => silent_of_calls (onDisk_calls _ ρ)
  cases opened <;> cases doUnlink <;>
    simp [abort, (hunlink _).1, (hunlink _).2, close, closes]

/-- A function of the service answers `OKAY` if it returns true, and otherwise not. -/
def Answers (σ : Daemon) (r : Bool) (τ : Daemon) : Prop :=
  if r then τ.output = σ.output ++ header ID_OKAY 0 else Refused σ τ

lemma Answers.of_eq (h : Answers τ r ρ) (heq : τ.output = σ.output) : Answers σ r ρ := by
  unfold Answers at h ⊢
  split
  · next hr =>
    rw [if_pos hr, heq] at h
    exact h
  · next hr =>
    rw [if_neg hr] at h
    exact h.of_eq heq

lemma reply_answers (σ : Daemon) :
    Answers σ (reply (header ID_OKAY 0) σ).1 (reply (header ID_OKAY 0) σ).2 ∧
      (reply (header ID_OKAY 0) σ).2.fdOps = σ.fdOps := by
  unfold reply
  split
  · exact ⟨.inl rfl, rfl⟩
  · exact ⟨rfl, rfl⟩

lemma fail_answers (hρ : Refused σ ρ) (hops : ρ.fdOps = σ.fdOps) (opened doUnlink : Bool)
    (path : Bytes) : Sat (fail opened doUnlink path ρ)
      (fun r => Answers σ r.1 r.2 ∧ r.2.fdOps = σ.fdOps ++ closes opened) fun _ => True := by
  refine (discardRounds_silent _ ρ).bind fun r hr => ?_
  obtain ⟨⟨⟩, υ⟩ := r
  have habort := abort_answers opened doUnlink path υ
  refine ⟨hρ.congr (habort.1.trans hr.1), habort.2.trans ?_⟩
  rw [hr.2, hops]

lemma finishSend_answers (doUnlink : Bool) (path : Bytes) (capabilities : UInt64) (σ : Daemon) :
    Sat (finishSend doUnlink path capabilities σ) (fun r => Answers σ r.1 r.2 ∧ r.2.fdOps =
      σ.fdOps ++ .closed :: closes !(updateCapabilities path capabilities (close σ)).1)
      fun _ => True := by
  have hcaps := silent_of_calls (made_updateCapabilities path capabilities (close σ)).calls
  rw [finishSend]
  generalize updateCapabilities path capabilities (close σ) = updated at hcaps ⊢
  obtain ⟨_ | _, ρ⟩ := updated
  · refine (fail_answers (sendSyncFail_refused.of_eq hcaps.1)
      (sendSyncFail_fdOps.trans hcaps.2) ..).imp fun r hr => ⟨hr.1, hr.2.trans ?_⟩
    simp [close, closes]
  · have hreply := reply_answers ρ
    exact ⟨hreply.1.of_eq hcaps.1, hreply.2.trans hcaps.2⟩

/-- All of the file has come, and it has been closed, when `update_capabilities` fails. -/
def failsLate (f : File) (path : Bytes) (capabilities : UInt64) (σ : Daemon) : Bool :=
  match onDisk (Disk.touch f) σ with
  | (none, _) => false
  | (some (), σ) =>
    match receiveRounds (σ.input.length + 1) f σ with
    | .ok (.done _, σ) => !(updateCapabilities path capabilities (close σ)).1
    | _ => false

lemma receiveFile_answers (f : File) (doUnlink : Bool) (path : Bytes) (capabilities : UInt64)
    (σ : Daemon) : Sat (receiveFile f doUnlink path capabilities σ)
      (fun r => Answers σ r.1 r.2 ∧
        r.2.fdOps = σ.fdOps ++ .closed :: closes (failsLate f path capabilities σ))
      fun _ => True := by
  have htouch := silent_of_calls (onDisk_calls (Disk.touch f) σ)
  rw [receiveFile, failsLate]
  generalize onDisk (Disk.touch f) σ = touched at htouch ⊢
  obtain ⟨_ | _, ρ⟩ := touched
  · exact fail_answers (sendSyncFail_refused.of_eq htouch.1) (sendSyncFail_fdOps.trans htouch.2) ..
  refine (receiveRounds_answers _ f ρ).self.bind fun r hr => ?_
  obtain ⟨next, υ⟩ := r
  obtain ⟨hrounds, hυ⟩ := hr
  have hnext := hυ.of_silent htouch
  dsimp only
  rw [hrounds]
  cases next with
  | done t =>
    refine (finishSend_answers doUnlink path capabilities υ).imp fun r hr => ?_
    exact ⟨hr.1.of_eq hnext.1, hr.2.trans (by rw [hnext.2])⟩
  | abort =>
    have habort := abort_answers true doUnlink path υ
    exact ⟨hnext.1.congr habort.1, habort.2.trans (by rw [hnext.2]; rfl)⟩
  | fail => exact fail_answers hnext.1 hnext.2 ..
  | again g => exact fail_answers (.inl hnext.1) hnext.2 ..

/-! ## The whole request -/

/-- The state in which `do_send` begins to transfer: `lstat` and `unlink` have been tried. -/
def prepare (path : Bytes) (σ : Daemon) : Daemon :=
  let (st, σ) := statPath lstatNode path σ
  if deletable st then unlink path σ else σ

/-- The content of a file that could not be unlinked. -/
def leftOver (path : Bytes) (σ : Daemon) : Bytes :=
  ((prepare path σ).disk.content path).getD []

lemma prepare_calls : Calls σ (prepare path σ) := by
  have hstat : Calls σ (statPath lstatNode path σ).2 := onDisk_calls (lstatNode path) σ
  unfold prepare
  dsimp only
  split
  · exact hstat.trans (onDisk_calls _ _)
  · exact hstat

lemma handleSendFile_okay (hchunks : ∀ chunk ∈ chunks, chunk.length ≤ syncDataMax)
    (hinput : σ.input = encodeFile chunks timestamp ++ rest)
    (h : handleSendFile path capabilities doUnlink σ = .ok (true, τ)) :
    τ.disk.content path =
      some (chunks.flatten ++ ((σ.disk.content path).getD []).drop chunks.flatten.length) := by
  unfold handleSendFile at h
  split at h
  · cases fail_false h
  next f ρ heq =>
  obtain ⟨ρ, ht, rfl⟩ := openTarget_target heq
  have hρ : ρ.input = encodeFile chunks timestamp ++ rest := by
    obtain ⟨disk, errno, rfl⟩ := ht.calls
    exact hinput
  have hopen : Open f ((σ.disk.content path).getD []) ρ.disk :=
    ⟨ht.node, by rw [ht.offset]; exact Nat.zero_le _⟩
  have hnodes := receiveFile_okay (σ := { ρ with fdOps := ρ.fdOps ++ [.opened] }) hchunks hρ hopen h
  rw [ht.offset, splice_zero] at hnodes
  rw [content_of_nodes hnodes]
  exact content_setNode ht.resolve _

lemma openTarget_error {reason : Bytes} (h : openTarget path σ = (.error reason, τ)) :
    Calls σ τ := by
  have hnew := onDisk_calls (Disk.openExcl path) σ
  have hold : ∀ ρ : Daemon, Calls ρ (openOld path ρ).2 := by
    intro ρ
    unfold openOld
    split
    · exact onDisk_calls _ ρ
    · exact .refl ρ
  unfold openTarget at h
  dsimp only at h
  split at h
  · cases h
  next ρ heq =>
  rw [show onDisk (Disk.openExcl path) σ = (none, ρ) from heq] at hnew
  split at h
  · have hdirs := (made_secureMkdirs (dirname path) ρ).calls
    split at h
    · next υ heq' =>
      cases h
      rw [heq'] at hdirs
      exact hnew.trans hdirs
    next υ heq' =>
    rw [heq'] at hdirs
    have hagain : Calls υ (openAgain path υ).2 := by
      have hυ := onDisk_calls (Disk.openExcl path) υ
      unfold openAgain openNew
      split
      · next heq'' => rwa [heq''] at hυ
      next κ heq'' =>
      rw [heq''] at hυ
      exact hυ.trans (hold κ)
    split at h
    · cases h
    next heq'' =>
    cases h
    rw [heq''] at hagain
    exact (hnew.trans hdirs).trans hagain
  · have hρ := hold ρ
    split at h
    · cases h
    next heq'' =>
    cases h
    rw [heq''] at hρ
    exact hnew.trans hρ

def closesTwice (path : Bytes) (capabilities : UInt64) (σ : Daemon) : Bool :=
  match openTarget path σ with
  | (.error _, _) => false
  | (.ok f, σ) => failsLate f path capabilities σ

lemma handleSendFile_answers (path : Bytes) (capabilities : UInt64) (doUnlink : Bool) (σ : Daemon) :
    Sat (handleSendFile path capabilities doUnlink σ)
      (fun r => Answers σ r.1 r.2 ∧ (r.2.fdOps = σ.fdOps ∧ closesTwice path capabilities σ = false ∨
        r.2.fdOps = σ.fdOps ++ .opened :: .closed :: closes (closesTwice path capabilities σ)))
      fun _ => True := by
  rw [handleSendFile, closesTwice]
  rcases hopen : openTarget path σ with ⟨reason | f, ρ⟩
  · have hρ := silent_of_calls (openTarget_error hopen)
    refine (fail_answers (sendSyncFail_refused.of_eq hρ.1) (sendSyncFail_fdOps.trans hρ.2) ..).imp
      fun r hr => ⟨hr.1, .inl ⟨hr.2.trans (List.append_nil _), rfl⟩⟩
  · obtain ⟨υ, ht, rfl⟩ := openTarget_target hopen
    have hυ := silent_of_calls ht.calls
    refine (receiveFile_answers f doUnlink path capabilities _).imp fun r hr => ?_
    refine ⟨hr.1.of_eq hυ.1, .inr (hr.2.trans ?_)⟩
    rw [hυ.2, append_assoc]
    rfl

lemma Answers.okay (h : Answers σ r τ)
    (hokay : τ.output = σ.output ++ header ID_OKAY 0) : r = true := by
  by_contra hr
  rw [Answers, if_neg hr] at h
  rcases h with h | ⟨n, reason, h⟩
  · have hlen := congrArg List.length (h.symm.trans hokay)
    rw [length_append, length_header] at hlen
    omega
  have heq := append_cancel_left (hokay.symm.trans h)
  have hid : idOf (header ID_OKAY 0) = idOf (header ID_FAIL n ++ reason) := congrArg idOf heq
  rw [idOf_header, header, append_assoc, idOf, word32_append] at hid
  exact absurd hid (by decide)

/-- After `OKAY` the file has exactly the bytes that were sent, unless an old file that could not be
unlinked was longer. -/
theorem push_exact_iff {spec modeText : Bytes} (hspec : splitSpec spec = some (path, modeText))
    (hmode : isKind S_IFLNK (UInt32.ofNat (strtoul modeText).1) = false)
    (hchunks : ∀ chunk ∈ chunks, chunk.length ≤ syncDataMax)
    (hinput : σ.input = encodeFile chunks timestamp ++ rest) {r : Bool}
    (h : doSend spec σ = .ok (r, τ)) (hokay : τ.output = σ.output ++ header ID_OKAY 0) :
    τ.disk.content path = some chunks.flatten ↔
      (leftOver path σ).length ≤ chunks.flatten.length := by
  have hcontent : τ.disk.content path =
      some (chunks.flatten ++ (leftOver path σ).drop chunks.flatten.length) := by
    unfold doSend at h
    simp only [hspec, hmode] at h
    split at h
    · cases h
      cases Answers.okay (r := false) sendSyncFail_refused hokay
    have hanswers : Answers σ r τ :=
      ((handleSendFile_answers ..).of_ok h).1.of_eq (silent_of_calls prepare_calls).1
    rw [hanswers.okay hokay] at h
    have hprepared : (prepare path σ).input = encodeFile chunks timestamp ++ rest := by
      obtain ⟨disk, errno, heq⟩ := prepare_calls
      rw [heq]
      exact hinput
    exact handleSendFile_okay hchunks hprepared h
  rw [hcontent, Option.some_inj]
  constructor
  · intro heq
    have hlen := congrArg List.length heq
    rw [length_append, length_drop] at hlen
    omega
  · intro hle
    rw [drop_of_length_le hle, List.append_nil]

def pushing (calls : List Call) : Daemon :=
  { input := encodeFile [ascii "n", ascii "ew"] 0
    disk :=
      { nodes := fun p => if p = ascii "/data/f" then some (.file (ascii "secret")) else none
        calls := fun p => if p = ascii "/data/f" then calls else [] } }

/-- The old file is unlinked, and one `write` writes half. -/
theorem push_exact_replaced :
    ∃ τ, doSend (ascii "/data/f,0644")
        (pushing [{}, {}, {}, {}, {}, { error := some .EAGAIN }, { count := some 1 }]) =
        .ok (true, τ) ∧ τ.disk.content (ascii "/data/f") = some (ascii "new") := by
  have htest : returns (doSend (ascii "/data/f,0644")
      (pushing [{}, {}, {}, {}, {}, { error := some .EAGAIN }, { count := some 1 }]))
      (fun x => x.1 && decide (x.2.output = header ID_OKAY 0)) = true := by
    decide +kernel
  obtain ⟨⟨r, τ⟩, hrun, hx⟩ := returns_iff.mp htest
  obtain ⟨hr, hokay⟩ := Bool.and_eq_true_iff.mp hx
  have hr : r = true := hr
  subst hr
  refine ⟨τ, hrun, ?_⟩
  have hspec : splitSpec (ascii "/data/f,0644") = some (ascii "/data/f", ascii "0644") := by decide
  have hchunks : ∀ chunk ∈ [ascii "n", ascii "ew"], chunk.length ≤ syncDataMax := by decide
  have hinput : (pushing [{}, {}, {}, {}, {}, { error := some .EAGAIN }, { count := some 1 }]).input =
      encodeFile [ascii "n", ascii "ew"] 0 ++ [] := (List.append_nil _).symm
  have hiff := push_exact_iff hspec (by decide +kernel) hchunks hinput hrun
    (of_decide_eq_true hokay)
  exact hiff.mpr (by decide +kernel)

/-- `unlink` is refused, and the file is writable: the end of the old file stays, after `OKAY`. -/
theorem push_keeps_tail :
    ∃ τ, doSend (ascii "/data/f,0644") (pushing [{}, { unlink := some .EACCES }]) =
        .ok (true, τ) ∧ τ.output = header ID_OKAY 0 ∧
      τ.disk.content (ascii "/data/f") = some (ascii "newret") := by
  have htest : returns (doSend (ascii "/data/f,0644") (pushing [{}, { unlink := some .EACCES }]))
      (fun x => x.1 && (decide (x.2.output = header ID_OKAY 0) &&
        decide (x.2.disk.content (ascii "/data/f") = some (ascii "newret")))) = true := by
    decide +kernel
  obtain ⟨⟨r, τ⟩, hrun, hx⟩ := returns_iff.mp htest
  obtain ⟨hr, hx⟩ := Bool.and_eq_true_iff.mp hx
  obtain ⟨hokay, hcontent⟩ := Bool.and_eq_true_iff.mp hx
  have hr : r = true := hr
  subst hr
  exact ⟨τ, hrun, of_decide_eq_true hokay, of_decide_eq_true hcontent⟩

/-! ## Descriptors -/

/-- A descriptor is closed a second time if `update_capabilities` fails after the transfer: the jump
to `fail:` comes to `adb_close` once more. -/
theorem descriptor_closedOnce_iff (h : handleSendFile path capabilities doUnlink σ = .ok (r, τ)) :
    (τ.fdOps = σ.fdOps ∨ τ.fdOps = σ.fdOps ++ [.opened, .closed]) ↔
      closesTwice path capabilities σ = false := by
  rcases ((handleSendFile_answers ..).of_ok h).2 with ⟨hops, hfalse⟩ | hops
  · exact iff_of_true (.inl hops) hfalse
  · rw [show τ.fdOps = _ from hops]
    cases closesTwice path capabilities σ <;> simp [closes]

theorem descriptor_closedOnce_plain :
    ∃ τ, handleSendFile (ascii "/data/f") 0 false (pushing []) = .ok (true, τ) ∧
      (τ.fdOps = [] ∨ τ.fdOps = [.opened, .closed]) := by
  have htest : returns (handleSendFile (ascii "/data/f") 0 false (pushing [])) (·.1) = true := by
    decide +kernel
  obtain ⟨⟨r, τ⟩, hrun, hr⟩ := returns_iff.mp htest
  cases (hr : r = true)
  exact ⟨τ, hrun, (descriptor_closedOnce_iff hrun).mpr (by decide +kernel)⟩

/-- `setxattr` is refused after the file has come, and the client hangs up. -/
theorem descriptor_closedTwice :
    ∃ τ, handleSendFile (ascii "/data/f") 1 false
        { pushing [{}, {}, {}, {}, {}, { error := some .EACCES }] with eof := true } =
          .ok (false, τ) ∧ τ.fdOps = [.opened, .closed, .closed] := by
  have htest : returns (handleSendFile (ascii "/data/f") 1 false
      { pushing [{}, {}, {}, {}, {}, { error := some .EACCES }] with eof := true })
      (fun x => !x.1 && decide (x.2.fdOps = [.opened, .closed, .closed])) = true := by
    decide +kernel
  obtain ⟨⟨r, τ⟩, hrun, hx⟩ := returns_iff.mp htest
  obtain ⟨hr, hops⟩ := Bool.and_eq_true_iff.mp hx
  cases (show r = false from Bool.not_eq_true' _ |>.mp hr)
  exact ⟨τ, hrun, of_decide_eq_true hops⟩

/-! ## Links -/

lemma symlink_ok {target : Bytes} (h : onDisk (Disk.symlink target path) σ = (some (), τ)) :
    τ.disk.nodes path = some (.link target) := by
  unfold onDisk Disk.symlink at h
  dsimp only at h
  split at h
  · next disk heq =>
    split at heq
    · cases heq
    split at heq
    · cases heq
    cases heq
    cases h
    exact nodes_setNode_self ..
  · cases h

/-- The link points to what stands in `buffer`, up to the first NUL. -/
lemma makeLink_done (h : makeLink path σ = (none, τ)) :
    τ.disk.nodes path = some (.link (cString σ.buffer)) := by
  unfold makeLink at h
  split at h
  · next ρ heq =>
    cases h
    exact symlink_ok heq
  next ρ heq =>
  split at h
  · cases h
  have hρ := onDisk_calls (Disk.symlink (cString σ.buffer) path) σ
  have hdirs := (made_secureMkdirs (dirname path) ρ).calls
  rw [heq] at hρ
  split at h
  · cases h
  next υ heq' =>
  rw [heq'] at hdirs
  have hbuffer : υ.buffer = σ.buffer := by
    obtain ⟨disk, errno, rfl⟩ := hρ.trans hdirs
    rfl
  split at h
  · next κ heq'' =>
    cases h
    rw [← hbuffer]
    exact symlink_ok heq''
  · cases h

lemma finishLink_okay (h : finishLink σ = .ok (true, τ)) : τ.disk = σ.disk := by
  obtain ⟨⟨msg, ρ⟩, hread, h⟩ := bind_eq_ok.mp h
  have hρ : ρ.disk = σ.disk := by
    unfold readFdExactly at hread
    split_ifs at hread <;> cases hread <;> rfl
  cases msg with
  | none => cases h
  | some msg =>
    dsimp only at h
    split at h
    · unfold reply at h
      split at h <;> cases h
      exact hρ
    · cases h

lemma handleSendLink_okay {data : Bytes} (hlen : data.length ≤ syncDataMax)
    (hinput : σ.input = dataMessage data ++ rest) (h : handleSendLink path σ = .ok (true, τ)) :
    τ.disk.nodes path = some (.link (cString (data ++ σ.buffer.drop data.length))) := by
  rw [dataMessage, append_assoc] at hinput
  have hnot : ¬ data.length > syncDataMax := by omega
  have hread := readFdExactly_append (σ := { σ with input := data ++ rest }) rfl
  rw [handleSendLink, readFdExactly_header hinput, ok_bind] at h
  simp only [idOf_header, wordOf_header, toNat_length_chunk hlen, if_neg hnot, ne_eq,
    not_true_eq_false, if_false, receiveLink, hread, ok_bind] at h
  split at h
  · cases h
  next ρ heq =>
  rw [finishLink_okay h]
  exact makeLink_done heq

/-- The target is read into a buffer that all requests share, and may come without a NUL. -/
theorem link_own_iff {spec modeText data : Bytes} (hspec : splitSpec spec = some (path, modeText))
    (hmode : isKind S_IFLNK (UInt32.ofNat (strtoul modeText).1) = true)
    (hlen : data.length ≤ syncDataMax) (hinput : σ.input = dataMessage data ++ rest)
    (h : doSend spec σ = .ok (true, τ)) :
    τ.disk.nodes path = some (.link (cString data)) ↔
      0 ∈ data ∨ cString (σ.buffer.drop data.length) = [] := by
  have hlink : τ.disk.nodes path = some (.link (cString (data ++ σ.buffer.drop data.length))) := by
    unfold doSend at h
    simp only [hspec, hmode] at h
    split at h
    · cases h
    have hprepared : (prepare path σ).input = σ.input ∧ (prepare path σ).buffer = σ.buffer := by
      obtain ⟨disk, errno, heq⟩ := prepare_calls
      rw [heq]
      exact ⟨rfl, rfl⟩
    rw [← hprepared.2]
    exact handleSendLink_okay hlen (hprepared.1.trans hinput) h
  rw [hlink, Option.some_inj, Node.link.injEq]
  unfold cString
  by_cases hnul : 0 ∈ data
  · have hshort : (data.takeWhile (· ≠ 0)).length ≠ data.length := by
      intro hlen
      have hall := mem_takeWhile_imp (( takeWhile_prefix _).eq_of_length hlen ▸ hnul)
      simp at hall
    rw [takeWhile_append, if_neg hshort]
    exact iff_of_true rfl (.inl hnul)
  · have hall : ∀ c ∈ data, decide (c ≠ 0) = true := by
      intro c hc
      exact decide_eq_true fun h => hnul (h ▸ hc)
    rw [takeWhile_append_of_pos hall, takeWhile_eq_self_iff.mpr hall]
    simp [hnul]

theorem link_own_terminated :
    ∃ τ, doSend (ascii "/data/l,0120777")
        { buffer := ascii "abc", input := dataMessage (ascii "x" ++ [0]) ++ header ID_DONE 0 } =
        .ok (true, τ) ∧ τ.disk.nodes (ascii "/data/l") = some (.link (ascii "x")) := by
  have htest : returns (doSend (ascii "/data/l,0120777")
      { buffer := ascii "abc", input := dataMessage (ascii "x" ++ [0]) ++ header ID_DONE 0 })
      (·.1) = true := by
    decide +kernel
  obtain ⟨⟨r, τ⟩, hrun, hr⟩ := returns_iff.mp htest
  cases (hr : r = true)
  refine ⟨τ, hrun, ?_⟩
  exact (link_own_iff (show _ = some (ascii "/data/l", ascii "0120777") by decide)
    (by decide +kernel) (by decide) rfl hrun).mpr (.inl (by decide))

/-- A file is pushed, and then a link to `x`, without a NUL: it points to `xbc`. -/
theorem link_stale :
    ∃ σ τ, doSend (ascii "/data/f,0644")
        { input := encodeFile [ascii "abc"] 0 ++ dataMessage (ascii "x") ++ header ID_DONE 0 } =
        .ok (true, σ) ∧ doSend (ascii "/data/l,0120777") σ = .ok (true, τ) ∧
      τ.disk.nodes (ascii "/data/l") = some (.link (ascii "xbc")) := by
  have htest : returns (doSend (ascii "/data/f,0644")
      { input := encodeFile [ascii "abc"] 0 ++ dataMessage (ascii "x") ++ header ID_DONE 0 })
      (fun x => x.1 && returns (doSend (ascii "/data/l,0120777") x.2) fun y => y.1 &&
        decide (y.2.disk.nodes (ascii "/data/l") = some (.link (ascii "xbc")))) = true := by
    decide +kernel
  obtain ⟨⟨r, σ⟩, hfile, hx⟩ := returns_iff.mp htest
  obtain ⟨hr, hx⟩ := Bool.and_eq_true_iff.mp hx
  obtain ⟨⟨r', τ⟩, hlink, hy⟩ := returns_iff.mp hx
  obtain ⟨hr', hy⟩ := Bool.and_eq_true_iff.mp hy
  cases (hr : r = true)
  cases (hr' : r' = true)
  exact ⟨σ, τ, hfile, hlink, of_decide_eq_true hy⟩

end Adb.SyncService

import Adb.Lib.Disk

/-!
# Calls that are not refused

What becomes of the calls on a path when none of them is refused. They may still stop short.
-/

namespace Adb.Lib.Disk

open List

variable {d e : Disk} {p q : Path} {f : File} {c data : List UInt8} {n : ℕ}

def Granted (p : Path) (d : Disk) : Prop := ∀ c ∈ d.calls p, c.error = none

lemma Granted.after (h : d.Granted p) (hafter : After d e) : e.Granted p :=
  fun c hc => h c (hafter.mem hc)

lemma Granted.call (h : d.Granted p) : (d.call p).1.error = none := by
  unfold Disk.call
  cases hcalls : d.calls p with
  | nil => rfl
  | cons c rest => exact h c (by simp [hcalls])

/-- A `read` that is not refused reads a part of what is left, and some of it if there is any. -/
lemma read_granted (hf : d.Granted f.name) (hc : d.nodes f.node = some (.file c)) (hn : 0 < n) :
    ∃ data d', d.read f n = (.ok data, { f with offset := f.offset + data.length }, d') ∧
      c.drop f.offset = data ++ c.drop (f.offset + data.length) ∧
      (data = [] → c.drop f.offset = []) ∧ d'.nodes = d.nodes ∧ After d d' := by
  let k := min (max ((d.call f.name).1.count.getD n) 1) n
  refine ⟨(c.drop f.offset).take k, (d.call f.name).2, ?_, ?_, ?_, rfl, call_after f.name d⟩
  · have hc' : (d.call f.name).2.nodes f.node = some (.file c) := hc
    simp only [read, hf.call, hc', k]
  · rw [length_take, ← drop_drop]
    by_cases hk : k ≤ (c.drop f.offset).length
    · rw [Nat.min_eq_left hk, take_append_drop]
    · rw [take_of_length_le (by omega), Nat.min_eq_right (by omega), drop_length, List.append_nil]
  · intro hnil
    have hlen := congrArg List.length hnil
    rw [length_take, length_nil] at hlen
    have hpos : 0 < k := by
      show 0 < min (max _ 1) n
      omega
    exact length_eq_zero_iff.mp (by omega)

variable {size : ℕ}

lemma readRounds_granted (hsize : 0 < size) (n : ℕ) (hf : d.Granted f.name)
    (hc : d.nodes f.node = some (.file c)) (hn : (c.drop f.offset).length < n) :
    ∃ d', readRounds size n f d = (.ok (c.drop f.offset), d') ∧ d'.nodes = d.nodes ∧ After d d' := by
  induction n generalizing f d with
  | zero => omega
  | succ n ih =>
    obtain ⟨data, d1, hread, hsplit, hempty, hnodes, hafter⟩ := read_granted hf hc hsize
    rw [readRounds, hread]
    dsimp only
    by_cases hdata : data = []
    · rw [hempty hdata, hdata]
      exact ⟨d1, rfl, hnodes, hafter⟩
    have hpos : 0 < data.length := length_pos_iff.mpr hdata
    have hlen := congrArg List.length hsplit
    rw [length_append] at hlen
    obtain ⟨d2, hrest, hnodes', hafter'⟩ :=
      ih (f := { f with offset := f.offset + data.length }) (hf.after hafter) (hnodes ▸ hc)
        (by dsimp only; omega)
    have hne : data.isEmpty = false := by rw [isEmpty_eq_false_iff]; exact hdata
    rw [hne, hrest]
    exact ⟨d2, by simp [← hsplit], hnodes'.trans hnodes, hafter.trans hafter'⟩

lemma openFile_granted (hp : d.Granted p) (hq : d.resolve p = .ok q)
    (hc : d.nodes q = some (.file c)) :
    d.openFile p = (.ok { name := p, node := q }, (d.call p).2) := by
  have hq' : (d.call p).2.resolve p = .ok q := hq
  have hc' : (d.call p).2.nodes q = some (.file c) := hc
  simp only [openFile, hp.call, hq', hc']

lemma stat_granted {node : Node} (hp : d.Granted p) (hq : d.resolve p = .ok q)
    (hnode : d.nodes q = some node) : d.stat p = (.ok node, (d.call p).2) := by
  have hq' : (d.call p).2.resolve p = .ok q := hq
  have hnode' : (d.call p).2.nodes q = some node := hnode
  simp only [stat, hp.call, hq', hnode']

/-- A file whose calls are not refused is read to its end. -/
lemma readAll_granted (hsize : 0 < size) (hp : d.Granted p)
    (hq : d.resolve p = .ok q) (hc : d.nodes q = some (.file c)) :
    ∃ d', readAll size p d = (.ok c, d') ∧ d'.nodes = d.nodes ∧ After d d' := by
  obtain ⟨d', hrounds, hnodes, hafter⟩ :=
    readRounds_granted (f := { name := p, node := q }) hsize (c.length + 1)
      (hp.after (call_after p d)) (show (d.call p).2.nodes q = _ from hc) (by simp)
  have hcontent : (d.call p).2.content p = some c := content_of_resolve hq hc
  refine ⟨d', ?_, hnodes, (call_after p d).trans hafter⟩
  rw [readAll, openFile_granted hp hq hc]
  dsimp only
  rw [hcontent, Option.getD_some, hrounds]
  rfl

/-! ## Single calls -/

lemma lstat_granted {node : Node} (hp : d.Granted p) (hnode : d.nodes p = some node) :
    d.lstat p = (.ok node, (d.call p).2) := by
  have hnode' : (d.call p).2.nodes p = some node := hnode
  simp only [lstat, hp.call, hnode']

lemma lstat_absent (hp : d.Granted p) (hnode : d.nodes p = none) :
    d.lstat p = (.error .ENOENT, (d.call p).2) := by
  have hnode' : (d.call p).2.nodes p = none := hnode
  simp only [lstat, hp.call, hnode']

lemma nodes_unlink_granted (hp : d.Unlinks p) (hdir : d.nodes p ≠ some .directory) :
    (d.unlink p).2.nodes = (d.setNode p none).nodes := by
  have hsame : d.nodes p = none → d.nodes = (d.setNode p none).nodes := by
    intro hnone
    funext q
    by_cases hq : q = p
    · rw [hq, nodes_setNode_self, hnone]
    · rw [nodes_setNode_of_ne hq]
  unfold unlink
  dsimp only
  rw [hp.call]
  dsimp only
  rw [nodes_call]
  split
  · next hnone => exact hsame hnone
  · next hd => exact absurd hd hdir
  · rfl

lemma openExcl_granted (hp : d.Granted p) (hnone : d.nodes p = none) :
    ∃ d', d.openExcl p = (.ok { name := p, node := p }, d') ∧
      d'.nodes = (d.setNode p (some (.file []))).nodes ∧ After d d' := by
  have hnone' : (d.call p).2.nodes p = none := hnone
  refine ⟨(d.call p).2.setNode p (some (.file [])), ?_, rfl, call_after p d⟩
  simp only [openExcl, hp.call, hnone']

lemma touch_granted (hf : d.Granted f.name) : d.touch f = (.ok (), (d.call f.name).2) := by
  simp only [touch, hf.call]

lemma creat_granted (hp : d.Granted p) (hq : d.resolve p = .ok q)
    (hdir : d.nodes q ≠ some .directory) : ∃ d', d.creat p = (.ok { name := p, node := q }, d') ∧
      d'.nodes = (d.setNode q (some (.file []))).nodes ∧ After d d' := by
  have hq' : (d.call p).2.resolve p = .ok q := hq
  refine ⟨(d.call p).2.setNode q (some (.file [])), ?_, rfl, call_after p d⟩
  unfold creat
  dsimp only
  rw [hp.call]
  dsimp only
  rw [hq']
  dsimp only
  split
  · next h => exact absurd h hdir
  · rfl

/-! ## Writing -/

lemma writeRounds_granted (hf : d.Granted f.name) (hn : (d.calls f.name).length < n)
    (data : List UInt8) : (writeRounds n f data d).1 = .ok () := by
  induction n generalizing f d data with
  | zero => omega
  | succ n ih =>
    cases data with
    | nil => rfl
    | cons b rest =>
      have hcall := hf.call
      unfold writeRounds write
      dsimp only
      rw [hcall]
      dsimp only
      generalize hk : min ((d.call f.name).1.count.getD (b :: rest).length) (b :: rest).length = k
      have hcalls : ((d.call f.name).2.store f ((b :: rest).take k)).calls f.name =
          (d.calls f.name).tail := by
        rw [store_calls]
        exact if_pos rfl
      cases hlist : d.calls f.name with
      | nil =>
        -- no outcome is left: all is written
        have hcount : (d.call f.name).1 = {} := by
          show (d.calls f.name).headD {} = {}
          rw [hlist]
          rfl
        have hall : k = (b :: rest).length := by
          rw [← hk, hcount]
          exact Nat.min_self _
        rw [hall, drop_length]
        cases n with
        | zero => rfl
        | succ n => rfl
      | cons c more =>
        rw [hlist] at hcalls hn
        apply ih
        · show Disk.Granted f.name _
          intro x hx
          rw [hcalls] at hx
          exact hf x (by rw [hlist]; exact mem_cons_of_mem _ hx)
        · show (((d.call f.name).2.store f ((b :: rest).take k)).calls f.name).length < n
          rw [hcalls]
          rw [length_cons] at hn
          exact Nat.lt_of_succ_lt_succ hn

lemma writeExactly_granted (hf : d.Granted f.name) (hc : d.nodes f.node = some (.file c))
    (hoff : f.offset ≤ c.length) :
    ∃ d', d.writeExactly f data = (.ok (), { f with offset := f.offset + data.length }, d') ∧
      d'.nodes = (d.setNode f.node (some (.file (splice c f.offset data)))).nodes ∧ After d d' := by
  have hok := writeRounds_granted hf (Nat.lt_succ_self _) data
  have hafter := writeExactly_after f data d
  cases hw : d.writeExactly f data with
  | mk result rest =>
    obtain ⟨f', d'⟩ := rest
    rw [hw] at hafter
    have hresult : result = .ok () := by
      rw [← hok]
      exact (congrArg Prod.fst hw).symm
    subst hresult
    obtain ⟨rfl, hnodes⟩ := writeExactly_ok hc hoff hw
    exact ⟨d', rfl, hnodes, hafter⟩

/-! ## Calls that read -/

/-- Calls have been made on `p`, and nothing has changed. -/
inductive Called (p : Path) (d : Disk) : Disk → Prop
  | refl : Called p d d
  | call {e : Disk} (h : Called p d e) : Called p d (e.call p).2

namespace Called

lemma trans {b : Disk} (h : Called p d e) (h' : Called p e b) : Called p d b := by
  induction h' with
  | refl => exact h
  | call _ ih => exact ih.call

lemma once (p : Path) (d : Disk) : Called p d (d.call p).2 := .call .refl

lemma nodes (h : Called p d e) : e.nodes = d.nodes := by
  induction h with
  | refl => rfl
  | call _ ih => exact ih

lemma after (h : Called p d e) : After d e := by
  induction h with
  | refl => exact After.refl d
  | call _ ih => exact ih.trans (call_after p _)

lemma calls_of_ne (h : Called p d e) (hq : q ≠ p) : e.calls q = d.calls q := by
  induction h with
  | refl => rfl
  | call _ ih => exact (if_neg hq).trans ih

lemma resolve (h : Called p d e) (q : Path) : e.resolve q = d.resolve q :=
  (readlink_of_nodes h.nodes).resolve q

end Called

lemma stat_called (p : Path) (d : Disk) : (d.stat p).2 = (d.call p).2 := by
  unfold stat
  dsimp only
  split
  · rfl
  split
  · rfl
  split
  · rfl
  · rfl

lemma openFile_called (p : Path) (d : Disk) : (d.openFile p).2 = (d.call p).2 := by
  unfold openFile
  dsimp only
  split
  · rfl
  split
  · rfl
  split
  · rfl
  · rfl
  · rfl

lemma read_called (f : File) (n : ℕ) (d : Disk) :
    (d.read f n).2.2 = (d.call f.name).2 ∧ (d.read f n).2.1.name = f.name ∧
      (d.read f n).2.1.node = f.node := by
  unfold read
  dsimp only
  split
  · exact ⟨rfl, rfl, rfl⟩
  split
  · exact ⟨rfl, rfl, rfl⟩
  · exact ⟨rfl, rfl, rfl⟩

lemma readRounds_called (f : File) (d : Disk) : Called f.name d (readRounds size n f d).2 := by
  induction n generalizing f d with
  | zero => exact .refl
  | succ n ih =>
    obtain ⟨hdisk, hname, -⟩ := read_called f size d
    have honce := Called.once f.name d
    unfold readRounds
    split
    · next heq =>
      rw [heq] at hdisk
      rw [← hdisk] at honce
      exact honce
    next data f' d' heq =>
    rw [heq] at hdisk hname
    rw [← hdisk] at honce
    have hrest := ih f' d'
    rw [hname] at hrest
    split
    · exact honce
    split
    · next heq' =>
      rw [heq'] at hrest
      exact honce.trans hrest
    · next heq' =>
      rw [heq'] at hrest
      exact honce.trans hrest

lemma readAll_called (size : ℕ) (p : Path) (d : Disk) : Called p d (readAll size p d).2 := by
  have hopen := openFile_called p d
  have honce := Called.once p d
  unfold readAll
  split
  · next heq =>
    rw [heq] at hopen
    rw [← hopen] at honce
    exact honce
  · next f d' heq =>
    obtain ⟨q, c, -, -, rfl, -⟩ := openFile_ok heq
    rw [heq] at hopen
    rw [← hopen] at honce
    exact honce.trans (readRounds_called { name := p, node := q } d')

variable {d' : Disk}

lemma read_ok {f' : File} (hc : d.nodes f.node = some (.file c))
    (h : d.read f n = (.ok data, f', d')) : f' = { f with offset := f.offset + data.length } ∧
      c.drop f.offset = data ++ c.drop (f.offset + data.length) := by
  have hc' : (d.call f.name).2.nodes f.node = some (.file c) := hc
  unfold read at h
  dsimp only at h
  split at h
  · cases h
  rw [hc'] at h
  dsimp only at h
  cases h
  refine ⟨rfl, ?_⟩
  generalize min (max ((d.call f.name).1.count.getD n) 1) n = k
  rw [length_take, ← drop_drop]
  by_cases hk : k ≤ (c.drop f.offset).length
  · rw [Nat.min_eq_left hk, take_append_drop]
  · rw [take_of_length_le (by omega), Nat.min_eq_right (by omega), drop_length, List.append_nil]

lemma length_readRounds_le (hc : d.nodes f.node = some (.file c))
    (h : readRounds size n f d = (.ok data, d')) : data.length ≤ (c.drop f.offset).length := by
  induction n generalizing f d data with
  | zero => cases h
  | succ n ih =>
    obtain ⟨hdisk, -, -⟩ := read_called f size d
    unfold readRounds at h
    split at h
    · cases h
    next first f' d1 heq =>
    rw [heq] at hdisk
    obtain ⟨rfl, hsplit⟩ := read_ok hc heq
    split at h
    · cases h
      exact Nat.zero_le _
    split at h
    · cases h
    next rest d2 heq' =>
    cases h
    have hnode : d1.nodes f.node = some (.file c) := by
      rw [show d1 = (d.call f.name).2 from hdisk]
      exact hc
    have hrest := ih (f := { f with offset := f.offset + first.length }) hnode heq'
    rw [hsplit, length_append, length_append]
    dsimp only at hrest
    omega

lemma length_readAll_le (hq : d.resolve p = .ok q)
    (hc : d.nodes q = some (.file c)) (h : readAll size p d = (.ok data, d')) :
    data.length ≤ c.length := by
  unfold readAll at h
  split at h
  · cases h
  next f d1 heq =>
  obtain ⟨q', c', hq', hc', rfl, hnodes⟩ := openFile_ok heq
  rw [hq] at hq'
  cases hq'
  rw [hc] at hc'
  cases hc'
  have hle := length_readRounds_le (f := { name := p, node := q }) (by rw [hnodes]; exact hc) h
  simpa using hle

/-! ## Calls on one path -/

/-- Nothing has changed but what is at `p` and the outcomes of the calls on `p`. -/
structure OnlyAt (p : Path) (d e : Disk) : Prop where
  nodes : ∀ q, q ≠ p → e.nodes q = d.nodes q
  calls : ∀ q, q ≠ p → e.calls q = d.calls q

lemma OnlyAt.refl (p : Path) (d : Disk) : OnlyAt p d d := ⟨fun _ _ => rfl, fun _ _ => rfl⟩

lemma OnlyAt.trans {b : Disk} (h : OnlyAt p d e) (h' : OnlyAt p e b) : OnlyAt p d b :=
  ⟨fun q hq => (h'.nodes q hq).trans (h.nodes q hq),
    fun q hq => (h'.calls q hq).trans (h.calls q hq)⟩

lemma Called.onlyAt (h : Called p d e) : OnlyAt p d e :=
  ⟨fun q _ => by rw [h.nodes], fun _ hq => h.calls_of_ne hq⟩

lemma call_onlyAt (p : Path) (d : Disk) : OnlyAt p d (d.call p).2 := (Called.once p d).onlyAt

lemma setNode_onlyAt (p : Path) (node : Option Node) (d : Disk) : OnlyAt p d (d.setNode p node) :=
  ⟨fun _ hq => nodes_setNode_of_ne hq, fun _ _ => rfl⟩

lemma unlink_onlyAt (p : Path) (d : Disk) : OnlyAt p d (d.unlink p).2 := by
  have hcall := call_onlyAt p d
  unfold unlink
  dsimp only
  split
  · exact hcall
  split
  · exact hcall
  · exact hcall
  · exact hcall.trans (setNode_onlyAt p none _)

lemma creat_onlyAt (h : d.readlink p = none) : OnlyAt p d (d.creat p).2 := by
  have hcall := call_onlyAt p d
  have hself : (d.call p).2.resolve p = .ok p := resolve_self h
  unfold creat
  dsimp only
  split
  · exact hcall
  rw [hself]
  dsimp only
  split
  · exact hcall
  · exact hcall.trans (setNode_onlyAt p _ _)

lemma store_onlyAt : OnlyAt f.node d (d.store f data) := by
  unfold store
  split
  · exact setNode_onlyAt ..
  · exact .refl ..

lemma write_onlyAt (h : f.node = f.name) (data : List UInt8) (d : Disk) :
    OnlyAt f.name d (d.write f data).2.2 ∧ (d.write f data).2.1.name = f.name ∧
      (d.write f data).2.1.node = f.node := by
  have hcall := call_onlyAt f.name d
  unfold write
  dsimp only
  split
  · exact ⟨hcall, rfl, rfl⟩
  refine ⟨hcall.trans ?_, rfl, rfl⟩
  rw [← h]
  exact store_onlyAt

lemma writeRounds_onlyAt (h : f.node = f.name) (data : List UInt8) (d : Disk) :
    OnlyAt f.name d (writeRounds n f data d).2.2 := by
  induction n generalizing f data d with
  | zero =>
    cases data with
    | nil => exact .refl ..
    | cons b rest => exact .refl ..
  | succ n ih =>
    cases data with
    | nil => exact .refl ..
    | cons b rest =>
      obtain ⟨hwrite, hname, hnode⟩ := write_onlyAt h (b :: rest) d
      unfold writeRounds
      split
      · next d' heq =>
        rw [heq] at hwrite hname hnode
        have hrest := ih (hnode.trans (h.trans hname.symm)) (b :: rest) d'
        rw [hname] at hrest
        exact hwrite.trans hrest
      · next heq =>
        rw [heq] at hwrite
        exact hwrite
      · next k _ d' heq =>
        rw [heq] at hwrite hname hnode
        have hrest := ih (hnode.trans (h.trans hname.symm)) ((b :: rest).drop k) d'
        rw [hname] at hrest
        exact hwrite.trans hrest

lemma writeExactly_onlyAt (h : f.node = f.name) :
    OnlyAt f.name d (d.writeExactly f data).2.2 := writeRounds_onlyAt h data d

end Adb.Lib.Disk

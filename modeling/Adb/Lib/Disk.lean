import Mathlib.Data.Nat.Notation

/-!
# A file system whose calls may fail

A path is absent, a regular file, a symbolic link or a directory. Every call on a path takes its
outcome from the list for that path: it may be refused, and a `read` or `write` may stop short.
-/

namespace Adb.Lib

open List

inductive Errno
  | EACCES | EAGAIN | ECONNRESET | EEXIST | EFAULT | EFBIG | EINTR | EINVAL | EIO | EISDIR | ELOOP
  | EMFILE | ENAMETOOLONG | ENFILE | ENOENT | ENOMEM | ENOPROTOOPT | ENOSPC | ENOTDIR | ENOTSUP
  | EOVERFLOW | EPERM | EPIPE | EROFS | ETXTBSY
deriving DecidableEq, Repr

/-- The outcome of a call: it is refused, or it reads or writes so many bytes at most. Whether an
`unlink` is refused is said apart. -/
structure Call where
  error : Option Errno := none
  count : Option ℕ := none
  unlink : Option Errno := none
deriving DecidableEq, Repr

abbrev Path := List UInt8

inductive Node
  | file (content : List UInt8)
  | link (target : Path)
  | directory
deriving DecidableEq, Repr

structure Disk where
  nodes : Path → Option Node := fun _ => none
  calls : Path → List Call := fun _ => []

structure File where
  name : Path
  node : Path
  offset : ℕ := 0
deriving DecidableEq, Repr

namespace Disk

def setNode (p : Path) (n : Option Node) (d : Disk) : Disk :=
  { d with nodes := fun q => if q = p then n else d.nodes q }

def call (p : Path) (d : Disk) : Call × Disk :=
  ((d.calls p).headD {},
    { d with calls := fun q => if q = p then (d.calls p).tail else d.calls q })

def readlink (p : Path) (d : Disk) : Option Path :=
  match d.nodes p with
  | some (.link target) => some target
  | _ => none

/-- Symbolic links are followed, so many at most. -/
def follow (links : Path → Option Path) : ℕ → Path → Except Errno Path
  | 0, _ => .error .ELOOP
  | n + 1, p =>
    match links p with
    | some target => follow links n target
    | none => .ok p

def maxLinks : ℕ := 40

def resolve (p : Path) (d : Disk) : Except Errno Path :=
  follow d.readlink maxLinks p

def content (p : Path) (d : Disk) : Option (List UInt8) :=
  match d.resolve p with
  | .error _ => none
  | .ok q =>
    match d.nodes q with
    | some (.file c) => some c
    | _ => none

def lstat (p : Path) (d : Disk) : Except Errno Node × Disk :=
  let (c, d) := d.call p
  match c.error with
  | some e => (.error e, d)
  | none =>
    match d.nodes p with
    | some n => (.ok n, d)
    | none => (.error .ENOENT, d)

def stat (p : Path) (d : Disk) : Except Errno Node × Disk :=
  let (c, d) := d.call p
  match c.error with
  | some e => (.error e, d)
  | none =>
    match d.resolve p with
    | .error e => (.error e, d)
    | .ok q =>
      match d.nodes q with
      | some n => (.ok n, d)
      | none => (.error .ENOENT, d)

def unlink (p : Path) (d : Disk) : Except Errno Unit × Disk :=
  let (c, d) := d.call p
  match c.unlink with
  | some e => (.error e, d)
  | none =>
    match d.nodes p with
    | none => (.error .ENOENT, d)
    | some .directory => (.error .EISDIR, d)
    | some _ => (.ok (), d.setNode p none)

def mkdir (p : Path) (d : Disk) : Except Errno Unit × Disk :=
  let (c, d) := d.call p
  match c.error with
  | some e => (.error e, d)
  | none =>
    match d.nodes p with
    | some _ => (.error .EEXIST, d)
    | none => (.ok (), d.setNode p (some .directory))

def symlink (target p : Path) (d : Disk) : Except Errno Unit × Disk :=
  let (c, d) := d.call p
  match c.error with
  | some e => (.error e, d)
  | none =>
    match d.nodes p with
    | some _ => (.error .EEXIST, d)
    | none => (.ok (), d.setNode p (some (.link target)))

def openExcl (p : Path) (d : Disk) : Except Errno File × Disk :=
  let (c, d) := d.call p
  match c.error with
  | some e => (.error e, d)
  | none =>
    match d.nodes p with
    | some _ => (.error .EEXIST, d)
    | none => (.ok { name := p, node := p }, d.setNode p (some (.file [])))

def openFile (p : Path) (d : Disk) : Except Errno File × Disk :=
  let (c, d) := d.call p
  match c.error with
  | some e => (.error e, d)
  | none =>
    match d.resolve p with
    | .error e => (.error e, d)
    | .ok q =>
      match d.nodes q with
      | some (.file _) => (.ok { name := p, node := q }, d)
      | some _ => (.error .EISDIR, d)
      | none => (.error .ENOENT, d)

def creat (p : Path) (d : Disk) : Except Errno File × Disk :=
  let (c, d) := d.call p
  match c.error with
  | some e => (.error e, d)
  | none =>
    match d.resolve p with
    | .error e => (.error e, d)
    | .ok q =>
      match d.nodes q with
      | some .directory => (.error .EISDIR, d)
      | _ => (.ok { name := p, node := q }, d.setNode q (some (.file [])))

def touch (f : File) (d : Disk) : Except Errno Unit × Disk :=
  let (c, d) := d.call f.name
  match c.error with
  | some e => (.error e, d)
  | none => (.ok (), d)

def splice (old : List UInt8) (offset : ℕ) (data : List UInt8) : List UInt8 :=
  old.take offset ++ List.replicate (offset - old.length) 0 ++ data ++
    old.drop (offset + data.length)

def store (f : File) (data : List UInt8) (d : Disk) : Disk :=
  match d.nodes f.node with
  | some (.file c) => d.setNode f.node (some (.file (splice c f.offset data)))
  | _ => d

def write (f : File) (data : List UInt8) (d : Disk) : Except Errno ℕ × File × Disk :=
  let (c, d) := d.call f.name
  match c.error with
  | some e => (.error e, f, d)
  | none =>
    let n := min (c.count.getD data.length) data.length
    (.ok n, { f with offset := f.offset + n }, d.store f (data.take n))

/-- `write` until all is written. It is tried again after `EAGAIN`. -/
def writeRounds : ℕ → File → List UInt8 → Disk → Except Errno Unit × File × Disk
  | _, f, [], d => (.ok (), f, d)
  | 0, f, _ :: _, d => (.error .EAGAIN, f, d)
  | n + 1, f, b :: data, d =>
    match d.write f (b :: data) with
    | (.error .EAGAIN, f, d) => writeRounds n f (b :: data) d
    | (.error e, f, d) => (.error e, f, d)
    | (.ok k, f, d) => writeRounds n f ((b :: data).drop k) d

/-- All of `data` is written, with as many calls as it takes: when the list of outcomes is at its
end, `write` writes all. -/
def writeExactly (f : File) (data : List UInt8) (d : Disk) : Except Errno Unit × File × Disk :=
  writeRounds ((d.calls f.name).length + 1) f data d

def read (f : File) (n : ℕ) (d : Disk) : Except Errno (List UInt8) × File × Disk :=
  let (c, d) := d.call f.name
  match c.error with
  | some e => (.error e, f, d)
  | none =>
    match d.nodes f.node with
    | some (.file content) =>
      -- at least one byte is read if there is one
      let n := min (max (c.count.getD n) 1) n
      let data := (content.drop f.offset).take n
      (.ok data, { f with offset := f.offset + data.length }, d)
    | _ => (.error Errno.EIO, f, d)

/-! ## What the calls change -/

variable {d e : Disk} {p q : Path} {f : File} {c data : List UInt8} {n k : ℕ}

@[simp] lemma nodes_setNode_self (p : Path) (n : Option Node) (d : Disk) :
    (d.setNode p n).nodes p = n := if_pos rfl

lemma nodes_setNode_of_ne {n : Option Node} (h : q ≠ p) :
    (d.setNode p n).nodes q = d.nodes q := if_neg h

@[simp] lemma calls_setNode {n : Option Node} : (d.setNode p n).calls = d.calls := rfl

@[simp] lemma nodes_call : (d.call p).2.nodes = d.nodes := rfl

/-! ## The outcomes that are left -/

/-- `e` comes after `d`: some outcomes have been used up. -/
def After (d e : Disk) : Prop := ∀ q, e.calls q <:+ d.calls q

lemma After.refl (d : Disk) : After d d := fun _ => suffix_rfl

lemma After.trans {b : Disk} (h : After d e) (h' : After e b) : After d b :=
  fun q => (h' q).trans (h q)

lemma After.mem {c : Call} (h : After d e) (hc : c ∈ e.calls p) : c ∈ d.calls p :=
  (h p).subset hc

lemma call_after (p : Path) (d : Disk) : After d (d.call p).2 := by
  intro q
  show (if q = p then (d.calls p).tail else d.calls q) <:+ d.calls q
  split
  · next hq =>
    rw [hq]
    exact tail_suffix _
  · exact suffix_rfl

lemma unlink_after (p : Path) (d : Disk) : After d (d.unlink p).2 := by
  have hcall := call_after p d
  unfold unlink
  dsimp only
  split
  · exact hcall
  split <;> exact hcall

lemma creat_after (p : Path) (d : Disk) : After d (d.creat p).2 := by
  have hcall := call_after p d
  unfold creat
  dsimp only
  split
  · exact hcall
  split
  · exact hcall
  split <;> exact hcall

lemma store_calls : (d.store f data).calls = d.calls := by
  unfold store
  split <;> rfl

lemma write_after (f : File) (data : List UInt8) (d : Disk) : After d (d.write f data).2.2 := by
  have hcall := call_after f.name d
  unfold write
  dsimp only
  split
  · exact hcall
  intro q
  rw [store_calls]
  exact hcall q

lemma writeRounds_after (f : File) (data : List UInt8) (d : Disk) :
    After d (writeRounds n f data d).2.2 := by
  induction n generalizing f data d with
  | zero =>
    cases data with
    | nil => exact .refl d
    | cons b rest => exact .refl d
  | succ n ih =>
    cases data with
    | nil => exact .refl d
    | cons b rest =>
      have hwrite := write_after f (b :: rest) d
      unfold writeRounds
      split
      · next heq =>
        rw [heq] at hwrite
        exact hwrite.trans (ih _ _ _)
      · next heq =>
        rw [heq] at hwrite
        exact hwrite
      · next heq =>
        rw [heq] at hwrite
        exact hwrite.trans (ih _ _ _)

lemma writeExactly_after (f : File) (data : List UInt8) (d : Disk) :
    After d (d.writeExactly f data).2.2 := writeRounds_after f data d

def Unlinks (p : Path) (d : Disk) : Prop := ∀ c ∈ d.calls p, c.unlink = none

lemma Unlinks.after (h : d.Unlinks p) (hafter : After d e) : e.Unlinks p :=
  fun c hc => h c (hafter.mem hc)

lemma Unlinks.call (h : d.Unlinks p) : (d.call p).1.unlink = none := by
  show ((d.calls p).headD {}).unlink = none
  cases hcalls : d.calls p with
  | nil => rfl
  | cons c rest => exact h c (by simp [hcalls])

lemma nodes_unlink (h : d.Unlinks p) :
    (d.unlink p).2.nodes p = none ∨
      d.nodes p = some .directory ∧ (d.unlink p).2.nodes p = some .directory := by
  unfold unlink
  dsimp only
  rw [h.call]
  dsimp only
  rw [nodes_call]
  split
  · next hnone => exact .inl hnone
  · next hdir => exact .inr ⟨hdir, hdir⟩
  · exact .inl (nodes_setNode_self ..)

/-! ## Links -/

def SameLinks (d e : Disk) : Prop := ∀ q, e.readlink q = d.readlink q

lemma SameLinks.resolve (h : SameLinks d e) (p : Path) : e.resolve p = d.resolve p := by
  rw [Disk.resolve, Disk.resolve, show e.readlink = d.readlink from funext h]

lemma readlink_of_nodes (h : e.nodes = d.nodes) : SameLinks d e := by
  intro q
  rw [readlink, h]
  rfl

lemma content_of_nodes (h : e.nodes = d.nodes) : e.content p = d.content p := by
  rw [content, (readlink_of_nodes h).resolve, h]
  rfl

lemma sameLinks_setNode {n : Option Node} (hold : d.readlink p = none)
    (hnew : ∀ target, n ≠ some (.link target)) : SameLinks d (d.setNode p n) := by
  intro q
  by_cases hq : q = p
  · subst hq
    rw [hold, readlink, nodes_setNode_self]
    split
    · exact absurd rfl (hnew _)
    · rfl
  · rw [readlink, nodes_setNode_of_ne hq]
    rfl

lemma follow_end {links : Path → Option Path} (h : follow links n p = .ok q) : links q = none := by
  induction n generalizing p with
  | zero => cases h
  | succ n ih =>
    unfold follow at h
    split at h
    · exact ih h
    next hnone =>
    cases h
    exact hnone

lemma resolve_self (h : d.readlink p = none) : d.resolve p = .ok p := by
  show follow d.readlink (39 + 1) p = .ok p
  rw [follow, h]

lemma content_of_resolve (hq : d.resolve p = .ok q) (h : d.nodes q = some (.file c)) :
    d.content p = some c := by
  simp [content, hq, h]

lemma content_setNode (hq : d.resolve p = .ok q) (x : List UInt8) :
    (d.setNode q (some (.file x))).content p = some x := by
  have hlinks : SameLinks d (d.setNode q (some (.file x))) :=
    sameLinks_setNode (follow_end hq) fun target heq => by cases heq
  exact content_of_resolve ((hlinks.resolve p).trans hq) (nodes_setNode_self ..)

def Grown (d e : Disk) : Prop :=
  ∀ q, e.nodes q = d.nodes q ∨ d.nodes q = none ∧ e.nodes q = some .directory

lemma Grown.of_nodes (h : e.nodes = d.nodes) : Grown d e := fun q => .inl (by rw [h])

lemma Grown.trans {b : Disk} (h : Grown d e) (h' : Grown e b) : Grown d b := by
  intro q
  rcases h' q with hq' | ⟨hnone', hdir⟩
  · rcases h q with hq | ⟨hnone, hdir⟩
    · exact .inl (hq'.trans hq)
    · exact .inr ⟨hnone, hq'.trans hdir⟩
  rcases h q with hq | ⟨-, hdir'⟩
  · exact .inr ⟨hq ▸ hnone', hdir⟩
  · rw [hdir'] at hnone'
    cases hnone'

lemma Grown.sameLinks (h : Grown d e) : SameLinks d e := by
  intro q
  rcases h q with hq | ⟨hnone, hdir⟩
  · rw [readlink, hq]
    rfl
  · simp [readlink, hnone, hdir]

lemma Grown.content (h : Grown d e) (p : Path) : e.content p = d.content p := by
  unfold Disk.content
  rw [h.sameLinks.resolve p]
  split
  · rfl
  next q _ =>
  rcases h q with hq | ⟨hnone, hdir⟩
  · rw [hq]
  · rw [hnone, hdir]

lemma mkdir_grown (p : Path) (d : Disk) : Grown d (d.mkdir p).2 := by
  unfold mkdir
  dsimp only
  split
  · exact .of_nodes rfl
  split
  · exact .of_nodes rfl
  next hnone =>
  intro q
  by_cases hq : q = p
  · subst hq
    exact .inr ⟨hnone, nodes_setNode_self ..⟩
  · exact .inl (nodes_setNode_of_ne hq)

/-! ## Opening -/

variable {d' : Disk}

lemma openExcl_ok (h : d.openExcl p = (.ok f, d')) :
    d.nodes p = none ∧ f = { name := p, node := p } ∧
      d'.nodes = (d.setNode p (some (.file []))).nodes := by
  unfold openExcl at h
  dsimp only at h
  split at h
  · cases h
  split at h
  · cases h
  next hnone =>
  cases h
  exact ⟨hnone, rfl, rfl⟩

lemma openExcl_error {x : Errno} (h : d.openExcl p = (.error x, d')) : d'.nodes = d.nodes := by
  unfold openExcl at h
  dsimp only at h
  split at h
  · cases h
    rfl
  split at h
  · cases h
    rfl
  · cases h

lemma openFile_ok (h : d.openFile p = (.ok f, d')) :
    ∃ q c, d.resolve p = .ok q ∧ d.nodes q = some (.file c) ∧ f = { name := p, node := q } ∧
      d'.nodes = d.nodes := by
  unfold openFile at h
  dsimp only at h
  split at h
  · cases h
  split at h
  · cases h
  next q hq =>
  split at h
  · next c hc =>
    cases h
    exact ⟨q, c, hq, hc, rfl, rfl⟩
  · cases h
  · cases h

lemma creat_ok (h : d.creat p = (.ok f, d')) :
    ∃ q, d.resolve p = .ok q ∧ d.nodes q ≠ some .directory ∧ f = { name := p, node := q } ∧
      d'.nodes = (d.setNode q (some (.file []))).nodes := by
  unfold creat at h
  dsimp only at h
  split at h
  · cases h
  split at h
  · cases h
  next q hq =>
  split at h
  · cases h
  next hnot =>
  cases h
  exact ⟨q, hq, hnot, rfl, rfl⟩

lemma creat_error {x : Errno} (h : d.creat p = (.error x, d')) : d'.nodes = d.nodes := by
  unfold creat at h
  dsimp only at h
  split at h
  · cases h
    rfl
  split at h
  · cases h
    rfl
  split at h
  · cases h
    rfl
  · cases h

/-! ## Writing -/

lemma splice_splice (c : List UInt8) (offset : ℕ) (a b : List UInt8) :
    splice (splice c offset a) (offset + a.length) b = splice c offset (a ++ b) := by
  let start := c.take offset ++ List.replicate (offset - c.length) 0
  have hstart : start.length = offset := by
    simp only [start, length_append, length_take, length_replicate]
    omega
  have hsplit : ∀ x, splice c offset x = (start ++ x) ++ c.drop (offset + x.length) :=
    fun x => rfl
  have hlen : (start ++ a).length = offset + a.length := by rw [length_append, hstart]
  rw [hsplit a, hsplit (a ++ b), splice, take_left' hlen, append_assoc _ a b |>.symm]
  have hzero : offset + a.length - (start ++ a ++ c.drop (offset + a.length)).length = 0 := by
    simp only [length_append, hstart]
    omega
  rw [hzero, drop_append, drop_of_length_le (by omega), drop_drop, hlen]
  simp only [replicate_zero, List.append_nil, nil_append, append_assoc, length_append]
  congr 4
  omega

/-- At the end of a file, what is written comes last. -/
lemma splice_length (c data : List UInt8) : splice c c.length data = c ++ data := by
  simp [splice]

lemma splice_nil (h : n ≤ c.length) : splice c n [] = c := by
  have hzero : n - c.length = 0 := by omega
  simp [splice, hzero]

/-- From the start of a file, what is written comes first, and the rest of the old content stays. -/
lemma splice_zero : splice c 0 data = data ++ c.drop data.length := by
  simp [splice]

lemma length_splice_ge (data : List UInt8) (h : n ≤ c.length) :
    n + data.length ≤ (splice c n data).length := by
  simp only [splice, length_append, length_take, length_replicate]
  omega

lemma store_eq (h : d.nodes f.node = some (.file c)) :
    d.store f data = d.setNode f.node (some (.file (splice c f.offset data))) := by
  rw [store, h]

structure Wrote (f : File) (c data : List UInt8) (k : ℕ) (d : Disk) (f' : File) (d' : Disk) :
    Prop where
  file : f' = { f with offset := f.offset + k }
  nodes : d'.nodes = (d.setNode f.node (some (.file (splice c f.offset (data.take k))))).nodes

lemma write_spec (h : d.nodes f.node = some (.file c)) (data : List UInt8) :
    match d.write f data with
    | (.error _, f', d') => f' = f ∧ d'.nodes = d.nodes
    | (.ok k, f', d') => k ≤ data.length ∧ Wrote f c data k d f' d' := by
  unfold write
  dsimp only
  cases (d.call f.name).1.error with
  | some e => exact ⟨rfl, rfl⟩
  | none =>
    refine ⟨Nat.min_le_right _ _, rfl, ?_⟩
    rw [store_eq (d := (d.call f.name).2) h]
    rfl

lemma Wrote.nothing (h : d.nodes f.node = some (.file c)) (hoff : f.offset ≤ c.length)
    (data : List UInt8) (hnodes : e.nodes = d.nodes) : Wrote f c data 0 d f e := by
  refine ⟨rfl, ?_⟩
  rw [hnodes, take_zero, splice_nil hoff]
  funext q
  by_cases hq : q = f.node
  · rw [hq, nodes_setNode_self, h]
  · rw [nodes_setNode_of_ne hq]

variable {f' : File}

lemma Wrote.trans {j : ℕ} {f'' : File} {d'' : Disk} (hj : j ≤ data.length)
    (h : Wrote f c data j d f' d')
    (h' : Wrote f' (splice c f.offset (data.take j)) (data.drop j) k d' f'' d'') :
    Wrote f c data (j + k) d f'' d'' := by
  have hfile := h.file
  subst hfile
  refine ⟨?_, ?_⟩
  · rw [h'.file]
    show File.mk f.name f.node (f.offset + j + k) = File.mk f.name f.node (f.offset + (j + k))
    rw [Nat.add_assoc]
  have hlen : (data.take j).length = j := length_take_of_le hj
  have hsplice := splice_splice c f.offset (data.take j) ((data.drop j).take k)
  rw [hlen, ← take_add] at hsplice
  rw [h'.nodes]
  show (fun q => if q = f.node then _ else d'.nodes q) = _
  rw [h.nodes, hsplice]
  funext q
  by_cases hq : q = f.node
  · rw [if_pos hq, hq, nodes_setNode_self]
  · rw [if_neg hq, nodes_setNode_of_ne hq, nodes_setNode_of_ne hq]

/-- All that is written comes in one piece; if nothing fails, it is all of `data`. -/
lemma writeRounds_spec (h : d.nodes f.node = some (.file c)) (hoff : f.offset ≤ c.length)
    (data : List UInt8) :
    ∃ k ≤ data.length,
      Wrote f c data k d (writeRounds n f data d).2.1 (writeRounds n f data d).2.2 ∧
      ((writeRounds n f data d).1 = .ok () → k = data.length) := by
  induction n generalizing f c data d with
  | zero =>
    cases data with
    | nil => exact ⟨0, Nat.le_refl 0, .nothing h hoff _ rfl, fun _ => rfl⟩
    | cons b rest => exact ⟨0, Nat.zero_le _, .nothing h hoff _ rfl, fun hok => by cases hok⟩
  | succ n ih =>
    cases data with
    | nil => exact ⟨0, Nat.le_refl 0, .nothing h hoff _ rfl, fun _ => rfl⟩
    | cons b rest =>
      have hspec := write_spec h (b :: rest)
      unfold writeRounds
      split
      · next f' d' heq =>
        -- `EAGAIN`: nothing has happened
        rw [heq] at hspec
        obtain ⟨rfl, hnodes⟩ := hspec
        obtain ⟨k, hk, hwrote, hok⟩ := ih (d := d') (hnodes ▸ h) hoff (b :: rest)
        refine ⟨k, hk, ⟨hwrote.file, ?_⟩, hok⟩
        rw [hwrote.nodes]
        show (fun q => if q = _ then _ else d'.nodes q) = _
        rw [hnodes]
        rfl
      · next e f' d' hne heq =>
        rw [heq] at hspec
        obtain ⟨rfl, hnodes⟩ := hspec
        exact ⟨0, Nat.zero_le _, .nothing h hoff _ hnodes, fun hok => by cases hok⟩
      · next j f' d' heq =>
        rw [heq] at hspec
        obtain ⟨hj, hwrote⟩ := hspec
        have hnode : d'.nodes f'.node = some (.file (splice c f.offset ((b :: rest).take j))) := by
          rw [hwrote.nodes, hwrote.file]
          exact nodes_setNode_self ..
        have hoff' : f'.offset ≤ (splice c f.offset ((b :: rest).take j)).length := by
          have hlen := length_splice_ge ((b :: rest).take j) hoff
          rw [length_take_of_le hj] at hlen
          rw [hwrote.file]
          exact hlen
        obtain ⟨k, hk, hwrote', hok⟩ := ih hnode hoff' ((b :: rest).drop j)
        rw [length_drop] at hk hok
        refine ⟨j + k, by omega, hwrote.trans hj hwrote', ?_⟩
        intro hdone
        have hall := hok hdone
        omega

lemma writeExactly_ok (h : d.nodes f.node = some (.file c))
    (hoff : f.offset ≤ c.length) (hwrite : d.writeExactly f data = (.ok (), f', d')) :
    f' = { f with offset := f.offset + data.length } ∧
      d'.nodes = (d.setNode f.node (some (.file (splice c f.offset data)))).nodes := by
  obtain ⟨k, -, hwrote, hok⟩ := writeRounds_spec h hoff data
  rw [writeExactly] at hwrite
  rw [hwrite] at hwrote hok
  have hk := hok rfl
  subst hk
  refine ⟨hwrote.file, ?_⟩
  rw [hwrote.nodes, take_length]

/-- Whatever becomes of the write, the file is there. -/
lemma writeExactly_file (h : d.nodes f.node = some (.file c)) (hoff : f.offset ≤ c.length) :
    ∃ c', (d.writeExactly f data).2.2.nodes f.node = some (.file c') := by
  obtain ⟨k, -, hwrote, -⟩ := writeRounds_spec h hoff data
  exact ⟨_, by rw [writeExactly, hwrote.nodes, nodes_setNode_self]⟩

/-! ## Reading -/

def readRounds (size : ℕ) : ℕ → File → Disk → Except Errno (List UInt8) × Disk
  | 0, _, d => (.error Errno.EIO, d)
  | n + 1, f, d =>
    match d.read f size with
    | (.error e, _, d) => (.error e, d)
    | (.ok data, f, d) =>
      if data.isEmpty then (.ok [], d)
      else
        match readRounds size n f d with
        | (.error e, d) => (.error e, d)
        | (.ok rest, d) => (.ok (data ++ rest), d)

/-- The whole file is read, `size` bytes at a time at most. A call that reads something reads at
least one byte. -/
def readAll (size : ℕ) (p : Path) (d : Disk) : Except Errno (List UInt8) × Disk :=
  match d.openFile p with
  | (.error e, d) => (.error e, d)
  | (.ok f, d) => readRounds size (((d.content p).getD []).length + 1) f d

/-! ## Reading a whole file -/

lemma length_read_le (h : d.read f n = (.ok data, f', d')) : data.length ≤ n := by
  unfold read at h
  dsimp only at h
  split at h
  · cases h
  split at h
  · cases h
    rw [length_take]
    omega
  · cases h

end Disk

end Adb.Lib

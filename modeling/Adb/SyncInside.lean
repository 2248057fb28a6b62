import Adb.Lib.Lexical
import Adb.Lib.Run
import Adb.SyncFrame
import Adb.SyncTree

/-!
# Where a pull writes

The device names the files of a directory that is pulled. `copy_remote_dir_local` leaves out `.` and
`..` and appends any other name to the local path, so the files are below the destination as long as
no name leads out of its directory.
-/

namespace Adb

open Lib FileSync SyncClient

/-! ## Paths -/

def lexical (p : Bytes) : List Bytes := Lexical.components slash (ascii ".") p

def StaysIn (name : Bytes) : Prop := Lexical.Stays (ascii "..") (lexical name)

instance (name : Bytes) : Decidable (StaysIn name) := inferInstanceAs (Decidable (Lexical.Stays _ _))

def isAbsolute (p : Bytes) : Bool := p.head? = some slash

/-- `p` is `dst` or below it, as the paths are written. -/
structure Inside (dst p : Bytes) : Prop where
  ne_nil : p ≠ []
  absolute : isAbsolute p = isAbsolute dst
  below : Lexical.Below (ascii "..") (isAbsolute dst) (lexical dst) (lexical p)

lemma Inside.refl {dst : Bytes} (h : dst ≠ []) : Inside dst dst := ⟨h, rfl, .refl ..⟩

lemma Inside.congr {dst p q : Bytes} (h : Inside dst p) (hne : q ≠ [])
    (habs : isAbsolute q = isAbsolute p) (hlex : lexical q = lexical p) : Inside dst q :=
  ⟨hne, habs.trans h.absolute, hlex ▸ h.below⟩

variable {dst p q name : Bytes}

lemma isAbsolute_append (h : p ≠ []) : isAbsolute (p ++ q) = isAbsolute p := by
  cases p with
  | nil => exact absurd rfl h
  | cons c rest => rfl

lemma ensureTrailingSeparator_ne_nil : ensureTrailingSeparator p ≠ [] := by
  unfold ensureTrailingSeparator
  split
  · next h =>
    intro hnil
    rw [hnil] at h
    cases h
  · simp

lemma isAbsolute_ensureTrailingSeparator (h : p ≠ []) :
    isAbsolute (ensureTrailingSeparator p) = isAbsolute p := by
  unfold ensureTrailingSeparator
  split
  · rfl
  · exact isAbsolute_append h

lemma components_ensureTrailingSeparator_append (dot p name : Bytes) :
    Lexical.components slash dot (ensureTrailingSeparator p ++ name) =
      Lexical.components slash dot p ++ Lexical.components slash dot name := by
  unfold ensureTrailingSeparator
  split
  · next hlast =>
    obtain ⟨front, rfl⟩ := List.getLast?_eq_some_iff.mp hlast
    have hp : Lexical.components slash dot (front ++ [slash]) =
        Lexical.components slash dot front := by
      rw [Lexical.components_append_cons, Lexical.components_nil, List.append_nil]
    rw [hp, List.append_assoc]
    exact Lexical.components_append_cons
  · rw [List.append_assoc]
    exact Lexical.components_append_cons

lemma components_ensureTrailingSeparator (dot p : Bytes) :
    Lexical.components slash dot (ensureTrailingSeparator p) = Lexical.components slash dot p := by
  have h := components_ensureTrailingSeparator_append dot p []
  rwa [List.append_nil, Lexical.components_nil, List.append_nil] at h

lemma Inside.directory (h : Inside dst p) : Inside dst (ensureTrailingSeparator p) :=
  h.congr ensureTrailingSeparator_ne_nil (isAbsolute_ensureTrailingSeparator h.ne_nil)
    (components_ensureTrailingSeparator ..)

lemma Inside.child (h : Inside dst p) (hname : StaysIn name) :
    Inside dst (ensureTrailingSeparator p ++ name) := by
  refine ⟨by simp [ensureTrailingSeparator_ne_nil], ?_, ?_⟩
  · rw [isAbsolute_append ensureTrailingSeparator_ne_nil,
      isAbsolute_ensureTrailingSeparator h.ne_nil]
    exact h.absolute
  · have hlex : lexical (ensureTrailingSeparator p ++ name) = lexical p ++ lexical name :=
      components_ensureTrailingSeparator_append ..
    exact hlex ▸ h.below.append hname

/-! ## The directory itself -/

lemma append_slashes : ∃ k, p = p.rdropWhile (· = slash) ++ List.replicate k slash := by
  refine ⟨(p.rtakeWhile (· = slash)).length, ?_⟩
  have hall : p.rtakeWhile (· = slash) = List.replicate (p.rtakeWhile (· = slash)).length slash := by
    apply List.eq_replicate_of_mem
    intro c hc
    simpa using List.mem_rtakeWhile_imp hc
  rw [← hall]
  exact List.rdropWhile_append_rtakeWhile.symm

lemma lexical_append_slashes {k : ℕ} : lexical (p ++ List.replicate k slash) = lexical p := by
  cases k with
  | zero => rw [List.replicate_zero, List.append_nil]
  | succ k =>
    have h : lexical (p ++ (List.replicate (k + 1) slash ++ [])) = lexical p ++ lexical [] :=
      Lexical.components_append_separators
    rwa [List.append_nil, show lexical [] = [] from Lexical.components_nil .., List.append_nil] at h

/-- How `Dirname` and `Basename` take a path apart. -/
inductive Parts (p : Bytes) : Bytes → Bytes → Prop
  | root (k : ℕ) (hp : p = List.replicate (k + 1) slash) : Parts p (ascii "/") (ascii "/")
  | relative {base : Bytes} (k : ℕ) (hbase : base ≠ [] ∧ slash ∉ base)
      (hp : p = base ++ List.replicate k slash) : Parts p (ascii ".") base
  | top {base : Bytes} (i k : ℕ) (hbase : base ≠ [] ∧ slash ∉ base)
      (hp : p = List.replicate (i + 1) slash ++ (base ++ List.replicate k slash)) :
      Parts p (ascii "/") base
  | below {front base : Bytes} (i k : ℕ) (hfront : front ≠ [] ∧ front.getLast? ≠ some slash)
      (hbase : base ≠ [] ∧ slash ∉ base)
      (hp : p = front ++ (List.replicate (i + 1) slash ++ (base ++ List.replicate k slash))) :
      Parts p front base

lemma getLast?_rdropWhile_ne (l : Bytes) : (l.rdropWhile (· = slash)).getLast? ≠ some slash := by
  intro h
  have hne : l.rdropWhile (· = slash) ≠ [] := by
    intro hnil
    simp [hnil] at h
  have hlast := List.rdropWhile_last_not (· = slash) l hne
  rw [List.getLast?_eq_some_getLast hne] at h
  simp [Option.some.inj h] at hlast

lemma parts (hp : p ≠ []) : Parts p (dirname p) (basename p) := by
  obtain ⟨k, hk⟩ := append_slashes
  have hlast := getLast?_rdropWhile_ne p
  generalize hb : p.rdropWhile (· = slash) = b at hk hlast
  by_cases hbnil : b = []
  · -- there is nothing but separators
    have hdir : dirname p = ascii "/" := by simp [dirname, hp, hb, hbnil]
    have hbase : basename p = ascii "/" := by simp [basename, hp, hb, hbnil]
    rw [hbnil] at hk
    cases k with
    | zero => exact absurd hk hp
    | succ k =>
      rw [hdir, hbase]
      exact .root k hk
  have hbase : basename p = b.rtakeWhile (· ≠ slash) := by simp [basename, hp, hb, hbnil]
  have hsplit : b.rdropWhile (· ≠ slash) ++ b.rtakeWhile (· ≠ slash) = b :=
    List.rdropWhile_append_rtakeWhile
  have hname : basename p ≠ [] ∧ slash ∉ basename p := by
    rw [hbase]
    constructor
    · rw [List.getLast?_eq_some_getLast hbnil] at hlast
      simpa [hbnil] using hlast
    · intro hmem
      simpa using List.mem_rtakeWhile_imp hmem
  generalize hd : b.rdropWhile (· ≠ slash) = dir at hsplit
  rw [← hbase] at hsplit
  have hdir : dirname p = if dir.isEmpty then ascii "."
      else if (dir.rdropWhile (· = slash)).isEmpty then ascii "/"
      else dir.rdropWhile (· = slash) := by
    have hp' : p.isEmpty = false := by simpa using hp
    have hb' : b.isEmpty = false := by simpa using hbnil
    simp only [dirname, hb, hd, hp', hb', Bool.false_eq_true, if_false]
  rw [← hsplit] at hk
  by_cases hdnil : dir = []
  · rw [hdir, hdnil]
    rw [hdnil] at hk
    exact .relative k hname hk
  -- the directory ends in separators
  obtain ⟨j, hj⟩ := append_slashes (p := dir)
  have hfrontLast := getLast?_rdropWhile_ne dir
  have hj0 : j ≠ 0 := by
    intro hj0
    rw [hj0, List.replicate_zero, List.append_nil] at hj
    subst hd
    have hnot := List.rdropWhile_last_not (· ≠ slash) b hdnil
    rw [← hj, List.getLast?_eq_some_getLast hdnil] at hfrontLast
    exact hfrontLast (congrArg some (by simpa using hnot))
  obtain ⟨i, rfl⟩ : ∃ i, j = i + 1 := ⟨j - 1, by omega⟩
  have hisEmpty : dir.isEmpty = false := by simpa using hdnil
  generalize dir.rdropWhile (· = slash) = front at hdir hj hfrontLast
  rw [hdir, hisEmpty]
  rw [hj] at hk
  by_cases hfront : front = []
  · rw [hfront]
    exact .top i k hname (by simpa [hfront] using hk)
  have hfrontEmpty : front.isEmpty = false := by simpa using hfront
  rw [hfrontEmpty]
  exact .below i k ⟨hfront, hfrontLast⟩ hname (by simpa using hk)

lemma dirname_basename :
    dirname p ≠ [] ∧ isAbsolute (dirname p) = isAbsolute p ∧
      lexical (dirname p) ++ lexical (basename p) = lexical p := by
  by_cases hp : p = []
  · rw [hp]
    decide
  have hnot {base : Bytes} (h : base ≠ [] ∧ slash ∉ base) : isAbsolute base = false := by
    cases base with
    | nil => rfl
    | cons c rest =>
      have hc : c ≠ slash := fun hc => h.2 (by simp [hc])
      simp [isAbsolute, hc]
  have hbelow {base : Bytes} (front : Bytes) (i k : ℕ) :
      lexical (front ++ (List.replicate (i + 1) slash ++ (base ++ List.replicate k slash))) =
        lexical front ++ lexical base := by
    rw [← lexical_append_slashes (p := base)]
    exact Lexical.components_append_separators
  have hparts := parts hp
  generalize dirname p = dir, basename p = name at hparts
  cases hparts with
  | root k hk =>
    rw [hk]
    refine ⟨by decide, rfl, ?_⟩
    have hlex := lexical_append_slashes (p := []) (k := k + 1)
    rw [List.nil_append] at hlex
    rw [hlex]
    decide
  | relative k hbase hk =>
    refine ⟨by decide, ?_, ?_⟩
    · rw [hk, isAbsolute_append hbase.1, hnot hbase]
      rfl
    · rw [hk, lexical_append_slashes]
      rfl
  | top i k hbase hk =>
    rw [hk]
    exact ⟨by decide, rfl, (hbelow [] i k).symm⟩
  | below i k hfront hbase hk =>
    rw [hk]
    exact ⟨hfront.1, (isAbsolute_append hfront.1).symm, (hbelow _ i k).symm⟩

lemma Inside.make (h : Inside dst p) (rpath : Bytes) (hname : StaysIn name) (mode : UInt32) :
    Inside dst (CopyInfo.make p rpath name mode).lpath := by
  unfold CopyInfo.make
  split
  · exact (h.child hname).directory
  · exact h.child hname

end Adb

namespace Adb.SyncClient

open Lib FileSync

variable {dst rpath lpath : Bytes} {σ τ ρ : Client} {paths paths' : List Bytes}

/-! ## What the device lists -/

/-- A name that is not left out leads out of its directory. -/
def Climbs (name : Bytes) : Prop := isDotOrDotDot name = false ∧ ¬ StaysIn name

/-- If no name that the device has listed since `σ` climbs, then everything that was created, unlinked
or written since then is below `dst`, and so are `paths`. -/
def Contained (dst : Bytes) (σ : Client) (paths : List Bytes) (τ : Client) : Prop :=
  ∃ names targets, τ.names = σ.names ++ names ∧ τ.targets = σ.targets ++ targets ∧
    ((∀ name ∈ names, ¬ Climbs name) → ∀ p ∈ paths ++ targets, Inside dst p)

lemma Contained.refl (dst : Bytes) (σ : Client) : Contained dst σ [] σ :=
  ⟨[], [], by simp, by simp, by simp⟩

lemma Contained.congr (h : Contained dst σ paths τ) (hnames : ρ.names = τ.names)
    (htargets : ρ.targets = τ.targets) : Contained dst σ paths ρ := by
  unfold Contained
  rw [hnames, htargets]
  exact h

lemma Contained.talks (h : Contained dst σ paths τ) (hρ : Talks τ ρ) :
    Contained dst σ paths ρ := h.congr hρ.names hρ.targets

lemma Contained.add (h : Contained dst σ paths τ)
    (hadd : (∀ p ∈ paths, Inside dst p) → ∀ p ∈ paths', Inside dst p) :
    Contained dst σ paths' τ := by
  obtain ⟨names, targets, hnames, htargets, hc⟩ := h
  refine ⟨names, targets, hnames, htargets, ?_⟩
  intro hstay p hp
  have hin := hc hstay
  obtain hp | hp := List.mem_append.mp hp
  · exact hadd (fun q hq => hin q (by simp [hq])) p hp
  · exact hin p (by simp [hp])

lemma Contained.subset (h : Contained dst σ paths τ) (hsub : paths' ⊆ paths) :
    Contained dst σ paths' τ := h.add fun hin p hp => hin p (hsub hp)

lemma Contained.listed {name : Bytes} (h : Contained dst σ paths τ)
    (hnames : ρ.names = τ.names ++ [name]) (htargets : ρ.targets = τ.targets)
    (hadd : ¬ Climbs name → (∀ p ∈ paths, Inside dst p) → ∀ p ∈ paths', Inside dst p) :
    Contained dst σ paths' ρ := by
  obtain ⟨names, targets, hn, ht, hc⟩ := h
  refine ⟨names ++ [name], targets, by rw [hnames, hn, List.append_assoc], htargets.trans ht, ?_⟩
  intro hstay p hp
  have hin := hc fun x hx => hstay x (by simp [hx])
  obtain hp | hp := List.mem_append.mp hp
  · exact hadd (hstay name (by simp)) (fun q hq => hin q (by simp [hq])) p hp
  · exact hin p (by simp [hp])

lemma Contained.target {p : Bytes} (h : Contained dst σ paths τ) (hp : p ∈ paths)
    (hnames : ρ.names = τ.names) (htargets : ρ.targets = τ.targets ++ [p]) :
    Contained dst σ paths ρ := by
  obtain ⟨names, targets, hn, ht, hc⟩ := h
  refine ⟨names, targets ++ [p], hnames.trans hn, by rw [htargets, ht, List.append_assoc], ?_⟩
  intro hstay q hq
  have hin := hc hstay
  rw [← List.append_assoc] at hq
  obtain hq | hq := List.mem_append.mp hq
  · exact hin q hq
  · rw [List.mem_singleton.mp hq]
    exact hin p (by simp [hp])

def PullLists.entries (lists : PullLists) : List CopyInfo :=
  lists.files ++ lists.dirs ++ lists.links

variable {others : List Bytes}

/-- Nothing has been listed, and no path has been added to those that are written. -/
def Quiet (σ τ : Client) : Prop := τ.names = σ.names ∧ τ.targets = σ.targets

lemma Quiet.refl (σ : Client) : Quiet σ σ := ⟨rfl, rfl⟩

lemma Quiet.trans (h : Quiet σ τ) (h' : Quiet τ ρ) : Quiet σ ρ :=
  ⟨h'.1.trans h.1, h'.2.trans h.2⟩

lemma Talks.quiet (h : Talks σ τ) : Quiet σ τ := ⟨h.names, h.targets⟩

lemma Contained.quiet (h : Contained dst σ paths τ) (hρ : Quiet τ ρ) : Contained dst σ paths ρ :=
  h.congr hρ.1 hρ.2

end Adb.SyncClient

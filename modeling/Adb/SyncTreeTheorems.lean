import Adb.SyncInside

/-!
# What is pushed

The directories that a push makes before it sends files into them, and the files that it leaves
out because the device has them.
-/

namespace Adb.SyncClient

open Lib FileSync List

/-! ## The directories above a target -/

def segments (p : Bytes) : List Bytes := Lexical.components slash [] p

/-- The directories below the root or the current directory that lead to `p`, and `p`: each is the
one before it with one name more. -/
structure LeadsTo (p : Bytes) (dirs : List Bytes) : Prop where
  names : dirs.map segments = (segments p).inits.tail
  last : dirs.getLast? = some p
  absolute : ∀ d ∈ dirs, isAbsolute d = isAbsolute p

variable {base : Bytes}

lemma segments_name (h : base ≠ [] ∧ slash ∉ base) (k : ℕ) :
    segments (base ++ List.replicate k slash) = [base] := by
  have hsplit : ([slash].intercalate [base]).splitOn slash = [base] :=
    splitOn_intercalate slash (by simpa using h.2) (by simp)
  have hone : segments base = [base] := by
    rw [intercalate_singleton] at hsplit
    simp [segments, Lexical.components, hsplit, h.1]
  cases k with
  | zero => rw [replicate_zero, List.append_nil, hone]
  | succ k =>
    have hsep : segments (base ++ (List.replicate (k + 1) slash ++ [])) =
        segments base ++ segments [] := Lexical.components_append_separators
    rwa [List.append_nil, hone] at hsep

lemma segments_below {front : Bytes} (h : base ≠ [] ∧ slash ∉ base) (i k : ℕ) :
    segments (front ++ (List.replicate (i + 1) slash ++ (base ++ List.replicate k slash))) =
      segments front ++ [base] := by
  rw [← segments_name h k]
  exact Lexical.components_append_separators

variable {p : Bytes}

lemma segments_ne_nil (hp : p ≠ []) (hlast : p.getLast? ≠ some slash) : segments p ≠ [] := by
  have hparts := parts hp
  generalize dirname p = dir, basename p = base at hparts
  cases hparts with
  | root k hk => exact absurd (by rw [hk, replicate_succ', List.getLast?_concat]) hlast
  | relative k hbase hk => rw [hk, segments_name hbase]; simp
  | top i k hbase hk =>
    rw [hk, ← nil_append (List.replicate (i + 1) slash ++ _), segments_below hbase]
    simp
  | below i k hfront hbase hk => rw [hk, segments_below hbase]; simp

lemma LeadsTo.concat {front : Bytes} {dirs : List Bytes}
    (hnames : dirs.map segments = (segments front).inits.tail)
    (habs : ∀ d ∈ dirs, isAbsolute d = isAbsolute p) (hp : segments p = segments front ++ [base]) :
    LeadsTo p (dirs ++ [p]) where
  names := by
    have hinits : (segments front).inits ≠ [] := by cases segments front <;> simp
    rw [hp, inits_append, tail_append_of_ne_nil hinits, map_append, hnames]
    simp [hp]
  last := List.getLast?_concat
  absolute := by simpa [or_imp, forall_and] using habs

lemma parents_relative (n : ℕ) (h : isAbsolute p = false) : parents n p = none := by
  induction n generalizing p with
  | zero => rfl
  | succ n ih =>
    have hroot : p ≠ ascii "/" := by
      rintro rfl
      cases h
    rw [parents, if_neg hroot, ih (dirname_basename.2.1.trans h)]
    rfl

lemma parents_absolute (n : ℕ) (h : isAbsolute p = true) (hnames : segments p ≠ [])
    (hn : p.length < n) : ∃ dirs, parents n p = some dirs ∧ LeadsTo p dirs := by
  induction n generalizing p with
  | zero => omega
  | succ n ih =>
    have hne : p ≠ [] := by
      rintro rfl
      cases h
    have hroot : p ≠ ascii "/" := by
      rintro rfl
      exact hnames (by decide)
    have hparts := parts hne
    rw [parents, if_neg hroot]
    generalize dirname p = dir, basename p = base at hparts ⊢
    cases hparts with
    | root k hk =>
      have hnil : segments (List.replicate (k + 1) slash ++ []) = segments [] :=
        Lexical.components_separators_append
      rw [List.append_nil, ← hk] at hnil
      exact absurd hnil hnames
    | relative k hbase hk =>
      rw [hk, isAbsolute_append hbase.1, isAbsolute, decide_eq_true_eq] at h
      exact absurd (mem_of_mem_head? h) hbase.2
    | top i k hbase hk =>
      have hsegments : segments ([] ++ _) = segments [] ++ [base] := segments_below hbase i k
      rw [nil_append, ← hk] at hsegments
      cases n with
      | zero => exact absurd (length_pos_of_ne_nil hne) (by omega)
      | succ n => exact ⟨[] ++ [p], rfl, .concat rfl (by simp) hsegments⟩
    | below i k hfront hbase hk =>
      have habs : isAbsolute dir = isAbsolute p := by rw [hk, isAbsolute_append hfront.1]
      have hlength : dir.length < p.length := by
        rw [hk]
        simp only [length_append, length_replicate]
        omega
      obtain ⟨dirs, hdirs, hleads⟩ := ih (habs.trans h) (segments_ne_nil hfront.1 hfront.2) (by omega)
      refine ⟨_, by rw [hdirs]; rfl, .concat hleads.names ?_ (by rw [hk, segments_below hbase])⟩
      intro d hd
      rw [hleads.absolute d hd, habs]

/-- A relative path has no root above it: `Dirname` comes to `.` and stays there. -/
theorem parents_leadTo_iff {rpath : Bytes} (hrpath : segments rpath ≠ []) :
    (∃ n dirs, parents n (ensureTrailingSeparator rpath) = some dirs ∧
      LeadsTo (ensureTrailingSeparator rpath) dirs) ↔ isAbsolute rpath = true := by
  have hne : rpath ≠ [] := by
    rintro rfl
    exact hrpath (Lexical.components_nil ..)
  rw [← isAbsolute_ensureTrailingSeparator hne]
  constructor
  · rintro ⟨n, dirs, hdirs, -⟩
    by_contra hrel
    rw [parents_relative n (Bool.eq_false_iff.mpr hrel)] at hdirs
    cases hdirs
  · intro habs
    have hnames : segments (ensureTrailingSeparator rpath) ≠ [] := by
      rwa [segments, components_ensureTrailingSeparator]
    exact ⟨_, parents_absolute _ habs hnames (Nat.lt_succ_self _)⟩

theorem parents_leadTo_sdcard :
    ∃ n dirs, parents n (ensureTrailingSeparator (ascii "/sdcard//a")) = some dirs ∧
      LeadsTo (ensureTrailingSeparator (ascii "/sdcard//a")) dirs :=
  (parents_leadTo_iff (by decide)).mpr (by decide)

/-- `adb push dir a`, in which `a` is not on the device. -/
theorem parents_endless : ¬ ∃ n dirs, parents n (ensureTrailingSeparator (ascii "a")) = some dirs := by
  rintro ⟨n, dirs, hdirs⟩
  rw [parents_relative n (by decide)] at hdirs
  cases hdirs

/-! ## Files that are left out -/

/-- The device has the time of the file. That of a link cannot be set, and may be later. -/
def timeMatches (kind : UInt32) (time mtime : UInt64) : Bool :=
  if kind = S_IFLNK then time.toInt64 ≤ mtime.toInt64 else mtime = time

def identical (ci : CopyInfo) (st : Stat) : Bool :=
  ci.mode &&& S_IFMT = st.mode &&& S_IFMT && (st.size = ci.size &&
    timeMatches (ci.mode &&& S_IFMT) ci.time st.mtime)

variable {ci : CopyInfo} {st : Stat}

lemma timeMatches_eq (kind : UInt32) (time mtime : UInt64) :
    (decide (kind = S_IFREG) && decide (mtime = time) ||
      decide (kind = S_IFLNK) && decide (time.toInt64 ≤ mtime.toInt64)) =
      ((decide (kind = S_IFREG) || decide (kind = S_IFLNK)) && timeMatches kind time mtime) := by
  unfold timeMatches
  by_cases hlink : kind = S_IFLNK
  · have hreg : S_IFLNK ≠ S_IFREG := by decide
    simp [hlink, hreg]
  · simp [hlink]

lemma sameFile_eq (mode mtime : UInt32) :
    sameFile mode mtime st = (shouldPushFile (mode &&& st.mode) &&
      timeMatches (mode &&& st.mode &&& S_IFMT) mtime.toUInt64 st.mtime) :=
  timeMatches_eq ..

lemma upToDate_eq : upToDate ci st = (decide (st.size = ci.size) &&
    (shouldPushFile (ci.mode &&& st.mode) &&
      timeMatches (ci.mode &&& st.mode &&& S_IFMT) ci.time st.mtime)) := by
  rw [upToDate, shouldPushFile]
  exact congrArg _ (timeMatches_eq ..)

lemma common_of_same (hsame : ci.mode &&& S_IFMT = st.mode &&& S_IFMT) :
    ci.mode &&& st.mode &&& S_IFMT = ci.mode &&& S_IFMT := by
  rw [UInt32.and_assoc, ← hsame, ← UInt32.and_assoc, UInt32.and_self]

/-- Files of different kinds are told apart by the bits of their modes, which a link or a socket has
in common with a file, and `sync_send` compares neither sizes nor more than 32 bits of the time. -/
theorem skips_identical_iff (ci : CopyInfo) (st : Stat) (hkind : shouldPushFile ci.mode = true) :
    (sameFile ci.mode ci.time.toUInt32 st = identical ci st ∧ upToDate ci st = identical ci st) ↔
      if ci.mode &&& S_IFMT = st.mode &&& S_IFMT then
        timeMatches (ci.mode &&& S_IFMT) ci.time.toUInt32.toUInt64 st.mtime =
          (decide (st.size = ci.size) && timeMatches (ci.mode &&& S_IFMT) ci.time st.mtime)
      else
        shouldPushFile (ci.mode &&& st.mode) = true →
          timeMatches (ci.mode &&& st.mode &&& S_IFMT) ci.time.toUInt32.toUInt64 st.mtime = false ∧
            (st.size = ci.size →
              timeMatches (ci.mode &&& st.mode &&& S_IFMT) ci.time st.mtime = false) := by
  rw [sameFile_eq, upToDate_eq, identical]
  by_cases hsame : ci.mode &&& S_IFMT = st.mode &&& S_IFMT
  · have hpush : shouldPushFile (ci.mode &&& st.mode) = true := by
      rwa [shouldPushFile, isKind, isKind, common_of_same hsame]
    rw [if_pos hsame, common_of_same hsame, hpush]
    simp [hsame]
  · rw [if_neg hsame]
    cases shouldPushFile (ci.mode &&& st.mode) <;> simp [hsame]

theorem skips_identical_file :
    sameFile 0o100644 7 { mode := 0o100600, size := 3, mtime := 7 } = true ∧
      upToDate { lpath := [], rpath := [], mode := 0o100644, size := 3, time := 7 }
        { mode := 0o100600, size := 3, mtime := 7 } = true :=
  (skips_identical_iff { lpath := [], rpath := [], mode := 0o100644, size := 3, time := 7 }
    { mode := 0o100600, size := 3, mtime := 7 } (by decide)).mpr (by decide)

/-- A file of another size that was written in the same second. -/
theorem skips_different :
    sameFile 0o100644 7 { mode := 0o100644, size := 2, mtime := 7 } = true ∧
      upToDate { lpath := [], rpath := [], mode := 0o100644, size := 3, time := 7 }
        { mode := 0o100644, size := 2, mtime := 7 } = false ∧
      identical { lpath := [], rpath := [], mode := 0o100644, size := 3, time := 7 }
        { mode := 0o100644, size := 2, mtime := 7 } = false := by
  decide

end Adb.SyncClient

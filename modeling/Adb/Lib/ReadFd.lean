import Adb.Lib.Disk

/-!
# Reading from a descriptor

A descriptor has bytes that have not been read, and outcomes for the calls of `read` that come next:
a call returns so many bytes at most, or fails. After the last of them a call returns all it can. At
the end of the bytes `read` returns nothing.
-/

namespace Adb.Lib

open List

/-- What becomes of a call of `read`. At least one byte is read if there is one. -/
inductive ReadOutcome
  | upTo (n : ℕ)
  | fails (e : Errno)
deriving DecidableEq, Repr

structure ReadFd where
  input : List UInt8 := []
  outcomes : List ReadOutcome := []
deriving DecidableEq, Repr

namespace ReadFd

def read (len : ℕ) (fd : ReadFd) : Except Errno (List UInt8) × ReadFd :=
  match fd.outcomes with
  | [] => (.ok (fd.input.take len), { fd with input := fd.input.drop len })
  | .upTo n :: rest =>
    let k := min (max n 1) len
    (.ok (fd.input.take k), { input := fd.input.drop k, outcomes := rest })
  | .fails e :: rest => (.error e, { fd with outcomes := rest })

def readRounds : ℕ → ℕ → ReadFd → Bool × List UInt8 × ReadFd
  | _, 0, fd => (true, [], fd)
  | 0, _ + 1, fd => (false, [], fd)
  | fuel + 1, len + 1, fd =>
    match fd.read (len + 1) with
    | (.error _, fd) => (false, [], fd)
    | (.ok [], fd) => (false, [], fd)
    | (.ok (b :: data), fd) =>
      let (ok, more, fd) := readRounds fuel (len - data.length) fd
      (ok, b :: data ++ more, fd)

def readExactly (len : ℕ) (fd : ReadFd) : Bool × List UInt8 × ReadFd := readRounds len len fd

variable {fd fd' : ReadFd} {len fuel : ℕ} {data : List UInt8}

lemma read_ok (h : fd.read len = (.ok data, fd')) :
    fd.input = data ++ fd'.input ∧ data.length ≤ len ∧ fd'.outcomes <:+ fd.outcomes ∧
      (0 < len → data = [] → fd.input = []) := by
  have htake : ∀ k, k ≤ len → (0 < len → 0 < k) →
      fd.input = fd.input.take k ++ fd.input.drop k ∧ (fd.input.take k).length ≤ len ∧
        (0 < len → fd.input.take k = [] → fd.input = []) := by
    intro k hk hpos
    refine ⟨(take_append_drop k _).symm, ?_, ?_⟩
    · rw [length_take]
      omega
    intro hlen hnil
    rw [take_eq_nil_iff] at hnil
    have hk' := hpos hlen
    obtain hk0 | hinput := hnil
    · omega
    · exact hinput
  unfold read at h
  split at h
  · cases h
    obtain ⟨hsplit, hle, hnil⟩ := htake len (Nat.le_refl _) id
    exact ⟨hsplit, hle, suffix_rfl, hnil⟩
  · next n rest heq =>
    cases h
    obtain ⟨hsplit, hle, hnil⟩ := htake (min (max n 1) len) (Nat.min_le_right _ _)
      (by intro hlen; omega)
    exact ⟨hsplit, hle, by rw [heq]; exact suffix_cons _ _, hnil⟩
  · cases h

lemma read_error {e : Errno} (h : fd.read len = (.error e, fd')) :
    .fails e ∈ fd.outcomes ∧ fd'.input = fd.input ∧ fd'.outcomes <:+ fd.outcomes := by
  unfold read at h
  split at h
  · cases h
  · cases h
  next e' rest heq =>
  cases h
  exact ⟨by simp [heq], rfl, by rw [heq]; exact suffix_cons _ _⟩

/-- Whatever becomes of the calls, what is read comes off the front; if all goes well it has the
length that was asked for. -/
lemma readRounds_spec (len : ℕ) (fd : ReadFd) :
    fd.input = (readRounds fuel len fd).2.1 ++ (readRounds fuel len fd).2.2.input ∧
      (readRounds fuel len fd).2.1.length ≤ len ∧
      (readRounds fuel len fd).2.2.outcomes <:+ fd.outcomes ∧
      ((readRounds fuel len fd).1 = true → (readRounds fuel len fd).2.1.length = len) := by
  induction fuel generalizing len fd with
  | zero =>
    cases len with
    | zero => simp [readRounds]
    | succ len => simp [readRounds]
  | succ fuel ih =>
    cases len with
    | zero => simp [readRounds]
    | succ len =>
      rw [readRounds]
      split
      · next heq =>
        obtain ⟨-, hinput, hsuffix⟩ := read_error heq
        exact ⟨hinput.symm, by simp, hsuffix, by simp⟩
      · next heq =>
        obtain ⟨hinput, -, hsuffix, -⟩ := read_ok heq
        exact ⟨hinput, by simp, hsuffix, by simp⟩
      next b data fd' heq =>
      obtain ⟨hinput, hle, hsuffix, -⟩ := read_ok heq
      have hrest := ih (len - data.length) fd'
      generalize readRounds fuel (len - data.length) fd' = result at hrest ⊢
      obtain ⟨ok, more, fd''⟩ := result
      obtain ⟨hinput', hle', hsuffix', hlen'⟩ := hrest
      dsimp only at hinput' hle' hsuffix' hlen' ⊢
      rw [length_cons] at hle
      refine ⟨?_, ?_, hsuffix'.trans hsuffix, ?_⟩
      · rw [hinput, append_assoc, ← hinput']
      · simp only [length_append, length_cons]
        omega
      intro hok
      have hmore := hlen' hok
      simp only [length_append, length_cons]
      omega

lemma readExactly_spec (fd : ReadFd) :
    fd.input = (fd.readExactly len).2.1 ++ (fd.readExactly len).2.2.input ∧
      (fd.readExactly len).2.1.length ≤ len ∧
      (fd.readExactly len).2.2.outcomes <:+ fd.outcomes ∧
      ((fd.readExactly len).1 = true → (fd.readExactly len).2.1.length = len) :=
  readRounds_spec len fd

def Reliable (fd : ReadFd) : Prop := ∀ e, .fails e ∉ fd.outcomes

lemma Reliable.suffix (h : fd.Reliable) (hsuffix : fd'.outcomes <:+ fd.outcomes) :
    fd'.Reliable := fun e he => h e (hsuffix.subset he)

lemma readRounds_reliable (h : fd.Reliable) (hlen : len ≤ fd.input.length) (hfuel : len ≤ fuel) :
    (readRounds fuel len fd).1 = true := by
  induction fuel generalizing len fd with
  | zero =>
    obtain rfl : len = 0 := by omega
    rfl
  | succ fuel ih =>
    cases len with
    | zero => rfl
    | succ len =>
      rw [readRounds]
      split
      · next heq => exact absurd (read_error heq).1 (h _)
      · next heq =>
        have hnil := (read_ok heq).2.2.2 (Nat.succ_pos len) rfl
        rw [hnil] at hlen
        simp at hlen
      · next b data fd' heq =>
        obtain ⟨hinput, -, hsuffix, -⟩ := read_ok heq
        have hlength := congrArg List.length hinput
        simp only [length_append, length_cons] at hlength
        exact ih (h.suffix hsuffix) (by omega) (by omega)

end ReadFd

end Adb.Lib

import Adb.FastDeploy
import Mathlib.Data.Nat.Bitwise
import Mathlib.Tactic.Ring

/-!
# A patch rebuilds the file
-/

namespace Adb.FastDeploy

open Lib List

variable {D H : Bytes} {s : InputStream} {n buffer : ℕ} {x : Int}

/-! ## Numbers -/

lemma long_eq (h : -2 ^ 63 ≤ x) (h' : x < 2 ^ 63) : long x = x := by
  exact Int.bmod_eq_of_le (by omega) (by omega)

lemma int_eq (h : 0 ≤ x) (h' : x < 2 ^ 31) : int x = x := by
  exact Int.bmod_eq_of_le (by omega) (by omega)

lemma signed_eq (h : n < 2 ^ 63) : signed n = n := by
  exact Int.bmod_eq_of_le (by omega) (by omega)

lemma unsigned_natCast (h : n < 2 ^ 64) : unsigned n = n := by
  unfold unsigned
  omega

lemma long_written {w n m : ℕ} (h : w + (n + m) < 2 ^ 31) :
    long (w + long (n + m)) = (w + (n + m) : ℕ) := by
  rw [long_eq (x := n + m) (by omega) (by omega), long_eq (by omega) (by omega)]
  omega

@[simp] lemma length_lowBytes (n y : ℕ) : (lowBytes n y).length = n := by
  induction n generalizing y with
  | zero => rfl
  | succ n ih => simp [lowBytes, ih]

@[simp] lemma length_writeFormattedLong (value : Int) :
    (writeFormattedLong value).length = 8 := length_lowBytes 8 _

/-! ## Streams -/

variable {rest : Bytes}

lemma readByte_of_left {b : UInt8} (h : s.left = b :: rest) :
    ∃ s', s.readByte = ((b.toNat : Int), s') ∧ s'.left = rest := by
  refine ⟨{ s with pos := s.pos + 1 }, ?_, ?_⟩
  · simp [InputStream.readByte, h]
  have hdrop : s.data.drop (s.pos + 1) = (s.data.drop s.pos).drop 1 := by simp
  show s.data.drop (s.pos + 1) = rest
  rw [hdrop, show s.data.drop s.pos = b :: rest from h]
  rfl

lemma or_byte {result bitshift k : ℕ} (hresult : result < 2 ^ bitshift) (hk : k < 256)
    (hbits : bitshift + 8 ≤ 64) :
    result ||| unsigned ((k : Int) <<< bitshift) = result + k * 2 ^ bitshift ∧
      result + k * 2 ^ bitshift < 2 ^ (bitshift + 8) := by
  have hpow : 2 ^ (bitshift + 8) = 256 * 2 ^ bitshift := by rw [Nat.pow_add]; omega
  have hle : 2 ^ (bitshift + 8) ≤ 2 ^ 64 := Nat.pow_le_pow_right (by omega) hbits
  have hlt : k * 2 ^ bitshift + 2 ^ bitshift ≤ 256 * 2 ^ bitshift := by
    rw [← Nat.succ_mul]
    exact Nat.mul_le_mul_right _ hk
  have hshift : unsigned ((k : Int) <<< bitshift) = k <<< bitshift := by
    refine unsigned_natCast ?_
    omega
  refine ⟨?_, by omega⟩
  rw [hshift, Nat.or_comm, ← Nat.shiftLeft_add_eq_or_of_lt hresult, Nat.shiftLeft_eq, Nat.add_comm]

lemma readBits_lowBytes (n bitshift y result : ℕ) (hresult : result < 2 ^ bitshift)
    (hbits : bitshift + 8 * n ≤ 64) (hy : y < 2 ^ (8 * n)) (h : s.left = lowBytes n y ++ rest) :
    ∃ s', readBits n bitshift result s = (result + y * 2 ^ bitshift, s') ∧ s'.left = rest := by
  induction n generalizing bitshift y result s with
  | zero =>
    refine ⟨s, ?_, h⟩
    have hzero : y = 0 := by simpa using hy
    simp [readBits, hzero]
  | succ n ih =>
    obtain ⟨s1, hread, hleft⟩ := readByte_of_left h
    have hbyte : (UInt8.ofNat y).toNat = y % 256 := by simp
    obtain ⟨hor, hlt⟩ := or_byte hresult (Nat.mod_lt _ (by omega)) (by omega)
    have hy' : y >>> 8 < 2 ^ (8 * n) := by
      rw [Nat.shiftRight_eq_div_pow, Nat.div_lt_iff_lt_mul (by omega), ← Nat.pow_add]
      exact hy
    obtain ⟨s2, hrest, hleft'⟩ := ih (bitshift + 8) (y >>> 8) (result + y % 256 * 2 ^ bitshift)
      hlt (by omega) hy' hleft
    refine ⟨s2, ?_, hleft'⟩
    have hsum : result + y % 256 * 2 ^ bitshift + y >>> 8 * 2 ^ (bitshift + 8) =
        result + y * 2 ^ bitshift := by
      rw [Nat.shiftRight_eq_div_pow, Nat.pow_add]
      calc result + y % 256 * 2 ^ bitshift + y / 256 * (2 ^ bitshift * 256)
          = result + (y % 256 + 256 * (y / 256)) * 2 ^ bitshift := by ring
        _ = result + y * 2 ^ bitshift := by rw [Nat.mod_add_div]
    simp only [readBits, hread, hbyte, hor, hrest, hsum]

lemma formattedLong_of_lt (h : n < 2 ^ 63) : formattedLong n = n := by
  have hpositive : ¬ long (n - signed negativeMask) > 0 := by
    rw [show signed negativeMask = -2 ^ 63 by decide, long, Int.bmod_def]
    split
    · omega
    · omega
  rw [formattedLong, signed_eq h, if_neg hpositive]

lemma and_pred_mask (h : n < 2 ^ 63) : (2 ^ 63 + n) &&& (negativeMask - 1) = n := by
  rw [negativeMask, Nat.and_two_pow_sub_one_eq_mod]
  omega

lemma formattedLong_mask_add (h : n < 2 ^ 63) :
    formattedLong (2 ^ 63 + n) = if n = 0 then -2 ^ 63 else -(n : Int) := by
  have hsigned : signed (2 ^ 63 + n) = -2 ^ 63 + n := by
    unfold signed
    rw [Int.bmod_def]
    omega
  have hmask : signed negativeMask = -2 ^ 63 := by decide
  rw [formattedLong, hsigned, hmask, and_pred_mask h, long_eq (by omega)
    (by omega), long_eq (by omega) (by omega)]
  split
  · rw [if_neg (by omega)]
  next hn =>
  omega

lemma formattedLong_mask : formattedLong negativeMask = -2 ^ 63 := by
  have h := formattedLong_mask_add (n := 0) (by omega)
  rwa [if_pos rfl] at h

lemma writeFormattedLong_bits (h : -2 ^ 63 ≤ x) (h' : x < 2 ^ 63) :
    ∃ y < 2 ^ 64, writeFormattedLong x = lowBytes 8 y ∧ formattedLong y = x := by
  by_cases hneg : x < 0
  · obtain ⟨n, hn⟩ := Int.eq_ofNat_of_zero_le (a := -x) (by omega)
    have hbits : writeFormattedLong x = lowBytes 8 (n ||| negativeMask) := by
      simp only [writeFormattedLong, if_pos hneg, hn, unsigned_natCast (show n < 2 ^ 64 by omega)]
    by_cases hmin : n = 2 ^ 63
    · rw [show n = negativeMask from hmin] at hbits
      exact ⟨negativeMask, by decide, hbits, by rw [formattedLong_mask]; omega⟩
    have hor : n ||| negativeMask = 2 ^ 63 + n := by
      have hadd := Nat.two_pow_add_eq_or_of_lt (i := 63) (b := n) (by omega) 1
      rw [Nat.mul_one] at hadd
      rw [negativeMask, Nat.or_comm, hadd]
    refine ⟨2 ^ 63 + n, by omega, hor ▸ hbits, ?_⟩
    rw [formattedLong_mask_add (by omega)]
    omega
  · obtain ⟨n, rfl⟩ := Int.eq_ofNat_of_zero_le (not_lt.mp hneg)
    refine ⟨n, by omega, ?_, formattedLong_of_lt (by omega)⟩
    simp only [writeFormattedLong, if_neg hneg, unsigned_natCast (show n < 2 ^ 64 by omega)]

lemma readFormattedLong_write (hx : -2 ^ 63 ≤ x) (hx' : x < 2 ^ 63)
    (h : s.left = writeFormattedLong x ++ rest) :
    ∃ s', readFormattedLong s = (x, s') ∧ s'.left = rest := by
  obtain ⟨y, hy, hwrite, hformatted⟩ := writeFormattedLong_bits hx hx'
  rw [hwrite] at h
  obtain ⟨s', hread, hleft⟩ := readBits_lowBytes 8 0 y 0 (by omega) (by omega) hy h
  rw [Nat.zero_add, Nat.pow_zero, Nat.mul_one] at hread
  exact ⟨s', by rw [readFormattedLong, hread, hformatted], hleft⟩

lemma readBits_lt {k bitshift result : ℕ} (h : result < 2 ^ 64) :
    (readBits k bitshift result s).1 < 2 ^ 64 := by
  induction k generalizing bitshift result s with
  | zero => exact h
  | succ k ih =>
    apply ih
    apply Nat.or_lt_two_pow h
    unfold unsigned
    omega

lemma readBsdiffLong_eq (s : InputStream) :
    readBsdiffLong s = if (readBits 8 0 0 s).1 = negativeMask then .error (.format "read negative zero")
      else .ok (readFormattedLong s) := by
  have hlt : (readBits 8 0 0 s).1 < 2 ^ 64 := readBits_lt (by decide)
  unfold readBsdiffLong readFormattedLong
  generalize readBits 8 0 0 s = r at hlt ⊢
  obtain ⟨bits, s'⟩ := r
  dsimp only at hlt ⊢
  split
  · rfl
  next hmask =>
  have hand : bits &&& negativeMask = (bits.testBit 63).toNat * 2 ^ 63 := Nat.and_two_pow bits 63
  by_cases hsign : bits < 2 ^ 63
  · rw [Nat.testBit_lt_two_pow hsign, Bool.toNat_false, Nat.zero_mul] at hand
    rw [if_neg (not_not.mpr hand), formattedLong_of_lt hsign, signed_eq hsign]
    rfl
  obtain ⟨n, rfl⟩ := Nat.exists_eq_add_of_le (not_lt.mp hsign)
  have hn : n < 2 ^ 63 := by omega
  have hzero : n ≠ 0 := by
    rintro rfl
    exact hmask rfl
  rw [Nat.testBit_two_pow_add_eq, Nat.testBit_lt_two_pow hn] at hand
  rw [if_pos (by rw [hand]; decide), formattedLong_mask_add hn, if_neg hzero, and_pred_mask hn,
    long_eq (by omega) (by omega)]
  rfl

lemma readBsdiffLong_write (hn : n < 2 ^ 63) (h : s.left = writeFormattedLong n ++ rest) :
    ∃ s', readBsdiffLong s = .ok ((n : Int), s') ∧ s'.left = rest := by
  obtain ⟨s', hread, hleft⟩ := readFormattedLong_write (by omega) (by omega) h
  refine ⟨s', ?_, hleft⟩
  rw [readBsdiffLong_eq, if_neg, hread]
  intro hbits
  rw [readFormattedLong, hbits, formattedLong_mask, Prod.mk.injEq] at hread
  omega

/-- What `writeFormattedLong` writes is read back, also the least `long`; and `readFormattedLong`
reads what `readBsdiffLong` reads. -/
theorem patchNumbers_agree (value : Int64) (rest : Bytes) (grants : List ℕ) (s : InputStream) :
    (readFormattedLong { data := writeFormattedLong value.toInt ++ rest, grants := grants }).1 =
        value.toInt ∧
      ∀ r, readBsdiffLong s = .ok r → readFormattedLong s = r := by
  constructor
  · obtain ⟨s', hread, -⟩ := readFormattedLong_write value.le_toInt value.toInt_lt
      (s := { data := writeFormattedLong value.toInt ++ rest, grants := grants }) rfl
    rw [hread]
  intro r hr
  rw [readBsdiffLong_eq] at hr
  split at hr
  · cases hr
  · exact Except.ok.inj hr

theorem patchNumbers_agree_negative :
    (readFormattedLong { data := writeFormattedLong (-5) }).1 = -5 ∧
      ∃ r, readBsdiffLong { data := writeFormattedLong (-5) } = .ok r ∧
        readFormattedLong { data := writeFormattedLong (-5) } = r := by
  have hagree := patchNumbers_agree (-5) [] [] { data := writeFormattedLong (-5) }
  have hread : ∃ r, readBsdiffLong { data := writeFormattedLong (-5) } = .ok r := ⟨_, rfl⟩
  obtain ⟨r, hr⟩ := hread
  exact ⟨hagree.1, r, hr, hagree.2 r hr⟩

/-! ## Copies -/

lemma left_advance (s : InputStream) (k : ℕ) (grants : List ℕ) :
    InputStream.left { s with pos := s.pos + k, grants := grants } = s.left.drop k := by
  simp [InputStream.left]

variable {fuel : ℕ}

lemma readRounds_ok (hfuel : n ≤ fuel) (h : n ≤ s.left.length) :
    ∃ s', readRounds fuel n s = .ok (s.left.take n, s') ∧ s'.data = s.data ∧
      s'.pos = s.pos + n := by
  induction fuel generalizing n s with
  | zero =>
    obtain rfl : n = 0 := by omega
    exact ⟨s, by simp [readRounds], rfl, rfl⟩
  | succ fuel ih =>
    rw [readRounds]
    by_cases hzero : n = 0
    · exact ⟨s, by simp [hzero], rfl, by simp [hzero]⟩
    have hgranted : 0 < s.granted n ∧ s.granted n ≤ n := by
      unfold InputStream.granted
      omega
    obtain ⟨hpos, hle⟩ := hgranted
    generalize s.granted n = k at hpos hle
    let s1 : InputStream := { s with pos := s.pos + k, grants := s.grants.tail }
    have hleft : s1.left = s.left.drop k := left_advance s k _
    obtain ⟨s', hread, hdata, hpos'⟩ := ih (n := n - k) (by omega)
      (by rw [hleft, length_drop]; omega)
    refine ⟨s', ?_, hdata, by rw [hpos']; show s.pos + k + (n - k) = _; omega⟩
    have htake : s.left.take n = s.left.take k ++ (s.left.drop k).take (n - k) := by
      rw [← take_add, Nat.add_sub_cancel' hle]
    rw [if_neg hzero, if_neg (Nat.ne_of_gt hpos)]
    dsimp only
    rw [hread, hleft, htake]
    rfl

lemma bufferSize_pos : 0 < bufferSize := by decide

lemma maxCopy_natCast (hb : 0 < buffer) (h : n ≠ 0) (h' : n < 2 ^ 31) :
    ∃ k : ℕ, maxCopy buffer n = k ∧ 0 < k ∧ k ≤ n := by
  refine ⟨min buffer n, ?_, by omega, by omega⟩
  rw [maxCopy, int_eq (by omega) (by omega)]
  omega

/-- What is read is what comes next, at the position `pos` of `data`. -/
def ReadsOn {σ : Type} (readFully : ℕ → σ → Res (Bytes × σ)) (data : σ → Bytes) (pos : σ → ℕ) :
    Prop :=
  ∀ n s, n ≤ ((data s).drop (pos s)).length → ∃ s',
    readFully n s = .ok (((data s).drop (pos s)).take n, s') ∧ data s' = data s ∧ pos s' = pos s + n

lemma pipeRounds_ok {σ : Type} {readFully : ℕ → σ → Res (Bytes × σ)} {data : σ → Bytes}
    {pos : σ → ℕ} (hreads : ReadsOn readFully data pos) (hfuel : n ≤ fuel) (hb : 0 < buffer)
    (hn : n < 2 ^ 31) (s : σ) (out : Bytes) (h : n ≤ ((data s).drop (pos s)).length) :
    ∃ s', pipeRounds readFully buffer fuel n s out =
        .ok (s', out ++ ((data s).drop (pos s)).take n) ∧
      data s' = data s ∧ pos s' = pos s + n := by
  induction fuel generalizing n s out with
  | zero =>
    obtain rfl : n = 0 := by omega
    exact ⟨s, by simp [pipeRounds], rfl, rfl⟩
  | succ fuel ih =>
    rw [pipeRounds]
    by_cases hzero : n = 0
    · exact ⟨s, by simp [hzero], rfl, by simp [hzero]⟩
    obtain ⟨k, hk, hpos, hle⟩ := maxCopy_natCast hb hzero hn
    obtain ⟨s1, hread, hdata, hpos1⟩ := hreads k s (by omega)
    have hleft : (data s1).drop (pos s1) = ((data s).drop (pos s)).drop k := by simp [hdata, hpos1]
    obtain ⟨s', hrest, hdata', hpos'⟩ := ih (n := n - k) (by omega) (by omega) s1
      (out ++ ((data s).drop (pos s)).take k) (by rw [hleft, length_drop]; omega)
    refine ⟨s', ?_, hdata'.trans hdata, by omega⟩
    have htake : ((data s).drop (pos s)).take n =
        ((data s).drop (pos s)).take k ++ (((data s).drop (pos s)).drop k).take (n - k) := by
      rw [← take_add, Nat.add_sub_cancel' hle]
    rw [hk, if_pos (by omega), if_neg (by omega), Int.toNat_natCast, hread, ok_bind]
    dsimp only
    rw [← Int.ofNat_sub hle, hrest, hleft, htake, append_assoc]

variable {out : Bytes}

lemma pipe_ok (hb : 0 < buffer) (hn : n < 2 ^ 31) (h : n ≤ s.left.length) :
    ∃ s', pipe buffer n s out = .ok (s', out ++ s.left.take n) ∧ s'.data = s.data ∧
      s'.pos = s.pos + n :=
  pipeRounds_ok (fun _ _ => readRounds_ok (Nat.le_refl _)) (Nat.le_refl _) hb hn s out h

lemma seek_natCast (f : RandomAccessFile) : f.seek n = .ok { f with pos := n } := by
  unfold RandomAccessFile.seek
  rfl

variable {f : RandomAccessFile}

lemma file_readFully_ok (h : n ≤ (f.data.drop f.pos).length) :
    f.readFully n = .ok ((f.data.drop f.pos).take n, { f with pos := f.pos + n }) := by
  unfold RandomAccessFile.readFully
  rw [if_neg (by rw [length_take]; omega)]
  rfl

lemma file_pipe_ok (out : Bytes) (hb : 0 < buffer) (hn : n < 2 ^ 31)
    (h : n ≤ (f.data.drop f.pos).length) :
    ∃ f' : RandomAccessFile, f.pipe buffer n out = .ok (f', out ++ (f.data.drop f.pos).take n) ∧
      f'.data = f.data ∧ f'.pos = f.pos + n :=
  pipeRounds_ok (fun _ f h => ⟨_, file_readFully_ok (f := f) h, rfl, rfl⟩) (Nat.le_refl _) hb hn
    f out h

/-- A length of 2 GiB or more becomes negative when it is made an `int`, or 0 when its low half has
been copied. -/
lemma pipeRounds_long {σ : Type} {readFully : ℕ → σ → Res (Bytes × σ)}
    (h : 2 ^ 31 ≤ n) (s : σ) (out : Bytes) (r : σ × Bytes) :
    pipeRounds readFully buffer fuel n s out ≠ .ok r := by
  induction fuel generalizing n s out with
  | zero =>
    rw [pipeRounds, if_pos (by omega)]
    intro hok
    cases hok
  | succ fuel ih =>
    rw [pipeRounds, if_pos (by omega)]
    split
    · intro hok
      cases hok
    next hnonneg =>
    obtain ⟨k, hk⟩ := Int.eq_ofNat_of_zero_le (not_lt.mp hnonneg)
    have hle : (k : Int) ≤ int n := hk ▸ min_le_right _ _
    have hleft : 2 ^ 31 ≤ n - k := by
      rw [int, Int.bmod_def] at hle
      omega
    intro hok
    obtain ⟨⟨bytes, s1⟩, -, hrest⟩ := bind_eq_ok.mp hok
    rw [hk, ← Int.ofNat_sub (by omega)] at hrest
    exact ih hleft s1 _ hrest

/-- `pipe` copies what it is told to copy, if that is less than 2 GiB. -/
theorem pipe_copies_iff (hb : 0 < buffer)
    (hs : n ≤ s.left.length) (hf : n ≤ (f.data.drop f.pos).length) :
    ((∃ s', pipe buffer n s out = .ok (s', out ++ s.left.take n)) ∧
      ∃ f', f.pipe buffer n out = .ok (f', out ++ (f.data.drop f.pos).take n)) ↔ n < 2 ^ 31 := by
  constructor
  · intro h
    obtain ⟨s', hpipe⟩ := h.1
    by_contra hlong
    exact pipeRounds_long (by omega) s out _ hpipe
  · intro hn
    obtain ⟨s', hpipe, -⟩ := pipe_ok hb hn hs
    obtain ⟨f', hfile, -⟩ := file_pipe_ok out hb hn hf
    exact ⟨⟨s', hpipe⟩, f', hfile⟩

theorem pipe_copies_two : (∃ s', pipe 1 2 { data := [1, 2, 3] } [] = .ok (s', [1, 2])) ∧
      ∃ f', RandomAccessFile.pipe 1 2 { data := [1, 2, 3] } [] = .ok (f', [1, 2]) :=
  (pipe_copies_iff (n := 2) (by decide) (by decide) (by decide)).mpr (by decide)

theorem pipe_twoGigabytes :
    ∃ (n : ℕ) (s : InputStream), n = 2 ^ 31 ∧ s.left.length = n ∧
      ∀ r, pipe bufferSize n s [] ≠ .ok r := by
  obtain ⟨n, hn⟩ : ∃ n : ℕ, n = 2 ^ 31 := ⟨_, rfl⟩
  refine ⟨n, { data := List.replicate n 0 }, hn, by simp [InputStream.left], ?_⟩
  intro r
  exact pipeRounds_long (by omega) _ _ r

/-! ## Patches -/

/-- A part of a patch: new bytes, and where the bytes that follow them are in the old file. -/
structure Chunk where
  newData : Bytes
  oldOffset : ℕ
  oldLen : ℕ

namespace Chunk

def apply (D : Bytes) (c : Chunk) : Bytes := c.newData ++ (D.drop c.oldOffset).take c.oldLen

def encode (c : Chunk) : Bytes :=
  writeFormattedLong c.newData.length ++ c.newData ++ writeFormattedLong c.oldOffset ++
    writeFormattedLong c.oldLen

structure Wf (D : Bytes) (c : Chunk) : Prop where
  newLen : c.newData.length < 2 ^ 31
  oldOffset : c.oldOffset < 2 ^ 63
  oldLen : c.oldLen < 2 ^ 31
  old : c.oldLen ≤ (D.drop c.oldOffset).length

lemma length_apply {c : Chunk} (h : c.Wf D) : (c.apply D).length = c.newData.length + c.oldLen := by
  have hold := h.old
  simp only [apply, length_append, length_take]
  omega

end Chunk

lemma writeNewData_ok (hn : n < 2 ^ 31) (h : n ≤ s.left.length) :
    ∃ s', writeNewData n s out = .ok (s', out ++ s.left.take n) ∧ s'.left = s.left.drop n := by
  unfold writeNewData
  by_cases hzero : n = 0
  · exact ⟨s, by simp [hzero], by simp [hzero]⟩
  obtain ⟨s', hpipe, hdata, hpos⟩ := pipe_ok bufferSize_pos hn h
  refine ⟨s', ?_, by simp [InputStream.left, hdata, hpos]⟩
  rw [if_pos (by omega), int_eq (by omega) (by omega), hpipe]

lemma writeOldData_ok (hn : n < 2 ^ 31) (h : n ≤ (f.data.drop f.pos).length) :
    ∃ f', writeOldData n f out = .ok (f', out ++ (f.data.drop f.pos).take n) ∧
      f'.data = f.data := by
  unfold writeOldData
  by_cases hzero : n = 0
  · exact ⟨f, by simp [hzero], rfl⟩
  obtain ⟨f', hpipe, hdata, -⟩ := file_pipe_ok out bufferSize_pos hn h
  refine ⟨f', ?_, hdata⟩
  rw [if_pos (by omega), int_eq (by omega) (by omega), hpipe]

variable {a : Agent}

lemma writePatchedEntry_eq {s1 s2 s3 s4 : InputStream} {f' : RandomAccessFile}
    {out' : Bytes} {copyLen oldDataOffset oldDataLen : Int}
    (hcopyLen : readFormattedLong a.patchData = (copyLen, s1))
    (hnew : writeNewData copyLen s1 a.outputStream = .ok (s2, out))
    (hoffset : readFormattedLong s2 = (oldDataOffset, s3))
    (hlen : readFormattedLong s3 = (oldDataLen, s4)) (hseek : a.oldData.seek oldDataOffset = .ok f)
    (hold : writeOldData oldDataLen f out = .ok (f', out')) :
    writePatchedEntry a =
      .ok ⟨f', s4, out', long (a.newDataBytesWritten + long (copyLen + oldDataLen))⟩ := by
  unfold writePatchedEntry
  simp only [hcopyLen]
  rw [hnew, ok_bind]
  simp only [hoffset]
  rw [hseek, ok_bind]
  simp only [hlen]
  rw [hold]
  rfl

lemma writePatchedEntry_chunk {c : Chunk} {w : ℕ} (hc : c.Wf D)
    (hdata : a.oldData.data = D) (hleft : a.patchData.left = c.encode ++ rest)
    (hw : a.newDataBytesWritten = w) (hfits : w + (c.apply D).length < 2 ^ 31) :
    ∃ a', writePatchedEntry a = .ok a' ∧ a'.oldData.data = D ∧ a'.patchData.left = rest ∧
      a'.outputStream = a.outputStream ++ c.apply D ∧
      a'.newDataBytesWritten = (w + (c.apply D).length : ℕ) := by
  have hnew := hc.newLen
  have hold := hc.oldLen
  rw [c.length_apply hc] at hfits ⊢
  simp only [Chunk.encode, append_assoc] at hleft
  obtain ⟨s1, hread1, hleft1⟩ := readFormattedLong_write (by omega) (by omega) hleft
  obtain ⟨s2, hcopy, hleft2⟩ := writeNewData_ok hnew
    (by rw [hleft1, length_append]; omega)
  rw [hleft1, drop_left] at hleft2
  rw [hleft1, take_left] at hcopy
  obtain ⟨s3, hread3, hleft3⟩ := readFormattedLong_write (by omega) (mod_cast hc.oldOffset) hleft2
  obtain ⟨s4, hread4, hleft4⟩ := readFormattedLong_write (by omega) (by omega) hleft3
  obtain ⟨f, hpipe, hf⟩ := writeOldData_ok (f := { a.oldData with pos := c.oldOffset }) hold (by rw [hdata]; exact hc.old)
  rw [show (a.oldData.data.drop c.oldOffset) = D.drop c.oldOffset by rw [hdata],
    append_assoc] at hpipe
  have hsum := long_written hfits
  refine ⟨⟨f, s4, a.outputStream ++ c.apply D, (w + (c.newData.length + c.oldLen) : ℕ)⟩, ?_,
    hf.trans hdata, hleft4, rfl, rfl⟩
  rw [writePatchedEntry_eq hread1 hcopy hread3 hread4 (seek_natCast _) hpipe, hw, hsum, Chunk.apply]

/-- The agent applies the chunks. It stops when the file is complete; chunks that are left then
stand for nothing. -/
lemma writePatchedEntries_chunks {cs : List Chunk} {w size : ℕ} (hcs : ∀ c ∈ cs, c.Wf D)
    (hdata : a.oldData.data = D) (hleft : a.patchData.left = cs.flatMap Chunk.encode)
    (hw : a.newDataBytesWritten = w) (hsize : size = w + (cs.flatMap (Chunk.apply D)).length)
    (hfits : size < 2 ^ 31) (hfuel : cs.length < fuel) :
    ∃ a', writePatchedEntries size fuel a = .ok a' ∧
      a'.outputStream = a.outputStream ++ cs.flatMap (Chunk.apply D) ∧
      a'.newDataBytesWritten = size := by
  obtain ⟨fuel, rfl⟩ : ∃ k, fuel = k + 1 := ⟨fuel - 1, by omega⟩
  induction cs generalizing a w fuel with
  | nil =>
    have hdone : size = w := by simpa using hsize
    refine ⟨a, ?_, by simp, by rw [hw, hdone]⟩
    rw [writePatchedEntries, if_neg (by omega)]
    rfl
  | cons c cs ih =>
    rw [flatMap_cons, length_append] at hsize
    rw [writePatchedEntries]
    by_cases hdone : size = w
    · refine ⟨a, by rw [if_neg (by omega)]; rfl, ?_, by rw [hw, hdone]⟩
      have hnothing : ((c :: cs).flatMap (Chunk.apply D)).length = 0 := by
        rw [flatMap_cons, length_append]
        omega
      rw [length_eq_zero_iff.mp hnothing, List.append_nil]
    · obtain ⟨a1, hround, hdata1, hleft1, hout1, hw1⟩ := writePatchedEntry_chunk
        (hcs c mem_cons_self) hdata hleft hw (by omega)
      rw [length_cons] at hfuel
      obtain ⟨fuel, rfl⟩ : ∃ k, fuel = k + 1 := ⟨fuel - 1, by omega⟩
      obtain ⟨a', hrest, hout', hw'⟩ := ih
        (fun c' hc' => hcs c' (mem_cons_of_mem _ hc')) hdata1 hleft1 hw1 (by omega) fuel
        (by omega)
      refine ⟨a', ?_, ?_, hw'⟩
      · rw [if_pos (by omega), hround, ok_bind, hrest]
      · rw [hout', hout1, flatMap_cons, append_assoc]

def encodePatch (size : ℕ) (cs : List Chunk) : Bytes :=
  signature ++ writeFormattedLong size ++ cs.flatMap Chunk.encode

lemma length_le_encode (cs : List Chunk) : cs.length ≤ (cs.flatMap Chunk.encode).length := by
  induction cs with
  | nil => simp
  | cons c cs ih =>
    have hsize : 24 ≤ c.encode.length := by
      simp only [Chunk.encode, length_append, length_writeFormattedLong]
      omega
    rw [flatMap_cons, length_append, length_cons]
    omega

lemma readPatchHeader_encode (cs : List Chunk) {size : ℕ} (grants : List ℕ)
    (hfits : size < 2 ^ 31) :
    ∃ s', readPatchHeader { data := encodePatch size cs, grants := grants } = .ok ((size : Int), s') ∧
      s'.left = cs.flatMap Chunk.encode := by
  have hleft : InputStream.left { data := encodePatch size cs, grants := grants } =
      signature ++ (writeFormattedLong size ++ cs.flatMap Chunk.encode) := by
    simp [InputStream.left, encodePatch]
  obtain ⟨s1, hread, hdata, hpos⟩ := readRounds_ok (n := signature.length)
    (Nat.le_refl _)
    (by rw [hleft, length_append]; omega)
  rw [hleft, take_left] at hread
  have hleft1 : s1.left = writeFormattedLong size ++ cs.flatMap Chunk.encode := by
    rw [InputStream.left, hdata, hpos, Nat.zero_add, encodePatch, append_assoc, drop_left]
  obtain ⟨s2, hsize, hleft2⟩ := readBsdiffLong_write (by omega) hleft1
  refine ⟨s2, ?_, hleft2⟩
  unfold readPatchHeader readFully
  rw [hread]
  dsimp only
  rw [if_neg (not_not.mpr rfl), hsize, ok_bind]
  dsimp only
  rw [if_neg (by omega)]
  rfl

lemma writePatchToStream_encode {cs : List Chunk} {file : Bytes} (grants : List ℕ)
    (hcs : ∀ c ∈ cs, c.Wf D) (hfile : cs.flatMap (Chunk.apply D) = file)
    (hfits : file.length < 2 ^ 31) :
    writePatchToStream D { data := encodePatch file.length cs, grants := grants } =
      .ok (file, (file.length : Int)) := by
  obtain ⟨s1, hheader, hleft⟩ := readPatchHeader_encode cs grants hfits
  have hfuel : cs.length < s1.left.length + 2 := by
    have hle := length_le_encode cs
    rw [hleft]
    omega
  obtain ⟨a, hrun, hout, hwritten⟩ := writePatchedEntries_chunks
    (a := { oldData := { data := D }, patchData := s1 }) hcs rfl hleft rfl
    (by rw [hfile, Nat.zero_add]) hfits hfuel
  rw [hfile] at hout
  unfold writePatchToStream writePatchedDataToStream
  rw [hheader, ok_bind]
  dsimp only
  rw [hrun, ok_bind, pure_eq_ok, ok_bind]
  dsimp only
  rw [hwritten, if_neg (not_not.mpr rfl), hout]
  rfl

/-! ## The generator -/

namespace APKEntry

def offset (e : APKEntry) : ℕ := e.dataOffset.toInt.toNat

def size (e : APKEntry) : ℕ := e.compressedSize.toInt.toNat

def content (e : APKEntry) (file : Bytes) : Bytes := (file.drop e.offset).take e.size

structure Valid (e : APKEntry) : Prop where
  offset : 0 ≤ e.dataOffset.toInt
  size : 0 ≤ e.compressedSize.toInt

end APKEntry

structure Identical (D H : Bytes) (d h : APKEntry) : Prop where
  device : d.Valid
  host : h.Valid
  size : d.compressedSize = h.compressedSize
  inside : h.offset + h.size ≤ H.length
  content : d.content D = h.content H

/-- The chunks of a patch for the rest of `H`, from `pos` on. -/
def chunks (H : Bytes) : ℕ → List (APKEntry × APKEntry) → List Chunk
  | pos, [] => [⟨H.drop pos, 0, 0⟩]
  | pos, (d, h) :: rest =>
    ⟨(H.drop pos).take (h.offset - pos), d.offset, d.size⟩ :: chunks H (h.offset + h.size) rest

def Ascending (pairs : List (APKEntry × APKEntry)) : Prop :=
  pairs.Pairwise fun p q => p.2.offset + p.2.size ≤ q.2.offset

lemma APKEntry.Valid.offset_eq {e : APKEntry} (h : e.Valid) : e.dataOffset.toInt = e.offset :=
  (Int.toNat_of_nonneg h.offset).symm

lemma APKEntry.Valid.size_eq {e : APKEntry} (h : e.Valid) : e.compressedSize.toInt = e.size :=
  (Int.toNat_of_nonneg h.size).symm

lemma APKEntry.offset_lt (e : APKEntry) : e.offset < 2 ^ 63 := by
  have h := e.dataOffset.toInt_lt
  unfold offset
  omega

variable {pos : ℕ}

lemma take_append_drop_sub {next : ℕ} (H : Bytes) (h : pos ≤ next) :
    (H.drop pos).take (next - pos) ++ H.drop next = H.drop pos := by
  have hdrop : H.drop next = (H.drop pos).drop (next - pos) := by
    rw [drop_drop, Nat.add_sub_cancel' h]
  rw [hdrop, take_append_drop]

variable {pairs : List (APKEntry × APKEntry)}

lemma apply_chunks (hpairs : ∀ p ∈ pairs, Identical D H p.1 p.2) (hasc : Ascending pairs)
    (hpos : ∀ p ∈ pairs, pos ≤ p.2.offset) :
    (chunks H pos pairs).flatMap (Chunk.apply D) = H.drop pos := by
  induction pairs generalizing pos with
  | nil => simp [chunks, Chunk.apply]
  | cons p pairs ih =>
    obtain ⟨hfirst, hrest⟩ := pairwise_cons.mp hasc
    have hp := hpairs p mem_cons_self
    have hle := hpos p mem_cons_self
    have hold : (D.drop p.1.offset).take p.1.size = (H.drop p.2.offset).take p.2.size := hp.content
    rw [chunks, flatMap_cons, Chunk.apply,
      ih (fun q hq => hpairs q (mem_cons_of_mem _ hq)) hrest hfirst]
    have hnext := take_append_drop_sub H (Nat.le_add_right p.2.offset p.2.size)
    rw [Nat.add_sub_cancel_left] at hnext
    rw [hold, append_assoc, hnext, take_append_drop_sub H hle]

namespace Identical

variable {d h : APKEntry}

lemma size_eq (hp : Identical D H d h) : d.size = h.size := congrArg (·.toInt.toNat) hp.size

lemma size_le (hp : Identical D H d h) : d.size ≤ (D.drop d.offset).length := by
  have hinside := hp.inside
  have hlen : (d.content D).length = h.size := by
    rw [hp.content, APKEntry.content, length_take, length_drop]
    omega
  rw [APKEntry.content, length_take] at hlen
  rw [hp.size_eq]
  omega

end Identical

lemma wf_chunks (hH : H.length < 2 ^ 31)
    (hpairs : ∀ p ∈ pairs, Identical D H p.1 p.2) (pos : ℕ) : ∀ c ∈ chunks H pos pairs, c.Wf D := by
  induction pairs generalizing pos with
  | nil =>
    intro c hc
    rw [chunks, mem_singleton] at hc
    subst hc
    exact ⟨by rw [length_drop]; omega, Nat.two_pow_pos 63, Nat.two_pow_pos 31, Nat.zero_le _⟩
  | cons p pairs ih =>
    intro c hc
    have hp := hpairs p mem_cons_self
    rw [chunks, mem_cons] at hc
    rcases hc with rfl | hc
    · have hinside := hp.inside
      have hsize := hp.size_eq
      refine ⟨?_, p.1.offset_lt, ?_, hp.size_le⟩
      · rw [length_take]
        omega
      · show p.1.size < 2 ^ 31
        omega
    · exact ih (fun q hq => hpairs q (mem_cons_of_mem _ hq)) _ c hc

structure Generator.At (H : Bytes) (n : ℕ) (g : Generator) : Prop where
  data : g.hostFileInputStream.data = H
  pos : g.hostFileInputStream.pos = n
  written : g.totalBytesWritten = n

variable {g : Generator}

lemma Generator.At.left (h : g.At H pos) : g.hostFileInputStream.left = H.drop pos := by
  rw [InputStream.left, h.data, h.pos]

lemma skip_natCast (s : InputStream) : s.skip n = .ok ((n : Int), { s with pos := s.pos + n }) := by
  unfold InputStream.skip
  rfl

lemma createPatchEntry_chunk {d h : APKEntry} (hH : H.length < 2 ^ 31)
    (hp : Identical D H d h) (hpos : pos ≤ h.offset) (hg : g.At H pos) :
    ∃ g', createPatchEntry d h g = .ok g' ∧ g'.At H (h.offset + h.size) ∧
      g'.patchStream = g.patchStream ++
        Chunk.encode ⟨(H.drop pos).take (h.offset - pos), d.offset, d.size⟩ := by
  have hinside := hp.inside
  have hsize := hp.size_eq
  have hnew : long (h.dataOffset.toInt - g.totalBytesWritten) = ((h.offset - pos : ℕ) : Int) := by
    rw [hp.host.offset_eq, hg.written, long_eq (by omega) (by omega)]
    omega
  have hlen : ((H.drop pos).take (h.offset - pos)).length = h.offset - pos := by
    rw [length_take, length_drop]
    omega
  obtain ⟨s1, hpipe, hdata, hpos1⟩ := 
    pipe_ok bufferSize_pos (n := h.offset - pos) (by omega)
    (by rw [hg.left, length_drop]; omega)
  have hsum : long (g.totalBytesWritten + long (d.size + (h.offset - pos : ℕ))) =
      (h.offset + h.size : ℕ) := by
    rw [hg.written, long_written (by omega)]
    omega
  unfold createPatchEntry
  simp only [hnew, hp.device.offset_eq, hp.device.size_eq]
  rw [hpipe, ok_bind]
  rw [skip_natCast, ok_bind]
  rw [if_neg (not_not.mpr rfl), hsum, hg.left]
  refine ⟨_, rfl, ⟨hdata.trans hg.data, ?_, rfl⟩, ?_⟩
  · show s1.pos + d.size = _
    rw [hpos1, hg.pos]
    omega
  · simp [Chunk.encode, hlen]

lemma createPatchEntries_chunks
    (hH : H.length < 2 ^ 31) (hpairs : ∀ p ∈ pairs, Identical D H p.1 p.2) (hasc : Ascending pairs)
    (hpos : ∀ p ∈ pairs, pos ≤ p.2.offset) (hle : pos ≤ H.length) (hg : g.At H pos) :
    (createPatchEntries pairs g >>= createPatchRemainder H) =
      .ok (g.patchStream ++ (chunks H pos pairs).flatMap Chunk.encode) := by
  induction pairs generalizing g pos with
  | nil =>
    have hrest : long (H.length - g.totalBytesWritten) = ((H.length - pos : ℕ) : Int) := by
      rw [hg.written, long_eq (by omega) (by omega)]
      omega
    obtain ⟨s1, hpipe, -, -⟩ := 
      pipe_ok bufferSize_pos (n := H.length - pos) (by omega)
      (by rw [hg.left, length_drop])
    rw [hg.left, take_of_length_le (by rw [length_drop])] at hpipe
    rw [createPatchEntries, pure_eq_ok, ok_bind, createPatchRemainder]
    simp only [hrest]
    rw [hpipe, ok_bind]
    simp only [chunks, Chunk.encode, flatMap_cons, flatMap_nil, List.append_nil,
      append_assoc, length_drop]
    rfl
  | cons p pairs ih =>
    obtain ⟨hfirst, hrest⟩ := pairwise_cons.mp hasc
    have hp := hpairs p mem_cons_self
    obtain ⟨g1, hround, hg1, hpatch⟩ := createPatchEntry_chunk hH hp (hpos p mem_cons_self) hg
    have hnext := ih (fun q hq => hpairs q (mem_cons_of_mem _ hq)) hrest hfirst hp.inside hg1
    rw [createPatchEntries, hround, ok_bind, hnext, hpatch, chunks, flatMap_cons, append_assoc]

/-- Applying a created patch rebuilds the file. -/
theorem patch_rebuilds {pairs : List (APKEntry × APKEntry)} (hostGrants patchGrants : List ℕ)
    (hH : H.length ≤ 2 ^ 31 - 1) (hpairs : ∀ p ∈ pairs, Identical D H p.1 p.2)
    (hasc : Ascending pairs) :
    ∃ patch, createPatch pairs H hostGrants = .ok patch ∧
      writePatchToStream D { data := patch, grants := patchGrants } = .ok (H, (H.length : Int)) := by
  have hH : H.length < 2 ^ 31 := by omega
  refine ⟨encodePatch H.length (chunks H 0 pairs), ?_, ?_⟩
  · exact createPatchEntries_chunks hH hpairs hasc (fun _ _ => Nat.zero_le _) (Nat.zero_le _)
      ⟨rfl, rfl, rfl⟩
  · exact writePatchToStream_encode patchGrants (wf_chunks hH hpairs 0)
      (apply_chunks hpairs hasc fun _ _ => Nat.zero_le _) hH

/-- A file of the host whose second and last parts the device has, and an empty one. -/
theorem patch_rebuilds_parts :
    ∃ patch, createPatch [(⟨0, 1, 2⟩, ⟨0, 1, 2⟩), (⟨0, 0, 0⟩, ⟨0, 3, 0⟩), (⟨0, 3, 1⟩, ⟨0, 4, 1⟩)]
        [9, 2, 3, 8, 4] [1] = .ok patch ∧
      writePatchToStream [1, 2, 3, 4] { data := patch, grants := [3, 1] } =
        .ok ([9, 2, 3, 8, 4], 5) := by
  refine patch_rebuilds [1] [3, 1] (by decide) ?_ ?_
  · intro p hp
    simp only [mem_cons, not_mem_nil, or_false] at hp
    rcases hp with rfl | rfl | rfl
    · exact ⟨⟨by decide, by decide⟩, ⟨by decide, by decide⟩, rfl, by decide, rfl⟩
    · exact ⟨⟨by decide, by decide⟩, ⟨by decide, by decide⟩, rfl, by decide, rfl⟩
    · exact ⟨⟨by decide, by decide⟩, ⟨by decide, by decide⟩, rfl, by decide, rfl⟩
  · unfold Ascending
    decide

end Adb.FastDeploy

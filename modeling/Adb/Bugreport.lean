import Adb.NetAddress
import Adb.Path
import Mathlib.Data.List.Pairwise

/-!
# Bug reports

`BugreportStandardStreamsCallback` reads the lines of `bugreportz`, and shows the progress they tell.
The numbers are taken from the lines as they come.
-/

namespace Adb.Bugreport

open Lib List

inductive Fault
  | invalidArgument
  | outOfRange
  | divisionByZero
  /-- of `int` -/
  | overflow
deriving DecidableEq, Repr

def stoi (s : Bytes) : Except Fault ℤ :=
  let t := s.dropWhile isSpace
  let negative := t.head? = some 45
  let digits := (if negative || t.head? = some 43 then t.tail else t).takeWhile isDigit
  let n : ℕ := digits.foldl (fun n c => n * 10 + (c.toNat - 48)) 0
  let v : ℤ := if negative then -n else n
  if digits.isEmpty then throw .invalidArgument
  else if v < -2 ^ 31 ∨ 2 ^ 31 ≤ v then throw .outOfRange
  else pure v

def rfind (text line : Bytes) : Option ℕ :=
  (List.range (line.length + 1)).reverse.find? fun i => text.isPrefixOf (line.drop i)

/-- The percentage of a line `PROGRESS:progress/total`. Without a separator `idx2` is `npos`, and
one behind it is the beginning of the line. -/
def progressPercentage (line : Bytes) : Except Fault ℤ := do
  let idx1 := (rfind (ascii "PROGRESS:") line).getD 0 + 9
  let idx2 := rfind (ascii "/") line
  let count := match idx2 with
    | some i => if i < idx1 then line.length else i - idx1
    | none => line.length
  let progress ← stoi ((line.drop idx1).take count)
  let total ← stoi (line.drop (idx2.elim 0 (· + 1)))
  if progress * 100 < -2 ^ 31 ∨ 2 ^ 31 ≤ progress * 100 then throw .overflow
  else if total = 0 then throw .divisionByZero
  else pure ((progress * 100).tdiv total)

/-- `BugreportStandardStreamsCallback`, without `line_`. -/
structure Callback where
  destDir : Bytes
  destFile : Bytes
  showProgress : Bool
  srcFile : Bytes := []
  lineMessage : Bytes := []
  invalidLines : List Bytes := []
  status : ℤ := 0
  lastProgressPercentage : ℤ := 0
  updates : List (Bytes × ℤ) := []
  stderr : Bytes := []
deriving DecidableEq, Repr

def tellsProgress (showProgress : Bool) (line : Bytes) : Bool :=
  showProgress && (ascii "PROGRESS:").isPrefixOf line

namespace Callback

def setLineMessage (action : Bytes) (b : Callback) : Callback :=
  { b with lineMessage := action ++ ascii " " ++ basename b.destFile }

def setSrcFile (path : Bytes) (b : Callback) : Callback :=
  if b.destDir.isEmpty then { b with srcFile := path }
  else setLineMessage (ascii "generating") { b with srcFile := path, destFile := basename path }

def new (destDir destFile : Bytes) (showProgress : Bool) : Callback :=
  setLineMessage (ascii "generating")
    { destDir := destDir, destFile := destFile, showProgress := showProgress }

def updateProgress (percentage : ℤ) (b : Callback) : Callback :=
  if percentage ≠ 0 ∧ percentage ≤ b.lastProgressPercentage then b
  else { b with
    lastProgressPercentage := percentage, updates := b.updates ++ [(b.lineMessage, percentage)] }

def processLine (b : Callback) (line : Bytes) : Except Fault Callback :=
  if line.isEmpty then pure b
  else if (ascii "BEGIN:").isPrefixOf line then pure (b.setSrcFile (cString (line.drop 6)))
  else if (ascii "OK:").isPrefixOf line then pure (b.setSrcFile (cString (line.drop 3)))
  else if (ascii "FAIL:").isPrefixOf line then
    pure { b with
      status := -1
      stderr := b.stderr ++ ascii "adb: device failed to take a zipped bugreport: " ++
        cString (line.drop 5) ++ [10] }
  else if tellsProgress b.showProgress line then do
    let percentage ← progressPercentage line
    pure (b.updateProgress percentage)
  else pure { b with invalidLines := b.invalidLines ++ [line] }

end Callback

/-- One character of `OnStdout`; `line_` goes first. -/
def onByte (s : Bytes × Callback) (c : UInt8) : Except Fault (Bytes × Callback) :=
  if c = 10 then do
    let b ← s.2.processLine s.1
    pure ([], b)
  else pure (s.1 ++ [c], s.2)

def onStdout (s : Bytes × Callback) (buffer : Bytes) : Except Fault (Bytes × Callback) :=
  buffer.foldlM onByte s

/-- All that comes from the device, and the remaining line, which `Done` processes. -/
def session (chunks : List Bytes) (b : Callback) : Except Fault Callback := do
  let s ← chunks.foldlM onStdout ([], b)
  s.2.processLine s.1

/-! ## Lines -/

lemma foldlM_onByte (stream : Bytes) {line : Bytes} (b : Callback) (hline : 10 ∉ line) :
    (stream.foldlM onByte (line, b) >>= fun s => s.2.processLine s.1) =
      ((line ++ stream).splitOn 10).foldlM Callback.processLine b := by
  induction stream generalizing line b with
  | nil =>
    rw [List.append_nil, splitOn_eq_singleton hline]
    exact (bind_pure _).symm
  | cons c rest ih =>
    rw [foldlM_cons, onByte, bind_assoc]
    split
    · next hc =>
      rw [hc, splitOn_append_cons_self_of_not_mem hline, foldlM_cons, bind_assoc]
      exact congrArg _ (funext fun b => ih b (by simp))
    next hc =>
    have hmem : 10 ∉ line ++ [c] := by simp [hline, Ne.symm hc]
    rw [append_cons line c rest]
    exact ih b hmem

lemma session_eq (chunks : List Bytes) (b : Callback) :
    session chunks b = (chunks.flatten.splitOn 10).foldlM Callback.processLine b := by
  have hflatten : ∀ s, chunks.foldlM onStdout s = chunks.flatten.foldlM onByte s := by
    induction chunks with
    | nil => exact fun _ => rfl
    | cons chunk rest ih =>
      intro s
      rw [foldlM_cons, flatten_cons, foldlM_append]
      exact congrArg _ (funext ih)
  rw [session, hflatten]
  exact foldlM_onByte chunks.flatten b (by simp)

/-! ## Progress -/

def shown (last : ℤ) : List ℤ → List ℤ
  | [] => []
  | p :: rest => if p ≠ 0 ∧ p ≤ last then shown last rest else p :: shown p rest

/-- After a percentage of more than 0 there is none of 0. -/
def Advancing (percentages : List ℤ) : Prop := percentages.Pairwise fun p q => 0 < p → q ≠ 0

lemma shown_ascending_iff {last : ℤ} (hlast : 0 ≤ last) (ps : List ℤ) :
    (last :: shown last ps).Pairwise (· ≤ ·) ↔ Advancing ps ∧ (0 < last → 0 ∉ ps) := by
  induction ps generalizing last with
  | nil => simp [shown, Advancing]
  | cons p rest ih =>
    rw [shown, Advancing, pairwise_cons (a := p), mem_cons, not_or]
    split
    · next hp =>
      rw [ih hlast]
      constructor
      · rintro ⟨hrest, hzero⟩
        exact ⟨⟨fun q hq hpos heq => hzero (by omega) (heq ▸ hq), hrest⟩,
          fun hpos => ⟨hp.1.symm, hzero hpos⟩⟩
      · rintro ⟨⟨-, hrest⟩, hzero⟩
        exact ⟨hrest, fun hpos => (hzero hpos).2⟩
    · next hp =>
      rw [pairwise_cons_cons_iff_of_trans, ih (by omega)]
      constructor
      · rintro ⟨hle, hrest, hzero⟩
        exact ⟨⟨fun q hq hpos heq => hzero hpos (heq ▸ hq), hrest⟩,
          fun hpos => ⟨by omega, hzero (by omega)⟩⟩
      rintro ⟨⟨hrest, hadvancing⟩, hzero⟩
      have hle : last ≤ p := by
        by_contra hlt
        exact (hzero (by omega)).1 (by omega)
      exact ⟨hle, hadvancing, fun hpos hmem => hrest 0 hmem hpos rfl⟩

namespace Callback

variable {b : Callback} {line : Bytes}

lemma processLine_progress (h : tellsProgress b.showProgress line = true) :
    b.processLine line = progressPercentage line >>= fun p => pure (b.updateProgress p) := by
  have hstart := (Bool.and_eq_true_iff.mp h).2
  obtain ⟨rest, rfl⟩ := isPrefixOf_iff_prefix.mp hstart
  have hbegin : (ascii "BEGIN:").isPrefixOf (ascii "PROGRESS:" ++ rest) = false := rfl
  have hok : (ascii "OK:").isPrefixOf (ascii "PROGRESS:" ++ rest) = false := rfl
  have hfail : (ascii "FAIL:").isPrefixOf (ascii "PROGRESS:" ++ rest) = false := rfl
  have hempty : (ascii "PROGRESS:" ++ rest).isEmpty = false := rfl
  simp [processLine, hempty, hbegin, hok, hfail, h]

lemma processLine_other (h : tellsProgress b.showProgress line = false) :
    ∃ c, b.processLine line = .ok c ∧ c.updates = b.updates ∧
      c.lastProgressPercentage = b.lastProgressPercentage ∧ c.showProgress = b.showProgress := by
  have hsrc : ∀ path, (b.setSrcFile path).updates = b.updates ∧
      (b.setSrcFile path).lastProgressPercentage = b.lastProgressPercentage ∧
      (b.setSrcFile path).showProgress = b.showProgress := by
    intro path
    unfold setSrcFile
    split
    · exact ⟨rfl, rfl, rfl⟩
    · exact ⟨rfl, rfl, rfl⟩
  simp only [processLine, h, Bool.false_eq_true, if_false]
  split_ifs
  · exact ⟨_, rfl, rfl, rfl, rfl⟩
  · exact ⟨_, rfl, hsrc _⟩
  · exact ⟨_, rfl, hsrc _⟩
  · exact ⟨_, rfl, rfl, rfl, rfl⟩
  · exact ⟨_, rfl, rfl, rfl, rfl⟩

end Callback

def percentages (showProgress : Bool) (lines : List Bytes) : Except Fault (List ℤ) :=
  (lines.filter (tellsProgress showProgress)).mapM progressPercentage

lemma processLines_iff (lines : List Bytes) (b : Callback) (Q : List ℤ → Prop) :
    (∃ c, lines.foldlM Callback.processLine b = .ok c ∧ Q (c.updates.map (·.2))) ↔
      ∃ ps, percentages b.showProgress lines = .ok ps ∧
        Q (b.updates.map (·.2) ++ shown b.lastProgressPercentage ps) := by
  induction lines generalizing b with
  | nil => simp [percentages, shown, pure_eq_ok]
  | cons line rest ih =>
    rw [foldlM_cons]
    by_cases h : tellsProgress b.showProgress line = true
    · have hpercentages : percentages b.showProgress (line :: rest) = (do
          let p ← progressPercentage line
          let ps ← percentages b.showProgress rest
          pure (p :: ps)) := by
        rw [percentages, filter_cons_of_pos h, mapM_cons]
        rfl
      rw [Callback.processLine_progress h, hpercentages]
      cases progressPercentage line with
      | error e => simp
      | ok p =>
        have hshow : (b.updateProgress p).showProgress = b.showProgress := by
          unfold Callback.updateProgress
          split
          · rfl
          · rfl
        rw [ok_bind, ok_bind, pure_eq_ok, ok_bind, ih, hshow]
        cases percentages b.showProgress rest with
        | error e => simp
        | ok ps =>
          simp only [ok_bind, pure_eq_ok, Except.ok.injEq, exists_eq_left', shown]
          unfold Callback.updateProgress
          split
          · rfl
          · simp
    · rw [Bool.not_eq_true] at h
      obtain ⟨c, hc, hupdates, hlast, hshow⟩ := Callback.processLine_other h
      have hpercentages : percentages b.showProgress (line :: rest) =
          percentages b.showProgress rest := by
        rw [percentages, filter_cons_of_neg (by simp [h])]
        rfl
      rw [hc, ok_bind, ih, hupdates, hlast, hshow, hpercentages]

lemma nonneg_of_mem_shown {last q : ℤ} (hlast : 0 ≤ last) {ps : List ℤ} (hq : q ∈ shown last ps) :
    0 ≤ q := by
  induction ps generalizing last with
  | nil => cases hq
  | cons p rest ih =>
    rw [shown] at hq
    split at hq
    · exact ih hlast hq
    next hp =>
    rcases mem_cons.mp hq with rfl | hq
    · omega
    · exact ih (by omega) hq

/-- The lines are those of the stream, however it comes. No line does any harm, and the progress does
not go back, exactly if all percentages can be computed and none is 0 after one that is not. -/
theorem session_smooth_iff (destDir destFile : Bytes) (showProgress : Bool) (stream : Bytes) :
    (∀ chunks : List Bytes, chunks.flatten = stream →
      session chunks (.new destDir destFile showProgress) =
        (stream.splitOn 10).foldlM Callback.processLine (.new destDir destFile showProgress)) ∧
    ((∀ chunks : List Bytes, chunks.flatten = stream → ∃ c,
      session chunks (.new destDir destFile showProgress) = .ok c ∧
        (c.updates.map (·.2)).Pairwise (· ≤ ·)) ↔
      ∃ ps, percentages showProgress (stream.splitOn 10) = .ok ps ∧ Advancing ps) := by
  have hlines : ∀ chunks : List Bytes, chunks.flatten = stream → ∀ b, session chunks b =
      (stream.splitOn 10).foldlM Callback.processLine b := fun chunks h b => h ▸ session_eq chunks b
  refine ⟨fun chunks h => hlines chunks h _, ?_⟩
  have hshown : ∀ ps, (shown 0 ps).Pairwise (· ≤ ·) ↔ Advancing ps := by
    intro ps
    have hascending := shown_ascending_iff (Int.le_refl 0) ps
    rw [pairwise_cons, and_iff_right fun q => nonneg_of_mem_shown (Int.le_refl 0)] at hascending
    simpa using hascending
  have hiff := processLines_iff (stream.splitOn 10) (.new destDir destFile showProgress)
    (·.Pairwise (· ≤ ·))
  constructor
  · intro h
    obtain ⟨c, hc⟩ := h [stream] (by simp)
    rw [hlines [stream] (by simp)] at hc
    obtain ⟨ps, hps, hpairwise⟩ := hiff.mp ⟨c, hc⟩
    exact ⟨ps, hps, (hshown ps).mp hpairwise⟩
  · rintro ⟨ps, hps, hadvancing⟩ chunks h
    rw [hlines chunks h]
    exact hiff.mpr ⟨ps, hps, (hshown ps).mpr hadvancing⟩

/-- A total of 0, and a percentage of 0 after one of 50. -/
theorem session_rough :
    session [ascii "PROGRESS:1/0\n"] (.new [] (ascii "a.zip") true) = .error .divisionByZero ∧
      (session [ascii "PROGRESS:1/2\nPROGRESS:0/2\n"] (.new [] (ascii "a.zip") true)).toOption.map
        (·.updates.map (·.2)) = some [50, 0] := by
  decide +kernel

end Adb.Bugreport

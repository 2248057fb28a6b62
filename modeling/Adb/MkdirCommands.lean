import Adb.Lib.ShellWords
import Adb.SyncTree

/-!
# Directories are made by a shell

Before a push the directories are made by commands of the shell of the device, as many by each as
fit. A name may hold any character, and comes to `mkdir` as it is.
-/

namespace Adb.SyncClient

open Lib FileSync List

lemma lexWords_escapeArg (s cs : Bytes) :
    lexWords .bare none (escapeArg s ++ cs) = lexWords .bare (some s) cs := by
  have hquoted := lexWords_quoted s [] cs
  simpa [escapeArg, lexWords] using hquoted

/-- The command that makes the directories. -/
def mkdirLine (dirs : List Bytes) : Bytes :=
  ascii "mkdir" ++ dirs.flatMap fun dir => ascii " " ++ escapeArg dir

lemma shellWords_mkdirLine (dirs : List Bytes) :
    shellWords (mkdirLine dirs) = some (ascii "mkdir" :: dirs) := by
  have hargs (w : Bytes) : lexWords .bare (some w)
      (dirs.flatMap fun dir => ascii " " ++ escapeArg dir) = some (w :: dirs) := by
    induction dirs generalizing w with
    | nil => rfl
    | cons dir dirs ih =>
      rw [flatMap_cons, append_assoc]
      show (lexWords .bare none (escapeArg dir ++ _)).map ([w] ++ ·) = _
      rw [lexWords_escapeArg, ih dir]
      rfl
  exact hargs (ascii "mkdir")

def Batch (dirs : List Bytes) : Prop := dirs ≠ [] ∧ (mkdirLine dirs).length ≤ 32769

lemma mkdirCommands_spec (directories done : List Bytes) (σ : Client)
    (hdone : (mkdirLine done).length ≤ 32769) :
    ∃ batches : List (List Bytes),
      (mkdirCommands directories (mkdirLine done) σ).2.commands =
        σ.commands ++ batches.map mkdirLine ∧ (∀ b ∈ batches, Batch b) ∧
      batches.flatten <+: done ++ directories ∧
      ∀ cmd, (mkdirCommands directories (mkdirLine done) σ).1 = some cmd →
        ∃ left, cmd = mkdirLine left ∧ cmd.length ≤ 32769 ∧
          batches.flatten ++ left = done ++ directories := by
  induction directories generalizing done σ with
  | nil =>
    refine ⟨[], by simp [mkdirCommands], by simp, nil_prefix, fun cmd hcmd => ?_⟩
    cases hcmd
    exact ⟨done, rfl, hdone, by simp⟩
  | cons dir rest ih =>
    have hnext : mkdirLine done ++ ascii " " ++ escapeArg dir = mkdirLine (done ++ [dir]) := by
      simp [mkdirLine]
    rw [mkdirCommands]
    split
    · exact ⟨[], (List.append_nil σ.commands).symm, by simp, nil_prefix, by simp⟩
    next hshort =>
    split
    · next hfull =>
      -- the line is full, and so it has a directory
      have hbatch : Batch done := by
        refine ⟨?_, hdone⟩
        rintro rfl
        have hlen : (mkdirLine []).length = 5 := rfl
        omega
      have hline : ascii "mkdir " ++ escapeArg dir = mkdirLine [dir] := by
        simp [mkdirLine, ← append_assoc]
        rfl
      rw [hline]
      obtain ⟨batches, hsent, hall, hfront, hlast⟩ := ih [dir]
        { σ with commands := σ.commands ++ [mkdirLine done] } (by
          rw [← hline, length_append]
          have hlen : (ascii "mkdir ").length = 6 := rfl
          omega)
      refine ⟨done :: batches, by rw [hsent]; simp, forall_mem_cons.mpr ⟨hbatch, hall⟩, ?_,
        fun cmd hcmd => ?_⟩
      · simpa using hfront
      obtain ⟨left, rfl, hle, heq⟩ := hlast cmd hcmd
      exact ⟨left, rfl, hle, by simp [heq]⟩
    · next hroom =>
      rw [hnext]
      obtain ⟨batches, hsent, hall, hfront, hlast⟩ := ih (done ++ [dir]) σ (by
        rw [← hnext, length_append, length_append]
        have hlen : (ascii " ").length = 1 := rfl
        omega)
      exact ⟨batches, hsent, hall, by simpa using hfront, by simpa using hlast⟩

/-- Whatever the names of the directories are, each command is `mkdir` with some of them as its
words, and of limited length; all together they make the directories in their order, each once,
unless one of the names is too long. -/
theorem directories_made (directories : List Bytes) (σ : Client) (h : σ.shell2 = true) :
    ∃ batches : List (List Bytes),
      (makeDirectories directories σ).2.commands = σ.commands ++ batches.map mkdirLine ∧
      (∀ b ∈ batches, shellWords (mkdirLine b) = some (ascii "mkdir" :: b) ∧ b ≠ [] ∧
        (mkdirLine b).length ≤ 32769) ∧
      batches.flatten <+: directories ∧
      ((makeDirectories directories σ).1 = true → batches.flatten = directories) := by
  obtain ⟨batches, hsent, hall, hfront, hlast⟩ := mkdirCommands_spec directories [] σ (by decide)
  have hstart : mkdirLine [] = ascii "mkdir" := by decide
  rw [hstart] at hsent hlast
  have hwords (b : List Bytes) (hb : Batch b) : shellWords (mkdirLine b) =
      some (ascii "mkdir" :: b) ∧ b ≠ [] ∧ (mkdirLine b).length ≤ 32769 :=
    ⟨shellWords_mkdirLine b, hb⟩
  rw [makeDirectories, if_neg (by simp [h])]
  cases hrun : mkdirCommands directories (ascii "mkdir") σ with
  | mk result τ =>
    rw [hrun] at hsent hlast
    cases result with
    | none => exact ⟨batches, hsent, fun b hb => hwords b (hall b hb), hfront, by simp⟩
    | some cmd =>
      obtain ⟨left, rfl, hle, heq⟩ := hlast cmd rfl
      rw [nil_append] at heq
      by_cases hleft : left = []
      · subst hleft
        rw [List.append_nil] at heq
        refine ⟨batches, ?_, fun b hb => hwords b (hall b hb), hfront, fun _ => heq⟩
        dsimp only
        rw [if_pos hstart]
        exact hsent
      · have hne : mkdirLine left ≠ ascii "mkdir" := by
          intro heq
          have hwords := shellWords_mkdirLine left
          rw [heq, ← hstart, shellWords_mkdirLine] at hwords
          simp [Ne.symm hleft] at hwords
        refine ⟨batches ++ [left], ?_, ?_, by simp [heq], fun _ => by simp [heq]⟩
        · dsimp only
          rw [if_neg hne, hsent]
          simp
        · intro b hb
          rcases mem_append.mp hb with hb | hb
          · exact hwords b (hall b hb)
          · rw [mem_singleton.mp hb]
            exact hwords left ⟨hleft, hle⟩

def oddNames : List Bytes := [ascii "/d/it's", ascii "/d/a b", ascii "/d/$x"]

theorem directories_made_quoted : ∃ batches : List (List Bytes),
    (makeDirectories oddNames { peer := fun _ => ([], false), shell2 := true }).2.commands =
        batches.map mkdirLine ∧
      (∀ b ∈ batches, shellWords (mkdirLine b) = some (ascii "mkdir" :: b)) ∧
      batches.flatten = oddNames := by
  obtain ⟨batches, hsent, hall, -, hflat⟩ :=
    directories_made oddNames { peer := fun _ => ([], false), shell2 := true } rfl
  exact ⟨batches, hsent, fun b hb => (hall b hb).1, hflat (by decide)⟩

end Adb.SyncClient

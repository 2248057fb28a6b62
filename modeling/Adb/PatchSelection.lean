import Adb.FastDeployTheorems
import Adb.Lib.Run
import Mathlib.Data.List.Pairwise

/-!
# Which entries the device has

`getIdenticalContents` goes by the CRC of the uncompressed data alone. So what it returns is right
exactly when the CRC tells the entries apart: two that have it in common have the same compressed
data, and no two entries of the device have the CRC of one of the host (`selection_sound_iff`).
-/

namespace Adb.FastDeploy

open List

variable {D H : Bytes} {device host : List APKEntry} {d h : APKEntry}

def APKEntry.Apart (e f : APKEntry) : Prop :=
  ∀ n, ¬ (e.offset ≤ n ∧ n < e.offset + e.size ∧ f.offset ≤ n ∧ n < f.offset + f.size)

structure SoundSelection (D H : Bytes) (pairs : List (APKEntry × APKEntry)) : Prop where
  increasing : pairs.Pairwise fun p q => p.2.dataOffset < q.2.dataOffset
  apart : pairs.Pairwise fun p q => p.2.Apart q.2
  same : ∀ p ∈ pairs, p.1.compressedSize = p.2.compressedSize ∧ p.1.content D = p.2.content H

structure Recognised (D H : Bytes) (device host : List APKEntry) : Prop where
  same : ∀ d ∈ device, ∀ h ∈ host, d.crc32 = h.crc32 →
    d.compressedSize = h.compressedSize ∧ d.content D = h.content H
  once : device.Pairwise fun d d' => ∀ h ∈ host, ¬ (d.crc32 = h.crc32 ∧ d'.crc32 = h.crc32)
  /-- two entries of the host that begin at the same place, one of them empty -/
  offsets : host.Pairwise fun h h' => (∃ d ∈ device, d.crc32 = h.crc32) →
    (∃ d ∈ device, d.crc32 = h'.crc32) → h.dataOffset ≠ h'.dataOffset

def joined (device host : List APKEntry) : List (APKEntry × APKEntry) :=
  device.flatMap fun d => (host.filter fun h => d.crc32 = h.crc32).map fun h => (d, h)

lemma mem_joined {p : APKEntry × APKEntry} :
    p ∈ joined device host ↔ p.1 ∈ device ∧ p.2 ∈ host ∧ p.1.crc32 = p.2.crc32 := by
  simp only [joined, mem_flatMap, mem_map, mem_filter, decide_eq_true_eq]
  constructor
  · rintro ⟨d, hd, h, ⟨hh, hcrc⟩, rfl⟩
    exact ⟨hd, hh, hcrc⟩
  · rintro ⟨hd, hh, hcrc⟩
    exact ⟨p.1, hd, p.2, ⟨hh, hcrc⟩, rfl⟩

lemma perm_joined :
    (getIdenticalContents device host).Perm (joined device host) := perm_insertionSort _ _

lemma pairwise_joined_iff :
    (joined device host).Pairwise (fun p q => p.2.dataOffset ≠ q.2.dataOffset) ↔
      (∀ d ∈ device, host.Pairwise fun h h' =>
        d.crc32 = h.crc32 → d.crc32 = h'.crc32 → h.dataOffset ≠ h'.dataOffset) ∧
      device.Pairwise fun d d' => ∀ h ∈ host, d.crc32 = h.crc32 →
        ∀ h' ∈ host, d'.crc32 = h'.crc32 → h.dataOffset ≠ h'.dataOffset := by
  simp only [joined, pairwise_flatMap, pairwise_map, pairwise_filter,
    decide_eq_true_eq, forall_mem_map, mem_filter, and_imp]

lemma distinct_of_recognised (hr : Recognised D H device host) :
    (joined device host).Pairwise fun p q => p.2.dataOffset ≠ q.2.dataOffset := by
  refine pairwise_joined_iff.mpr ⟨fun d hd => ?_, hr.once.imp_of_mem fun {d d'} hd hd' honce => ?_⟩
  · exact hr.offsets.imp fun {h h'} hoffsets hcrc hcrc' => hoffsets ⟨d, hd, hcrc⟩ ⟨d, hd, hcrc'⟩
  intro h hh hcrc h' hh' hcrc'
  by_cases heq : h = h'
  · exact absurd ⟨hcrc, heq ▸ hcrc'⟩ (honce h hh)
  have : Std.Symm fun h h' : APKEntry => (∃ d ∈ device, d.crc32 = h.crc32) →
      (∃ d ∈ device, d.crc32 = h'.crc32) → h.dataOffset ≠ h'.dataOffset :=
    ⟨fun _ _ hne hx hy => (hne hy hx).symm⟩
  exact hr.offsets.forall hh hh' heq ⟨d, hd, hcrc⟩ ⟨d', hd', hcrc'⟩

lemma recognised_of_distinct
    (hdistinct : (joined device host).Pairwise fun p q => p.2.dataOffset ≠ q.2.dataOffset) :
    (device.Pairwise fun d d' => ∀ h ∈ host, ¬ (d.crc32 = h.crc32 ∧ d'.crc32 = h.crc32)) ∧
      host.Pairwise fun h h' => (∃ d ∈ device, d.crc32 = h.crc32) →
        (∃ d ∈ device, d.crc32 = h'.crc32) → h.dataOffset ≠ h'.dataOffset := by
  obtain ⟨hone, htwo⟩ := pairwise_joined_iff.mp hdistinct
  refine ⟨htwo.imp fun hne h hh hcrc => hne h hh hcrc.1 h hh hcrc.2 rfl, ?_⟩
  have : Std.Symm fun d d' : APKEntry => ∀ h ∈ host, d.crc32 = h.crc32 →
      ∀ h' ∈ host, d'.crc32 = h'.crc32 → h.dataOffset ≠ h'.dataOffset :=
    ⟨fun _ _ hne h hh hcrc h' hh' hcrc' => (hne h' hh' hcrc' h hh hcrc).symm⟩
  rw [pairwise_iff_getElem]
  rintro i j hi hj hij ⟨d, hd, hcrc⟩ ⟨d', hd', hcrc'⟩
  by_cases heq : d = d'
  · subst heq
    exact pairwise_iff_getElem.mp (hone d hd) i j hi hj hij hcrc hcrc'
  · exact htwo.forall hd hd' heq _ (getElem_mem hi) hcrc _ (getElem_mem hj) hcrc'

lemma sorted_getIdenticalContents :
    (getIdenticalContents device host).Pairwise fun p q => p.2.dataOffset ≤ q.2.dataOffset := by
  have : Std.Total fun p q : APKEntry × APKEntry => p.2.dataOffset ≤ q.2.dataOffset :=
    ⟨fun p q => Int64.le_total p.2.dataOffset q.2.dataOffset⟩
  have : IsTrans (APKEntry × APKEntry) fun p q => p.2.dataOffset ≤ q.2.dataOffset :=
    ⟨fun _ _ _ hpq hqr => Int64.le_trans hpq hqr⟩
  exact pairwise_insertionSort _ _

lemma increasing_iff :
    ((getIdenticalContents device host).Pairwise fun p q => p.2.dataOffset < q.2.dataOffset) ↔
      (joined device host).Pairwise fun p q => p.2.dataOffset ≠ q.2.dataOffset := by
  rw [← perm_joined.pairwise_iff fun hne => hne.symm]
  constructor
  · exact fun hlt => hlt.imp fun hpq => (Int64.lt_iff_le_and_ne.mp hpq).2
  · exact fun hne => (sorted_getIdenticalContents.and hne).imp fun hpq =>
      Int64.lt_iff_le_and_ne.mpr hpq

/-- What is selected is right exactly when the CRC tells the entries apart. -/
theorem selection_sound_iff (hhost : host.Pairwise APKEntry.Apart) :
    SoundSelection D H (getIdenticalContents device host) ↔ Recognised D H device host := by
  have hmem {p : APKEntry × APKEntry} : p ∈ getIdenticalContents device host ↔
      p.1 ∈ device ∧ p.2 ∈ host ∧ p.1.crc32 = p.2.crc32 :=
    perm_joined.mem_iff.trans mem_joined
  constructor
  · intro hs
    obtain ⟨honce, hoffsets⟩ := recognised_of_distinct (increasing_iff.mp hs.increasing)
    exact ⟨fun d hd h hh hcrc => hs.same (d, h) (hmem.mpr ⟨hd, hh, hcrc⟩), honce, hoffsets⟩
  intro hr
  have hlt := increasing_iff.mpr (distinct_of_recognised hr)
  have : Std.Symm APKEntry.Apart :=
    ⟨fun _ _ hef n hn => hef n ⟨hn.2.2.1, hn.2.2.2, hn.1, hn.2.1⟩⟩
  refine ⟨hlt, hlt.imp_of_mem fun {p q} hp hq hpq => ?_, fun p hp => ?_⟩
  · refine hhost.forall (hmem.mp hp).2.1 (hmem.mp hq).2.1 fun heq => ?_
    rw [heq] at hpq
    exact (Int64.lt_iff_le_and_ne.mp hpq).2 rfl
  · obtain ⟨hd, hh, hcrc⟩ := hmem.mp hp
    exact hr.same p.1 hd p.2 hh hcrc

/-- One of two files of the device has not changed. -/
theorem selection_sound_unchanged :
    SoundSelection [1, 2, 3] [4, 4, 2, 3]
      (getIdenticalContents [⟨10, 0, 1⟩, ⟨20, 1, 2⟩] [⟨30, 0, 2⟩, ⟨20, 2, 2⟩]) := by
  refine (selection_sound_iff ?_).mpr ⟨?_, by decide, by decide⟩
  · refine pairwise_pair.mpr fun n hn => ?_
    have hend : n < 2 := hn.2.1
    have hstart : 2 ≤ n := hn.2.2.1
    omega
  · decide

/-- An APK that holds a file twice, on the device and on the host. -/
def twice : List APKEntry := [⟨10, 0, 2⟩, ⟨10, 2, 2⟩]

/-- Each copy is found for each; and the patch that is made of this is applied without an error, but
does not rebuild the file. -/
theorem selection_unsound :
    twice.Pairwise APKEntry.Apart ∧
      ¬ SoundSelection [7, 8, 7, 8] [7, 8, 7, 8] (getIdenticalContents twice twice) ∧
      ∃ patch, createPatch (getIdenticalContents twice twice) [7, 8, 7, 8] [] = .ok patch ∧
        writePatchToStream [7, 8, 7, 8] { data := patch } = .ok ([7, 8, 7, 8, 7, 8], 4) := by
  refine ⟨?_, fun h => absurd h.increasing (by decide), ?_⟩
  · refine pairwise_pair.mpr fun n hn => ?_
    have hend : n < 2 := hn.2.1
    have hstart : 2 ≤ n := hn.2.2.1
    omega
  · have htest : Lib.returns (createPatch (getIdenticalContents twice twice) [7, 8, 7, 8] [])
        (fun patch => decide (writePatchToStream [7, 8, 7, 8] { data := patch } =
          .ok ([7, 8, 7, 8, 7, 8], 4))) = true := by decide +kernel
    obtain ⟨patch, hpatch, hrun⟩ := Lib.returns_iff.mp htest
    exact ⟨patch, hpatch, of_decide_eq_true hrun⟩

end Adb.FastDeploy

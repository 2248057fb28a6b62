import Adb.Lib.History
import Adb.Lib.Probe
import Adb.NetAddress

/-!
# Banners and targets

A transport knows its device by the banner: `get_connection_string` writes it, `parse_banner`
reads it, and `qual_match` compares what it says with the target that a client asks for.
-/

namespace Adb

open Lib List

/-! ## What a banner says -/

def valueOf (key prop : Bytes) : Option Bytes :=
  match prop.splitOn 61 with
  | [k, value] => if k = key then some value else none
  | _ => none

def announced (banner key : Bytes) : Option Bytes :=
  latest (valueOf key) (((banner.splitOn 58)[2]?.getD []).splitOn 59)

def cnxnProps : List Bytes :=
  [ascii "ro.product.name", ascii "ro.product.model", ascii "ro.product.device"]

namespace ATransport

def identity (t : ATransport) : Bytes × Bytes × Bytes × List Bytes × ConnectionState :=
  (t.product, t.model, t.device, t.features, t.connectionState)

def told (said : Bytes → Option Bytes) (t : ATransport) : ATransport :=
  { t with
    product := (said (ascii "ro.product.name")).getD t.product
    model := (said (ascii "ro.product.model")).getD t.model
    device := (said (ascii "ro.product.device")).getD t.device
    features := ((said (ascii "features")).map stringToFeatureSet).getD t.features }

lemma told_told (a b : Bytes → Option Bytes) (t : ATransport) :
    (t.told a).told b = t.told fun key => (b key).or (a key) := by
  simp [told, Option.map_or]

end ATransport

lemma parseProperty_eq (prop : Bytes) (t : ATransport) :
    parseProperty prop t = t.told fun key => valueOf key prop := by
  unfold parseProperty valueOf ATransport.told
  rcases prop.splitOn 61 with _ | ⟨key, _ | ⟨value, _ | ⟨_, _⟩⟩⟩
  · rfl
  · rfl
  · have hkeys : ascii "ro.product.name" ≠ ascii "ro.product.model" ∧
        ascii "ro.product.name" ≠ ascii "ro.product.device" ∧
        ascii "ro.product.name" ≠ ascii "features" ∧
        ascii "ro.product.model" ≠ ascii "ro.product.device" ∧
        ascii "ro.product.model" ≠ ascii "features" ∧
        ascii "ro.product.device" ≠ ascii "features" := by decide
    dsimp only
    split_ifs <;> simp_all
  · rfl

lemma parseProperties_eq (props : List Bytes) (t : ATransport) :
    props.foldl (fun t prop => parseProperty prop t) t =
      t.told fun key => latest (valueOf key) props := by
  induction props generalizing t with
  | nil => rfl
  | cons prop rest ih =>
    rw [foldl_cons, ih, parseProperty_eq, ATransport.told_told]
    have hcons : ∀ key, latest (valueOf key) (prop :: rest) =
        (latest (valueOf key) rest).or (valueOf key prop) := by
      intro key
      rw [← singleton_append, latest_append]
      cases hv : valueOf key prop <;> simp [latest, hv]
    simp only [hcons]

lemma identity_parseBanner (banner : Bytes) (t : ATransport) :
    (parseBanner banner t).identity = ((announced banner (ascii "ro.product.name")).getD t.product,
        (announced banner (ascii "ro.product.model")).getD t.model,
        (announced banner (ascii "ro.product.device")).getD t.device,
        ((announced banner (ascii "features")).map stringToFeatureSet).getD [],
        bannerState ((banner.splitOn 58).headD [])) := by
  simp only [parseBanner, parseProperties_eq]
  rfl

/-- The features are reset and the state is always set, but an attribute that the banner does not
announce is the one of the device that was there before. -/
theorem parseBanner_forgets_iff (banner : Bytes) :
    (∀ t t' : ATransport, (parseBanner banner t).identity = (parseBanner banner t').identity) ↔
      ∀ key ∈ cnxnProps, (announced banner key).isSome := by
  simp only [identity_parseBanner, Prod.mk.injEq, and_true, cnxnProps, forall_mem_cons,
    not_mem_nil, false_implies, implies_true]
  constructor
  · intro h
    -- two devices that have no attribute in common
    obtain ⟨hproduct, hmodel, hdevice⟩ :=
      h {} { product := [0], model := [0], device := [0] }
    refine ⟨?_, ?_, ?_⟩ <;> rw [Option.isSome_iff_ne_none] <;> intro hnone <;> simp_all
  · intro h t t'
    simp only [Option.isSome_iff_exists] at h
    obtain ⟨⟨_, hproduct⟩, ⟨_, hmodel⟩, ⟨_, hdevice⟩⟩ := h
    simp [hproduct, hmodel, hdevice]

/-- A banner without properties keeps the product of the device before. -/
theorem parseBanner_keeps_product :
    (parseBanner (ascii "device::") { product := ascii "walleye" }).identity ≠
      (parseBanner (ascii "device::") {}).identity := by
  decide

/-! ## The round trip -/

section

variable {type : Bytes} {keys : List Bytes} {value : Bytes → Bytes}

end

section

variable {getProperty : Bytes → Bytes} {features : List Bytes}

end

def targetCells (toTest : Bytes) (beyond : ℕ → UInt8) (i : ℕ) : UInt8 :=
  (toTest ++ [0])[i]?.getD (beyond i)

def compareAt (next : ℕ → Probe UInt8 Bool) (ptr : ℕ) : Bytes → Probe UInt8 Bool
  | [] => next ptr
  | ch :: rest => do
    let c ← Probe.cell ptr
    if ch ≠ c then pure false else compareAt next (ptr + 1) rest

def atNul (ptr : ℕ) : Probe UInt8 Bool := do
  let c ← Probe.cell ptr
  pure (c == 0)

def sanitized (sanitizeQual : Bool) (qual : Bytes) : Bytes :=
  qual.map fun ch => if sanitizeQual && !isAlnum ch then 95 else ch

def qualMatchCells (toTest scheme qual : Bytes) (sanitizeQual : Bool) : Probe UInt8 Bool :=
  if toTest.isEmpty then pure qual.isEmpty
  else if qual.isEmpty then pure false
  else
    compareAt (compareAt atNul · (sanitized sanitizeQual qual)) 0 scheme

namespace ATransport

/-- The calls of `qual_match` in `atransport::MatchesTarget`. -/
def qualMatches (t : ATransport) (target : Bytes) : List (Probe UInt8 Bool) :=
  [qualMatchCells target (ascii "product:") t.product false,
    qualMatchCells target (ascii "model:") t.model true,
    qualMatchCells target (ascii "device:") t.device false]

end ATransport

lemma compareAt_append (next : ℕ → Probe UInt8 Bool) (a b : Bytes) (ptr : ℕ) :
    compareAt next ptr (a ++ b) = compareAt (compareAt next · b) ptr a := by
  induction a generalizing ptr with
  | nil => rfl
  | cons ch rest ih => simp [compareAt, ih]

lemma reads_compareAt_iff {mem : ℕ → UInt8} (cells text : Bytes) (ptr : ℕ)
    (hmem : ∀ i c, cells[i]? = some c → mem (ptr + i) = c) :
    (∀ i ∈ (compareAt atNul ptr text).reads mem, i < ptr + cells.length) ↔ ¬ cells <+: text := by
  induction cells generalizing ptr text with
  | nil =>
    cases text with
    | nil => simp [compareAt, atNul]
    | cons ch rest => simp [compareAt]
  | cons c cells ih =>
    have hhead : mem ptr = c := hmem 0 c rfl
    cases text with
    | nil => simp [compareAt, atNul]
    | cons ch rest =>
      by_cases hch : ch = c
      · have hrest := ih rest (ptr + 1) fun i c hc => by
          rw [Nat.add_assoc, Nat.add_comm 1]
          exact hmem (i + 1) c hc
        simpa [compareAt, hhead, hch, cons_prefix_cons, Nat.add_assoc, Nat.add_comm 1] using hrest
      · simp [compareAt, hhead, hch, cons_prefix_cons, Ne.symm hch]

variable {qual : Bytes}

lemma reads_qualMatchCells_iff {toTest scheme : Bytes} {sanitizeQual : Bool}
    (beyond : ℕ → UInt8) (hscheme : scheme ≠ [] ∧ 0 ∉ scheme) :
    (∀ i ∈ (qualMatchCells toTest scheme qual sanitizeQual).reads (targetCells toTest beyond),
      i ≤ toTest.length) ↔ ¬ toTest ++ [0] <+: scheme ++ sanitized sanitizeQual qual := by
  unfold qualMatchCells
  split_ifs with hempty hqual
  · rw [List.isEmpty_iff.mp hempty]
    cases scheme with
    | nil => exact absurd rfl hscheme.1
    | cons c rest =>
      have hc : 0 ≠ c := fun hc => hscheme.2 (by simp [hc])
      simp [hc]
  · have hnot : ¬ toTest ++ [0] <+: scheme := fun hp => hscheme.2 (hp.subset (by simp))
    simpa [List.isEmpty_iff.mp hqual, sanitized] using hnot
  · have hmem : ∀ i c, (toTest ++ [0])[i]? = some c → targetCells toTest beyond (0 + i) = c := by
      intro i c hc
      rw [Nat.zero_add, targetCells, hc]
      rfl
    rw [← compareAt_append, ← reads_compareAt_iff _ _ 0 hmem]
    simp only [Nat.lt_succ_iff, length_append, length_singleton, zero_add]

lemma sanitized_false (qual : Bytes) : sanitized false qual = qual := by
  simp [sanitized]

lemma not_mem_model : 0 ∉ ascii "model:" ++ sanitized true qual := by
  intro hzero
  have hscheme : 0 ∉ ascii "model:" := by decide
  obtain ⟨ch, -, hch⟩ := mem_map.mp ((mem_append.mp hzero).resolve_left hscheme)
  split_ifs at hch with h
  · exact absurd hch (by decide)
  · rw [hch] at h
    exact h (by decide)

/-- A model has no NUL left when it is compared; a product or a device may have one where the
target ends. -/
theorem matchesTarget_inside_iff (t : ATransport) (target : Bytes) (beyond : ℕ → UInt8) :
    (∀ call ∈ t.qualMatches target, ∀ i ∈ call.reads (targetCells target beyond),
      i ≤ target.length) ↔
      ¬ target ++ [0] <+: ascii "product:" ++ t.product ∧
        ¬ target ++ [0] <+: ascii "device:" ++ t.device := by
  have hmodel : ¬ target ++ [0] <+: ascii "model:" ++ sanitized true t.model :=
    fun hp => not_mem_model (hp.subset (by simp))
  simp only [ATransport.qualMatches, forall_mem_cons, not_mem_nil, false_implies,
    implies_true, and_true]
  rw [reads_qualMatchCells_iff beyond (by decide), reads_qualMatchCells_iff beyond (by decide),
    reads_qualMatchCells_iff beyond (by decide), sanitized_false, sanitized_false]
  tauto

/-- The target `product:a` and a device whose product has a NUL behind the `a`. -/
theorem matchesTarget_outside :
    ¬ ∀ call ∈ ({ product := [97, 0, 98] } : ATransport).qualMatches (ascii "product:a"),
      ∀ i ∈ call.reads (targetCells (ascii "product:a") fun _ => 0),
        i ≤ (ascii "product:a").length := by
  decide

/-! ## What `list_transports` prints -/

def sanitize (str : Bytes) (alphanumeric : Bool) : Bytes :=
  str.map fun c => if bif alphanumeric then !isAlnum c else c == 10 then 95 else c

def transportInfo (key value : Bytes) (alphanumeric : Bool) : List Bytes :=
  if value.isEmpty then [] else [key ++ sanitize value alphanumeric]

namespace ATransport

def transportInfos (t : ATransport) : List Bytes :=
  transportInfo [] t.devpath false ++ transportInfo (ascii "product:") t.product false ++
    transportInfo (ascii "model:") t.model true ++ transportInfo (ascii "device:") t.device false

def appendTransport (cfg : Config) (t : ATransport) (longListing : Bool) : Bytes :=
  let serial := if t.serial.isEmpty then ascii "(no serial number)" else t.serial
  let state := Server.connectionStateName cfg t.connectionState
  if longListing then
    (cString serial).rightpad 22 32 ++ 32 :: cString state ++
      t.transportInfos.flatMap (32 :: ·) ++ ascii " transport_id:" ++ Server.decimal t.id ++ [10]
  else serial ++ 9 :: state ++ [10]

end ATransport

lemma qualMatch_iff {target scheme : Bytes} {san : Bool} (hnul : 0 ∉ target)
    (hne : target ≠ []) : qualMatch target scheme qual san = true ↔
      qual ≠ [] ∧ target = scheme ++ sanitized san qual := by
  simp [qualMatch, cString_eq_self hnul, hne, sanitized]

variable {v : Bytes}

lemma sanitize_eq_self_iff : sanitize v false = v ↔ 10 ∉ v := by
  constructor
  · intro h hmem
    rw [← h] at hmem
    obtain ⟨c, -, hc⟩ := mem_map.mp hmem
    split_ifs at hc with hnewline
    · cases hc
    · exact hnewline (by simp [hc])
  · intro h
    refine (map_congr_left fun c hc => ?_).trans (map_id v)
    have hne : c ≠ 10 := fun heq => h (heq ▸ hc)
    simp [hne]

lemma not_mem_sanitize (h : 0 ∉ v) (alphanumeric : Bool) : 0 ∉ sanitize v alphanumeric := by
  intro hmem
  obtain ⟨c, hc, hzero⟩ := mem_map.mp hmem
  split_ifs at hzero
  · cases hzero
  · exact h (hzero ▸ hc)

lemma transportInfo_matches {key : Bytes} (attr : ATransport → Bytes) (fresh : ATransport)
    (hkey : 0 ∉ key) (hnul : 0 ∉ v) (hfresh : attr fresh = v)
    (hyes : v ≠ [] → ∀ t, attr t = v → t.matchesTarget (key ++ v) = true)
    (hno : ∀ q, 0 ∉ q → q ≠ [] → fresh.matchesTarget q = true → q = key ++ v) :
    (∀ t, attr t = v → ∀ q ∈ transportInfo key v false, t.matchesTarget q = true) ↔ 10 ∉ v := by
  by_cases hv : v = []
  · simp [hv, transportInfo]
  simp only [transportInfo, List.isEmpty_iff, if_neg hv, mem_singleton, forall_eq]
  rw [← sanitize_eq_self_iff]
  constructor
  · intro h
    have hq : 0 ∉ key ++ sanitize v false := by simp [hkey, not_mem_sanitize hnul]
    have hne : key ++ sanitize v false ≠ [] := by simp [sanitize, hv]
    exact append_cancel_left (hno _ hq hne (h fresh hfresh))
  · intro h t ht
    rw [h]
    exact hyes hv t ht

/-- What the listing prints of an attribute is accepted by every transport that has it, unless it is
printed without its newlines and compared with them. -/
theorem transportInfo_matches_iff (hnul : 0 ∉ v) :
    ((∀ t : ATransport, t.devpath = v → ∀ q ∈ transportInfo [] v false,
      t.matchesTarget q = true) ↔ 10 ∉ v) ∧
    ((∀ t : ATransport, t.product = v → ∀ q ∈ transportInfo (ascii "product:") v false,
      t.matchesTarget q = true) ↔ 10 ∉ v) ∧
    (∀ t : ATransport, t.model = v → ∀ q ∈ transportInfo (ascii "model:") v true,
      t.matchesTarget q = true) ∧
    ((∀ t : ATransport, t.device = v → ∀ q ∈ transportInfo (ascii "device:") v false,
      t.matchesTarget q = true) ↔ 10 ∉ v) := by
  have hmatch : ∀ key, 0 ∉ key → v ≠ [] → qualMatch (key ++ v) key v false = true := by
    intro key hkey hv
    rw [qualMatch_iff (by simp [hkey, hnul]) (by simp [hv]), sanitized_false]
    exact ⟨hv, rfl⟩
  refine ⟨?_, ?_, ?_, ?_⟩
  · apply transportInfo_matches (·.devpath) { devpath := v } (by simp) hnul rfl
    · intro _ t ht
      simp [ATransport.matchesTarget, ht]
    · intro q hq hne h
      simpa [ATransport.matchesTarget, qualMatch_iff hq hne] using h
  · apply transportInfo_matches (·.product) { product := v } (by decide) hnul rfl
    · intro hv t ht
      have hproduct := hmatch (ascii "product:") (by decide) hv
      simp [ATransport.matchesTarget, ht, hproduct]
    intro q hq hne h
    have h : v ≠ [] ∧ q = ascii "product:" ++ v := by
      simpa [ATransport.matchesTarget, hne, qualMatch_iff hq hne, sanitized_false] using h
    exact h.2
  · intro t ht q hq
    obtain ⟨hv, rfl⟩ : v ≠ [] ∧ q = ascii "model:" ++ sanitized true v := by
      simpa [transportInfo, sanitize, sanitized] using hq
    have hmodel : qualMatch (ascii "model:" ++ sanitized true v) (ascii "model:") v true = true := by
      rw [qualMatch_iff not_mem_model (by simp [sanitized, hv])]
      exact ⟨hv, rfl⟩
    simp [ATransport.matchesTarget, ht, hmodel]
  · apply transportInfo_matches (·.device) { device := v } (by decide) hnul rfl
    · intro hv t ht
      have hdevice := hmatch (ascii "device:") (by decide) hv
      simp [ATransport.matchesTarget, ht, hdevice]
    intro q hq hne h
    have h : v ≠ [] ∧ q = ascii "device:" ++ v := by
      simpa [ATransport.matchesTarget, hne, qualMatch_iff hq hne, sanitized_false] using h
    exact h.2

theorem transportInfo_matches_walleye :
    ({ product := ascii "walleye", model := ascii "Pixel 2" } : ATransport).matchesTarget
      (ascii "product:walleye") = true :=
  (transportInfo_matches_iff (v := ascii "walleye") (by decide)).2.1.mpr (by decide) _ rfl _
    (by decide)

/-- A product with a newline is printed as `product:a_b`. -/
theorem transportInfo_refused :
    ∃ t : ATransport, t.product = [97, 10, 98] ∧ ascii "product:a_b" ∈ t.transportInfos ∧
      t.matchesTarget (ascii "product:a_b") = false :=
  ⟨{ product := [97, 10, 98] }, by decide⟩

end Adb

import Adb.NetAddress
import Adb.SmartSocketTheorems
import Mathlib.Data.List.Nodup

/-!
# The choice of a transport

`acquire_one_transport` looks at the transports one after the other, and stops early. What it comes
to depends on no more than which of them match and whether one of them may not be opened.
-/

namespace Adb.Server

open Lib List

variable {cfg : Config} {target : Target} {any : Bool} {σ : Server}

structure Acquired where
  result : Option (TPtr × ATransport) := none
  isAmbiguous : Bool := false
  error : Bytes
deriving DecidableEq, Repr

def acquireScan (cfg : Config) (target : Target) : List (TPtr × ATransport) → Acquired → Acquired
  | [], acc => acc
  | t :: rest, acc =>
    if t.2.connectionState = .kCsNoPerm then
      acquireScan cfg target rest { acc with error := cfg.usbNoPermissionsLong }
    else if target.accepts cfg t.2 then
      if target.transportId ≠ 0 then { acc with result := some t }
      else if acc.result.isSome then { isAmbiguous := true, error := target.ambiguous }
      else acquireScan cfg target rest { acc with result := some t }
    else acquireScan cfg target rest acc

/-- The end of `acquire_one_transport`: the transport must be active, if that is asked for. -/
def acquireActive (cfg : Config) (any : Bool) (acc : Acquired) : Acquired :=
  match acc.result with
  | none => acc
  | some t =>
    match if any then none else inactive cfg t.2.connectionState with
    | some error => { acc with result := none, error := error }
    | none => { acc with error := ascii "success" }

def acquire (cfg : Config) (target : Target) (any : Bool) (list : List (TPtr × ATransport)) :
    Acquired :=
  acquireActive cfg any (acquireScan cfg target list { error := target.notFound })

def listed (σ : Server) : List (TPtr × ATransport) :=
  σ.transportList.filterMap fun t => (σ.transports.get t).map (t, ·)

/-! ## The loop -/

lemma acquireLoop_eq_scan (cfg : Config) (target : Target) (ts : List TPtr) (acc : Acquired)
    (hacc : ∀ t, acc.result = some t → σ.transports.get t.1 = some t.2) :
    let acc' := acquireScan cfg target
      (ts.filterMap fun t => (σ.transports.get t).map (t, ·)) acc
    acquireLoop cfg target σ ts (acc.result.map (·.1)) acc.error =
        (acc'.result.map (·.1), acc'.error) ∧
      ∀ t, acc'.result = some t → σ.transports.get t.1 = some t.2 := by
  induction ts generalizing acc with
  | nil => exact ⟨rfl, hacc⟩
  | cons t rest ih =>
    cases htr : σ.transports.get t with
    | none =>
      have hskip : (t :: rest).filterMap (fun t => (σ.transports.get t).map (t, ·)) =
          rest.filterMap fun t => (σ.transports.get t).map (t, ·) := by simp [htr]
      rw [hskip, acquireLoop, htr]
      exact ih acc hacc
    | some tr =>
      have hcons : (t :: rest).filterMap (fun t => (σ.transports.get t).map (t, ·)) =
          (t, tr) :: rest.filterMap fun t => (σ.transports.get t).map (t, ·) := by simp [htr]
      have hthis : ∀ u, some (t, tr) = some u → σ.transports.get u.1 = some u.2 := by
        intro u hu
        cases hu
        exact htr
      rw [hcons, acquireLoop, htr]
      unfold acquireScan
      dsimp only
      split
      · exact ih { acc with error := cfg.usbNoPermissionsLong } hacc
      split
      · rw [Option.isSome_map]
        split
        · exact ⟨rfl, hthis⟩
        split
        · exact ⟨rfl, fun u hu => by cases hu⟩
        · exact ih { acc with result := some (t, tr) } hthis
      · exact ih acc hacc

lemma acquireOneTransport_eq_acquire :
    acquireOneTransport cfg target any σ = ((acquire cfg target any σ.listed).result.map (·.1),
        (acquire cfg target any σ.listed).error) := by
  obtain ⟨hloop, hresult⟩ := acquireLoop_eq_scan cfg target σ.transportList
    { error := target.notFound } (fun t ht => by cases ht)
  change acquireLoop cfg target σ σ.transportList none target.notFound =
    ((acquireScan cfg target σ.listed _).result.map _, _) at hloop
  change ∀ t, (acquireScan cfg target σ.listed _).result = some t → _ at hresult
  unfold acquireOneTransport acquire acquireActive
  rw [hloop]
  cases hacc : (acquireScan cfg target σ.listed { error := target.notFound }).result with
  | none => rw [hacc]; rfl
  | some t =>
    dsimp only [Option.map_some]
    rw [hresult t hacc]
    dsimp only
    generalize (if any = true then none else inactive cfg t.2.connectionState) = refused
    cases refused <;> rfl

/-! ## What it comes to -/

def matching (cfg : Config) (target : Target) (list : List (TPtr × ATransport)) :
    List (TPtr × ATransport) :=
  list.filter fun t => t.2.connectionState ≠ .kCsNoPerm && target.accepts cfg t.2

def hasNoPerm (list : List (TPtr × ATransport)) : Bool :=
  list.any fun t => t.2.connectionState = .kCsNoPerm

def scanned (target : Target) (error : Bytes) : List (TPtr × ATransport) → Acquired
  | [] => { error := error }
  | [t] => { result := some t, error := error }
  | _ :: _ :: _ => { isAmbiguous := true, error := target.ambiguous }

lemma acquireScan_eq (htarget : target.transportId = 0) (list : List (TPtr × ATransport))
    (r : Option (TPtr × ATransport)) (error : Bytes) :
    acquireScan cfg target list { result := r, error := error } =
      scanned target (if hasNoPerm list then cfg.usbNoPermissionsLong else error)
        (r.toList ++ matching cfg target list) := by
  induction list generalizing r error with
  | nil => cases r <;> rfl
  | cons t rest ih =>
    have hrest : hasNoPerm (t :: rest) =
        (decide (t.2.connectionState = .kCsNoPerm) || hasNoPerm rest) := rfl
    by_cases hperm : t.2.connectionState = .kCsNoPerm
    · have hmatch : matching cfg target (t :: rest) = matching cfg target rest := by
        simp [matching, hperm]
      rw [acquireScan, if_pos hperm, ih, hmatch, hrest]
      simp [hperm]
    rw [acquireScan, if_neg hperm, hrest, decide_eq_false hperm, Bool.false_or]
    by_cases haccepts : target.accepts cfg t.2 = true
    · have hmatch : matching cfg target (t :: rest) = t :: matching cfg target rest := by
        simp [matching, hperm, haccepts]
      rw [if_pos haccepts, if_neg (by simp [htarget]), hmatch]
      cases r with
      | none => exact ih (some t) error
      | some u => rfl
    · have hmatch : matching cfg target (t :: rest) = matching cfg target rest := by
        simp [matching, haccepts]
      rw [if_neg haccepts, ih, hmatch]

lemma acquireScan_id (cfg : Config) (htarget : target.transportId ≠ 0)
    (list : List (TPtr × ATransport)) (error : Bytes) :
    (acquireScan cfg target list { error := error }).result = (matching cfg target list).head? ∧
      (acquireScan cfg target list { error := error }).isAmbiguous = false ∧
      (matching cfg target list = [] → (acquireScan cfg target list { error := error }).error =
          if hasNoPerm list then cfg.usbNoPermissionsLong else error) := by
  induction list generalizing error with
  | nil => exact ⟨rfl, rfl, fun _ => rfl⟩
  | cons t rest ih =>
    have hrest : hasNoPerm (t :: rest) =
        (decide (t.2.connectionState = .kCsNoPerm) || hasNoPerm rest) := rfl
    by_cases hperm : t.2.connectionState = .kCsNoPerm
    · have hmatch : matching cfg target (t :: rest) = matching cfg target rest := by
        simp [matching, hperm]
      rw [acquireScan, if_pos hperm, hmatch, hrest, decide_eq_true hperm, Bool.true_or]
      obtain ⟨hresult, hflag, herror⟩ := ih cfg.usbNoPermissionsLong
      exact ⟨hresult, hflag, fun hnone => by rw [herror hnone]; simp⟩
    rw [acquireScan, if_neg hperm, hrest, decide_eq_false hperm, Bool.false_or]
    by_cases haccepts : target.accepts cfg t.2 = true
    · have hmatch : matching cfg target (t :: rest) = t :: matching cfg target rest := by
        simp [matching, hperm, haccepts]
      rw [if_pos haccepts, if_pos htarget, hmatch]
      exact ⟨rfl, rfl, fun hnone => by cases hnone⟩
    · have hmatch : matching cfg target (t :: rest) = matching cfg target rest := by
        simp [matching, haccepts]
      rw [if_neg haccepts, hmatch]
      exact ih error

lemma acquireActive_congr {acc acc' : Acquired} (hresult : acc'.result = acc.result)
    (hflag : acc'.isAmbiguous = acc.isAmbiguous)
    (herror : acc.result = none → acc'.error = acc.error) :
    acquireActive cfg any acc' = acquireActive cfg any acc := by
  obtain ⟨r, flag, error⟩ := acc
  obtain ⟨r', flag', error'⟩ := acc'
  obtain rfl : r' = r := hresult
  obtain rfl : flag' = flag := hflag
  cases r' with
  | none => rw [show error' = error from herror rfl]
  | some t => rfl

def DistinctIds (list : List (TPtr × ATransport)) : Prop := (list.map (·.2.id)).Nodup

variable {list : List (TPtr × ATransport)}

lemma matching_id (cfg : Config) (hids : DistinctIds list)
    (htarget : target.transportId ≠ 0) : (matching cfg target list).length ≤ 1 := by
  have hnodup : ((matching cfg target list).map (·.2.id)).Nodup :=
    hids.sublist (filter_sublist.map _)
  have hsame : ∀ t ∈ matching cfg target list, t.2.id = target.transportId := by
    intro t ht
    have haccepts := (mem_filter.mp ht).2
    simp only [Target.accepts, if_pos htarget, Bool.and_eq_true, decide_eq_true_eq] at haccepts
    exact haccepts.2
  cases hm : matching cfg target list with
  | nil => simp
  | cons t rest =>
    cases rest with
    | nil => simp
    | cons u rest =>
      rw [hm] at hnodup hsame
      have ht := hsame t (by simp)
      have hu := hsame u (by simp)
      simp [ht, hu] at hnodup

lemma acquire_eq (hids : DistinctIds list) :
    acquire cfg target any list = acquireActive cfg any
        (scanned target (if hasNoPerm list then cfg.usbNoPermissionsLong else target.notFound)
          (matching cfg target list)) := by
  unfold acquire
  by_cases htarget : target.transportId = 0
  · rw [acquireScan_eq htarget list none]
    rfl
  obtain ⟨hresult, hflag, herror⟩ := acquireScan_id cfg htarget list target.notFound
  have hlen := matching_id cfg hids htarget
  cases hm : matching cfg target list with
  | nil =>
    rw [hm] at hresult
    exact acquireActive_congr hresult hflag fun _ => herror hm
  | cons t rest =>
    rw [hm] at hresult hlen
    obtain rfl : rest = [] := length_eq_zero_iff.mp (by rw [length_cons] at hlen; omega)
    exact acquireActive_congr hresult hflag fun hnone => by cases hnone

def inactiveStates : List ConnectionState :=
  [.kCsConnecting, .kCsAuthorizing, .kCsUnauthorized, .kCsOffline]

lemma inactive_eq_none (cfg : Config) {s : ConnectionState} :
    inactive cfg s = none ↔ s ∉ inactiveStates := by
  cases s <;> simp [inactive, inactiveStates]

variable {t : TPtr × ATransport}

lemma acquireActive_result {acc : Acquired} :
    (acquireActive cfg any acc).result = some t ↔
      acc.result = some t ∧ (any = true ∨ t.2.connectionState ∉ inactiveStates) := by
  have hrefused : (if any = true then none else inactive cfg t.2.connectionState) = none ↔
      any = true ∨ t.2.connectionState ∉ inactiveStates := by
    rw [← inactive_eq_none cfg]
    cases any <;> simp
  unfold acquireActive
  cases hacc : acc.result with
  | none => simp [hacc]
  | some u =>
    dsimp only
    rw [Option.some_inj, ← hrefused]
    split
    · next error herror =>
      constructor
      · intro h
        cases h
      rintro ⟨rfl, hnone⟩
      rw [herror] at hnone
      cases hnone
    · next hnone =>
      show some u = some t ↔ _
      rw [Option.some_inj]
      constructor
      · rintro rfl
        exact ⟨rfl, hnone⟩
      · intro h
        exact h.1

lemma acquireActive_isAmbiguous (acc : Acquired) :
    (acquireActive cfg any acc).isAmbiguous = acc.isAmbiguous := by
  unfold acquireActive
  split
  · rfl
  · split <;> rfl

variable {error : Bytes} {m : List (TPtr × ATransport)}

lemma scanned_result : (scanned target error m).result = some t ↔ m = [t] := by
  cases m with
  | nil => simp [scanned]
  | cons u rest =>
    cases rest with
    | nil => simp [scanned]
    | cons v rest => simp [scanned]

lemma scanned_isAmbiguous : (scanned target error m).isAmbiguous = true ↔ 2 ≤ m.length := by
  cases m with
  | nil => simp [scanned]
  | cons u rest =>
    cases rest with
    | nil => simp [scanned]
    | cons v rest => simp [scanned]

lemma scanned_perm {m' : List (TPtr × ATransport)} (h : m'.Perm m) :
    scanned target error m' = scanned target error m := by
  have hlen := h.length_eq
  cases m with
  | nil => rw [h.eq_nil]
  | cons u rest =>
    cases rest with
    | nil => rw [perm_singleton.mp h]
    | cons v rest =>
      cases m' with
      | nil => cases hlen
      | cons u' rest' =>
        cases rest' with
        | nil => cases hlen
        | cons v' rest' => rfl

/-- The result, the flag and the text do not depend on the order of the list. A transport is found
exactly if no other one matches and its state is good enough. -/
theorem acquire_exactly_one (cfg : Config) (target : Target) (any : Bool)
    {list : List (TPtr × ATransport)} (hids : DistinctIds list) :
    (∀ list', list'.Perm list → acquire cfg target any list' = acquire cfg target any list) ∧
    (∀ t, (acquire cfg target any list).result = some t ↔ matching cfg target list = [t] ∧
        (any = true ∨ t.2.connectionState ∉ inactiveStates)) ∧
    (target.transportId = 0 → ((acquire cfg target any list).isAmbiguous = true ↔
        2 ≤ (matching cfg target list).length)) := by
  rw [acquire_eq hids]
  refine ⟨?_, ?_, ?_⟩
  · intro list' hperm
    have hids' : DistinctIds list' := (hperm.map _).nodup_iff.mpr hids
    have hmatching : (matching cfg target list').Perm (matching cfg target list) :=
      hperm.filter _
    have hnoPerm : hasNoPerm list' = hasNoPerm list := hperm.any_eq
    rw [acquire_eq hids', hnoPerm, scanned_perm hmatching]
  · intro t
    rw [acquireActive_result, scanned_result]
  · intro _
    rw [acquireActive_isAmbiguous, scanned_isAmbiguous]

def addressed : Config :=
  { host := true
    matchesTarget := ATransport.matchesTarget
    parseNetAddress := fun address => (parseNetAddress 5555 address).map (·.canonical) }

def usbAndTcp : List (TPtr × ATransport) :=
  [(0, { id := 1, type := .kTransportUsb, connectionState := .kCsDevice, serial := ascii "0123" }),
    (1, { id := 2, type := .kTransportLocal, connectionState := .kCsDevice,
          serial := ascii "10.0.0.1:5555" })]

/-- `adb -s tcp:10.0.0.1`, and the same with the list the other way round. -/
theorem acquire_byAddress :
    (acquire addressed { serial := some (ascii "tcp:10.0.0.1") } false usbAndTcp).result =
        usbAndTcp.getLast? ∧
      acquire addressed { serial := some (ascii "tcp:10.0.0.1") } false usbAndTcp.reverse =
        acquire addressed { serial := some (ascii "tcp:10.0.0.1") } false usbAndTcp := by
  have hids : DistinctIds usbAndTcp := by
    unfold DistinctIds
    decide
  obtain ⟨hperm, hresult, -⟩ :=
    acquire_exactly_one addressed { serial := some (ascii "tcp:10.0.0.1") } false hids
  exact ⟨(hresult _).mpr (by decide), hperm _ (reverse_perm _)⟩

end Adb.Server

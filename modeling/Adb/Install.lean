import Adb.Path
import Adb.SmartSocket

/-!
# Installing packages

`install_multiple_app` and `install_app_streamed` of `client/adb_install.cpp`. What the file system
and the device do is given with each call; what is asked of the device is recorded, in the order in
which it is asked.
-/

namespace Adb.Install

open Lib List

/-! ## The model -/

def exitFailure : Int := 1

def bufsiz : ℕ := 8192

def endsWithIgnoreCase (s suffix : Bytes) : Bool :=
  let lower := fun (c : UInt8) => if 65 ≤ c && c ≤ 90 then c + 32 else c
  (suffix.map lower).isSuffixOf (s.map lower)

/-- What becomes of `adb_connect` and of the fd it returns: the error, or what each `adb_read` gives
until one fails or is at the end. -/
abbrev Connection := Option (List Bytes)

def readStatusLine (reads : List Bytes) (count : ℕ) : Bytes :=
  cString (go reads (count - 1))
where
  go : List Bytes → ℕ → Bytes
  | [], _ => []
  | data :: rest, count =>
    let data := data.take count
    if data.isEmpty then [] else data ++ go rest (count - data.length)

def success (line : Bytes) : Bool := (ascii "Success").isPrefixOf line

def strrchr (s : Bytes) (c : UInt8) : Option ℕ :=
  (s.reverse.idxOf? c).map fun i => s.length - 1 - i

/-- The session that `install-create` has created, or -1: the number between the last brackets, as
an `int`. -/
def sessionId (line : Bytes) : Int :=
  if success line then
    match strrchr line 91, strrchr line 93 with
    | some start, some stop =>
      let line := line.take stop ++ if start < stop then [] else 0 :: line.drop (stop + 1)
      (BitVec.ofNat 32 (strtoll (line.drop (start + 1))).1).toInt
    | _, _ => -1
  else -1

inductive Service
  | create (totalSize : UInt64) (args : List Bytes)
  | write (size : UInt64) (session : Int) (index : ℕ) (name : Bytes)
  | commit (session : Int)
  | abandon (session : Int)
deriving DecidableEq, Repr

def printInt (n : Int) : Bytes :=
  if n < 0 then ascii "-" ++ Server.decimal n.natAbs else Server.decimal n.natAbs

def Service.text (installCmd : Bytes) : Service → Bytes
  | .create totalSize args =>
    installCmd ++ ascii " install-create -S " ++ Server.decimal totalSize.toNat ++
      args.flatMap fun arg => ascii " " ++ escapeArg arg
  | .write size session index name =>
    installCmd ++ ascii " install-write -S " ++ Server.decimal size.toNat ++ ascii " " ++
      printInt session ++ ascii " " ++ Server.decimal index ++ ascii "_" ++ basename name ++
      ascii " -"
  | .commit session => installCmd ++ ascii " install-commit " ++ printInt session
  | .abandon session => installCmd ++ ascii " install-abandon " ++ printInt session

structure Request where
  service : Service
  streamed : Bytes := []
  reply : Option Bytes
deriving DecidableEq, Repr

structure Apk where
  /-- `stat`, when the sizes are added up -/
  measured : Option UInt64
  /-- `stat`, before the file is streamed -/
  stat : Option UInt64
  opens : Bool
  /-- what `copy_to_file` copies -/
  content : Bytes := []
  connection : Connection
deriving DecidableEq, Repr

structure Env where
  legacy : Bool := false
  create : Connection
  apks : ℕ → Apk
  finalize : Connection

def ask (service : Service) (streamed : Bytes) (connection : Connection) : Request :=
  { service := service
    streamed := if connection.isSome then streamed else []
    reply := connection.map fun reads => readStatusLine reads bufsiz }

def Request.succeeded (r : Request) : Bool := r.reply.any success

/-- Valid session, now stream the APKs: `success`, and what was asked. -/
def streamApks (env : Env) (session : Int) : List (Bytes × ℕ) → Bool × List Request
  | [] => (true, [])
  | (file, i) :: rest =>
    let apk := env.apks i
    match apk.stat with
    | none => (false, [])
    | some size =>
      if !apk.opens then (false, [])
      else
        let r := ask (.write size session i file) apk.content apk.connection
        if !r.succeeded then (false, [r])
        else
          let (ok, rs) := streamApks env session rest
          (ok, r :: rs)

def apkArgs (argv : List Bytes) : List (Bytes × ℕ) :=
  argv.zipIdx.rtakeWhile fun arg => endsWithIgnoreCase arg.1 (ascii ".apk")

def totalSize (env : Env) (apks : List (Bytes × ℕ)) : UInt64 :=
  apks.foldr (fun apk n => n + ((env.apks apk.2).measured).getD 0) 0

def installCmd (env : Env) : Bytes :=
  if env.legacy then ascii "exec:pm" else ascii "exec:cmd package"

/-- `install_multiple_app(argc, argv)`: the exit status, and what was asked of the device. -/
def installMultipleApp (env : Env) (argv : List Bytes) : Int × List Request :=
  let apks := apkArgs argv
  if apks.isEmpty then
    -- `syntax_error`
    (exitFailure, [])
  else
    let args := (argv.take (argv.length - apks.length)).drop 1
    let created := ask (.create (totalSize env apks) args) [] env.create
    match created.reply with
    | none => (exitFailure, [created])
    | some line =>
      let session := sessionId line
      if session < 0 then (exitFailure, [created])
      else
        let (ok, written) := streamApks env session apks
        let finalized := ask (if ok then .commit session else .abandon session) [] env.finalize
        (if finalized.succeeded then 0 else exitFailure, created :: written ++ [finalized])

/-- What the steps of a fast deploy return: `extract_metadata`, `create_patch` and
`install_patch`. -/
structure FastDeploySteps where
  metadataLen : Int
  createPatch : Int
  installPatch : Int
deriving DecidableEq, Repr

/-- `install_app_streamed`, for a file whose name ends in `.apk`. -/
def installAppStreamed (useFastdeploy : Bool) (steps : FastDeploySteps) (apk : Apk) : Int :=
  if useFastdeploy then
    let result : Int := -1
    if steps.metadataLen ≤ 0 then 1
    else if steps.createPatch ≠ 0 then steps.createPatch
    else if steps.installPatch ≠ 0 then steps.installPatch
    else result
  else
    match apk.stat with
    | none => 1
    | some _ =>
      if !apk.opens then 1
      else
        match apk.connection with
        | none => 1
        | some reads => if success (readStatusLine reads bufsiz) then 0 else 1

/-! ## What the exit status says -/

variable {env : Env} {argv : List Bytes} {session : Int} {apks : List (Bytes × ℕ)} {r : Request}

def Apk.streams (apk : Apk) : Bool :=
  apk.stat.isSome && apk.opens && apk.connection.any fun reads =>
    success (readStatusLine reads bufsiz)

def Created (env : Env) (argv : List Bytes) (session : Int) : Prop :=
  (apkArgs argv).isEmpty = false ∧ 0 ≤ session ∧
    env.create.map (fun reads => sessionId (readStatusLine reads bufsiz)) = some session

def Service.isFinal : Service → Bool
  | .commit _ | .abandon _ => true
  | _ => false

def Streamed (env : Env) (session : Int) (file : Bytes × ℕ) (r : Request) : Prop :=
  (∃ size, r.service = .write size session file.2 file.1) ∧
    r.streamed = (env.apks file.2).content ∧ r.succeeded = true

lemma succeeded_ask (service : Service) (streamed : Bytes) (connection : Connection) :
    (ask service streamed connection).succeeded =
      connection.any fun reads => success (readStatusLine reads bufsiz) := by
  cases connection with
  | none => rfl
  | some reads => rfl

lemma streamApks_ok (env : Env) (session : Int) (apks : List (Bytes × ℕ)) :
    (streamApks env session apks).1 = apks.all fun apk => (env.apks apk.2).streams := by
  induction apks with
  | nil => rfl
  | cons apk rest ih =>
    obtain ⟨file, i⟩ := apk
    unfold streamApks
    rw [all_cons]
    dsimp only
    cases hstat : (env.apks i).stat with
    | none => simp [Apk.streams, hstat]
    | some size =>
      cases hopens : (env.apks i).opens with
      | false => simp [Apk.streams, hstat, hopens]
      | true =>
        have hstreams : (env.apks i).streams =
            (ask (.write size session i file) (env.apks i).content
              (env.apks i).connection).succeeded := by
          simp [Apk.streams, hstat, hopens, succeeded_ask]
        rw [hstreams]
        cases hr : (ask (.write size session i file) (env.apks i).content
            (env.apks i).connection).succeeded with
        | false => simp [hr]
        | true => simpa [hr] using ih

lemma not_final_of_mem_streamApks (h : r ∈ (streamApks env session apks).2) :
    r.service.isFinal = false := by
  induction apks with
  | nil => cases h
  | cons apk rest ih =>
    obtain ⟨file, i⟩ := apk
    unfold streamApks at h
    dsimp only at h
    split at h
    · cases h
    split at h
    · cases h
    split at h
    · rw [mem_singleton.mp h]
      rfl
    rcases mem_cons.mp h with rfl | h
    · rfl
    · exact ih h

lemma streamed_of_streamApks (h : (streamApks env session apks).1 = true) :
    ∀ file ∈ apks, ∃ r ∈ (streamApks env session apks).2, Streamed env session file r := by
  induction apks with
  | nil => simp
  | cons apk rest ih =>
    obtain ⟨file, i⟩ := apk
    unfold streamApks at h ⊢
    dsimp only at h ⊢
    cases hstat : (env.apks i).stat with
    | none => simp [hstat] at h
    | some size =>
      cases hopens : (env.apks i).opens with
      | false => simp [hstat, hopens] at h
      | true =>
        cases hr : (ask (.write size session i file) (env.apks i).content
            (env.apks i).connection).succeeded with
        | false => simp [hstat, hopens, hr] at h
        | true =>
          simp only [hstat, hopens, hr, Bool.not_true, Bool.false_eq_true, if_false] at h ⊢
          intro f hf
          rcases mem_cons.mp hf with rfl | hf
          · refine ⟨_, mem_cons_self .., ⟨size, rfl⟩, ?_, hr⟩
            rw [succeeded_ask] at hr
            obtain ⟨reads, hconn, -⟩ := (Option.any_eq_true _ _).mp hr
            simp [ask, hconn]
          · obtain ⟨r, hmem, hstreamed⟩ := ih h f hf
            exact ⟨r, mem_cons_of_mem _ hmem, hstreamed⟩

def finalService (env : Env) (argv : List Bytes) (session : Int) : Service :=
  if (apkArgs argv).all fun apk => (env.apks apk.2).streams then .commit session
  else .abandon session

def finalRequest (env : Env) (argv : List Bytes) (session : Int) : Request :=
  ask (finalService env argv session) [] env.finalize

lemma installMultipleApp_of_created (h : Created env argv session) :
    ∃ created, created.service.isFinal = false ∧ installMultipleApp env argv =
      (if (finalRequest env argv session).succeeded then 0 else exitFailure,
        created :: (streamApks env session (apkArgs argv)).2 ++
          [finalRequest env argv session]) := by
  obtain ⟨hapks, hpos, hcreate⟩ := h
  obtain ⟨reads, hreads, hsession⟩ := Option.map_eq_some_iff.mp hcreate
  refine ⟨ask (.create (totalSize env (apkArgs argv))
    ((argv.take (argv.length - (apkArgs argv).length)).drop 1)) [] env.create, rfl, ?_⟩
  have hnot : ¬ session < 0 := by omega
  have hreply : (ask (.create (totalSize env (apkArgs argv))
      ((argv.take (argv.length - (apkArgs argv).length)).drop 1)) [] env.create).reply =
      some (readStatusLine reads bufsiz) := by
    rw [hreads]
    rfl
  simp only [installMultipleApp, hapks, hreply, hsession, hnot, if_false, Bool.false_eq_true,
    finalRequest, finalService, ← streamApks_ok env session]

lemma installMultipleApp_of_not_created (h : ∀ session, ¬ Created env argv session) :
    (installMultipleApp env argv).1 = exitFailure ∧
      ∀ r ∈ (installMultipleApp env argv).2, r.service.isFinal = false := by
  unfold installMultipleApp
  dsimp only
  cases hapks : (apkArgs argv).isEmpty with
  | true => simp
  | false =>
    cases hcreate : env.create with
    | none => simp [ask, Service.isFinal]
    | some reads =>
      have hneg : sessionId (readStatusLine reads bufsiz) < 0 := by
        by_contra hpos
        exact h (sessionId (readStatusLine reads bufsiz))
          ⟨hapks, by omega, by rw [hcreate, Option.map_some]⟩
      simp [ask, hneg, Service.isFinal]

def AbandonedWell (env : Env) (argv : List Bytes) : Prop :=
  (∃ session, Created env argv session) ∧ (∃ apk ∈ apkArgs argv, (env.apks apk.2).streams = false) ∧
    (env.finalize.any fun reads => success (readStatusLine reads bufsiz)) = true

def Committed (rs : List Request) : Prop :=
  ∃ r ∈ rs, (∃ session, r.service = .commit session) ∧ r.succeeded = true

lemma finalRequest_mem (h : Created env argv session) :
    (installMultipleApp env argv).2.filter (fun r => r.service.isFinal) =
      [finalRequest env argv session] := by
  obtain ⟨created, hcreated, happ⟩ := installMultipleApp_of_created h
  have hwritten : (streamApks env session (apkArgs argv)).2.filter
      (fun r => r.service.isFinal) = [] := by
    apply filter_eq_nil_iff.mpr
    intro r hr
    simp [not_final_of_mem_streamApks hr]
  have hfinal : (finalRequest env argv session).service.isFinal = true := by
    show (finalService env argv session).isFinal = true
    unfold finalService
    split <;> rfl
  simp [happ, hcreated, hwritten, hfinal]

lemma committed_iff (h : Created env argv session) :
    Committed (installMultipleApp env argv).2 ↔
      (∀ apk ∈ apkArgs argv, (env.apks apk.2).streams = true) ∧
        (finalRequest env argv session).succeeded = true := by
  have hfilter := finalRequest_mem h
  have hmem : ∀ r, r ∈ (installMultipleApp env argv).2 → r.service.isFinal = true →
      r = finalRequest env argv session := by
    intro r hr hfinal
    have : r ∈ (installMultipleApp env argv).2.filter (fun r => r.service.isFinal) :=
      mem_filter.mpr ⟨hr, hfinal⟩
    rw [hfilter] at this
    exact mem_singleton.mp this
  constructor
  · intro ⟨r, hr, ⟨s, hcommit⟩, hsucceeded⟩
    have heq := hmem r hr (by rw [hcommit]; rfl)
    rw [heq] at hcommit hsucceeded
    refine ⟨?_, hsucceeded⟩
    have hservice : finalService env argv session = .commit s := hcommit
    unfold finalService at hservice
    split at hservice
    · next hall => exact all_eq_true.mp hall
    · cases hservice
  · intro ⟨hall, hsucceeded⟩
    have hin : finalRequest env argv session ∈
        (installMultipleApp env argv).2.filter (fun r => r.service.isFinal) := by
      rw [hfilter]
      exact mem_singleton_self _
    refine ⟨_, mem_of_mem_filter hin, ⟨session, ?_⟩, hsucceeded⟩
    show finalService env argv session = .commit session
    rw [finalService, if_pos (all_eq_true.mpr hall)]

lemma status_iff :
    ((installMultipleApp env argv).1 = 0 ↔ Committed (installMultipleApp env argv).2) ↔
      ¬ AbandonedWell env argv := by
  by_cases hcreated : ∃ session, Created env argv session
  · obtain ⟨session, h⟩ := hcreated
    obtain ⟨created, -, happ⟩ := installMultipleApp_of_created h
    have hstatus : (installMultipleApp env argv).1 = 0 ↔
        (finalRequest env argv session).succeeded = true := by
      rw [happ]
      cases (finalRequest env argv session).succeeded with
      | false => simp [exitFailure]
      | true => simp
    have hsucceeded := succeeded_ask (finalService env argv session) [] env.finalize
    have hall : (∀ apk ∈ apkArgs argv, (env.apks apk.2).streams = true) ↔
        ¬ ∃ apk ∈ apkArgs argv, (env.apks apk.2).streams = false := by
      simp
    rw [hstatus, committed_iff h, hall, AbandonedWell, ← hsucceeded]
    constructor
    · intro hiff ⟨_, hfailed, hs⟩
      exact (hiff.mp hs).1 hfailed
    · intro hnot
      exact ⟨fun hs => ⟨fun hfailed => hnot ⟨⟨session, h⟩, hfailed, hs⟩, hs⟩, fun hs => hs.2⟩
  · have hnone : ∀ session, ¬ Created env argv session := not_exists.mp hcreated
    obtain ⟨hstatus, hfinal⟩ := installMultipleApp_of_not_created hnone
    have hnot : ¬ Committed (installMultipleApp env argv).2 := by
      intro ⟨r, hr, ⟨s, hcommit⟩, _⟩
      have := hfinal r hr
      rw [hcommit] at this
      cases this
    simp [hstatus, exitFailure, hnot, AbandonedWell, hcreated]

/-- A session is committed or given up, once, and committed only if the device has all files. The
exit status says that it was committed well unless it was given up well; and that of a fast deploy
says that it went well unless it did. -/
theorem install_faithful_iff (env : Env) (argv : List Bytes) (steps : FastDeploySteps) (apk : Apk) :
    (∀ session, Created env argv session →
      (∃ r, (installMultipleApp env argv).2.filter (fun r => r.service.isFinal) = [r] ∧
        (r.service = .commit session ∨ r.service = .abandon session)) ∧
      ((∃ r ∈ (installMultipleApp env argv).2, r.service = .commit session) →
        ∀ file ∈ apkArgs argv, ∃ r ∈ (installMultipleApp env argv).2,
          Streamed env session file r)) ∧
    (((installMultipleApp env argv).1 = 0 ↔ Committed (installMultipleApp env argv).2) ↔
      ¬ AbandonedWell env argv) ∧
    ((installAppStreamed true steps apk = 0 ↔
        0 < steps.metadataLen ∧ steps.createPatch = 0 ∧ steps.installPatch = 0) ↔
      ¬ (0 < steps.metadataLen ∧ steps.createPatch = 0 ∧ steps.installPatch = 0)) := by
  refine ⟨?_, status_iff, ?_⟩
  · intro session h
    have hfilter := finalRequest_mem h
    refine ⟨⟨_, hfilter, ?_⟩, ?_⟩
    · show finalService env argv session = _ ∨ finalService env argv session = _
      unfold finalService
      split
      · exact .inl rfl
      · exact .inr rfl
    · intro ⟨r, hr, hcommit⟩ file hfile
      have hmem : r ∈ (installMultipleApp env argv).2.filter (fun r => r.service.isFinal) :=
        mem_filter.mpr ⟨hr, by rw [hcommit]; rfl⟩
      rw [hfilter, mem_singleton] at hmem
      rw [hmem] at hcommit
      -- so all files were streamed, by the requests between the first and the last
      have hall : (streamApks env session (apkArgs argv)).1 = true := by
        rw [streamApks_ok]
        have hservice : finalService env argv session = .commit session := hcommit
        unfold finalService at hservice
        split at hservice
        · next hall => exact hall
        · cases hservice
      obtain ⟨r', hr', hstreamed⟩ := streamed_of_streamApks hall file hfile
      obtain ⟨created, -, happ⟩ := installMultipleApp_of_created h
      refine ⟨r', ?_, hstreamed⟩
      rw [happ]
      exact mem_append_left _ (mem_cons_of_mem _ hr')
  · have hne : installAppStreamed true steps apk ≠ 0 := by
      rw [installAppStreamed, if_pos rfl]
      split
      · decide
      split
      · next h => exact h
      split
      · next h => exact h
      · decide
    simp [hne]

def willing : Env :=
  { create := some [ascii "Success: created", ascii " install session [7]\n"]
    apks := fun _ =>
      { measured := some 1, stat := some 1, opens := true, content := [0],
        connection := some [ascii "Success\n"] }
    finalize := some [ascii "Success\n"] }

/-- Two files are installed, and a patch cannot be made. -/
theorem install_faithful_two :
    Created willing [ascii "install-multiple", ascii "-r", ascii "a.apk", ascii "b.APK"] 7 ∧
      Committed (installMultipleApp willing
        [ascii "install-multiple", ascii "-r", ascii "a.apk", ascii "b.APK"]).2 ∧
      installAppStreamed true ⟨100, 2, 0⟩ (willing.apks 0) ≠ 0 := by
  have hcreated :
      Created willing [ascii "install-multiple", ascii "-r", ascii "a.apk", ascii "b.APK"] 7 :=
    ⟨by decide, by decide, by decide⟩
  obtain ⟨hsession, hstatus, hdeploy⟩ := install_faithful_iff willing
    [ascii "install-multiple", ascii "-r", ascii "a.apk", ascii "b.APK"] ⟨100, 2, 0⟩
    (willing.apks 0)
  have hwell : ¬ AbandonedWell willing
      [ascii "install-multiple", ascii "-r", ascii "a.apk", ascii "b.APK"] := by
    intro ⟨_, ⟨apk, _, hfails⟩, _⟩
    have hstreams : (willing.apks apk.2).streams = true := rfl
    rw [hstreams] at hfails
    cases hfails
  refine ⟨hcreated, (hstatus.mpr hwell).mp (by decide), ?_⟩
  intro hzero
  exact absurd ((hdeploy.mpr (by decide)).mp hzero) (by decide)

def unreadable : Env :=
  { create := some [ascii "Success: created install session [7]\n"]
    apks := fun _ => { measured := some 1, stat := some 1, opens := false, connection := none }
    finalize := some [ascii "Success\n"] }

/-- The session is given up, and the command succeeds; and a fast deploy that goes well fails. -/
theorem install_unfaithful :
    (installMultipleApp unreadable [ascii "install-multiple", ascii "a.apk"]).1 = 0 ∧
      (installMultipleApp unreadable [ascii "install-multiple", ascii "a.apk"]).2.map (·.service) =
        [.create 1 [], .abandon 7] ∧
      ∀ apk, installAppStreamed true ⟨100, 0, 0⟩ apk = -1 := by
  refine ⟨by decide, by decide, fun apk => rfl⟩

end Adb.Install

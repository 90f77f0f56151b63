import Mathlib.Data.List.DropRight
import Kdive.Artifacts.Manifest
import Kdive.Lib.Program
import Kdive.Lib.Runs
import Kdive.Lib.Utf8
import Kdive.Postmortem.DumpListing
import Kdive.Safety.Snippets

/-!
# Fetching dumps

A fetch stages the files of a dump in a directory of its own and records them in the manifest
of the run.  A recorded fetch is answered from the manifest, unless it is forced.

*Order.*  The staged directory is removed before the first file is copied, and the record is
written after the last one.  In between, a call that stops leaves the old record behind.

*Faults.*  What the calls of the system come to is given with a fetch: the text of what they
raise, what `scp` leaves, and what is left of a directory whose removal raises.

*Redaction.*  The list of files goes through the redactor before it is recorded.
-/

namespace Kdive.Dumps

open Artifacts (RunManifest StepResult ArtifactRef)
open Program

/-- The octets of a file. -/
abbrev Octets := List Nat

/-- `hashlib.sha256(…).hexdigest()` and `json.dumps` of the details of a result. -/
structure Host where
  sha256 : Octets → Text
  hex : ∀ data, ∀ c ∈ sha256 data, GdbMi.isHexDigit c = true
  dumps : List (String × Value Text) → Octets

/-! ## Names -/

/-- A letter, a digit, or one of `.`, `_` and `-`. -/
def isSlugChar (c : Char) : Bool :=
  GdbMi.isLetter c || GdbMi.isDigit c || c = '.' || c = '_' || c = '-'

/-- `_basename` -/
def baseName (path : Text) : Text :=
  ((path.rdropWhile fun c => c = '/').splitOn '/').getLastD []

/-- `_SLUG_RE.sub("_", name) or "dump"` -/
def slug (name : Text) : Text :=
  if name = [] then "dump".toList else name.map fun c => if isSlugChar c then c else '_'

/-- `derive_dump_id` -/
def deriveDumpId (host : Host) (remoteDir : Text) : Text :=
  slug (baseName remoteDir) ++ '-' :: (host.sha256 (Utf8.encode remoteDir)).take 8

/-- Where dumps are staged, below the directory of the run. -/
def DUMPS_DIR : Text := "debug/postmortem/dumps/".toList

/-- The staged directory of a dump. -/
def destDir (dumpId : Text) : Text := DUMPS_DIR ++ dumpId

/-- A file in it. -/
def localPath (dumpId name : Text) : Text := destDir dumpId ++ '/' :: name

/-- A path below the staged directory. -/
def InTree (dumpId path : Text) : Prop := (destDir dumpId ++ ['/']) <+: path

instance (dumpId path : Text) : Decidable (InTree dumpId path) :=
  inferInstanceAs (Decidable (_ <+: _))

/-- The name of the step of a dump. -/
def stepName (dumpId : Text) : String := "postmortem.fetch:" ++ String.ofList dumpId

/-! ## The directory of a run -/

/-- The manifest of a run, its files, and the staged directories that exist. -/
structure RunState where
  manifest : RunManifest (Value Text)
  files : Text → Option Octets
  dirs : Text → Bool

/-- Why a fetch stops. -/
inductive Stop where
  | failure (f : FetchFailure)
  | raised (text : String)
deriving DecidableEq

/-- What recording a result comes to: it may raise before or after the manifest is replaced. -/
inductive Recording where
  | done
  | before (text : String)
  | after (text : String)
deriving DecidableEq

/-- A call of the system, with what it comes to. -/
inductive FetchOp where
  /-- `postmortem_fetch_lock`, taken and released -/
  | acquire (fault : Option String)
  | release (fault : Option String)
  | loadManifest (fault : Option String)
  | dirExists (dumpId : Text)
  /-- `shutil.rmtree`, and what is left if it raises -/
  | removeTree (dumpId : Text) (left : Option (String × (Text → Bool)))
  /-- `shutil.rmtree(…, ignore_errors=True)`, and what is left -/
  | discardTree (dumpId : Text) (left : Text → Bool)
  | makeDir (dumpId : Text) (fault : Option String)
  | makeSensitiveDir (fault : Option String)
  /-- `scp`, and what it leaves -/
  | copy (path : Text) (left : Option Octets)
  /-- `is_file` and `stat` -/
  | fileSize (path : Text)
  | readFile (path : Text) (fault : Option String)
  /-- `atomic_write_text` -/
  | writeFile (path : Text) (content : Octets) (fault : Option String)
  | record (result : StepResult (Value Text)) (replaceSucceeded : Bool) (outcome : Recording)

/-- What a call responds. -/
@[reducible] def FetchResp : FetchOp → Type
  | .loadManifest _ => RunManifest (Value Text)
  | .dirExists _ => Bool
  | .fileSize _ => Option Nat
  | .readFile .. => Octets
  | _ => Unit

/-- A call that raises what it is given and otherwise acts. -/
def orStop {α : Type} (fault : Option String) (s : RunState) (act : Except Stop α × RunState) :
    Except Stop α × RunState :=
  match fault with
  | some text => (.error (.raised text), s)
  | none => act

/-- The files without those of a dump, but for some that are left. -/
def RunState.without (s : RunState) (dumpId : Text) (left : Text → Bool) : RunState :=
  { s with files := fun path => if InTree dumpId path ∧ left path = false then none else s.files path }

/-- Some content of a file. -/
def RunState.setFile (s : RunState) (path : Text) (content : Option Octets) : RunState :=
  { s with files := Function.update s.files path content }

/-- A directory appears or goes. -/
def RunState.setDir (s : RunState) (dumpId : Text) (there : Bool) : RunState :=
  { s with dirs := Function.update s.dirs dumpId there }

/-- A result in the manifest. -/
def RunState.recorded (s : RunState) (result : StepResult (Value Text)) (replaceSucceeded : Bool) :
    RunState :=
  { s with manifest := s.manifest.withStepResult result replaceSucceeded }

/-- The calls. -/
def fetchExec : (o : FetchOp) → RunState → Except Stop (FetchResp o) × RunState
  | .acquire fault, s => orStop fault s (.ok (), s)
  | .release fault, s => orStop fault s (.ok (), s)
  | .loadManifest fault, s => orStop fault s (.ok s.manifest, s)
  | .dirExists dumpId, s => (.ok (s.dirs dumpId), s)
  | .removeTree dumpId left, s =>
      match left with
      | some (text, left) => (.error (.raised text), s.without dumpId left)
      | none => (.ok (), (s.without dumpId fun _ => false).setDir dumpId false)
  | .discardTree dumpId left, s => (.ok (), s.without dumpId left)
  | .makeDir dumpId fault, s => orStop fault s (.ok (), s.setDir dumpId true)
  | .makeSensitiveDir fault, s => orStop fault s (.ok (), s)
  | .copy path left, s => (.ok (), s.setFile path left)
  | .fileSize path, s => (.ok ((s.files path).map List.length), s)
  | .readFile path fault, s =>
      orStop fault s
        (match s.files path with
        | some data => (.ok data, s)
        | none => (.error (.raised "No such file or directory"), s))
  | .writeFile path content fault, s => orStop fault s (.ok (), s.setFile path (some content))
  | .record result replaceSucceeded outcome, s =>
      match outcome with
      | .before text => (.error (.raised text), s)
      | .done => (.ok (), s.recorded result replaceSucceeded)
      | .after text => (.error (.raised text), s.recorded result replaceSucceeded)

/-- A program over the directory of a run. -/
abbrev FetchRun (α : Type) : Type := Prog FetchResp Stop α

/-- One call. -/
abbrev call (o : FetchOp) : FetchRun (FetchResp o) := Prog.perform o

/-! ## A fetch -/

/-- What `scp` of a file comes to. -/
inductive Transfer where
  /-- The options of the profile make no command. -/
  | badOptions (message : Text)
  | raises (left : Option Octets) (message : Text)
  | done (left : Option Octets) (exitStatus : Int) (timedOut cancelled : Bool)

/-- What the copy of a file comes to. -/
structure Copy where
  transfer : Transfer
  digest : Option String

/-- A request, and what its calls come to. -/
structure Fetch where
  runDir : Text
  request : FetchRequest
  redactor : Redactor
  /-- What the checks before the lock come to. -/
  refused : Option Stop
  acquire : Option String
  release : Option String
  load : Option String
  enumerated : Except Stop Items
  free : Except String Nat
  remove : Option (String × (Text → Bool))
  makeDir : Option String
  makeSensitiveDir : Option String
  /-- The copies, in the order of the plan. -/
  copies : Nat → Copy
  /-- What is left when a directory is discarded. -/
  discarded : Text → Bool
  summary : Option String
  recording : Recording

/-- `FetchedFile` -/
structure FetchedFile where
  name : Text
  ref : Text
  sha256 : Text
  sizeBytes : Nat
deriving DecidableEq

/-- The fields of a fetched file. -/
def FetchedFile.items (file : FetchedFile) : List (Key × Value Text) :=
  [(.str "name".toList, .str file.name), (.str "ref".toList, .str file.ref),
    (.str "sha256".toList, .str file.sha256),
    (.str "size_bytes".toList, .scalar (.int file.sizeBytes))]

/-- `model_dump` of a fetched file. -/
def FetchedFile.dump (file : FetchedFile) : Value Text := .mapping file.items

/-- `_stage_one_file` -/
def stageOneFile (host : Host) (dumpId : Text) (spec : FetchSpec) (copy : Copy) :
    FetchRun FetchedFile :=
  match copy.transfer with
  | .badOptions message => .raise (.failure ⟨.configuration_error, message, "invalid_ssh_options"⟩)
  | .raises left message => do
      call (.copy (localPath dumpId spec.localName) left)
      .raise (.failure ⟨.infrastructure_failure, "scp raised: ".toList ++ message, "ssh_failure"⟩)
  | .done left exitStatus timedOut cancelled => do
      call (.copy (localPath dumpId spec.localName) left)
      if exitStatus ≠ 0 ∨ timedOut ∨ cancelled then
        .raise (.failure ⟨.infrastructure_failure,
          "scp of ".toList ++ spec.localName ++ " failed".toList, "incomplete_transfer"⟩)
      else do
        let size ← call (.fileSize (localPath dumpId spec.localName))
        if size ≠ some spec.expectedSize then
          .raise (.failure ⟨.infrastructure_failure, spec.localName ++ " truncated".toList,
            "incomplete_transfer"⟩)
        else do
          let data ← call (.readFile (localPath dumpId spec.localName) copy.digest)
          return ⟨spec.localName, localPath dumpId spec.localName, host.sha256 data,
            spec.expectedSize⟩

/-- The handling of a file that was not staged. -/
def onStop (dumpId : Text) (left : Text → Bool) : Stop → FetchRun FetchedFile
  | .failure f => do
      call (.discardTree dumpId left)
      .raise (.failure f)
  | .raised text => .raise (.raised text)

/-- The loop over the plan, from its `i`-th file on. -/
def stageFiles (host : Host) (dumpId : Text) (f : Fetch) : Nat → List FetchSpec →
    FetchRun (List FetchedFile)
  | _, [] => return []
  | i, spec :: specs => do
      let staged ← (stageOneFile host dumpId spec (f.copies i)).rescue (onStop dumpId f.discarded)
      let rest ← stageFiles host dumpId f (i + 1) specs
      return staged :: rest

/-- The entry that is fetched, if the gate lets one through. -/
def admission (py : Interpreter) (f : Fetch) (dumpDir : Text) : Except Stop DumpEntry :=
  match f.enumerated, f.free with
  | .error stop, _ => .error stop
  | .ok _, .error text => .error (.raised text)
  | .ok parsed, .ok free =>
      (admitFetchEntry py f.request dumpDir (.ok parsed) free).mapError Stop.failure

/-- The keys of the references in a result. -/
def REF_KEYS : List String :=
  ["vmcore_ref", "vmlinux_ref", "vmcoreinfo_ref", "vmcore_dmesg_ref", "modules_ref"]

/-- The reference under a key. -/
def refUnder (staged : List (FetchSpec × FetchedFile)) (key : String) : Value Text :=
  match (staged.filter fun item => item.1.refKey = key.toList).getLast? with
  | some item => .str item.2.ref
  | none => .scalar .none

/-- The details of a result. -/
def fetchDetails (redactor : Redactor) (dumpId : Text) (specs : List FetchSpec)
    (fetched : List FetchedFile) : List (String × Value Text) :=
  [("dump_id", .str dumpId),
    ("total_bytes", .scalar (.int (fetched.map FetchedFile.sizeBytes).sum)),
    ("files", redactor.redactValue (.list (fetched.map FetchedFile.dump)))] ++
  REF_KEYS.map fun key => (key, refUnder (specs.zip fetched) key)

/-- The result of a fetch. -/
def fetchResult (runDir dumpId : Text) (count : Nat) (details : List (String × Value Text)) :
    StepResult (Value Text) where
  stepName := stepName dumpId
  status := .succeeded
  summary := s!"fetched dump {String.ofList dumpId} ({count} files)"
  artifacts := [⟨String.ofList (runDir ++ '/' :: localPath dumpId "fetch.json".toList),
    "application/json", false, none⟩]
  details := details

/-- There is a succeeded fetch of a dump. -/
def Fetched (m : RunManifest (Value Text)) (dumpId : Text) : Prop :=
  (m.result? (stepName dumpId)).any (fun result => result.status = .succeeded) = true

instance (m : RunManifest (Value Text)) (dumpId : Text) : Decidable (Fetched m dumpId) :=
  inferInstanceAs (Decidable (_ = true))

/-- `_fetch_under_lock`, from the admission of the entry on. -/
def stage (host : Host) (dumpId : Text) (f : Fetch) (entry : DumpEntry) : FetchRun Unit := do
  let there ← call (.dirExists dumpId)
  Prog.when (there = true) (call (.removeTree dumpId f.remove))
  call (.makeDir dumpId f.makeDir)
  call (.makeSensitiveDir f.makeSensitiveDir)
  let fetched ← stageFiles host dumpId f 0 (planFetch entry (coreName entry))
  let details := fetchDetails f.redactor dumpId (planFetch entry (coreName entry)) fetched
  call (.writeFile (localPath dumpId "fetch.json".toList) (host.dumps details) f.summary)
  call (.record (fetchResult f.runDir dumpId fetched.length details) f.request.force f.recording)

/-- `_fetch_under_lock`, inside the lock.  It says whether the dump was fetched before. -/
def fetchLocked (host : Host) (py : Interpreter) (dumpDir dumpId : Text) (f : Fetch) :
    FetchRun Bool := do
  let manifest ← call (.loadManifest f.load)
  if Fetched manifest dumpId ∧ f.request.force = false then return true
  else do
    let entry ← Prog.ofExcept (admission py f dumpDir)
    stage host dumpId f entry
    return false

/-- `_fetch_under_lock` -/
def fetchUnderLock (host : Host) (py : Interpreter) (dumpDir dumpId : Text) (f : Fetch) :
    FetchRun Bool := do
  call (.acquire f.acquire)
  let result ← (fetchLocked host py dumpDir dumpId f).attempt
  call (.release f.release)
  Prog.ofExcept result

/-- `debug_postmortem_fetch_handler` -/
def fetchHandler (host : Host) (py : Interpreter) (f : Fetch) : FetchRun Bool :=
  match f.refused, validatedDumpDir py f.request with
  | some stop, _ => .raise stop
  | none, .error failure => .raise (.failure failure)
  | none, .ok dumpDir =>
      fetchUnderLock host py dumpDir (deriveDumpId host f.request.dumpRef) f

/-! ## Paths -/

theorem slash_not_mem_slug (name : Text) : '/' ∉ slug name := by
  rw [slug]
  split
  · decide
  · intro hmem
    obtain ⟨c, -, hc⟩ := List.mem_map.mp hmem
    split at hc
    · next hslug =>
        subst hc
        cases hslug
    · cases hc

/-- The name of a dump is one component. -/
theorem slash_not_mem_dumpId (host : Host) (remoteDir : Text) :
    '/' ∉ deriveDumpId host remoteDir := by
  rw [deriveDumpId, List.mem_append, List.mem_cons, not_or, not_or]
  refine ⟨slash_not_mem_slug _, by decide, fun hmem => ?_⟩
  cases host.hex _ _ (List.mem_of_mem_take hmem)

theorem takeWhile_component {component rest : Text} (h : '/' ∉ component) :
    (component ++ '/' :: rest).takeWhile (fun c => c ≠ '/') = component := by
  have hall : ∀ c ∈ component, decide (c ≠ '/') = true := by
    intro c hc
    simp only [decide_eq_true_eq]
    exact fun heq => h (heq ▸ hc)
  rw [List.takeWhile_append_of_pos hall]
  simp

/-- A file of one dump is not in the directory of another. -/
theorem eq_of_inTree {dumpId other name : Text} (hdump : '/' ∉ dumpId) (hother : '/' ∉ other)
    (h : InTree dumpId (localPath other name)) : dumpId = other := by
  obtain ⟨rest, hrest⟩ := h
  rw [localPath, destDir, destDir, List.append_assoc, List.append_assoc, List.append_assoc,
    List.append_right_inj] at hrest
  have hfirst := congrArg (List.takeWhile fun c => c ≠ '/') hrest
  rwa [List.singleton_append, takeWhile_component hdump, takeWhile_component hother] at hfirst

theorem inTree_localPath (dumpId name : Text) : InTree dumpId (localPath dumpId name) :=
  ⟨name, by simp [localPath]⟩

theorem localPath_inj {dumpId left right : Text} :
    localPath dumpId left = localPath dumpId right ↔ left = right := by
  simp [localPath]

theorem stepName_inj {left right : Text} : stepName left = stepName right ↔ left = right := by
  rw [stepName, stepName, String.append_right_inj, String.ofList_inj]

/-! ## What a call changes -/

/-- The manifest stays, and so do the files outside the directory of a dump. -/
structure Outside (dumpId : Text) (s s' : RunState) : Prop where
  manifest : s'.manifest = s.manifest
  files : ∀ path, ¬ InTree dumpId path → s'.files path = s.files path

theorem Outside.refl (dumpId : Text) (s : RunState) : Outside dumpId s s := ⟨rfl, fun _ _ => rfl⟩

theorem Outside.trans {dumpId : Text} {s s' s'' : RunState} (h : Outside dumpId s s')
    (h' : Outside dumpId s' s'') : Outside dumpId s s'' :=
  ⟨h'.manifest.trans h.manifest, fun path hpath => (h'.files path hpath).trans (h.files path hpath)⟩

theorem outside_without (dumpId : Text) (s : RunState) (left : Text → Bool) :
    Outside dumpId s (s.without dumpId left) := by
  refine ⟨rfl, fun path hpath => ?_⟩
  rw [RunState.without]
  exact if_neg fun h => hpath h.1

theorem outside_setFile (dumpId name : Text) (s : RunState) (content : Option Octets) :
    Outside dumpId s (s.setFile (localPath dumpId name) content) := by
  refine ⟨rfl, fun path hpath => ?_⟩
  have hne : path ≠ localPath dumpId name := fun heq => hpath (heq ▸ inTree_localPath dumpId name)
  exact Function.update_of_ne hne _ _

theorem outside_setDir (dumpId other : Text) (s : RunState) (there : Bool) :
    Outside dumpId s (s.setDir other there) := ⟨rfl, fun _ _ => rfl⟩

/-! ## The loop -/

/-- A copy that leaves the whole file, with nothing raised. -/
def CleanCopy (spec : FetchSpec) (copy : Copy) : Prop :=
  ∃ data, copy = ⟨.done (some data) 0 false false, none⟩ ∧ data.length = spec.expectedSize

/-- A file that was staged from a copy. -/
structure StagedFrom (host : Host) (dumpId : Text) (spec : FetchSpec) (copy : Copy) (s : RunState)
    (file : FetchedFile) : Prop where
  ref : file.ref = localPath dumpId spec.localName
  content : ∃ data, copy.transfer = .done (some data) 0 false false ∧
    s.files file.ref = some data ∧ data.length = file.sizeBytes ∧ host.sha256 data = file.sha256

variable {host : Host} {dumpId : Text} {f : Fetch}

/-- Only the file itself is written, and it is staged if nothing is wrong with its copy. -/
theorem stageOneFile_wp (spec : FetchSpec) (copy : Copy) (s : RunState) :
    (stageOneFile host dumpId spec copy).wp (Prog.Rule.ofExec fetchExec)
      (fun r s' => (s'.manifest = s.manifest ∧
          ∀ path ≠ localPath dumpId spec.localName, s'.files path = s.files path) ∧
        match r with
        | .ok file => StagedFrom host dumpId spec copy s' file
        | .error _ => ¬ CleanCopy spec copy) s := by
  obtain ⟨transfer, digest⟩ := copy
  have hother : ∀ content path, path ≠ localPath dumpId spec.localName →
      (s.setFile (localPath dumpId spec.localName) content).files path = s.files path :=
    fun content path hpath => Function.update_of_ne hpath _ _
  cases transfer with
  | badOptions message =>
      refine ⟨⟨rfl, fun _ _ => rfl⟩, ?_⟩
      rintro ⟨data, heq, -⟩
      cases heq
  | raises left message =>
      refine ⟨⟨rfl, hother left⟩, ?_⟩
      rintro ⟨data, heq, -⟩
      cases heq
  | done left exitStatus timedOut cancelled =>
      rw [stageOneFile]
      dsimp only
      rw [Prog.wp_bind, Prog.wp_perform]
      show Prog.wp _ _ _ (s.setFile (localPath dumpId spec.localName) left)
      split
      · next hfailed =>
          refine ⟨⟨rfl, hother left⟩, ?_⟩
          rintro ⟨data, heq, -⟩
          cases heq
          simp at hfailed
      · next hfine =>
          have hself : (s.setFile (localPath dumpId spec.localName) left).files
              (localPath dumpId spec.localName) = left := Function.update_self _ _ _
          rw [Prog.wp_bind, Prog.wp_perform]
          show Prog.wp _ (if (((s.setFile (localPath dumpId spec.localName) left).files
            (localPath dumpId spec.localName)).map List.length) ≠ some spec.expectedSize then _
            else _) _ (s.setFile (localPath dumpId spec.localName) left)
          rw [hself]
          split
          · next hsize =>
              refine ⟨⟨rfl, hother left⟩, ?_⟩
              rintro ⟨data, heq, hlength⟩
              cases heq
              exact hsize (congrArg some hlength)
          · next hsize =>
              obtain ⟨data, rfl, hlength⟩ := Option.map_eq_some_iff.mp (not_not.mp hsize)
              rw [Prog.wp_bind, Prog.wp_perform]
              cases digest with
              | some text =>
                  refine ⟨⟨rfl, hother (some data)⟩, ?_⟩
                  rintro ⟨_, heq, -⟩
                  cases heq
              | none =>
                  simp only [not_or, not_not, Bool.not_eq_true] at hfine
                  obtain ⟨rfl, rfl, rfl⟩ := hfine
                  simp only [Prog.Rule.ofExec, fetchExec, orStop, hself]
                  exact ⟨⟨rfl, hother (some data)⟩, rfl, data, rfl, hself, hlength, rfl⟩

/-- The files of a plan are staged, each from its copy, if nothing is wrong with any of them. -/
theorem stageFiles_wp (specs : List FetchSpec) (hnodup : (specs.map FetchSpec.localName).Nodup)
    (i : Nat) (s : RunState) :
    (stageFiles host dumpId f i specs).wp (Prog.Rule.ofExec fetchExec)
      (fun r s' => Outside dumpId s s' ∧
        match r with
        | .ok fetched =>
            (∀ path, (∀ spec ∈ specs, path ≠ localPath dumpId spec.localName) →
              s'.files path = s.files path) ∧
            ∀ file ∈ fetched, ∃ j spec, specs[j]? = some spec ∧
              StagedFrom host dumpId spec (f.copies (i + j)) s' file
        | .error _ => ∃ j spec, specs[j]? = some spec ∧ ¬ CleanCopy spec (f.copies (i + j))) s := by
  induction specs generalizing i s with
  | nil => exact ⟨.refl dumpId s, fun _ _ => rfl, fun _ h => nomatch h⟩
  | cons spec specs ih =>
      rw [List.map_cons, List.nodup_cons] at hnodup
      rw [stageFiles, Prog.wp_bind, Prog.wp_rescue]
      refine Prog.wp_mono (Prog.Rule.ofExec_mono _) ?_ (stageOneFile_wp spec (f.copies i) s)
      rintro r s₁ ⟨⟨hmanifest, hfiles⟩, hr⟩
      have houtside : Outside dumpId s s₁ :=
        ⟨hmanifest, fun path hpath => hfiles path fun heq =>
          hpath (heq ▸ inTree_localPath dumpId spec.localName)⟩
      cases r with
      | error stop =>
          have hbad : ∃ j found, (spec :: specs)[j]? = some found ∧
              ¬ CleanCopy found (f.copies (i + j)) := ⟨0, spec, rfl, hr⟩
          cases stop with
          | failure failure =>
              exact ⟨houtside.trans (outside_without dumpId s₁ f.discarded), hbad⟩
          | raised text => exact ⟨houtside, hbad⟩
      | ok file =>
          dsimp only
          rw [Prog.wp_bind]
          refine Prog.wp_mono (Prog.Rule.ofExec_mono _) ?_ (ih hnodup.2 (i + 1) s₁)
          rintro r s₂ ⟨hrest, hr'⟩
          cases r with
          | error stop =>
              obtain ⟨j, found, hfound, hbad⟩ := hr'
              refine ⟨houtside.trans hrest, j + 1, found, hfound, ?_⟩
              rwa [Nat.add_assoc, Nat.add_comm 1 j] at hbad
          | ok fetched =>
              obtain ⟨hsame, hfetched⟩ := hr'
              refine ⟨houtside.trans hrest, ?_, ?_⟩
              · intro path hpath
                rw [hsame path fun other hother => hpath other (List.mem_cons_of_mem _ hother)]
                exact hfiles path (hpath spec List.mem_cons_self)
              · intro found hfound
                cases hfound with
                | head =>
                    -- no later file has the name of this one
                    obtain ⟨href, data, hcopy, hdata, hcontent⟩ := hr
                    refine ⟨0, spec, rfl, href, data, hcopy, ?_, hcontent⟩
                    rw [hsame _ ?_]
                    · exact hdata
                    · intro other hother heq
                      rw [href, localPath_inj] at heq
                      exact hnodup.1 (heq ▸ List.mem_map_of_mem hother)
                | tail _ hfound =>
                    obtain ⟨j, other, hother, hstaged⟩ := hfetched found hfound
                    refine ⟨j + 1, other, hother, ?_⟩
                    rwa [Nat.add_assoc, Nat.add_comm 1 j] at hstaged

/-! ## A fetch that is not answered from the manifest -/

/-- Nothing goes wrong from the removal of the staged directory on. -/
structure CleanStage (f : Fetch) (plan : List FetchSpec) (there : Bool) : Prop where
  remove : there = true → f.remove = none
  makeDir : f.makeDir = none
  makeSensitiveDir : f.makeSensitiveDir = none
  copies : ∀ j spec, plan[j]? = some spec → CleanCopy spec (f.copies j)
  summary : f.summary = none
  recording : f.recording = .done

/-- The result of some files is recorded, and each of them was staged from its copy. -/
structure RecordedFrom (host : Host) (dumpId : Text) (f : Fetch) (entry : DumpEntry)
    (s s' : RunState) (fetched : List FetchedFile) : Prop where
  manifest : s'.manifest = s.manifest.withStepResult
    (fetchResult f.runDir dumpId fetched.length
      (fetchDetails f.redactor dumpId (planFetch entry (coreName entry)) fetched)) f.request.force
  files : ∀ path, ¬ InTree dumpId path → s'.files path = s.files path
  staged : ∀ file ∈ fetched, ∃ j spec, (planFetch entry (coreName entry))[j]? = some spec ∧
    StagedFrom host dumpId spec (f.copies j) s' file

theorem summary_ne_local {entry : DumpEntry} {spec : FetchSpec}
    (h : spec ∈ planFetch entry (coreName entry)) : spec.localName ≠ "fetch.json".toList := by
  have hmem : spec.localName ∈ (planFetch entry (coreName entry)).map FetchSpec.localName :=
    List.mem_map_of_mem h
  rw [localName_plan] at hmem
  intro heq
  rw [heq] at hmem
  rcases List.mem_cons.mp hmem with hcore | hmem
  · revert hcore
    decide
  · have hsymbol := (symbolFiles_names entry).2 _ hmem
    revert hsymbol
    decide

/-- What was staged stays when the summary is written and the manifest replaced. -/
theorem StagedFrom.of_files {spec : FetchSpec} {copy : Copy} {s s' : RunState} {file : FetchedFile}
    (h : StagedFrom host dumpId spec copy s file)
    (hfiles : s'.files (localPath dumpId spec.localName) =
      s.files (localPath dumpId spec.localName)) :
    StagedFrom host dumpId spec copy s' file := by
  obtain ⟨href, data, hcopy, hdata, hcontent⟩ := h
  refine ⟨href, data, hcopy, ?_, hcontent⟩
  rw [href] at hdata ⊢
  exact hfiles.trans hdata

/-- The result of staged files is recorded behind the summary. -/
theorem recorded_wp {entry : DumpEntry} {s s₃ : RunState} {fetched : List FetchedFile}
    (houtside : Outside dumpId s s₃)
    (hfetched : ∀ file ∈ fetched, ∃ j spec, (planFetch entry (coreName entry))[j]? = some spec ∧
      StagedFrom host dumpId spec (f.copies (0 + j)) s₃ file) (content : Octets) :
    (call (.record (fetchResult f.runDir dumpId fetched.length
      (fetchDetails f.redactor dumpId (planFetch entry (coreName entry)) fetched))
        f.request.force f.recording)).wp (Prog.Rule.ofExec fetchExec)
      (fun r s' =>
        (Outside dumpId s s' ∧ (∃ stop, r = .error stop) ∧
          ¬ CleanStage f (planFetch entry (coreName entry)) (s.dirs dumpId)) ∨
        (∃ fetched, RecordedFrom host dumpId f entry s s' fetched) ∧
          (r = .ok () ∨ f.recording ≠ .done))
      (s₃.setFile (localPath dumpId "fetch.json".toList) (some content)) := by
  have hwritten := houtside.trans
    (outside_setFile dumpId "fetch.json".toList s₃ (some content))
  have hrecorded : ∀ replaceSucceeded, replaceSucceeded = f.request.force →
      RecordedFrom host dumpId f entry s
        ((s₃.setFile (localPath dumpId "fetch.json".toList) (some content)).recorded
          (fetchResult f.runDir dumpId fetched.length
            (fetchDetails f.redactor dumpId (planFetch entry (coreName entry)) fetched))
          replaceSucceeded) fetched := by
    rintro _ rfl
    refine ⟨?_, hwritten.files, fun file hfile => ?_⟩
    · rw [RunState.recorded, hwritten.manifest]
    · obtain ⟨j, spec, hspec, hstaged⟩ := hfetched file hfile
      rw [Nat.zero_add] at hstaged
      refine ⟨j, spec, hspec, hstaged.of_files ?_⟩
      refine Function.update_of_ne (fun heq => ?_) _ _
      rw [localPath_inj] at heq
      exact summary_ne_local (List.mem_of_getElem? hspec) heq
  rw [Prog.wp_perform]
  cases hrecording : f.recording with
  | before text =>
      refine .inl ⟨hwritten, ⟨_, rfl⟩, fun hclean => ?_⟩
      have hdone := hclean.recording
      rw [hrecording] at hdone
      cases hdone
  | done => exact .inr ⟨⟨fetched, hrecorded _ rfl⟩, .inl rfl⟩
  | after text => exact .inr ⟨⟨fetched, hrecorded _ rfl⟩, .inr (by simp)⟩

/-- A fetch stops with the old manifest because something went wrong, or records its files. -/
theorem stage_wp (entry : DumpEntry) (s : RunState) :
    (stage host dumpId f entry).wp (Prog.Rule.ofExec fetchExec)
      (fun r s' =>
        (Outside dumpId s s' ∧ (∃ stop, r = .error stop) ∧
          ¬ CleanStage f (planFetch entry (coreName entry)) (s.dirs dumpId)) ∨
        (∃ fetched, RecordedFrom host dumpId f entry s s' fetched) ∧
          (r = .ok () ∨ f.recording ≠ .done)) s := by
  have hstop : ∀ {s' text}, Outside dumpId s s' →
      ¬ CleanStage f (planFetch entry (coreName entry)) (s.dirs dumpId) →
      (Outside dumpId s s' ∧ (∃ stop, (Except.error text : Except Stop Unit) = .error stop) ∧
        ¬ CleanStage f (planFetch entry (coreName entry)) (s.dirs dumpId)) ∨
      (∃ fetched, RecordedFrom host dumpId f entry s s' fetched) ∧
        ((Except.error text : Except Stop Unit) = .ok () ∨ f.recording ≠ .done) :=
    fun houtside hbad => .inl ⟨houtside, ⟨_, rfl⟩, hbad⟩
  -- the directory is removed, if it is there
  have hclear : ∀ Q : Except Stop Unit → RunState → Prop,
      (∀ text s', Outside dumpId s s' →
        ¬ CleanStage f (planFetch entry (coreName entry)) (s.dirs dumpId) → Q (.error text) s') →
      (∀ s', Outside dumpId s s' → Q (.ok ()) s') →
      (Prog.when (s.dirs dumpId = true) (call (.removeTree dumpId f.remove))).wp
        (Prog.Rule.ofExec fetchExec) Q s := by
    intro Q herror hok
    rw [Prog.wp_when]
    constructor
    · intro hthere
      rw [Prog.wp_perform]
      cases hremove : f.remove with
      | none => exact hok _ ((outside_without dumpId s _).trans (outside_setDir dumpId dumpId _ _))
      | some left =>
          refine herror _ _ (outside_without dumpId s left.2) fun hclean => ?_
          have hnone := hclean.remove hthere
          rw [hremove] at hnone
          cases hnone
    · intro _
      exact hok s (.refl dumpId s)
  rw [stage, Prog.wp_bind, Prog.wp_perform]
  show Prog.wp _ _ _ s
  rw [Prog.wp_bind]
  refine hclear _ (fun text s' houtside hbad => hstop houtside hbad) fun s₁ h₁ => ?_
  dsimp only
  rw [Prog.wp_bind, Prog.wp_perform]
  cases hmake : f.makeDir with
  | some text =>
      refine hstop h₁ fun hclean => ?_
      rw [hclean.makeDir] at hmake
      cases hmake
  | none =>
      have h₂ := h₁.trans (outside_setDir dumpId dumpId s₁ true)
      show Prog.wp _ _ _ (s₁.setDir dumpId true)
      rw [Prog.wp_bind, Prog.wp_perform]
      cases hsensitive : f.makeSensitiveDir with
      | some text =>
          refine hstop h₂ fun hclean => ?_
          rw [hclean.makeSensitiveDir] at hsensitive
          cases hsensitive
      | none =>
          show Prog.wp _ _ _ (s₁.setDir dumpId true)
          rw [Prog.wp_bind]
          refine Prog.wp_mono (Prog.Rule.ofExec_mono _) ?_
            (stageFiles_wp _ (localNames_nodup entry) 0 (s₁.setDir dumpId true))
          rintro r s₃ ⟨h₃, hr⟩
          have houtside := h₂.trans h₃
          cases r with
          | error stop =>
              obtain ⟨j, spec, hspec, hbad⟩ := hr
              rw [Nat.zero_add] at hbad
              exact hstop houtside fun hclean => hbad (hclean.copies j spec hspec)
          | ok fetched =>
              obtain ⟨-, hfetched⟩ := hr
              dsimp only
              rw [Prog.wp_bind, Prog.wp_perform]
              cases hsummary : f.summary with
              | some text =>
                  refine hstop houtside fun hclean => ?_
                  rw [hclean.summary] at hsummary
                  cases hsummary
              | none => exact recorded_wp houtside hfetched _

/-- What a request comes to.  It changes nothing, or stops behind the removal of the staged
directory because something went wrong, or records what it staged. -/
inductive FetchOutcome (host : Host) (py : Interpreter) (f : Fetch) (s : RunState) :
    Except Stop Bool → RunState → Prop
  | unchanged (r : Except Stop Bool) : FetchOutcome host py f s r s
  | stopped {dumpDir : Text} {entry : DumpEntry} {s' : RunState} (stop : Stop)
      (hreached : f.refused = none ∧ f.acquire = none ∧ f.load = none)
      (hdir : validatedDumpDir py f.request = .ok dumpDir)
      (hentry : admission py f dumpDir = .ok entry)
      (hnew : ¬ (Fetched s.manifest (deriveDumpId host f.request.dumpRef) ∧ f.request.force = false))
      (houtside : Outside (deriveDumpId host f.request.dumpRef) s s')
      (hbad : ¬ CleanStage f (planFetch entry (coreName entry))
        (s.dirs (deriveDumpId host f.request.dumpRef))) :
      FetchOutcome host py f s (.error stop) s'
  | recorded {dumpDir : Text} {entry : DumpEntry} {s' : RunState} {r : Except Stop Bool}
      {fetched : List FetchedFile}
      (hreached : f.refused = none ∧ f.acquire = none ∧ f.load = none)
      (hdir : validatedDumpDir py f.request = .ok dumpDir)
      (hentry : admission py f dumpDir = .ok entry)
      (hnew : ¬ (Fetched s.manifest (deriveDumpId host f.request.dumpRef) ∧ f.request.force = false))
      (hrecorded : RecordedFrom host (deriveDumpId host f.request.dumpRef) f entry s s' fetched)
      (hr : r = .ok false ∨ f.recording ≠ .done ∨ f.release ≠ none) :
      FetchOutcome host py f s r s'

/-- The lock is released with the state as it is. -/
theorem release_wp {py : Interpreter} {s s' : RunState} {r : Except Stop Bool}
    (h : FetchOutcome host py f s r s') :
    (do call (.release f.release); Prog.ofExcept r : FetchRun Bool).wp (Prog.Rule.ofExec fetchExec)
      (FetchOutcome host py f s) s' := by
  rw [Prog.wp_bind, Prog.wp_perform]
  cases hrelease : f.release with
  | none =>
      show Prog.wp _ (Prog.ofExcept r) _ s'
      rwa [Prog.wp_ofExcept]
  | some text =>
      show FetchOutcome host py f s (.error (.raised text)) s'
      cases h with
      | unchanged => exact .unchanged _
      | stopped _ hreached hdir hentry hnew houtside hbad =>
          exact .stopped _ hreached hdir hentry hnew houtside hbad
      | recorded hreached hdir hentry hnew hrecorded _ =>
          exact .recorded hreached hdir hentry hnew hrecorded (.inr (.inr (by simp [hrelease])))

theorem fetchHandler_wp (py : Interpreter) (s : RunState) :
    (fetchHandler host py f).wp (Prog.Rule.ofExec fetchExec) (FetchOutcome host py f s) s := by
  rw [fetchHandler]
  split
  · exact .unchanged _
  · exact .unchanged _
  · next dumpDir hrefused hdir =>
      rw [fetchUnderLock, Prog.wp_bind, Prog.wp_perform]
      cases hacquire : f.acquire with
      | some text => exact .unchanged _
      | none =>
          show Prog.wp _ _ _ s
          rw [Prog.wp_bind, Prog.wp_attempt]
          refine Prog.wp_mono (Prog.Rule.ofExec_mono _) (fun r s' => release_wp) ?_
          rw [fetchLocked, Prog.wp_bind, Prog.wp_perform]
          cases hload : f.load with
          | some text => exact .unchanged _
          | none =>
              show Prog.wp _ (if Fetched s.manifest _ ∧ _ then _ else _) _ s
              split
              · exact .unchanged _
              · next hnew =>
                  rw [Prog.wp_bind, Prog.wp_ofExcept]
                  cases hentry : admission py f dumpDir with
                  | error stop => exact .unchanged _
                  | ok entry =>
                      dsimp only
                      rw [Prog.wp_bind]
                      refine Prog.wp_mono (Prog.Rule.ofExec_mono _) ?_ (stage_wp entry s)
                      rintro r s' (⟨houtside, ⟨stop, rfl⟩, hbad⟩ | ⟨⟨fetched, hrecorded⟩, hr⟩)
                      · exact .stopped stop ⟨hrefused, hacquire, hload⟩ hdir hentry hnew houtside hbad
                      · cases r with
                        | ok _ =>
                            exact .recorded ⟨hrefused, hacquire, hload⟩ hdir hentry hnew hrecorded
                              (.inl rfl)
                        | error stop =>
                            exact .recorded ⟨hrefused, hacquire, hload⟩ hdir hentry hnew hrecorded
                              (.inr (.inl (hr.resolve_left (by simp))))

/-! ## What a result lists -/

/-- A file of a result, as the list in its details has it. -/
structure ListedFile where
  ref : Text
  sizeBytes : Int
  sha256 : Text
deriving DecidableEq

/-- An item of the list. -/
def readListed : Value Text → Option ListedFile
  | .mapping items =>
      match items.lookup (.str "ref".toList), items.lookup (.str "size_bytes".toList),
          items.lookup (.str "sha256".toList) with
      | some (.str ref), some (.scalar (.int size)), some (.str sha256) => some ⟨ref, size, sha256⟩
      | _, _, _ => none
  | _ => none

/-- The files a result lists. -/
def listedFiles (result : StepResult (Value Text)) : List ListedFile :=
  match result.details.lookup "files" with
  | some (.list items) => items.filterMap readListed
  | _ => []

/-- A listed file is there, with its size and its digest. -/
def Present (host : Host) (s : RunState) (file : ListedFile) : Prop :=
  ∃ data, s.files file.ref = some data ∧ (data.length : Int) = file.sizeBytes ∧
    host.sha256 data = file.sha256

/-- Every file of a succeeded fetch is there. -/
def Recorded (host : Host) (s : RunState) : Prop :=
  ∀ dumpId result, s.manifest.result? (stepName dumpId) = some result →
    result.status = .succeeded → ∀ file ∈ listedFiles result, Present host s file

theorem redactList_eq (redact : Text → Text) (mask : Text) (items : List (Value Text)) :
    redactList redact mask items = items.map (redactValueWith redact mask) := by
  induction items with
  | nil => rfl
  | cons item items ih => rw [redactList, ih, List.map_cons]

/-- A redacted item lists the redacted texts. -/
theorem readListed_dump (redactor : Redactor) (file : FetchedFile) :
    readListed (redactor.redactValue file.dump) =
      some ⟨redactor.redactText file.ref, file.sizeBytes, redactor.redactText file.sha256⟩ := by
  have hlookup : ∀ name, (∀ isSensitive, masks isSensitive (.str name) = false) →
      (redactItems redactor.redactText REDACTION (sensitive file.items) file.items).lookup
        (.str name) = (file.items.lookup (.str name)).map redactor.redactValue := by
    intro name hname
    rw [lookup_redactItems, hname]
    rfl
  have href := hlookup "ref".toList (by decide)
  have hsize := hlookup "size_bytes".toList (by decide)
  have hdigest := hlookup "sha256".toList (by decide)
  show readListed (.mapping (redactItems _ _ _ file.items)) = _
  rw [readListed, href, hsize, hdigest]
  rfl

/-- What is listed for staged files. -/
theorem listedFiles_fetchResult (runDir dumpId : Text) (redactor : Redactor)
    (specs : List FetchSpec) (fetched : List FetchedFile) :
    listedFiles (fetchResult runDir dumpId fetched.length
        (fetchDetails redactor dumpId specs fetched)) =
      fetched.map fun file =>
        ⟨redactor.redactText file.ref, file.sizeBytes, redactor.redactText file.sha256⟩ := by
  have hitems : redactor.redactValue (.list (fetched.map FetchedFile.dump)) =
      .list (fetched.map fun file => redactor.redactValue file.dump) := by
    show Value.list (redactList _ _ _) = _
    rw [redactList_eq, List.map_map]
    rfl
  have hfiles : (fetchResult runDir dumpId fetched.length
      (fetchDetails redactor dumpId specs fetched)).details.lookup "files" =
      some (redactor.redactValue (.list (fetched.map FetchedFile.dump))) := rfl
  rw [listedFiles, hfiles, hitems]
  dsimp only
  rw [List.filterMap_map, ← List.filterMap_eq_map]
  refine List.filterMap_congr fun file _ => ?_
  exact readListed_dump redactor file

/-! ## Runs -/

/-- What is recorded is there, in the directory of its dump. -/
def Kept (host : Host) (s : RunState) : Prop :=
  ∀ dumpId result, s.manifest.result? (stepName dumpId) = some result →
    result.status = .succeeded → '/' ∉ dumpId ∧ ∀ file ∈ listedFiles result,
      (∃ name, file.ref = localPath dumpId name) ∧ Present host s file

/-- A request that does not stop between the removal of a recorded fetch and the end of its own,
and whose paths and digests the redactor leaves as they are. -/
structure Disciplined (host : Host) (py : Interpreter) (s : RunState) (f : Fetch) : Prop where
  finishes : f.refused = none ∧ f.acquire = none ∧ f.load = none → f.request.force = true →
    Fetched s.manifest (deriveDumpId host f.request.dumpRef) →
      ∀ dumpDir entry, validatedDumpDir py f.request = .ok dumpDir →
        admission py f dumpDir = .ok entry →
          CleanStage f (planFetch entry (coreName entry))
            (s.dirs (deriveDumpId host f.request.dumpRef)) ∧ f.release = none
  plain : ∀ dumpDir entry, validatedDumpDir py f.request = .ok dumpDir →
    admission py f dumpDir = .ok entry → ∀ j spec data,
      (planFetch entry (coreName entry))[j]? = some spec →
        (f.copies j).transfer = .done (some data) 0 false false →
          f.redactor.redactText (localPath (deriveDumpId host f.request.dumpRef) spec.localName) =
              localPath (deriveDumpId host f.request.dumpRef) spec.localName ∧
            f.redactor.redactText (host.sha256 data) = host.sha256 data

/-- A file in the directory of one dump stays when another is fetched. -/
theorem Present.of_outside {s s' : RunState} {other : Text} {file : ListedFile}
    (h : Present host s file) (hfiles : ∀ path, ¬ InTree dumpId path → s'.files path = s.files path)
    (hdump : '/' ∉ dumpId) (hother : '/' ∉ other) (hne : other ≠ dumpId)
    (href : ∃ name, file.ref = localPath other name) : Present host s' file := by
  obtain ⟨name, href⟩ := href
  obtain ⟨data, hdata, hcontent⟩ := h
  refine ⟨data, ?_, hcontent⟩
  rw [hfiles _ fun hin => ?_]
  · exact hdata
  · rw [href] at hin
    exact hne (eq_of_inTree hdump hother hin).symm

/-- A succeeded result makes a dump fetched. -/
theorem fetched_of_result {m : RunManifest (Value Text)} {result : StepResult (Value Text)}
    (h : m.result? (stepName dumpId) = some result) (hstatus : result.status = .succeeded) :
    Fetched m dumpId := by
  rw [Fetched, h]
  simp [hstatus]

/-- A disciplined request keeps what is recorded. -/
theorem kept_step {py : Interpreter} {s s' : RunState} {r : Except Stop Bool} (h : Kept host s)
    (hf : Disciplined host py s f) (houtcome : FetchOutcome host py f s r s') : Kept host s' := by
  have hdump := slash_not_mem_dumpId host f.request.dumpRef
  cases houtcome with
  | unchanged => exact h
  | stopped stop hreached hdir hentry hnew houtside hbad =>
      intro other result hresult hstatus
      rw [houtside.manifest] at hresult
      obtain ⟨hother, hfiles⟩ := h other result hresult hstatus
      have hne : other ≠ deriveDumpId host f.request.dumpRef := by
        rintro rfl
        -- the dump was fetched, so the request was forced and did not stop
        have hfetched := fetched_of_result hresult hstatus
        have hforce : f.request.force = true := by
          by_contra hforce
          exact hnew ⟨hfetched, by simpa using hforce⟩
        exact hbad (hf.finishes hreached hforce hfetched _ _ hdir hentry).1
      refine ⟨hother, fun file hfile => ?_⟩
      obtain ⟨href, hpresent⟩ := hfiles file hfile
      exact ⟨href, hpresent.of_outside houtside.files hdump hother hne href⟩
  | @recorded dumpDir entry _ _ fetched hreached hdir hentry hnew hrecorded hr =>
      intro other result hresult hstatus
      rw [hrecorded.manifest] at hresult
      by_cases hne : other = deriveDumpId host f.request.dumpRef
      · subst hne
        refine ⟨hdump, fun file hfile => ?_⟩
        have hself : (s.manifest.withStepResult (fetchResult f.runDir
            (deriveDumpId host f.request.dumpRef) fetched.length (fetchDetails f.redactor
              (deriveDumpId host f.request.dumpRef) (planFetch entry (coreName entry)) fetched))
              f.request.force).result? (stepName (deriveDumpId host f.request.dumpRef)) = some _ :=
          Artifacts.RunManifest.withStepResult_self hnew
        obtain rfl := Option.some.inj (hself.symm.trans hresult)
        rw [listedFiles_fetchResult, List.mem_map] at hfile
        obtain ⟨staged, hstaged, rfl⟩ := hfile
        obtain ⟨j, spec, hspec, href, data, hcopy, hdata, hlength, hdigest⟩ :=
          hrecorded.staged staged hstaged
        obtain ⟨hpath, hplain⟩ := hf.plain _ _ hdir hentry j spec data hspec hcopy
        rw [href, ← hdigest, hpath, hplain]
        exact ⟨⟨spec.localName, rfl⟩, data, href ▸ hdata, congrArg Int.ofNat hlength, rfl⟩
      · rw [Artifacts.RunManifest.withStepResult_other fun heq => hne (stepName_inj.mp heq)] at hresult
        obtain ⟨hother, hfiles⟩ := h other result hresult hstatus
        refine ⟨hother, fun file hfile => ?_⟩
        obtain ⟨href, hpresent⟩ := hfiles file hfile
        exact ⟨href, hpresent.of_outside hrecorded.files hdump hother hne href⟩

/-- A request about a run. -/
structure FetchCall where
  runId : String
  fetch : Fetch

/-- The directories of the runs, after a request. -/
def fetchStep (host : Host) (py : Interpreter) (c : FetchCall) (w : String → RunState) :
    String → RunState :=
  Function.update w c.runId ((fetchHandler host py c.fetch).run fetchExec (w c.runId)).2

/-- What it responds. -/
def fetchResponse (host : Host) (py : Interpreter) (c : FetchCall) (w : String → RunState) :
    Except Stop Bool :=
  ((fetchHandler host py c.fetch).run fetchExec (w c.runId)).1

/-- It stops, although it was forced and its dump was fetched before. -/
def FailsAgain (host : Host) (py : Interpreter) (c : FetchCall) (w : String → RunState) : Prop :=
  Fetched (w c.runId).manifest (deriveDumpId host c.fetch.request.dumpRef) ∧
    c.fetch.request.force = true ∧ ∃ stop, fetchResponse host py c w = .error stop

theorem fetch_outcome (py : Interpreter) (c : FetchCall) (w : String → RunState) :
    FetchOutcome host py c.fetch (w c.runId) (fetchResponse host py c w)
      (fetchStep host py c w c.runId) := by
  rw [fetchStep, Function.update_self]
  exact Prog.wp_ofExec.mp (fetchHandler_wp py (w c.runId))

theorem kept_fetchStep {py : Interpreter} {w : String → RunState} (c : FetchCall)
    (h : ∀ runId, Kept host (w runId)) (hc : Disciplined host py (w c.runId) c.fetch)
    (runId : String) : Kept host (fetchStep host py c w runId) := by
  by_cases hrun : runId = c.runId
  · subst hrun
    exact kept_step (h c.runId) hc (fetch_outcome py c w)
  · rw [fetchStep, Function.update_of_ne hrun]
    exact h runId

/-- A forced request that stops has changed nothing. -/
theorem fetchStep_of_failsAgain {py : Interpreter} {w : String → RunState} {c : FetchCall}
    (hc : Disciplined host py (w c.runId) c.fetch) (hfails : FailsAgain host py c w) :
    fetchStep host py c w = w := by
  obtain ⟨hfetched, hforce, stop, hstop⟩ := hfails
  have hsame : fetchStep host py c w c.runId = w c.runId := by
    have houtcome : FetchOutcome host py c.fetch (w c.runId) (fetchResponse host py c w)
      (fetchStep host py c w c.runId) := fetch_outcome py c w
    rw [hstop] at houtcome
    generalize fetchStep host py c w c.runId = s' at houtcome ⊢
    cases houtcome with
    | unchanged => rfl
    | stopped _ hreached hdir hentry _ _ hbad =>
        exact absurd (hc.finishes hreached hforce hfetched _ _ hdir hentry).1 hbad
    | recorded hreached hdir hentry _ _ hr =>
        obtain ⟨hclean, hrelease⟩ := hc.finishes hreached hforce hfetched _ _ hdir hentry
        rcases hr with hr | hr | hr
        · cases hr
        · exact absurd hclean.recording hr
        · exact absurd hrelease hr
  funext runId
  by_cases hrun : runId = c.runId
  · rw [hrun, hsame]
  · exact Function.update_of_ne hrun _ _

theorem Kept.recorded {s : RunState} (h : Kept host s) : Recorded host s :=
  fun dumpId result hresult hstatus file hfile =>
    ((h dumpId result hresult hstatus).2 file hfile).2

/-- Along disciplined requests, whatever is recorded is there, and a forced request that stops
leaves everything as it was. -/
theorem recorded_along (host : Host) (py : Interpreter) (w : String → RunState)
    (calls : List FetchCall)
    (hnew : ∀ runId dumpId, (w runId).manifest.result? (stepName dumpId) = none)
    (hcalls : Runs.Along (fetchStep host py) (fun c w => Disciplined host py (w c.runId) c.fetch)
      calls w) :
    (∀ before, before <+: calls → ∀ runId,
      Recorded host (Runs.run (fetchStep host py) before w runId)) ∧
    Runs.Along (fetchStep host py) (fun c w => FailsAgain host py c w → fetchStep host py c w = w)
      calls w := by
  have hkept : ∀ runId, Kept host (w runId) := by
    intro runId dumpId result hresult
    rw [hnew] at hresult
    cases hresult
  constructor
  · rintro before ⟨after, rfl⟩ runId
    have hbefore := ((Runs.along_append before after w).mp hcalls).1
    have hend : ∀ runId, Kept host (Runs.run (fetchStep host py) before w runId) :=
      Runs.run_inv (I := fun (w : String → RunState) => ∀ runId, Kept host (w runId))
        (fun c w h hc => kept_fetchStep c h hc) hkept hbefore
    exact (hend runId).recorded
  · exact hcalls.mono fun c w hc => fetchStep_of_failsAgain hc


/-! ## A fetch that is repeated -/

/-- A dump of three octets and the directory it is in. -/
def DIGESTS : List (Octets × String) :=
  [([1, 2, 3], "039058c6f2c0cb492c533b0a4d14ef77cc0f78abccced5287d84a1a2011cfb81"),
    (Utf8.encode "/var/crash/d".toList,
      "ad6b0a7dabb062f840f2d89273fd24bf395823e7608dafc3dcc2fc074679ff47")]

def digestOf (data : Octets) : Text := ((DIGESTS.lookup data).getD "").toList

theorem digestOf_hex (data : Octets) : ∀ c ∈ digestOf data, GdbMi.isHexDigit c = true := by
  have hall : (DIGESTS.all fun entry => entry.2.toList.all GdbMi.isHexDigit) = true := by
    decide +kernel
  intro c hc
  rw [digestOf] at hc
  cases hdigest : DIGESTS.lookup data with
  | none =>
      rw [hdigest] at hc
      cases hc
  | some digest =>
      rw [hdigest] at hc
      exact List.all_eq_true.mp
        (List.all_eq_true.mp hall _ (Association.mem_of_lookup hdigest)) c hc

def smallHost : Host := ⟨digestOf, digestOf_hex, fun _ => []⟩

def newRun : RunState := ⟨.create, fun _ => none, fun _ => false⟩

def wholeCopy : Copy := ⟨.done (some [1, 2, 3]) 0 false false, none⟩

def firstFetch : Fetch where
  runDir := "/runs/r".toList
  request := fetchRequest
  redactor := Redactor.create (fun _ => false) [] []
  refused := none
  acquire := none
  release := none
  load := none
  enumerated := .ok (listing "/var/crash/d" 3 [("vmcore", 3)])
  free := .ok 2000000000
  remove := none
  makeDir := none
  makeSensitiveDir := none
  copies := fun _ => wholeCopy
  discarded := fun _ => false
  summary := none
  recording := .done

/-- The same, forced. -/
def forcedFetch : Fetch := { firstFetch with request := { fetchRequest with force := true } }

/-- It is forced, and `scp` of the core raises. -/
def againFetch : Fetch :=
  { firstFetch with
    request := { fetchRequest with force := true }
    copies := fun _ => ⟨.raises none "timed out".toList, none⟩ }

/-- A succeeded result of a dump lists a file that is not there. -/
def lost (s : RunState) (dumpId : Text) : Bool :=
  (s.manifest.result? (stepName dumpId)).any fun result =>
    result.status = .succeeded && (listedFiles result).any fun file => (s.files file.ref).isNone

theorem not_recorded_of_lost {s : RunState} (h : lost s dumpId = true) : ¬ Recorded host s := by
  intro hrecorded
  obtain ⟨result, hresult, hlost⟩ := (Option.any_eq_true _ _).mp h
  rw [Bool.and_eq_true, decide_eq_true_eq, List.any_eq_true] at hlost
  obtain ⟨hstatus, file, hfile, hnone⟩ := hlost
  obtain ⟨data, hdata, -⟩ := hrecorded dumpId result hresult hstatus file hfile
  rw [hdata] at hnone
  cases hnone

/-- A forced fetch whose copy raises loses the file of the fetch before it. -/
theorem forced_fetch_loses :
    (∀ runId dumpId, ((fun _ => newRun : String → RunState) runId).manifest.result?
      (stepName dumpId) = none) ∧
    ¬ Recorded smallHost (Runs.run (fetchStep smallHost plainInterpreter)
      [⟨"r", firstFetch⟩, ⟨"r", againFetch⟩] (fun _ => newRun) "r") :=
  ⟨fun _ _ => rfl, @not_recorded_of_lost smallHost "d-ad6b0a7d".toList _ (by decide +kernel)⟩

theorem disciplined_again (s : RunState) (force : Bool) :
    Disciplined smallHost plainInterpreter s
      { firstFetch with request := { fetchRequest with force := force } } := by
  have hadmitted : ∀ dumpDir entry,
      validatedDumpDir plainInterpreter { fetchRequest with force := force } = .ok dumpDir →
      admission plainInterpreter { firstFetch with request := { fetchRequest with force := force } }
        dumpDir = .ok entry → entry = listed "/var/crash/d" 3 [("vmcore".toList, 3)] := by
    intro dumpDir entry hdir hentry
    have hdefault : ∀ force, validatedDumpDir plainInterpreter { fetchRequest with force := force } =
        .ok DEFAULT_DUMP_DIR := by decide +kernel
    obtain rfl := Except.ok.inj ((hdefault force).symm.trans hdir)
    have hlisted : ∀ force, admission plainInterpreter
        { firstFetch with request := { fetchRequest with force := force } } DEFAULT_DUMP_DIR =
        .ok (listed "/var/crash/d" 3 [("vmcore".toList, 3)]) := by decide +kernel
    exact (Except.ok.inj ((hlisted force).symm.trans hentry)).symm
  have hplan : planFetch (listed "/var/crash/d" 3 [("vmcore".toList, 3)])
      (coreName (listed "/var/crash/d" 3 [("vmcore".toList, 3)])) =
      [⟨"/var/crash/d/vmcore".toList, VMCORE_NAME, "vmcore_ref".toList, 3⟩] := by decide +kernel
  constructor
  · rintro - - - dumpDir entry hdir hentry
    obtain rfl := hadmitted dumpDir entry hdir hentry
    rw [hplan]
    refine ⟨⟨fun _ => rfl, rfl, rfl, fun j spec hspec => ?_, rfl, rfl⟩, rfl⟩
    obtain rfl := List.mem_singleton.mp (List.mem_of_getElem? hspec)
    exact ⟨[1, 2, 3], rfl, rfl⟩
  · intro dumpDir entry hdir hentry j spec data hspec hcopy
    obtain rfl := hadmitted dumpDir entry hdir hentry
    rw [hplan] at hspec
    obtain rfl := List.mem_singleton.mp (List.mem_of_getElem? hspec)
    cases hcopy
    have hpath : firstFetch.redactor.redactText (localPath (deriveDumpId smallHost fetchRequest.dumpRef)
        VMCORE_NAME) = localPath (deriveDumpId smallHost fetchRequest.dumpRef) VMCORE_NAME := by
      decide +kernel
    have hdigest : firstFetch.redactor.redactText (digestOf [1, 2, 3]) = digestOf [1, 2, 3] := by
      decide +kernel
    exact ⟨hpath, hdigest⟩

theorem recorded_again :
    (∀ before, before <+: [⟨"r", firstFetch⟩, ⟨"r", forcedFetch⟩] → ∀ runId,
      Recorded smallHost (Runs.run (fetchStep smallHost plainInterpreter) before
        (fun _ => newRun) runId)) ∧
    Runs.Along (fetchStep smallHost plainInterpreter)
      (fun c w => FailsAgain smallHost plainInterpreter c w →
        fetchStep smallHost plainInterpreter c w = w)
      [⟨"r", firstFetch⟩, ⟨"r", forcedFetch⟩] (fun _ => newRun) :=
  recorded_along smallHost plainInterpreter (fun _ => newRun) _ (fun _ _ => rfl)
    ⟨disciplined_again _ false, disciplined_again _ true, trivial⟩

end Kdive.Dumps

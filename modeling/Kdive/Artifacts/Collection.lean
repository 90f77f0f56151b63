import Kdive.Lib.Runs
import Kdive.Artifacts.HandlerArtifacts

/-!
# Collecting the artifacts of a run

A collection is recorded as a step of the run like any other, with the references it
collected and one of its bundle.  So the next one goes through them again.  A call that
is not forced returns the recorded collection if it succeeded and covers what the other
steps have recorded.

*Files.*  A recorded path is one of the run: what it names is looked up in the run's
directory.  A collection looks it up where the process runs.  The two differ for a
relative path.

*Calls.*  One call after another; the manifest is loaded before and under the lock.
-/

namespace Kdive.Artifacts

variable {Json : Type}

/-! ## Files -/

/-- The file a path names for who reads it in a directory. -/
def resolve (base path : String) : String :=
  if path.toList.head? = some '/' then path else base ++ "/" ++ path

/-- The directory of the run and the one the process runs in. -/
structure Site where
  runDir : String
  cwd : String
  absolute : runDir.toList.head? = some '/'

namespace Site

variable (site : Site)

/-- `Path(path).is_file()` -/
def looksUp (isFile : String → Bool) (path : String) : Bool := isFile (resolve site.cwd path)

/-- The file of a reference exists. -/
def has (isFile : String → Bool) (a : ArtifactRef) : Bool := isFile (resolve site.runDir a.path)

def bundlePath : String := site.runDir ++ "/summaries/artifact-bundle.json"

end Site

/-! ## The handler -/

/-- The name of the step. -/
def COLLECT : String := "collect_artifacts"

/-- `_collection_covers_manifest` -/
def collectionCoversManifest (m : RunManifest Json) (collect : StepResult Json) : Bool :=
  let collected := (collect.artifacts.filter fun a => a.kind ≠ "artifact-bundle").map
    fun a => (a.path, a.kind)
  let current := (m.stepResults.filter fun item => item.1 ≠ COLLECT).flatMap
    fun item => item.2.artifacts.map fun a => (a.path, a.kind)
  current.all (· ∈ collected)

/-- The recorded collection, where it is returned. -/
def recordedCollection (m : RunManifest Json) (force : Bool) : Option (StepResult Json) :=
  (m.result? COLLECT).filter fun existing =>
    existing.status = .succeeded && !force && collectionCoversManifest m existing

/-- The answer to a call. -/
inductive Response (Json : Type) where
  | success (summary : String) (data : List (String × Json)) (artifacts : List ArtifactRef)
  | failure (message : String) (bundle : Bundle) (missingRequired missingOptional : List Missing)
      (artifacts : List ArtifactRef)

/-- `_recorded_collect_success_response` -/
def recordedResponse (result : StepResult Json) : Response Json :=
  .success result.summary result.details result.artifacts

/-- A run: its manifest and the files there are. -/
structure RunState (Json : Type) where
  manifest : RunManifest Json
  wellFormed : manifest.WellFormed
  isFile : String → Bool

section Handler

variable (site : Site) (dump : Bundle → List (String × Json))

/-- The result of a collection. -/
def collectResult (isFile : String → Bool) (m : RunManifest Json) : StepResult Json :=
  let made := bundleForManifest (site.looksUp isFile) site.bundlePath m
  let failed := !made.1.missingExpectedArtifacts.isEmpty
  { stepName := COLLECT
    status := if failed = true then .failed else .succeeded
    summary := if failed = true then "artifact collection found missing required artifacts"
      else "artifact collection succeeded"
    artifacts := made.2
    details := dump made.1 }

/-- The answer to a call that collected. -/
def collectResponse (isFile : String → Bool) (m : RunManifest Json) : Response Json :=
  let made := bundleForManifest (site.looksUp isFile) site.bundlePath m
  let result := collectResult site dump isFile m
  if made.1.missingExpectedArtifacts.isEmpty = true then
    .success result.summary result.details made.2
  else
    .failure result.summary made.1 made.1.missingExpectedArtifacts
      made.1.missingOptionalArtifacts made.2

/-- `replace_succeeded` -/
def replaceSucceeded (m : RunManifest Json) (force : Bool) : Bool :=
  force || (m.result? COLLECT).any fun existing => existing.status = .succeeded

/-- `artifacts_collect_handler`, with the manifest that was loaded before the lock. -/
def artifactsCollect (observed : RunManifest Json) (force : Bool) (s : RunState Json) :
    Response Json × RunState Json :=
  match recordedCollection observed force with
  | some existing => (recordedResponse existing, s)
  | none =>
      match recordedCollection s.manifest force with
      | some existing => (recordedResponse existing, s)
      | none =>
          (collectResponse site dump s.isFile s.manifest,
            { manifest := s.manifest.withStepResult (collectResult site dump s.isFile s.manifest)
                (replaceSucceeded s.manifest force)
              wellFormed := s.wellFormed.withStepResult ..
              isFile := fun path => s.isFile path || path = site.bundlePath })

/-- A call. -/
def respond (force : Bool) (s : RunState Json) : Response Json :=
  (artifactsCollect site dump s.manifest force s).1

/-- The run after a call. -/
def collect (force : Bool) (s : RunState Json) : RunState Json :=
  (artifactsCollect site dump s.manifest force s).2

end Handler

/-! ## The law -/

/-- The references of the other steps. -/
def otherRefs (m : RunManifest Json) : List ArtifactRef :=
  (m.stepResults.filter fun item => item.1 ≠ COLLECT).flatMap fun item => item.2.artifacts

/-- The references of the recorded collection. -/
def collectedRefs (m : RunManifest Json) : List ArtifactRef :=
  ((m.result? COLLECT).map StepResult.artifacts).getD []

/-- Every reference of another step is reported once: as collected if its file exists, and
as missing if not. -/
def ReportsOnce (site : Site) (s : RunState Json) : Prop :=
  ∀ a ∈ otherRefs s.manifest,
    (scanManifest (site.looksUp s.isFile) s.manifest).collected.count a =
        (if site.has s.isFile a = true then (otherRefs s.manifest).count a else 0) ∧
      (scanManifest (site.looksUp s.isFile) s.manifest).missingRefs.count a =
        if site.has s.isFile a = true then 0 else (otherRefs s.manifest).count a

/-- The steps that succeeded recorded what their handlers record, and the files exist. -/
def RecordsOwn (site : Site) (s : RunState Json) : Prop :=
  ∀ item ∈ s.manifest.stepResults, item.2.status = .succeeded →
    OwnArtifacts site.runDir item.1 item.2.artifacts ∧
      ∀ a ∈ item.2.artifacts, site.has s.isFile a = true

section Law

variable (site : Site) (dump : Bundle → List (String × Json))

/-- A call leaves the collected references as they were, and answers with the recorded
collection if it is not forced. -/
def Repeats (refs : List ArtifactRef) (force : Bool) (s : RunState Json) : Prop :=
  collectedRefs (collect site dump force s).manifest = refs ∧
    (force = false → ∃ result, s.manifest.result? COLLECT = some result ∧
      respond site dump force s = recordedResponse result)

/-- What a collection promises, for a first call and the calls after it. -/
structure CollectionLaw (s : RunState Json) (force : Bool) (forces : List Bool) : Prop where
  once : ReportsOnce site s
  rollup : RecordsOwn site s → (bundleForManifest (site.looksUp s.isFile) site.bundlePath
    s.manifest).1.rollup.ok = true
  /-- After a call that collects, each call leaves its references as they are. -/
  stable : recordedCollection s.manifest force = none →
    Runs.Along (collect site dump)
      (Repeats site dump (collectedRefs (collect site dump force s).manifest)) forces
      (collect site dump force s)

end Law

/-- When a collection keeps its promises. -/
structure Collectable (site : Site) (s : RunState Json) (force : Bool) (forces : List Bool) :
    Prop where
  /-- The references of the other steps are looked up where their files are. -/
  located : ∀ a ∈ otherRefs s.manifest, site.looksUp s.isFile a.path = site.has s.isFile a
  /-- None of them was collected before. -/
  fresh : ∀ a ∈ otherRefs s.manifest, a ∉ collectedRefs s.manifest
  /-- No debug session succeeded, and what succeeded is looked up where it is. -/
  rollup : RecordsOwn site s →
    (∀ result, s.manifest.result? "debug" = some result → result.status ≠ .succeeded) ∧
    ∀ item ∈ s.manifest.stepResults, item.2.status = .succeeded → ∀ a ∈ item.2.artifacts,
      a.kind ∈ optionalKinds item.1 ∨ site.looksUp s.isFile a.path = site.has s.isFile a
  /-- A first call that collects is the only one, or none is forced after it, nothing is
  amiss, and every reference is found and is not one of a bundle. -/
  repeated : recordedCollection s.manifest force = none → forces = [] ∨
    true ∉ forces ∧ (∀ item ∈ s.manifest.stepResults, Complete (site.looksUp s.isFile) item) ∧
      ∀ a ∈ otherRefs s.manifest,
        site.looksUp s.isFile a.path = true ∧ a.kind ≠ "artifact-bundle"

/-! ## Once -/

section Once

variable {site : Site} {s : RunState Json}

/-- The references of all steps are those of the others and those of the collection. -/
theorem recordedRefs_perm {m : RunManifest Json} (hm : m.WellFormed) :
    (recordedRefs m).Perm (otherRefs m ++ collectedRefs m) := by
  cases hcollect : m.result? COLLECT with
  | none =>
      have hkeys : ∀ item ∈ m.stepResults, item.1 ≠ COLLECT := by
        rintro item hitem heq
        have hfound := Association.lookup_of_mem hm.nodup hitem
        rw [heq] at hfound
        cases hcollect.symm.trans hfound
      have hall : (m.stepResults.filter fun item => item.1 ≠ COLLECT) = m.stepResults :=
        List.filter_eq_self.mpr fun item hitem => decide_eq_true (hkeys item hitem)
      rw [otherRefs, collectedRefs, hcollect, hall, recordedRefs]
      simp
  | some result =>
      have hperm := (Association.perm_filter hm.nodup hcollect).flatMap_right
        fun item : String × StepResult Json => item.2.artifacts
      rw [List.flatMap_cons] at hperm
      simpa [collectedRefs, hcollect, otherRefs, recordedRefs] using
        hperm.trans List.perm_append_comm

theorem count_recordedRefs {m : RunManifest Json} (hm : m.WellFormed) (a : ArtifactRef) :
    (recordedRefs m).count a = (otherRefs m).count a + (collectedRefs m).count a := by
  rw [(recordedRefs_perm hm).count_eq, List.count_append]

/-- A reference is reported as often as it was recorded, as collected or as missing. -/
theorem count_reported (a : ArtifactRef) :
    (scanManifest (site.looksUp s.isFile) s.manifest).collected.count a =
        (if site.looksUp s.isFile a.path = true then (recordedRefs s.manifest).count a else 0) ∧
      (scanManifest (site.looksUp s.isFile) s.manifest).missingRefs.count a =
        if site.looksUp s.isFile a.path = true then 0 else (recordedRefs s.manifest).count a := by
  rw [(collected_perm _ s.wellFormed).count_eq, (missingRefs_perm _ s.wellFormed).count_eq]
  cases hfound : site.looksUp s.isFile a.path with
  | true =>
      have hmissing : a ∉ (recordedRefs s.manifest).filter fun a => !site.looksUp s.isFile a.path := by
        simp [hfound]
      simp [List.count_filter, hfound, List.count_eq_zero_of_not_mem hmissing]
  | false =>
      have hcollected : a ∉ (recordedRefs s.manifest).filter fun a => site.looksUp s.isFile a.path := by
        simp [hfound]
      simp [List.count_filter, hfound, List.count_eq_zero_of_not_mem hcollected]

theorem reportsOnce_iff : ReportsOnce site s ↔
    (∀ a ∈ otherRefs s.manifest, site.looksUp s.isFile a.path = site.has s.isFile a) ∧
      ∀ a ∈ otherRefs s.manifest, a ∉ collectedRefs s.manifest := by
  rw [ReportsOnce, ← forall₂_and]
  refine forall₂_congr fun a ha => ?_
  obtain ⟨hcollected, hmissing⟩ := @count_reported _ site s a
  rw [hcollected, hmissing, count_recordedRefs s.wellFormed, ← List.count_eq_zero]
  have hpos : 0 < (otherRefs s.manifest).count a := List.count_pos_iff.mpr ha
  cases site.looksUp s.isFile a.path <;> cases site.has s.isFile a <;> simp <;> omega

end Once

/-! ## The rollup -/

/-- Where the steps that succeeded recorded their own, the rollup is ok unless a debug
session succeeded or a file is looked up elsewhere. -/
theorem rollup_own {site : Site} {s : RunState Json} (hown : RecordsOwn site s) :
    (bundleForManifest (site.looksUp s.isFile) site.bundlePath s.manifest).1.rollup.ok = true ↔
      (∀ result, s.manifest.result? "debug" = some result → result.status ≠ .succeeded) ∧
      ∀ item ∈ s.manifest.stepResults, item.2.status = .succeeded → ∀ a ∈ item.2.artifacts,
        a.kind ∈ optionalKinds item.1 ∨ site.looksUp s.isFile a.path = site.has s.isFile a := by
  rw [rollup_ok _ s.wellFormed]
  constructor
  · intro hcomplete
    constructor
    · intro result hdebug hsucceeded
      have hitem := Association.mem_of_lookup hdebug
      have hlacks := debug_lacks (hown _ hitem hsucceeded).1
      exact hlacks.2 ((hcomplete _ hitem hsucceeded).1 _ hlacks.1)
    · intro item hitem hsucceeded a ha
      refine ((hcomplete item hitem hsucceeded).2 a ha).imp_right fun hfound => ?_
      rw [hfound, (hown item hitem hsucceeded).2 a ha]
  · rintro ⟨hdebug, hlocated⟩ item hitem hsucceeded
    have hne : item.1 ≠ "debug" := by
      intro heq
      have hfound := Association.lookup_of_mem s.wellFormed.nodup hitem
      rw [heq] at hfound
      exact hdebug item.2 hfound hsucceeded
    refine ⟨required_of_own (hown item hitem hsucceeded).1 hne, fun a ha => ?_⟩
    refine (hlocated item hitem hsucceeded a ha).imp_right fun heq => ?_
    rw [heq, (hown item hitem hsucceeded).2 a ha]

/-! ## Calls -/

section Calls

variable {site : Site} {dump : Bundle → List (String × Json)} {force : Bool} {s : RunState Json}

/-- A recorded collection is returned. -/
theorem artifactsCollect_recorded {existing : StepResult Json}
    (h : recordedCollection s.manifest force = some existing) :
    artifactsCollect site dump s.manifest force s = (recordedResponse existing, s) := by
  rw [artifactsCollect, h]

theorem collect_manifest (h : recordedCollection s.manifest force = none) :
    (collect site dump force s).manifest = s.manifest.withStepResult
      (collectResult site dump s.isFile s.manifest) (replaceSucceeded s.manifest force) := by
  simp only [collect, artifactsCollect, h]

theorem collect_isFile (h : recordedCollection s.manifest force = none) (path : String) :
    (collect site dump force s).isFile path = (s.isFile path || path = site.bundlePath) := by
  simp only [collect, artifactsCollect, h]

/-- Nothing keeps the result of a collection out of the manifest. -/
theorem collect_result (h : recordedCollection s.manifest force = none) :
    (collect site dump force s).manifest.result? COLLECT =
      some (collectResult site dump s.isFile s.manifest) := by
  rw [collect_manifest h]
  refine @RunManifest.withStepResult_self _ s.manifest
    (collectResult site dump s.isFile s.manifest) _ ?_
  rintro ⟨hsucceeded, hreplace⟩
  rw [replaceSucceeded, Bool.or_eq_false_iff] at hreplace
  exact Bool.false_ne_true (hreplace.2.symm.trans hsucceeded)

theorem collect_collectedRefs (h : recordedCollection s.manifest force = none) :
    collectedRefs (collect site dump force s).manifest =
      (scanManifest (site.looksUp s.isFile) s.manifest).collected ++ [bundleRef site.bundlePath] := by
  rw [collectedRefs, collect_result h]
  rfl

/-- A collection leaves the other steps alone. -/
theorem collect_otherRefs (h : recordedCollection s.manifest force = none) :
    otherRefs (collect site dump force s).manifest = otherRefs s.manifest := by
  rw [collect_manifest h, RunManifest.withStepResult]
  split
  · rfl
  · exact congrArg (·.flatMap fun item => item.2.artifacts) (filter_setItem s.manifest.stepResults)

theorem bundlePath_absolute (site : Site) : resolve site.cwd site.bundlePath = site.bundlePath := by
  have hhead : site.bundlePath.toList.head? = some '/' := by
    rw [Site.bundlePath, String.toList_append, List.head?_append, site.absolute]
    rfl
  rw [resolve, if_pos hhead]

/-- What was collected is found afterwards. -/
theorem found_collect (h : recordedCollection s.manifest force = none) :
    ∀ a ∈ collectedRefs (collect site dump force s).manifest,
      site.looksUp (collect site dump force s).isFile a.path = true := by
  intro a ha
  rw [Site.looksUp, collect_isFile h]
  rw [collect_collectedRefs h, List.mem_append, List.mem_singleton] at ha
  rcases ha with ha | rfl
  · have hfound := (List.mem_filter.mp ((collected_perm _ s.wellFormed).mem_iff.mp ha)).2
    rw [Site.looksUp] at hfound
    simp [hfound]
  · simp [bundleRef, bundlePath_absolute]

/-- A collection that goes through one that is found collects more. -/
theorem collect_grows (hnone : recordedCollection s.manifest force = none)
    (hfound : ∀ a ∈ collectedRefs s.manifest, site.looksUp s.isFile a.path = true) :
    (collectedRefs s.manifest).length <
      (collectedRefs (collect site dump force s).manifest).length := by
  have hcollected := (collected_perm (site.looksUp s.isFile) s.wellFormed).length_eq
  have hrecorded := ((recordedRefs_perm s.wellFormed).filter
    fun a => site.looksUp s.isFile a.path).length_eq
  have hall : (collectedRefs s.manifest).filter (fun a => site.looksUp s.isFile a.path) =
      collectedRefs s.manifest := List.filter_eq_self.mpr hfound
  rw [List.filter_append, hall, List.length_append] at hrecorded
  rw [collect_collectedRefs hnone, List.length_append, hcollected, hrecorded, List.length_singleton]
  exact Nat.lt_succ_of_le (Nat.le_add_left ..)

/-- The calls leave the collected references as they are exactly when each of them is
answered with the recorded collection. -/
theorem along_repeats_iff
    (hfound : ∀ a ∈ collectedRefs s.manifest, site.looksUp s.isFile a.path = true)
    (forces : List Bool) :
    Runs.Along (collect site dump) (Repeats site dump (collectedRefs s.manifest)) forces s ↔
      ∀ force ∈ forces, (recordedCollection s.manifest force).isSome = true := by
  induction forces with
  | nil => simp
  | cons force forces ih =>
      rw [Runs.along_cons, List.forall_mem_cons]
      cases hrecorded : recordedCollection s.manifest force with
      | some existing =>
          have hcall : artifactsCollect site dump s.manifest force s =
              (recordedResponse existing, s) := artifactsCollect_recorded hrecorded
          have hstate : collect site dump force s = s := by rw [collect, hcall]
          have hresult : s.manifest.result? COLLECT = some existing :=
            Option.eq_some_of_filter_eq_some hrecorded
          have hrepeats : Repeats site dump (collectedRefs s.manifest) force s :=
            ⟨by rw [hstate], fun _ => ⟨existing, hresult, by rw [respond, hcall]⟩⟩
          rw [hstate, ih]
          simp [hrepeats]
      | none =>
          have hgrows := @collect_grows _ site dump force s hrecorded hfound
          have hnot : ¬ Repeats site dump (collectedRefs s.manifest) force s := by
            rintro ⟨hsame, _⟩
            rw [hsame] at hgrows
            exact Nat.lt_irrefl _ hgrows
          simp [hnot]

/-- The manifest is covered by what was collected when every reference of the other steps
is found and is not one of a bundle. -/
theorem covers_collected (h : recordedCollection s.manifest force = none) :
    collectionCoversManifest (collect site dump force s).manifest
        (collectResult site dump s.isFile s.manifest) = true ↔
      ∀ a ∈ otherRefs s.manifest,
        site.looksUp s.isFile a.path = true ∧ a.kind ≠ "artifact-bundle" := by
  have hcurrent : ((collect site dump force s).manifest.stepResults.filter fun item =>
      item.1 ≠ COLLECT).flatMap (fun item => item.2.artifacts.map fun a => (a.path, a.kind)) =
      (otherRefs s.manifest).map fun a => (a.path, a.kind) := by
    rw [← collect_otherRefs h, otherRefs, List.map_flatMap]
  rw [collectionCoversManifest, hcurrent, List.all_eq_true]
  constructor
  · intro hcovers a ha
    have hmem := of_decide_eq_true (hcovers _ (List.mem_map_of_mem ha))
    obtain ⟨b, hb, hsame⟩ := List.mem_map.mp hmem
    obtain ⟨hb, hkind⟩ := List.mem_filter.mp hb
    obtain ⟨hpath, hkinds⟩ := Prod.mk.injEq .. ▸ hsame
    have hb : b ∈ (scanManifest (site.looksUp s.isFile) s.manifest).collected ++
      [bundleRef site.bundlePath] := hb
    rcases List.mem_append.mp hb with hb | hb
    · have hfound := (List.mem_filter.mp ((collected_perm _ s.wellFormed).mem_iff.mp hb)).2
      exact ⟨hpath ▸ hfound, hkinds ▸ of_decide_eq_true hkind⟩
    · rw [List.mem_singleton.mp hb] at hkind
      exact absurd hkind (by simp [bundleRef])
  · intro hfound pair hpair
    obtain ⟨a, ha, rfl⟩ := List.mem_map.mp hpair
    refine decide_eq_true (List.mem_map.mpr ⟨a, List.mem_filter.mpr ⟨?_, ?_⟩, rfl⟩)
    · refine List.mem_append_left _ ((collected_perm _ s.wellFormed).mem_iff.mpr ?_)
      refine List.mem_filter.mpr ⟨?_, (hfound a ha).1⟩
      exact (recordedRefs_perm s.wellFormed).mem_iff.mpr (List.mem_append_left _ ha)
    · exact decide_eq_true (hfound a ha).2

/-- The next call is answered with the collection that was recorded. -/
theorem recorded_after (h : recordedCollection s.manifest force = none) (again : Bool) :
    (recordedCollection (collect site dump force s).manifest again).isSome = true ↔
      again = false ∧ (∀ item ∈ s.manifest.stepResults, Complete (site.looksUp s.isFile) item) ∧
        ∀ a ∈ otherRefs s.manifest,
          site.looksUp s.isFile a.path = true ∧ a.kind ≠ "artifact-bundle" := by
  have hstatus : (collectResult site dump s.isFile s.manifest).status = .succeeded ↔
      (bundleForManifest (site.looksUp s.isFile) site.bundlePath s.manifest).1.rollup.ok = true := by
    show (if (!(scanManifest (site.looksUp s.isFile) s.manifest).missingRequired.isEmpty) = true then
      StepStatus.failed else .succeeded) = .succeeded ↔
        (scanManifest (site.looksUp s.isFile) s.manifest).missingRequired.isEmpty = true
    cases (scanManifest (site.looksUp s.isFile) s.manifest).missingRequired.isEmpty <;> simp
  rw [recordedCollection, collect_result h, Option.isSome_filter, Option.any_some,
    Bool.and_eq_true, Bool.and_eq_true, decide_eq_true_iff, hstatus, rollup_ok _ s.wellFormed,
    covers_collected h, Bool.not_eq_true', and_assoc, and_left_comm]

end Calls

/-! ## Collections -/

/-- After a first call that collects, the references stay as they are exactly when no call
follows, or none that is forced and the first one found everything. -/
theorem stable_iff {site : Site} {dump : Bundle → List (String × Json)} {force : Bool}
    {s : RunState Json} (h : recordedCollection s.manifest force = none) (forces : List Bool) :
    Runs.Along (collect site dump)
        (Repeats site dump (collectedRefs (collect site dump force s).manifest)) forces
        (collect site dump force s) ↔
      forces = [] ∨ true ∉ forces ∧
        (∀ item ∈ s.manifest.stepResults, Complete (site.looksUp s.isFile) item) ∧
        ∀ a ∈ otherRefs s.manifest,
          site.looksUp s.isFile a.path = true ∧ a.kind ≠ "artifact-bundle" := by
  rw [along_repeats_iff (found_collect h)]
  simp only [recorded_after h]
  constructor
  · intro hforces
    cases forces with
    | nil => exact .inl rfl
    | cons first rest =>
        refine .inr ⟨fun hmem => ?_, (hforces first List.mem_cons_self).2⟩
        cases (hforces true hmem).1
  · rintro (rfl | ⟨hforced, hfound⟩) again hagain
    · cases hagain
    · cases again with
      | true => exact absurd hagain hforced
      | false => exact ⟨rfl, hfound⟩

/-- A collection reports every reference of another step once, has an ok rollup where the
steps recorded their own, and is stable, exactly when it is collectable. -/
theorem collection_law_iff (site : Site) (dump : Bundle → List (String × Json))
    (s : RunState Json) (force : Bool) (forces : List Bool) :
    CollectionLaw site dump s force forces ↔ Collectable site s force forces := by
  constructor
  · rintro ⟨honce, hrollup, hstable⟩
    obtain ⟨hlocated, hfresh⟩ := reportsOnce_iff.mp honce
    exact ⟨hlocated, hfresh, fun hown => (rollup_own hown).mp (hrollup hown),
      fun hnone => (stable_iff hnone forces).mp (hstable hnone)⟩
  · rintro ⟨hlocated, hfresh, hrollup, hrepeated⟩
    exact ⟨reportsOnce_iff.mpr ⟨hlocated, hfresh⟩,
      fun hown => (rollup_own hown).mpr (hrollup hown),
      fun hnone => (stable_iff hnone forces).mpr (hrepeated hnone)⟩

/-! ## A debug session that is collected twice -/

def someSite : Site := ⟨"/r", "/", rfl⟩

def debugResult : StepResult Nat :=
  ⟨"debug", .succeeded, "debug.read_registers succeeded",
    miSessionArtifacts "/r" "s" "/r/t", []⟩

def debuggedRun : RunState Nat where
  manifest := RunManifest.create.withStepResult debugResult true
  wellFormed := RunManifest.WellFormed.create.withStepResult ..
  isFile _ := true

/-- The run after a first collection. -/
def collectedRun : RunState Nat := collect someSite (fun _ => []) false debuggedRun

/-- Both artifacts of a debug session that succeeded exist, and the rollup is not ok.  A
second, forced collection goes through the first one again. -/
theorem debugged_twice :
    RecordsOwn someSite debuggedRun ∧
      (bundleForManifest (someSite.looksUp debuggedRun.isFile) someSite.bundlePath
        debuggedRun.manifest).1.rollup.ok = false ∧
      (collectedRefs collectedRun.manifest).length = 3 ∧
      (collectedRefs (collect someSite (fun _ => []) true collectedRun).manifest).length = 6 ∧
      ¬ CollectionLaw someSite (fun _ => []) debuggedRun false [true] := by
  have hown : RecordsOwn someSite debuggedRun := by
    intro item hitem _
    obtain rfl := List.mem_singleton.mp hitem
    have hname : debugResult.stepName = "debug" := rfl
    refine ⟨?_, fun _ _ => rfl⟩
    exact ⟨by simp [hname], by simp [hname], by simp [hname], fun _ => ⟨"s", "/r/t", rfl⟩⟩
  have hrollup : (bundleForManifest (someSite.looksUp debuggedRun.isFile) someSite.bundlePath
      debuggedRun.manifest).1.rollup.ok = false := by
    decide +kernel
  refine ⟨hown, hrollup, by decide +kernel, by decide +kernel, fun hlaw => ?_⟩
  exact Bool.false_ne_true (hrollup.symm.trans (hlaw.rollup hown))

end Kdive.Artifacts

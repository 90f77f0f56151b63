import Mathlib.Data.List.Perm.Lattice
import Kdive.Lib.Association
import Kdive.Artifacts.Manifest

/-!
# The bundle of a run's artifacts

A collection goes through the planned steps that have a result, then through the other
results.  An artifact whose file is found is collected.  One whose file is not found is
missing: required if its step succeeded and its kind is not optional there.  The kinds
that a planned step has to record are in two tables, apart from the handlers that
record them.

Planned or not, every result is gone through once (`scanned_perm`).  So what a bundle
says is said of the results (`collected_perm`, `missingRefs_perm`, `rollup_ok`).
-/

namespace Kdive.Artifacts

variable {Json : Type}

/-! ## Tables -/

/-- `required_kinds_by_step`, each set in sorted order. -/
def REQUIRED_KINDS_BY_STEP : List (String × List String) := [
  ("build", ["build-log", "kernel-config", "kernel-image"]),
  ("boot", ["boot-log", "boot-plan", "console-log", "domain-xml"]),
  ("debug", ["debug-command-metadata", "debug-session", "debug-summary", "debug-transcript"]),
  ("run_tests", ["test-summary"])]

/-- `optional_kinds_by_step` -/
def OPTIONAL_KINDS_BY_STEP : List (String × List String) := [("build", ["vmlinux"])]

/-- `required_kinds_by_step.get(step, set())` -/
def requiredKinds (step : String) : List String := (REQUIRED_KINDS_BY_STEP.lookup step).getD []

/-- `optional_kinds_by_step.get(step, set())` -/
def optionalKinds (step : String) : List String := (OPTIONAL_KINDS_BY_STEP.lookup step).getD []

/-! ## The bundle -/

/-- What is missing: a kind that was not recorded, or a file that was. -/
inductive Missing where
  | kind (step kind reason : String)
  | artifact (step : String) (artifact : ArtifactRef)
deriving DecidableEq, Repr

/-- The artifact whose file is missing. -/
def Missing.artifact? : Missing → Option ArtifactRef
  | .kind .. => none
  | .artifact _ ref => some ref

/-- `grouped`, `missing_required`, `missing_optional` and `collected_refs`. -/
structure Scan where
  grouped : List (String × List (ArtifactRef × Bool))
  missingRequired : List Missing
  missingOptional : List Missing
  collected : List ArtifactRef
deriving DecidableEq, Repr

def Scan.empty : Scan := ⟨[], [], [], []⟩

/-- A file whose loss is one of a required artifact. -/
def needed (status : StepStatus) (optional : List String) (artifact : ArtifactRef) : Bool :=
  status = .succeeded ∧ artifact.kind ∉ optional

/-- `record_artifact` -/
def recordArtifact (isFile : String → Bool) (step : String) (status : StepStatus)
    (optional : List String) (scan : Scan) (artifact : ArtifactRef) : Scan :=
  let entries := (scan.grouped.lookup step).getD []
  let scan := { scan with
    grouped := setItem step (entries ++ [(artifact, isFile artifact.path)]) scan.grouped }
  if isFile artifact.path = true then { scan with collected := scan.collected ++ [artifact] }
  else if needed status optional artifact = true then
    { scan with missingRequired := scan.missingRequired ++ [.artifact step artifact] }
  else { scan with missingOptional := scan.missingOptional ++ [.artifact step artifact] }

/-- The kinds that were not recorded. -/
def missingKinds (step reason : String) (kinds : List String) (artifacts : List ArtifactRef) :
    List Missing :=
  (kinds.filter (· ∉ artifacts.map ArtifactRef.kind)).map (.kind step · reason)

/-- The kinds a succeeded step did not record. -/
def recordKinds (step : String) (result : StepResult Json) (scan : Scan) : Scan :=
  if result.status = .succeeded then
    { scan with
      missingRequired := scan.missingRequired ++
        missingKinds step "required artifact kind was not recorded" (requiredKinds step)
          result.artifacts
      missingOptional := scan.missingOptional ++
        missingKinds step "optional artifact kind was not recorded" (optionalKinds step)
          result.artifacts }
  else scan

/-- The planned steps. -/
def scanPlanned (isFile : String → Bool) (m : RunManifest Json) (scan : Scan) (step : RunStep) :
    Scan :=
  let scan := { scan with grouped := setItem step.name [] scan.grouped }
  match m.result? step.name with
  | none => scan
  | some result =>
      result.artifacts.foldl
        (recordArtifact isFile step.name result.status (optionalKinds step.name))
        (recordKinds step.name result scan)

/-- The other results. -/
def scanOther (isFile : String → Bool) (fixed : List String) (scan : Scan)
    (item : String × StepResult Json) : Scan :=
  if item.1 ∈ fixed then scan
  else
    item.2.artifacts.foldl (recordArtifact isFile item.1 item.2.status [])
      { scan with grouped := setItem item.1 [] scan.grouped }

/-- The two loops of `_bundle_for_manifest`. -/
def scanManifest (isFile : String → Bool) (m : RunManifest Json) : Scan :=
  m.stepResults.foldl (scanOther isFile m.plannedNames)
    (m.steps.foldl (scanPlanned isFile m) .empty)

structure Rollup where
  ok : Bool
  missingRequired : Nat
  missingOptional : Nat
deriving DecidableEq, Repr

structure Bundle where
  steps : List (String × StepStatus)
  summaries : List (String × StepStatus × String)
  artifactsByStep : List (String × List (ArtifactRef × Bool))
  missingExpectedArtifacts : List Missing
  missingOptionalArtifacts : List Missing
  rollup : Rollup
deriving DecidableEq, Repr

/-- The reference of the bundle itself. -/
def bundleRef (bundlePath : String) : ArtifactRef := ⟨bundlePath, "artifact-bundle", false, none⟩

/-- `_bundle_for_manifest`: the bundle and the references that are collected. -/
def bundleForManifest (isFile : String → Bool) (bundlePath : String) (m : RunManifest Json) :
    Bundle × List ArtifactRef :=
  let scan := scanManifest isFile m
  ({ steps := m.steps.map fun step => (step.name, step.status)
     summaries := m.stepResults.map fun item => (item.1, item.2.status, item.2.summary)
     artifactsByStep := scan.grouped
     missingExpectedArtifacts := scan.missingRequired
     missingOptionalArtifacts := scan.missingOptional
     rollup := ⟨scan.missingRequired.isEmpty, scan.missingRequired.length,
       scan.missingOptional.length⟩ },
   scan.collected ++ [bundleRef bundlePath])

/-! ## What a loop adds -/

section Loops

variable {α β σ : Type*} {step : σ → α → σ}

/-- A loop whose rounds append to a list appends what its rounds append. -/
theorem foldl_appends {read : σ → List β} {added : α → List β}
    (h : ∀ s x, read (step s x) = read s ++ added x) (xs : List α) (s : σ) :
    read (xs.foldl step s) = read s ++ xs.flatMap added := by
  induction xs generalizing s with
  | nil => simp
  | cons x xs ih => rw [List.foldl_cons, ih, h, List.append_assoc, List.flatMap_cons]

end Loops

section Scan

variable (isFile : String → Bool) (step : String) (status : StepStatus) (optional : List String)

theorem recordArtifact_collected (scan : Scan) (artifact : ArtifactRef) :
    (recordArtifact isFile step status optional scan artifact).collected =
      scan.collected ++ [artifact].filter fun a => isFile a.path := by
  unfold recordArtifact
  cases hfile : isFile artifact.path with
  | true => simp [hfile]
  | false => cases needed status optional artifact <;> simp [hfile]

theorem recordArtifact_missingRequired (scan : Scan) (artifact : ArtifactRef) :
    (recordArtifact isFile step status optional scan artifact).missingRequired =
      scan.missingRequired ++ (([artifact].filter fun a =>
        !isFile a.path && needed status optional a).map (.artifact step)) := by
  unfold recordArtifact
  cases hfile : isFile artifact.path with
  | true => simp [hfile]
  | false => cases hneeded : needed status optional artifact <;> simp [hfile, hneeded]

theorem recordArtifact_missingOptional (scan : Scan) (artifact : ArtifactRef) :
    (recordArtifact isFile step status optional scan artifact).missingOptional =
      scan.missingOptional ++ (([artifact].filter fun a =>
        !isFile a.path && !needed status optional a).map (.artifact step)) := by
  unfold recordArtifact
  cases hfile : isFile artifact.path with
  | true => simp [hfile]
  | false => cases hneeded : needed status optional artifact <;> simp [hfile, hneeded]

/-- What the artifacts of a step add to one of the lists. -/
theorem foldl_recordArtifact {β : Type*} {read : Scan → List β} {keep : ArtifactRef → Bool}
    {entry : ArtifactRef → β}
    (h : ∀ scan artifact, read (recordArtifact isFile step status optional scan artifact) =
      read scan ++ ([artifact].filter keep).map entry)
    (artifacts : List ArtifactRef) (scan : Scan) :
    read (artifacts.foldl (recordArtifact isFile step status optional) scan) =
      read scan ++ (artifacts.filter keep).map entry := by
  rw [foldl_appends h]
  congr 1
  induction artifacts with
  | nil => rfl
  | cons artifact artifacts ih =>
      rw [List.flatMap_cons, ih, ← List.map_append, ← List.filter_append, List.singleton_append]

end Scan

/-! ## What a result adds -/

section Results

variable (isFile : String → Bool)

/-- The references a result adds. -/
def addedCollected (item : String × StepResult Json) : List ArtifactRef :=
  item.2.artifacts.filter fun a => isFile a.path

/-- The kinds a result lacks. -/
def lackedKinds (reason : String) (kinds : List String) (item : String × StepResult Json) :
    List Missing :=
  if item.2.status = .succeeded then missingKinds item.1 reason kinds item.2.artifacts else []

/-- The artifacts of a result whose files are missing and wanted. -/
def lackedFiles (wanted : ArtifactRef → Bool) (item : String × StepResult Json) : List Missing :=
  (item.2.artifacts.filter fun a => !isFile a.path && wanted a).map (.artifact item.1)

/-- The required ones a result adds. -/
def addedRequired (item : String × StepResult Json) : List Missing :=
  lackedKinds "required artifact kind was not recorded" (requiredKinds item.1) item ++
    lackedFiles isFile (needed item.2.status (optionalKinds item.1)) item

/-- The optional ones a result adds. -/
def addedOptional (item : String × StepResult Json) : List Missing :=
  lackedKinds "optional artifact kind was not recorded" (optionalKinds item.1) item ++
    lackedFiles isFile (!needed item.2.status (optionalKinds item.1) ·) item

/-- One result, scanned as a planned step is. -/
def scanResult (scan : Scan) (item : String × StepResult Json) : Scan :=
  item.2.artifacts.foldl (recordArtifact isFile item.1 item.2.status (optionalKinds item.1))
    (recordKinds item.1 item.2 scan)

variable (scan : Scan) (item : String × StepResult Json)

theorem scanResult_collected :
    (scanResult isFile scan item).collected = scan.collected ++ addedCollected isFile item := by
  have hkinds : (recordKinds item.1 item.2 scan).collected = scan.collected := by
    unfold recordKinds
    split <;> rfl
  have hrecord : ∀ scan a, (recordArtifact isFile item.1 item.2.status (optionalKinds item.1) scan
      a).collected = scan.collected ++ ([a].filter fun a => isFile a.path).map id := by
    intro scan a
    rw [List.map_id, recordArtifact_collected]
  have hfiles := foldl_recordArtifact isFile item.1 item.2.status (optionalKinds item.1) hrecord
    item.2.artifacts (recordKinds item.1 item.2 scan)
  rw [scanResult, hfiles, hkinds, List.map_id, addedCollected]

theorem scanResult_missingRequired :
    (scanResult isFile scan item).missingRequired =
      scan.missingRequired ++ addedRequired isFile item := by
  have hkinds : (recordKinds item.1 item.2 scan).missingRequired = scan.missingRequired ++
      lackedKinds "required artifact kind was not recorded" (requiredKinds item.1) item := by
    unfold recordKinds lackedKinds
    split <;> simp
  have hfiles := foldl_recordArtifact isFile item.1 item.2.status (optionalKinds item.1)
    (recordArtifact_missingRequired isFile item.1 item.2.status (optionalKinds item.1))
    item.2.artifacts (recordKinds item.1 item.2 scan)
  rw [scanResult, hfiles, hkinds, List.append_assoc]
  rfl

theorem scanResult_missingOptional :
    (scanResult isFile scan item).missingOptional =
      scan.missingOptional ++ addedOptional isFile item := by
  have hkinds : (recordKinds item.1 item.2 scan).missingOptional = scan.missingOptional ++
      lackedKinds "optional artifact kind was not recorded" (optionalKinds item.1) item := by
    unfold recordKinds lackedKinds
    split <;> simp
  have hfiles := foldl_recordArtifact isFile item.1 item.2.status (optionalKinds item.1)
    (recordArtifact_missingOptional isFile item.1 item.2.status (optionalKinds item.1))
    item.2.artifacts (recordKinds item.1 item.2 scan)
  rw [scanResult, hfiles, hkinds, List.append_assoc]
  rfl

end Results

/-! ## Every result once -/

/-- A manifest as the store writes it: the planned steps are those of a new run, and a
step has one result. -/
structure RunManifest.WellFormed (m : RunManifest Json) : Prop where
  planned : m.plannedNames = (create : RunManifest Json).plannedNames
  nodup : (m.stepResults.map Prod.fst).Nodup

section SetItem

variable {α : Type} {key : String} {value : α}

theorem mem_keys_setItem {items : List (String × α)} {name : String} :
    name ∈ (setItem key value items).map Prod.fst ↔ name = key ∨ name ∈ items.map Prod.fst := by
  induction items with
  | nil => simp [setItem]
  | cons item items ih =>
      rw [setItem]
      split
      · next heq => simp [heq]
      · rw [List.map_cons, List.mem_cons, ih, List.map_cons, List.mem_cons, or_left_comm]

theorem nodup_setItem {items : List (String × α)} (h : (items.map Prod.fst).Nodup) :
    ((setItem key value items).map Prod.fst).Nodup := by
  induction items with
  | nil => simp [setItem]
  | cons item items ih =>
      rw [List.map_cons, List.nodup_cons] at h
      rw [setItem]
      split
      · next heq => simpa [← heq] using h
      · next hne =>
          rw [List.map_cons, List.nodup_cons, mem_keys_setItem]
          exact ⟨not_or.mpr ⟨hne, h.1⟩, ih h.2⟩

/-- The other items are left alone. -/
theorem filter_setItem (items : List (String × α)) :
    ((setItem key value items).filter fun item => item.1 ≠ key) =
      items.filter fun item => item.1 ≠ key := by
  induction items with
  | nil => simp [setItem]
  | cons item items ih =>
      rw [setItem]
      split
      · next heq => simp [heq]
      · rw [List.filter_cons, ih, List.filter_cons]

end SetItem

namespace RunManifest.WellFormed

variable {m : RunManifest Json}

theorem create : (RunManifest.create : RunManifest Json).WellFormed := ⟨rfl, List.nodup_nil⟩

theorem withStepResult (hm : m.WellFormed) (result : StepResult Json) (replaceSucceeded : Bool) :
    (m.withStepResult result replaceSucceeded).WellFormed := by
  refine ⟨(withStepResult_plannedNames replaceSucceeded).trans hm.planned, ?_⟩
  rw [RunManifest.withStepResult]
  split
  · exact hm.nodup
  · exact nodup_setItem hm.nodup

/-- The store keeps its manifests well formed. -/
theorem apply (hm : m.WellFormed) {u : Update Json} {m' : RunManifest Json}
    (h : u.apply m = .ok m') : m'.WellFormed := by
  refine ⟨(Update.apply_plannedNames h).trans hm.planned, ?_⟩
  cases u with
  | step result replaceSucceeded append =>
      rw [Update.apply] at h
      split at h
      · obtain ⟨_, rfl⟩ := appendStepResult_ok h
        exact nodup_setItem hm.nodup
      · cases h
        exact (hm.withStepResult result replaceSucceeded).nodup
  | boot attempt bootResult =>
      cases h
      exact (withStepResult (m := m.withBootAttempt attempt) ⟨hm.planned, hm.nodup⟩
        bootResult true).nodup

end RunManifest.WellFormed

/-- The results, in the order they are gone through. -/
def scanned (m : RunManifest Json) : List (String × StepResult Json) :=
  (m.steps.flatMap fun step => ((m.result? step.name).map (step.name, ·)).toList) ++
    m.stepResults.filter fun item => item.1 ∉ m.plannedNames

/-- The tables are about planned steps. -/
theorem kinds_of_not_planned {name : String}
    (h : name ∉ (RunManifest.create : RunManifest Json).plannedNames) :
    requiredKinds name = [] ∧ optionalKinds name = [] := by
  simp only [RunManifest.plannedNames, RunManifest.create, List.map_cons, List.map_nil,
    List.mem_cons, List.not_mem_nil, or_false, not_or] at h
  obtain ⟨-, hbuild, hboot, htests, -, hdebug⟩ := h
  constructor
  · simp [requiredKinds, REQUIRED_KINDS_BY_STEP, List.lookup_cons, beq_false_of_ne hbuild,
      beq_false_of_ne hboot, beq_false_of_ne htests, beq_false_of_ne hdebug]
  · simp [optionalKinds, OPTIONAL_KINDS_BY_STEP, List.lookup_cons, beq_false_of_ne hbuild]

section Scanned

variable {isFile : String → Bool} {m : RunManifest Json}

/-- A result of a step that is not planned is scanned as one of a planned step is. -/
theorem scanOther_eq {fixed : List String} (scan : Scan) {item : String × StepResult Json}
    (h : item.1 ∉ fixed) (hkinds : requiredKinds item.1 = [] ∧ optionalKinds item.1 = []) :
    scanOther isFile fixed scan item =
      scanResult isFile { scan with grouped := setItem item.1 [] scan.grouped } item := by
  rw [scanOther, if_neg h, scanResult, recordKinds, hkinds.1, hkinds.2]
  split <;> simp [missingKinds]

/-- What the loops append to one of the lists. -/
theorem scanManifest_read {β : Type*} {read : Scan → List β}
    {added : String × StepResult Json → List β}
    (hitem : ∀ scan item, read (scanResult isFile scan item) = read scan ++ added item)
    (hgrouped : ∀ scan grouped, read { scan with grouped := grouped } = read scan)
    (hm : m.WellFormed) :
    read (scanManifest isFile m) = read .empty ++ (scanned m).flatMap added := by
  have hplanned : ∀ scan step, read (scanPlanned isFile m scan step) =
      read scan ++ ((m.result? step.name).map (step.name, ·)).toList.flatMap added := by
    intro scan step
    unfold scanPlanned
    cases m.result? step.name with
    | none => simp [hgrouped]
    | some result =>
        have h := hitem { scan with grouped := setItem step.name [] scan.grouped } (step.name, result)
        show _ = read scan ++ [(step.name, result)].flatMap added
        rw [List.flatMap_singleton]
        exact h.trans (congrArg (· ++ added (step.name, result)) (hgrouped scan _))
  have hother : ∀ scan item, read (scanOther isFile m.plannedNames scan item) =
      read scan ++ (if item.1 ∈ m.plannedNames then [] else added item) := by
    intro scan item
    split
    · next hmem => simp [scanOther, hmem]
    · next hmem =>
        rw [scanOther_eq scan hmem (kinds_of_not_planned (hm.planned ▸ hmem)), hitem, hgrouped]
  have hfilter : (m.stepResults.filter fun item => item.1 ∉ m.plannedNames).flatMap added =
      m.stepResults.flatMap fun item => if item.1 ∈ m.plannedNames then [] else added item := by
    generalize m.stepResults = items
    induction items with
    | nil => rfl
    | cons item items ih =>
        rw [List.filter_cons, List.flatMap_cons, ← ih]
        by_cases hmem : item.1 ∈ m.plannedNames <;> simp [hmem]
  rw [scanManifest, foldl_appends hother, foldl_appends hplanned, scanned, List.flatMap_append,
    List.flatMap_assoc, hfilter, List.append_assoc]

theorem mem_scanned (hm : m.WellFormed) (item : String × StepResult Json) :
    item ∈ scanned m ↔ item ∈ m.stepResults := by
  rw [scanned, List.mem_append, List.mem_flatMap, List.mem_filter]
  constructor
  · rintro (⟨step, _, hitem⟩ | ⟨hitem, _⟩)
    · obtain ⟨result, hresult, rfl⟩ := Option.map_eq_some_iff.mp (Option.mem_toList.mp hitem)
      exact Association.mem_of_lookup hresult
    · exact hitem
  · intro hitem
    by_cases hplanned : item.1 ∈ m.plannedNames
    · obtain ⟨step, hstep, hname⟩ := List.mem_map.mp hplanned
      refine .inl ⟨step, hstep, ?_⟩
      rw [hname, RunManifest.result?, Association.lookup_of_mem hm.nodup hitem]
      simp
    · exact .inr ⟨hitem, by simpa using hplanned⟩

theorem scanned_nodup (hm : m.WellFormed) : (scanned m).Nodup := by
  have hnames : m.plannedNames.Nodup := by
    rw [hm.planned]
    simp [RunManifest.plannedNames, RunManifest.create]
  have hitems : m.stepResults.Nodup := hm.nodup.of_map _
  rw [scanned, List.nodup_append']
  refine ⟨List.nodup_flatMap.mpr ⟨fun step _ => ?_, ?_⟩, hitems.filter _, ?_⟩
  · cases m.result? step.name <;> simp
  · refine (List.pairwise_map.mp hnames).imp fun hne item hone hother => hne ?_
    obtain ⟨_, _, rfl⟩ := Option.map_eq_some_iff.mp (Option.mem_toList.mp hone)
    obtain ⟨_, _, hitem⟩ := Option.map_eq_some_iff.mp (Option.mem_toList.mp hother)
    exact (congrArg Prod.fst hitem).symm
  · intro item hplanned hother
    obtain ⟨step, hstep, hitem⟩ := List.mem_flatMap.mp hplanned
    obtain ⟨_, _, rfl⟩ := Option.map_eq_some_iff.mp (Option.mem_toList.mp hitem)
    have hnot := (List.mem_filter.mp hother).2
    simp at hnot
    exact hnot (List.mem_map_of_mem hstep)

/-- Planned or not, every result is gone through once. -/
theorem scanned_perm (hm : m.WellFormed) : (scanned m).Perm m.stepResults :=
  (List.perm_ext_iff_of_nodup (scanned_nodup hm) (hm.nodup.of_map _)).mpr (mem_scanned hm)

/-! ## What a bundle says -/

/-- The references of all results. -/
def recordedRefs (m : RunManifest Json) : List ArtifactRef :=
  m.stepResults.flatMap fun item => item.2.artifacts

/-- The references whose files are reported missing. -/
def Scan.missingRefs (scan : Scan) : List ArtifactRef :=
  (scan.missingRequired ++ scan.missingOptional).filterMap Missing.artifact?

variable (isFile)

/-- The references that are collected are those that are found. -/
theorem collected_perm (hm : m.WellFormed) : (scanManifest isFile m).collected.Perm
    ((recordedRefs m).filter fun a => isFile a.path) := by
  rw [scanManifest_read (scanResult_collected isFile) (fun _ _ => rfl) hm, recordedRefs,
    List.filter_flatMap]
  exact (scanned_perm hm).flatMap_right _

theorem missingRequired_perm (hm : m.WellFormed) :
    (scanManifest isFile m).missingRequired.Perm
      (m.stepResults.flatMap (addedRequired isFile)) := by
  rw [scanManifest_read (scanResult_missingRequired isFile) (fun _ _ => rfl) hm]
  exact (scanned_perm hm).flatMap_right _

theorem missingOptional_perm (hm : m.WellFormed) :
    (scanManifest isFile m).missingOptional.Perm
      (m.stepResults.flatMap (addedOptional isFile)) := by
  rw [scanManifest_read (scanResult_missingOptional isFile) (fun _ _ => rfl) hm]
  exact (scanned_perm hm).flatMap_right _

/-- The files among what is missing of a result. -/
theorem refs_of_lacked (reason : String) (kinds : List String) (wanted : ArtifactRef → Bool)
    (item : String × StepResult Json) :
    (lackedKinds reason kinds item ++ lackedFiles isFile wanted item).filterMap
      Missing.artifact? = item.2.artifacts.filter fun a => !isFile a.path && wanted a := by
  have hkinds : (lackedKinds reason kinds item).filterMap Missing.artifact? = [] := by
    rw [lackedKinds]
    split
    · simp [missingKinds, Missing.artifact?, List.filterMap_map, Function.comp_def]
    · rfl
  have hfiles : ∀ artifacts : List ArtifactRef,
      (artifacts.map (Missing.artifact item.1)).filterMap Missing.artifact? = artifacts := by
    intro artifacts
    simp [Missing.artifact?, List.filterMap_map, Function.comp_def]
  rw [List.filterMap_append, hkinds, lackedFiles, hfiles, List.nil_append]

/-- The references that are reported missing are those that are not found. -/
theorem missingRefs_perm (hm : m.WellFormed) : (scanManifest isFile m).missingRefs.Perm
    ((recordedRefs m).filter fun a => !isFile a.path) := by
  have hmissing := ((missingRequired_perm isFile hm).append
    (missingOptional_perm isFile hm)).filterMap Missing.artifact?
  refine hmissing.trans ?_
  rw [List.filterMap_append, List.filterMap_flatMap, List.filterMap_flatMap, recordedRefs,
    List.filter_flatMap]
  refine (List.flatMap_append_perm ..).trans (.flatMap_left _ fun item _ => ?_)
  rw [addedRequired, addedOptional, refs_of_lacked, refs_of_lacked]
  have hsplit := List.filter_append_perm (needed item.2.status (optionalKinds item.1))
    (item.2.artifacts.filter fun a => !isFile a.path)
  rw [List.filter_filter, List.filter_filter] at hsplit
  simpa only [Bool.and_comm] using hsplit

/-- Nothing is amiss with a result: one of a step that succeeded has the kinds the step has
to record, and its files are found, but for the optional ones. -/
def Complete (item : String × StepResult Json) : Prop :=
  item.2.status = .succeeded →
    (∀ kind ∈ requiredKinds item.1, kind ∈ item.2.artifacts.map ArtifactRef.kind) ∧
    ∀ a ∈ item.2.artifacts, a.kind ∈ optionalKinds item.1 ∨ isFile a.path = true

theorem addedRequired_eq_nil {item : String × StepResult Json} :
    addedRequired isFile item = [] ↔ Complete isFile item := by
  have hkinds : lackedKinds "required artifact kind was not recorded" (requiredKinds item.1) item =
      [] ↔ (item.2.status = .succeeded →
        ∀ kind ∈ requiredKinds item.1, kind ∈ item.2.artifacts.map ArtifactRef.kind) := by
    rw [lackedKinds]
    split
    · next hsucceeded =>
        rw [missingKinds, List.map_eq_nil_iff, List.filter_eq_nil_iff]
        simp [hsucceeded]
    · next hnot => simp [hnot]
  have hfiles : lackedFiles isFile (needed item.2.status (optionalKinds item.1)) item = [] ↔
      (item.2.status = .succeeded →
        ∀ a ∈ item.2.artifacts, a.kind ∈ optionalKinds item.1 ∨ isFile a.path = true) := by
    rw [lackedFiles, List.map_eq_nil_iff, List.filter_eq_nil_iff]
    constructor
    · intro h hsucceeded a ha
      by_contra hnot
      exact h a ha (by simpa [needed, hsucceeded, and_comm] using not_or.mp hnot)
    · intro h a ha hwanted
      simp only [needed, Bool.and_eq_true, Bool.not_eq_true', decide_eq_true_eq] at hwanted
      rcases h hwanted.2.1 a ha with hoptional | hfile
      · exact hwanted.2.2 hoptional
      · exact Bool.false_ne_true (hwanted.1.symm.trans hfile)
  rw [addedRequired, List.append_eq_nil_iff, hkinds, hfiles, ← forall_and]
  rfl

/-- The rollup is ok exactly when nothing is amiss with any result. -/
theorem rollup_ok (hm : m.WellFormed) (bundlePath : String) :
    (bundleForManifest isFile bundlePath m).1.rollup.ok = true ↔
      ∀ item ∈ m.stepResults, Complete isFile item := by
  have hempty : (scanManifest isFile m).missingRequired = [] ↔
      m.stepResults.flatMap (addedRequired isFile) = [] :=
    ⟨fun h => (h ▸ missingRequired_perm isFile hm).nil_eq.symm,
      fun h => (h ▸ missingRequired_perm isFile hm).eq_nil⟩
  rw [bundleForManifest, List.isEmpty_iff, hempty, List.flatMap_eq_nil_iff]
  exact forall₂_congr fun _ _ => addedRequired_eq_nil isFile

end Scanned

end Kdive.Artifacts

import Kdive.Artifacts.Bundle

/-!
# What the step handlers record

The artifacts of a step that succeeded, as its own handler records them, against the
kinds a collection requires of it.  A build, a boot and a test run record what is
required (`required_of_own`).  A debug session never does: its two references have
neither of the other two kinds (`debug_lacks`).
-/

namespace Kdive.Artifacts

/-- `ArtifactRef(path=path, kind=kind)` -/
def plainRef (path kind : String) : ArtifactRef := ⟨path, kind, false, none⟩

/-! ## Builds -/

structure BuildPlan where
  outputPath : String
  logPath : String
  summaryPath : String

namespace BuildPlan

variable (plan : BuildPlan)

def configPath : String := plan.outputPath ++ "/.config"

def imagePath : String := plan.outputPath ++ "/arch/x86/boot/bzImage"

def vmlinuxPath : String := plan.outputPath ++ "/vmlinux"

/-- `_detect_artifacts` -/
def detectArtifacts (isFile : String → Bool) : List ArtifactRef :=
  [plainRef plan.logPath "build-log", plainRef plan.configPath "kernel-config",
    plainRef plan.imagePath "kernel-image", plainRef plan.vmlinuxPath "vmlinux",
    plainRef plan.summaryPath "build-summary"].filter fun a => isFile a.path

/-- The artifacts of a build.  The summary is among them before it is written. -/
def artifacts (isFile : String → Bool) : List ArtifactRef :=
  let detected := plan.detectArtifacts isFile
  if (detected.any fun a => a.path = plan.summaryPath ∧ a.kind = "build-summary") = true then detected
  else detected ++ [plainRef plan.summaryPath "build-summary"]

/-- The files a build leaves that succeeds. -/
def Leaves (isFile : String → Bool) : Prop :=
  isFile plan.logPath = true ∧ isFile plan.configPath = true ∧ isFile plan.imagePath = true

end BuildPlan

/-! ## Boots -/

structure BootPlan where
  domainXmlPath : String
  bootPlanPath : String
  consoleLogPath : String
  bootLogPath : String
  bootSummaryPath : String

namespace BootPlan

variable (plan : BootPlan)

/-- `_artifact_refs` -/
def artifactRefs : List ArtifactRef :=
  [plainRef plan.domainXmlPath "domain-xml", plainRef plan.bootPlanPath "boot-plan",
    plainRef plan.consoleLogPath "console-log", plainRef plan.bootLogPath "boot-log",
    plainRef plan.bootSummaryPath "boot-summary"]

/-- `_existing_artifacts` and `_boot_result`.  `rotated` is the console log of the boot
before, when there was one. -/
def artifacts (isPath : String → Bool) (rotated : Option ArtifactRef) : List ArtifactRef :=
  let existing := (plan.artifactRefs ++ rotated.toList).filter fun a => isPath a.path
  if (existing.any fun a => a.path = plan.bootSummaryPath) = true then existing
  else existing ++ [plainRef plan.bootSummaryPath "boot-summary"]

/-- The files a boot leaves that succeeds.  A target that is frozen at the start has an
empty console log. -/
def Leaves (isPath : String → Bool) : Prop :=
  isPath plan.domainXmlPath = true ∧ isPath plan.bootPlanPath = true ∧
    isPath plan.consoleLogPath = true ∧ isPath plan.bootLogPath = true

end BootPlan

/-! ## Test runs -/

/-- The paths of a command's output. -/
structure TestCommand where
  stdoutPath : String
  stderrPath : String
  metadataPath : String

structure TestPlan where
  commands : List TestCommand
  dmesgCommand : Option TestCommand
  summaryPath : String

/-- `_existing_artifacts` -/
def TestPlan.existingArtifacts (plan : TestPlan) (isFile : String → Bool) : List ArtifactRef :=
  let commandRefs := plan.commands.flatMap fun command =>
    [plainRef command.stdoutPath "test-stdout", plainRef command.stderrPath "test-stderr",
      plainRef command.metadataPath "test-command"]
  let dmesgRefs := plan.dmesgCommand.toList.flatMap fun command =>
    [plainRef command.stdoutPath "dmesg", plainRef command.stderrPath "dmesg-stderr"]
  (commandRefs ++ dmesgRefs ++ [plainRef plan.summaryPath "test-summary"]).filter fun a =>
    isFile a.path || a.kind = "test-summary"

/-! ## Debug sessions -/

/-- `mi_session_artifacts` -/
def miSessionArtifacts (runDir sessionId transcriptPath : String) : List ArtifactRef :=
  [plainRef (runDir ++ "/debug/sessions/" ++ sessionId ++ ".json") "debug-session",
    ⟨transcriptPath, "debug-transcript", true, none⟩]

/-! ## Against the required kinds -/

/-- The references are what the handler of the step records when it succeeds.  Of the
steps that have no required kinds nothing is said. -/
def OwnArtifacts (runDir step : String) (refs : List ArtifactRef) : Prop :=
  (step = "build" → ∃ (plan : BuildPlan) (isFile : String → Bool),
    plan.Leaves isFile ∧ refs = plan.artifacts isFile) ∧
  (step = "boot" → ∃ (plan : BootPlan) (isPath : String → Bool) (rotated : Option ArtifactRef),
    plan.Leaves isPath ∧ refs = plan.artifacts isPath rotated) ∧
  (step = "run_tests" → ∃ (plan : TestPlan) (isFile : String → Bool),
    refs = plan.existingArtifacts isFile) ∧
  (step = "debug" → ∃ sessionId transcriptPath : String,
    refs = miSessionArtifacts runDir sessionId transcriptPath)

theorem BuildPlan.mem_artifacts {plan : BuildPlan} {isFile : String → Bool} {a : ArtifactRef}
    (h : a ∈ plan.detectArtifacts isFile) : a ∈ plan.artifacts isFile := by
  rw [BuildPlan.artifacts]
  split
  · exact h
  · exact List.mem_append_left _ h

theorem BootPlan.mem_artifacts {plan : BootPlan} {isPath : String → Bool}
    {rotated : Option ArtifactRef} {a : ArtifactRef} (ha : a ∈ plan.artifactRefs)
    (hpath : isPath a.path = true) : a ∈ plan.artifacts isPath rotated := by
  have hmem : a ∈ (plan.artifactRefs ++ rotated.toList).filter fun a => isPath a.path :=
    List.mem_filter.mpr ⟨List.mem_append_left _ ha, hpath⟩
  rw [BootPlan.artifacts]
  split
  · exact hmem
  · exact List.mem_append_left _ hmem

section Own

variable {runDir step : String} {refs : List ArtifactRef}

/-- A step other than `debug` records the kinds that are required of it. -/
theorem required_of_own (h : OwnArtifacts runDir step refs) (hdebug : step ≠ "debug") :
    ∀ kind ∈ requiredKinds step, kind ∈ refs.map ArtifactRef.kind := by
  obtain ⟨hbuild, hboot, htests, -⟩ := h
  have hlookup : requiredKinds step ≠ [] → step = "build" ∨ step = "boot" ∨ step = "run_tests" := by
    intro hkinds
    by_contra hnot
    simp only [not_or] at hnot
    exact hkinds (by simp [requiredKinds, REQUIRED_KINDS_BY_STEP, List.lookup_cons,
      beq_false_of_ne hnot.1, beq_false_of_ne hnot.2.1, beq_false_of_ne hnot.2.2,
      beq_false_of_ne hdebug])
  intro kind hkind
  rcases hlookup (List.ne_nil_of_mem hkind) with rfl | rfl | rfl
  · obtain ⟨plan, isFile, ⟨hlog, hconfig, himage⟩, rfl⟩ := hbuild rfl
    have hmem : ∀ a ∈ plan.detectArtifacts isFile, a.kind ∈ (plan.artifacts isFile).map ArtifactRef.kind :=
      fun a ha => List.mem_map_of_mem (BuildPlan.mem_artifacts ha)
    have hkinds : kind = "build-log" ∨ kind = "kernel-config" ∨ kind = "kernel-image" := by
      simpa [requiredKinds, REQUIRED_KINDS_BY_STEP, List.lookup_cons] using hkind
    rcases hkinds with rfl | rfl | rfl
    · exact hmem (plainRef plan.logPath _) (by simp [BuildPlan.detectArtifacts, plainRef, hlog])
    · exact hmem (plainRef plan.configPath _)
        (by simp [BuildPlan.detectArtifacts, plainRef, hconfig])
    · exact hmem (plainRef plan.imagePath _)
        (by simp [BuildPlan.detectArtifacts, plainRef, himage])
  · obtain ⟨plan, isPath, rotated, ⟨hxml, hplan, hconsole, hlog⟩, rfl⟩ := hboot rfl
    have hmem : ∀ a ∈ plan.artifactRefs, isPath a.path = true →
        a.kind ∈ (plan.artifacts isPath rotated).map ArtifactRef.kind :=
      fun a ha hpath => List.mem_map_of_mem (BootPlan.mem_artifacts ha hpath)
    have hkinds : kind = "boot-log" ∨ kind = "boot-plan" ∨ kind = "console-log" ∨
        kind = "domain-xml" := by
      simpa [requiredKinds, REQUIRED_KINDS_BY_STEP, List.lookup_cons] using hkind
    rcases hkinds with rfl | rfl | rfl | rfl
    · exact hmem (plainRef plan.bootLogPath _) (by simp [BootPlan.artifactRefs]) hlog
    · exact hmem (plainRef plan.bootPlanPath _) (by simp [BootPlan.artifactRefs]) hplan
    · exact hmem (plainRef plan.consoleLogPath _) (by simp [BootPlan.artifactRefs]) hconsole
    · exact hmem (plainRef plan.domainXmlPath _) (by simp [BootPlan.artifactRefs]) hxml
  · obtain ⟨plan, isFile, rfl⟩ := htests rfl
    have hkinds : kind = "test-summary" := by
      simpa [requiredKinds, REQUIRED_KINDS_BY_STEP, List.lookup_cons] using hkind
    subst hkinds
    exact List.mem_map.mpr ⟨plainRef plan.summaryPath "test-summary",
      by simp [TestPlan.existingArtifacts, plainRef], rfl⟩

/-- A debug session lacks a kind that is required of it. -/
theorem debug_lacks (h : OwnArtifacts runDir "debug" refs) :
    "debug-summary" ∈ requiredKinds "debug" ∧ "debug-summary" ∉ refs.map ArtifactRef.kind := by
  obtain ⟨sessionId, transcriptPath, rfl⟩ := h.2.2.2 rfl
  constructor
  · simp [requiredKinds, REQUIRED_KINDS_BY_STEP, List.lookup_cons]
  · simp [miSessionArtifacts, plainRef]

end Own

end Kdive.Artifacts

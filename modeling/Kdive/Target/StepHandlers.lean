import Kdive.Artifacts.Store
import Kdive.Seams.Target
import Mathlib.Data.List.Infix

/-!
# target.boot and target.run_tests over the files of a run

Both tools take the lock of their step, look at the result the step has, mark one that
a dead server left running as failed, and then record their own: `RUNNING` before the
work and the outcome after it.

*Work.*  What the profiles, the providers and the admission service decide is given with
a call.  None of it touches the manifest or a lock file.

*Answers.*  A `ManifestStateError` becomes a failure.  If it says that the lock of the
step is held and the step is recorded as running, the answer is that it runs.
-/

namespace Kdive.Steps

open Program Artifacts

/-- A tool response. -/
inductive Answer (Json : Type) where
  /-- The step succeeded with this result. -/
  | succeeded (result : StepResult Json)
  | failed (category : ErrorCategory) (message : String)
  /-- The failure of a `ManifestStateError`. -/
  | storeFailed (message : String)
  /-- The step is running. -/
  | running (result : StepResult Json)

variable {Json : Type}

/-- The locks of a run are held. -/
def lockMessages : List String :=
  ["boot is locked", "tests are locked", "target domain is locked", "manifest is locked"]

/-- The tool is refused because of a lock, or is told that the step still runs. -/
def Answer.Refuses : Answer Json → Prop
  | .running _ => True
  | .storeFailed message => message ∈ lockMessages
  | .succeeded _ | .failed .. => False

theorem Answer.not_refuses_failed (category : ErrorCategory) (message : String) :
    ¬ (Answer.failed category message : Answer Json).Refuses := id

theorem Answer.not_refuses_succeeded (result : StepResult Json) :
    ¬ (Answer.succeeded result).Refuses := id

/-! ## What the two tools share -/

/-- What ends a tool before it records anything. -/
inductive Stopped where
  | refused (category : ErrorCategory) (message : String)
  | raised (e : Raised)

/-- The run is there and its manifest can be read. -/
def openRun (run : Run) (fault : Option Raised) :
    StoreRun Json (Except (Answer Json) (RunManifest Json)) := do
  let there ← system .isFile
  if there = false then
    return .error (.failed .configurationError s!"run not found: {run.runId}")
  else
    match ← (loadManifest run fault).attempt with
    | .ok m => return .ok m
    | .error (.manifestState message) => return .error (.storeFailed message)
    | .error e => .raise e

/-- `needle in text` -/
def mentions (needle text : String) : Bool := decide (needle.toList <:+: text.toList)

/-- The result is that the step runs. -/
def isRunning (result : StepResult Json) : Bool := result.status = .running

/-- The result of the step, read once more. -/
def refreshedResult (run : Run) (fault : Option Raised) (stepName : String) :
    StoreRun Json (Option (StepResult Json)) := do
  match ← (loadManifest run fault).attempt with
  | .ok m => return m.result? stepName
  | .error (.manifestState _) => return none
  | .error e => .raise e

/-- `except ManifestStateError` -/
def answerRaised (run : Run) (fault : Option Raised) (stepName lockedMessage : String)
    (existing : Option (StepResult Json)) : Raised → StoreRun Json (Answer Json)
  | .manifestState message =>
      if mentions lockedMessage message = true then do
        let refreshed ← refreshedResult run fault stepName
        match (refreshed.filter isRunning).or (existing.filter isRunning) with
        | some result => return .running result
        | none => return .storeFailed message
      else return .storeFailed message
  | e => .raise e

/-- The result of a step that a dead server left running. -/
def staleFailed (jsonTrue : Json) (stepName : String) (result : StepResult Json) :
    StepResult Json where
  stepName := stepName
  status := .failed
  summary := result.summary
  artifacts := result.artifacts
  details := setItem "stale_running_recovered" jsonTrue result.details

variable [DecidableEq Json]

/-- Record a result that says the step runs as a failure. -/
def recoverStaleRunning (run : Run) (faults : UpdateFaults) (jsonTrue : Json) (stepName : String)
    (existing : Option (StepResult Json)) : StoreRun Json Unit :=
  Prog.forSome (existing.filter isRunning) fun result =>
    (recordStepResult run faults (staleFailed jsonTrue stepName result) false false).void

/-! ## target.boot -/

/-- What the profiles come to. -/
structure BootInputs (Json : Type) where
  targetRef : String
  targetProfile : Json
  rootfsProfile : Json

/-- Why there is no plan. -/
inductive PlanFailure (Json : Type) where
  /-- A `RootfsSourceError` or a `ProviderBootError`. -/
  | recorded (category : ErrorCategory) (message : String) (artifacts : List ArtifactRef)
      (details : List (String × Json))
  | stopped (s : Stopped)

/-- A planned boot. -/
structure BootPlan (Json : Type) where
  bootLogPath : String
  details : List (String × Json)

/-- What `execute_boot` raises. -/
inductive BootError (Json : Type) where
  /-- A `ProviderBootError`. -/
  | provider (category : ErrorCategory) (message : String) (artifacts : List ArtifactRef)
      (details : List (String × Json))
  | unexpected (details : List (String × Json))

/-- What a boot came to. -/
structure BootExecution (Json : Type) where
  status : StepStatus
  summary : String
  artifacts : List ArtifactRef
  terminalDetails : List (String × Json)
  errorCategory : Option ErrorCategory

/-- The category a boot that raised is answered with. -/
def BootError.category : BootError Json → ErrorCategory
  | .provider category .. => category
  | .unexpected _ => .infrastructureFailure

/-- The result of a boot. -/
def BootExecution.result (execution : BootExecution Json) : StepResult Json :=
  ⟨"boot", execution.status, execution.summary, execution.artifacts, execution.terminalDetails⟩

/-- The answer of a boot. -/
def BootExecution.answer (execution : BootExecution Json) : Answer Json :=
  if execution.status = .succeeded then .succeeded execution.result
  else .failed (execution.errorCategory.getD .infrastructureFailure) execution.summary

/-- What the system calls of a boot come to. -/
structure BootFaults where
  first : Option Raised := none
  bootLock : LockFaults := {}
  read : Option Raised := none
  targetLockDir : Option String := none
  targetLock : LockFaults := {}
  stale : UpdateFaults := {}
  planned : UpdateFaults := {}
  running : UpdateFaults := {}
  terminal : UpdateFaults := {}
  refresh : Option Raised := none
deriving DecidableEq

/-- A call of `target.boot`. -/
structure BootCall (Json : Type) where
  run : Run
  jsonTrue : Json
  forceReboot : Bool
  hasNewBootOverrides : Bool
  permitted : Bool
  inputs : RunManifest Json → Except String (BootInputs Json)
  plan : Except (PlanFailure Json) (BootPlan Json)
  execution : Except (BootError Json) (BootExecution Json)
  faults : BootFaults := {}

namespace BootCall

/-- The recorded boot is the answer. -/
def shortCircuits (c : BootCall Json) (existing : StepResult Json) : Bool :=
  existing.status = .succeeded && !c.forceReboot && !c.hasNewBootOverrides

/-- The result of a boot that runs. -/
def runningResult (plan : BootPlan Json) : StepResult Json where
  stepName := "boot"
  status := .running
  summary := "target boot running"
  artifacts := [⟨plan.bootLogPath, "boot-log", false, none⟩]
  details := plan.details

/-- The result of a boot that raised. -/
def failedResult (plan : BootPlan Json) : BootError Json → StepResult Json
  | .provider _ message artifacts details => ⟨"boot", .failed, message, artifacts, details⟩
  | .unexpected details =>
      ⟨"boot", .failed, "unexpected boot provider failure",
        [⟨plan.bootLogPath, "boot-log", false, none⟩], details⟩

variable (c : BootCall Json)

/-- The attempt to boot. -/
def attemptRecord (inputs : BootInputs Json) (attempt : Nat) (status : StepStatus) :
    BootAttempt Json :=
  ⟨attempt, inputs.targetProfile, inputs.rootfsProfile, status⟩

/-- `_execute_boot_attempt` -/
def executeBootAttempt (inputs : BootInputs Json) (attempt : Nat) (replaceSucceeded : Bool)
    (plan : BootPlan Json) : StoreRun Json (Answer Json) := do
  let _ ← recordStepResult c.run c.faults.running (runningResult plan) replaceSucceeded false
  match c.execution with
  | .error error =>
      -- `_record_boot_attempt_failure`
      let _ ← recordBootAttempt c.run c.faults.terminal (attemptRecord inputs attempt .failed)
        (failedResult plan error)
      return .failed error.category (failedResult plan error).summary
  | .ok execution =>
      -- `_finalize_boot_execution`
      let _ ← recordBootAttempt c.run c.faults.terminal
        (attemptRecord inputs attempt execution.status) execution.result
      return execution.answer

/-- A succeeded result may be replaced. -/
def replacesSucceeded (locked : Option (StepResult Json)) : Bool :=
  locked.any (fun result => result.status = .succeeded) || c.hasNewBootOverrides || c.forceReboot

/-- The section of `_boot_under_locks` under the target lock. -/
def underTargetLock (inputs : BootInputs Json) (m : RunManifest Json) :
    StoreRun Json (Answer Json) := do
  recoverStaleRunning c.run c.faults.stale c.jsonTrue "boot" (m.result? "boot")
  match c.plan with
  | .error (.recorded category message artifacts details) =>
      let _ ← recordStepResult c.run c.faults.planned ⟨"boot", .failed, message, artifacts, details⟩
        (c.replacesSucceeded (m.result? "boot")) false
      return .failed category message
  | .error (.stopped (.refused category message)) => return .failed category message
  | .error (.stopped (.raised e)) => .raise e
  | .ok plan =>
      c.executeBootAttempt inputs (m.bootAttempts.length + 1)
        (c.replacesSucceeded (m.result? "boot")) plan

/-- `target_lock` around a section. -/
def targetLock {α : Type} (targetRef : String) (body : StoreRun Json α) : StoreRun Json α :=
  match c.faults.targetLockDir with
  | some text => .raise (.manifestState text)
  | none =>
      fileLock (.target targetRef) "target domain is locked" "failed to lock target domain"
        c.faults.targetLock body

/-- The section of `_boot_under_locks` under the boot lock. -/
def underBootLock (inputs : BootInputs Json) : StoreRun Json (Answer Json) := do
  let m ← loadManifest c.run c.faults.read
  match (m.result? "boot").filter c.shortCircuits with
  | some result => return .succeeded result
  | none => c.targetLock inputs.targetRef (c.underTargetLock inputs m)

/-- `_boot_under_locks` -/
def underLocks (inputs : BootInputs Json) (existing : Option (StepResult Json)) :
    StoreRun Json (Answer Json) :=
  (fileLock .boot "boot is locked" "failed to lock boot" c.faults.bootLock
    (c.underBootLock inputs)).rescue
    (answerRaised c.run c.faults.refresh "boot" "boot is locked" existing)

/-- `target_boot_handler` -/
def program : StoreRun Json (Answer Json) := do
  match ← openRun c.run c.faults.first with
  | .error answer => return answer
  | .ok m =>
      match c.inputs m with
      | .error message => return .failed .configurationError message
      | .ok inputs =>
          match (m.result? "boot").filter c.shortCircuits with
          | some result => return .succeeded result
          | none =>
              if c.permitted = false then
                return .failed .configurationError
                  "target.boot requires acknowledged destructive permissions before booting"
              else c.underLocks inputs (m.result? "boot")

end BootCall

/-! ## target.run_tests -/

/-- What `execute_tests` raises, as it is recorded and answered. -/
structure TestsError (Json : Type) where
  summary : String
  details : List (String × Json)
  category : ErrorCategory
  message : String

/-- The result of a test run that raised. -/
def TestsError.result (error : TestsError Json) : StepResult Json :=
  ⟨"run_tests", .failed, error.summary, [], error.details⟩

/-- What a test run came to, redacted. -/
structure TestsExecution (Json : Type) where
  status : StepStatus
  summary : String
  artifacts : List ArtifactRef
  details : List (String × Json)
  errorCategory : Option ErrorCategory

/-- The result of a test run. -/
def TestsExecution.result (execution : TestsExecution Json) : StepResult Json :=
  ⟨"run_tests", execution.status, execution.summary, execution.artifacts, execution.details⟩

/-- The answer of a test run. -/
def TestsExecution.answer (execution : TestsExecution Json) : Answer Json :=
  if execution.status = .succeeded then .succeeded execution.result
  else .failed (execution.errorCategory.getD .testFailure) execution.summary

/-- What the system calls of a test run come to. -/
structure TestsFaults where
  first : Option Raised := none
  testsLock : LockFaults := {}
  read : Option Raised := none
  stale : UpdateFaults := {}
  running : UpdateFaults := {}
  terminal : UpdateFaults := {}
  refresh : Option Raised := none
deriving DecidableEq

/-- A call of `target.run_tests`. -/
structure TestsCall (Json : Type) where
  run : Run
  jsonTrue : Json
  forceRerun : Bool
  permitted : Bool
  inputs : RunManifest Json → Except String Unit
  /-- The details of the running step, from the plan and the ssh-tier admission. -/
  plan : Except Stopped (List (String × Json))
  execution : Except (TestsError Json) (TestsExecution Json)
  faults : TestsFaults := {}

namespace TestsCall

variable (c : TestsCall Json)

/-- The recorded test run as an answer. -/
def recorded? (existing : Option (StepResult Json)) : Option (Answer Json) :=
  match existing with
  | some result =>
      if result.status = .succeeded ∧ c.forceRerun = false then some (.succeeded result)
      else if result.status = .failed ∧ c.forceRerun = false then
        some (.failed .testFailure result.summary)
      else none
  | none => none

omit [DecidableEq Json] in
theorem recorded?_eq_some {existing : Option (StepResult Json)} {answer : Answer Json}
    (h : c.recorded? existing = some answer) : ∃ result, existing = some result ∧
      (result.status = .succeeded ∨ result.status = .failed) ∧ ¬ answer.Refuses := by
  unfold recorded? at h
  split at h
  · next result =>
      split at h
      · next hsucceeded =>
          cases h
          exact ⟨result, rfl, .inl hsucceeded.1, Answer.not_refuses_succeeded _⟩
      · split at h
        · next hfailed =>
            cases h
            exact ⟨result, rfl, .inr hfailed.1, Answer.not_refuses_failed _ _⟩
        · cases h
  · cases h

/-- The result of a test run that runs. -/
def runningResult (details : List (String × Json)) : StepResult Json :=
  ⟨"run_tests", .running, "target tests running", [], details⟩

/-- `_locked_run_tests_execution`, from the record that the tests run. -/
def execute (details : List (String × Json)) : StoreRun Json (Answer Json) := do
  let _ ← recordStepResult c.run c.faults.running (runningResult details) c.forceRerun false
  match c.execution with
  | .error error =>
      -- `_record_run_tests_post_admission_failure`
      let _ ← recordStepResult c.run c.faults.terminal error.result c.forceRerun false
      return .failed error.category error.message
  | .ok execution =>
      let _ ← recordStepResult c.run c.faults.terminal execution.result c.forceRerun false
      return execution.answer

/-- `_locked_run_tests_execution` under the tests lock. -/
def underTestsLock : StoreRun Json (Answer Json) := do
  let m ← loadManifest c.run c.faults.read
  match c.recorded? (m.result? "run_tests") with
  | some answer => return answer
  | none =>
      recoverStaleRunning c.run c.faults.stale c.jsonTrue "run_tests" (m.result? "run_tests")
      match c.plan with
      | .error (.refused category message) => return .failed category message
      | .error (.raised e) => .raise e
      | .ok details => c.execute details

/-- `_locked_run_tests_execution` and the handler around it. -/
def underLocks (existing : Option (StepResult Json)) : StoreRun Json (Answer Json) :=
  (fileLock .tests "tests are locked" "failed to lock tests" c.faults.testsLock
    c.underTestsLock).rescue
    (answerRaised c.run c.faults.refresh "run_tests" "tests are locked" existing)

/-- `target_run_tests_handler` -/
def program : StoreRun Json (Answer Json) := do
  match ← openRun c.run c.faults.first with
  | .error answer => return answer
  | .ok m =>
      if (m.result? "boot").any (fun result => result.status = .succeeded) = false then
        return .failed .configurationError "target run tests requires a succeeded boot"
      else
        match c.inputs m with
        | .error message => return .failed .configurationError message
        | .ok _ =>
            match c.recorded? (m.result? "run_tests") with
            | some answer => return answer
            | none =>
                if c.permitted = false then
                  return .failed .configurationError
                    "target.run_tests requires acknowledged destructive permissions before ad hoc SSH commands"
                else c.underLocks (m.result? "run_tests")

end TestsCall

end Kdive.Steps

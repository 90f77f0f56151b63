import Kdive.Coordination.LocalTarget

/-!
# target.boot

`targetBoot` is the boot handler.  It reads the manifest of the run, boots the
kernel under two locks, records the attempt, and publishes a `READY` snapshot of
the target whose generation is the number of the attempt.

*Outcomes.*  What the provider, the profiles and the file locks decide is in
`BootEnv`.  A boot answers with the manifest it leaves, the snapshot it hands to
the admission service, if any, and its response.

*Manifest.*  Only the `boot` step and the list of attempts are modelled.  Other
boots of the same run wait for the boot lock, so the manifest read under it does
not change until the handler writes it.
-/

namespace Kdive

/-! ## The manifest -/

/-- A recorded step. -/
structure StepResult where
  status : StepStatus
  summary : String
  details : List (String × Routing)
deriving Repr

/-- One attempt to boot. -/
structure BootAttempt where
  attempt : Nat
  status : StepStatus
deriving DecidableEq, Repr

/-- The part of a manifest a boot reads. -/
structure RunManifest where
  boot : Option StepResult
  bootAttempts : List BootAttempt
deriving Repr

/-- The manifest of a run that was never booted. -/
def RunManifest.unbooted : RunManifest := ⟨none, []⟩

/-- Record a boot step.  A succeeded step stays unless it may be replaced. -/
def RunManifest.withStepResult (m : RunManifest) (result : StepResult) (replaceSucceeded : Bool) :
    RunManifest :=
  match m.boot with
  | some existing =>
      if existing.status = .succeeded ∧ replaceSucceeded = false then m
      else { m with boot := some result }
  | none => { m with boot := some result }

/-- Record an attempt together with its step. -/
def RunManifest.recordBootAttempt (m : RunManifest) (attempt : BootAttempt)
    (bootResult : StepResult) : RunManifest :=
  { m with bootAttempts := m.bootAttempts ++ [attempt] }.withStepResult bootResult true

/-! ## Profiles, plans and outcomes -/

/-- The root filesystem profile of a boot. -/
structure RootfsProfile where
  sshHost : Option String
deriving DecidableEq, Repr

/-- Where the gdbstub of a planned boot listens. -/
structure GdbstubEndpoint where
  host : String
  port : Nat
deriving DecidableEq, Repr

/-- The endpoint as a JSON object. -/
def GdbstubEndpoint.asDict (e : GdbstubEndpoint) : List (String × Routing) :=
  [("host", .str e.host), ("port", .int e.port)]

/-- A failure with its category and the details it records. -/
structure BootFailure where
  category : ErrorCategory
  message : String
  details : List (String × Routing) := []
deriving Repr

/-- Why a boot could not be planned.  Failures of the provider are recorded, bad
configuration is not. -/
inductive PlanFailure where
  | recorded (failure : BootFailure)
  | configuration (message : String)
deriving Repr

/-- What the provider reports of an executed boot. -/
structure BootExecution where
  status : StepStatus
  summary : String
  details : List (String × Routing)
  errorCategory : Option ErrorCategory
deriving Repr

/-- A manifest or a lock that cannot be used. -/
inductive ManifestFault where
  | bootIsLocked
  | other (failure : BootFailure)
deriving Repr

/-- What the world outside decides about one boot. -/
structure BootEnv where
  /-- The handler was given an admission service. -/
  admission : Bool
  /-- The resolved profile, or why the inputs were refused. -/
  inputs : Except BootFailure RootfsProfile
  /-- The destructive permissions were acknowledged. -/
  permitted : Bool
  bootLock : Option ManifestFault
  targetLock : Option ManifestFault
  plan : Except PlanFailure (Option GdbstubEndpoint)
  /-- The write of the running step. -/
  runningWrite : Option ManifestFault
  execution : Except BootFailure BootExecution
  /-- The write of the attempt. -/
  attemptWrite : Option ManifestFault

/-- What the caller asks for. -/
structure BootRequest where
  runId : String
  forceReboot : Bool
  hasNewBootOverrides : Bool
deriving DecidableEq, Repr

/-- What a boot answers. -/
inductive BootResponse where
  | success (summary : String)
  | running (message : String)
  | failure (failure : BootFailure)
deriving Repr

/-- What a boot leaves behind. -/
structure BootOutcome where
  manifest : RunManifest
  published : Option TargetSnapshot
  response : BootResponse

/-! ## The snapshot -/

/-- `_publish_boot_ready_snapshot`. -/
def bootSnapshot (generation : Nat) (gdbstubEndpoint : Option (List (String × Routing)))
    (rootfsProfile : RootfsProfile) : TargetSnapshot where
  generation := generation
  transports := gdbstubEndpoint.toList.map gdbstubChannel
  platform := bootPlatform rootfsProfile.sshHost.isSome
  state := .ready
  lease := none

theorem bootSnapshot_some (generation : Nat) (endpoint : List (String × Routing))
    (rootfsProfile : RootfsProfile) :
    bootSnapshot generation (some endpoint) rootfsProfile =
      bootReadySnapshot generation endpoint rootfsProfile.sshHost.isSome := rfl

/-- The endpoint a recorded step names, when it is a JSON object. -/
def StepResult.gdbstubEndpoint (result : StepResult) : Option (List (String × Routing)) :=
  match result.details.lookup "gdbstub_endpoint" with
  | some (.map entries) => some entries
  | _ => none

/-- The attempt a manifest booted last. -/
def RunManifest.lastAttempt (m : RunManifest) : Nat :=
  match m.bootAttempts.getLast? with
  | some attempt => attempt.attempt
  | none => 1

/-! ## The handler -/

/-- A recorded success stands for a boot: only its snapshot is published again. -/
def shortCircuitBootSuccess (env : BootEnv) (m : RunManifest) (result : StepResult)
    (rootfsProfile : RootfsProfile) : BootOutcome where
  manifest := m
  published :=
    if env.admission then some (bootSnapshot m.lastAttempt result.gdbstubEndpoint rootfsProfile)
    else none
  response := .success result.summary

/-- A recorded success that the caller does not override. -/
def ShortCircuits (request : BootRequest) (result : StepResult) : Prop :=
  result.status = .succeeded ∧ request.forceReboot = false ∧ request.hasNewBootOverrides = false

instance (request : BootRequest) (result : StepResult) :
    Decidable (ShortCircuits request result) :=
  inferInstanceAs (Decidable (_ ∧ _))

/-- What the handler answers to a manifest or a lock it cannot use. -/
def manifestFailure (m : RunManifest) (existing : Option StepResult) (fault : ManifestFault) :
    BootOutcome where
  manifest := m
  published := none
  response :=
    match fault with
    | .other failure => .failure failure
    | .bootIsLocked =>
        if (m.boot.map StepResult.status) = some .running ∨
            (existing.map StepResult.status) = some .running then
          .running "previous boot is still recorded as running"
        else .failure { category := .infrastructureFailure, message := "boot is locked" }

/-- A write of the manifest that may fail. -/
def recordOr (m : RunManifest) (existing : Option StepResult) (fault : Option ManifestFault)
    (written : BootOutcome) : BootOutcome :=
  match fault with
  | none => written
  | some fault => manifestFailure m existing fault

/-- Record an executed boot and publish its snapshot when it succeeded. -/
def finalizeBootExecution (env : BootEnv) (existing : Option StepResult) (m : RunManifest)
    (attempt : Nat) (rootfsProfile : RootfsProfile)
    (gdbstubEndpoint : Option (List (String × Routing))) (execution : BootExecution) :
    BootOutcome :=
  recordOr m existing env.attemptWrite
    { manifest := m.recordBootAttempt ⟨attempt, execution.status⟩
        ⟨execution.status, execution.summary, execution.details⟩
      published :=
        if execution.status = .succeeded ∧ env.admission = true then
          some (bootSnapshot attempt gdbstubEndpoint rootfsProfile)
        else none
      response :=
        if execution.status = .succeeded then .success execution.summary
        else .failure
          { category := execution.errorCategory.getD .infrastructureFailure
            message := execution.summary
            details := execution.details } }

/-- Run a planned boot. -/
def executeBootAttempt (env : BootEnv) (existing : Option StepResult) (m : RunManifest)
    (attempt : Nat) (replaceSucceeded : Bool) (rootfsProfile : RootfsProfile)
    (gdbstubEndpoint : Option (List (String × Routing))) : BootOutcome :=
  let running : StepResult :=
    ⟨.running, "target boot running",
      [("gdbstub_endpoint", gdbstubEndpoint.elim .null Routing.map)]⟩
  match env.runningWrite with
  | some fault => manifestFailure m existing fault
  | none =>
      let m := m.withStepResult running replaceSucceeded
      match env.execution with
      | .error failure =>
          recordOr m existing env.attemptWrite
            { manifest := m.recordBootAttempt ⟨attempt, .failed⟩ ⟨.failed, failure.message, failure.details⟩
              published := none
              response := .failure failure }
      | .ok execution =>
          finalizeBootExecution env existing m attempt rootfsProfile gdbstubEndpoint execution

/-- A boot that a crashed server left running is recorded as failed. -/
def RunManifest.recoverStaleRunning (m : RunManifest) : RunManifest :=
  match m.boot with
  | some locked =>
      if locked.status = .running then
        m.withStepResult
          ⟨.failed, locked.summary, locked.details ++ [("stale_running_recovered", .bool true)]⟩
          false
      else m
  | none => m

/-- Plan the boot and run it. -/
def bootUnderLocks (env : BootEnv) (request : BootRequest) (existing : Option StepResult)
    (m : RunManifest) (rootfsProfile : RootfsProfile) : BootOutcome :=
  match env.bootLock with
  | some fault => manifestFailure m existing fault
  | none =>
      match m.boot.filter fun locked => decide (ShortCircuits request locked) with
      | some locked => shortCircuitBootSuccess env m locked rootfsProfile
      | none =>
          let replaceSucceeded :=
            decide (m.boot.map StepResult.status = some .succeeded) || request.hasNewBootOverrides ||
              request.forceReboot
          match env.targetLock with
          | some fault => manifestFailure m existing fault
          | none =>
              let attempt := m.bootAttempts.length + 1
              let m := m.recoverStaleRunning
              match env.plan with
              | .error (.configuration message) =>
                  ⟨m, none, .failure { category := .configurationError, message := message }⟩
              | .error (.recorded failure) =>
                  ⟨m.withStepResult ⟨.failed, failure.message, failure.details⟩ replaceSucceeded, none,
                    .failure failure⟩
              | .ok endpoint =>
                  executeBootAttempt env existing m attempt replaceSucceeded rootfsProfile
                    (endpoint.map GdbstubEndpoint.asDict)

/-- `target.boot`.  `before` is the manifest when the handler starts, `m` the one
it finds under the boot lock. -/
def targetBoot (env : BootEnv) (request : BootRequest) (before m : RunManifest) : BootOutcome :=
  match env.inputs with
  | .error failure => ⟨m, none, .failure failure⟩
  | .ok rootfsProfile =>
      match before.boot.filter fun existing => decide (ShortCircuits request existing) with
      | some existing => { shortCircuitBootSuccess env before existing rootfsProfile with manifest := m }
      | none =>
          if env.permitted = false then
            ⟨m, none, .failure
              { category := .configurationError
                message := "target.boot requires acknowledged destructive permissions before booting" }⟩
          else bootUnderLocks env request before.boot m rootfsProfile

/-- The admission calls of a boot. -/
def BootOutcome.calls (outcome : BootOutcome) (runId : String) : List AdmissionService.Call :=
  outcome.published.toList.map (.publishSnapshot (localTarget runId))

/-- A boot in which nothing outside fails. -/
def BootEnv.calm (endpoint : Option GdbstubEndpoint) (rootfsProfile : RootfsProfile) : BootEnv where
  admission := true
  inputs := .ok rootfsProfile
  permitted := true
  bootLock := none
  targetLock := none
  plan := .ok endpoint
  runningWrite := none
  execution := .ok
    { status := .succeeded
      summary := "kernel booted"
      details := [("gdbstub_endpoint", (endpoint.map GdbstubEndpoint.asDict).elim .null .map)]
      errorCategory := none }
  attemptWrite := none

/-! ## What a boot publishes -/

/-- The attempt whose number a boot may publish: the last one on record, or the next. -/
def RunManifest.MayPublish (m : RunManifest) (attempt : Nat) : Prop :=
  attempt = m.lastAttempt ∨ attempt = m.bootAttempts.length + 1

/-- A snapshot a boot of one of two manifests may publish. -/
def BootPublishes (env : BootEnv) (before m : RunManifest) (snapshot : TargetSnapshot) : Prop :=
  ∃ attempt endpoint rootfsProfile, env.inputs = .ok rootfsProfile ∧
    (before.MayPublish attempt ∨ m.MayPublish attempt) ∧
    snapshot = bootSnapshot attempt endpoint rootfsProfile

section Published

variable {env : BootEnv} {request : BootRequest} {existing : Option StepResult}
  {before m : RunManifest} {rootfsProfile : RootfsProfile} {snapshot : TargetSnapshot}

theorem manifestFailure_published {fault : ManifestFault} :
    (manifestFailure m existing fault).published = none := rfl

theorem recordOr_published {fault : Option ManifestFault} {written : BootOutcome}
    (h : (recordOr m existing fault written).published = some snapshot) :
    written.published = some snapshot := by
  cases fault with
  | none => exact h
  | some fault => cases h

theorem shortCircuit_published {result : StepResult}
    (h : (shortCircuitBootSuccess env m result rootfsProfile).published = some snapshot) :
    snapshot = bootSnapshot m.lastAttempt result.gdbstubEndpoint rootfsProfile := by
  simp only [shortCircuitBootSuccess, Option.ite_none_right_eq_some, Option.some.injEq] at h
  exact h.2.symm

theorem finalize_published {attempt : Nat} {endpoint : Option (List (String × Routing))}
    {execution : BootExecution}
    (h : (finalizeBootExecution env existing m attempt rootfsProfile endpoint execution).published
      = some snapshot) : snapshot = bootSnapshot attempt endpoint rootfsProfile := by
  have h := recordOr_published h
  simp only [Option.ite_none_right_eq_some, Option.some.injEq] at h
  exact h.2.symm

theorem executeBootAttempt_published {attempt : Nat} {replaceSucceeded : Bool}
    {endpoint : Option (List (String × Routing))}
    (h : (executeBootAttempt env existing m attempt replaceSucceeded rootfsProfile
      endpoint).published = some snapshot) :
    snapshot = bootSnapshot attempt endpoint rootfsProfile := by
  unfold executeBootAttempt at h
  cases hrunning : env.runningWrite with
  | some fault => simp [hrunning, manifestFailure_published] at h
  | none =>
      simp only [hrunning] at h
      cases hexecution : env.execution with
      | error failure =>
          simp only [hexecution] at h
          cases recordOr_published h
      | ok execution =>
          simp only [hexecution] at h
          exact finalize_published h

theorem bootUnderLocks_published
    (h : (bootUnderLocks env request existing m rootfsProfile).published = some snapshot) :
    ∃ attempt endpoint, m.MayPublish attempt ∧
      snapshot = bootSnapshot attempt endpoint rootfsProfile := by
  unfold bootUnderLocks at h
  cases hlock : env.bootLock with
  | some fault => simp [hlock, manifestFailure_published] at h
  | none =>
      simp only [hlock] at h
      split at h
      · exact ⟨_, _, .inl rfl, shortCircuit_published h⟩
      · cases htarget : env.targetLock with
        | some fault => simp [htarget, manifestFailure_published] at h
        | none =>
            simp only [htarget] at h
            cases hplan : env.plan with
            | error failure => cases failure <;> simp [hplan] at h
            | ok endpoint =>
                simp only [hplan] at h
                exact ⟨_, _, .inr rfl, executeBootAttempt_published h⟩

/-- What a boot publishes is the `READY` snapshot of the attempt it stands for. -/
theorem targetBoot_published
    (h : (targetBoot env request before m).published = some snapshot) :
    BootPublishes env before m snapshot := by
  unfold targetBoot at h
  cases hinputs : env.inputs with
  | error failure => simp [hinputs] at h
  | ok rootfsProfile =>
      simp only [hinputs] at h
      split at h
      · exact ⟨_, _, _, hinputs, .inl (.inl rfl), shortCircuit_published h⟩
      · split at h
        · cases h
        · obtain ⟨attempt, endpoint, hattempt, rfl⟩ := bootUnderLocks_published h
          exact ⟨attempt, endpoint, rootfsProfile, hinputs, .inr hattempt, rfl⟩

end Published

/-- Every admission call of a boot is the publication of its own snapshot. -/
theorem calls_eq_publish {outcome : BootOutcome} {runId : String} {c : AdmissionService.Call}
    (hc : c ∈ outcome.calls runId) :
    ∃ snapshot, outcome.published = some snapshot ∧
      c = .publishSnapshot (localTarget runId) snapshot := by
  obtain ⟨snapshot, hs, rfl⟩ := List.mem_map.mp hc
  exact ⟨snapshot, Option.mem_toList.mp hs, rfl⟩

end Kdive

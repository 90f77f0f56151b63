import Kdive.Artifacts.Manifest
import Kdive.Lib.Runs
import Kdive.Target.Boot

/-!
# Calls of target.boot

Any number of calls of `target.boot` on one run take turns.  A call first reads the manifest.  A
recorded success that it does not override is its answer, and only the snapshot is published
again.  Otherwise the call takes the lock of the boot and that of the target, plans and executes
a boot, records the attempt together with its result, and publishes the snapshot.

*Steps.*  A phase says where a call stands, and a step is one access to what the calls share:
the manifest, the published snapshots and the lock of the boot.  What files, locks and the
provider come to is given with the step.

*Two moments.*  The first read of the manifest is outside the lock, so the attempt that a call
answers for may be older than the one that is published when it gets there.  The platform facts
of an answer are those of the profile the call resolves, not of the profile the attempt was
booted with.
-/

namespace Kdive.Booting

/-! ## Calls -/

/-- The overrides of a boot: `rootfs.ssh_host`, and whether anything else is overridden. -/
structure BootOverrides where
  sshHost : Option String
  others : Bool

/-- What does not change about a run: its profile, and `request.boot_overrides`. -/
structure BootedRun where
  runId : String
  rootfs : RootfsProfile
  overrides : Option BootOverrides

/-- A call.  `refused` is what the checks of its inputs come to. -/
structure BootCall where
  forceReboot : Bool
  overrides : Option BootOverrides
  refused : Option BootFailure
  permitted : Bool

/-- `has_new_boot_overrides` -/
def BootCall.hasNewBootOverrides (call : BootCall) : Bool :=
  call.overrides.any fun overrides => overrides.others || overrides.sshHost.isSome

def BootCall.request (run : BootedRun) (call : BootCall) : BootRequest :=
  ⟨run.runId, call.forceReboot, call.hasNewBootOverrides⟩

/-- The profile that `_resolve_boot_inputs` resolves.  The overrides of the run are for its first
attempt. -/
def resolveRootfs (run : BootedRun) (call : BootCall) (m : RunManifest) : RootfsProfile :=
  let effective := call.overrides <|> if m.bootAttempts = [] then run.overrides else none
  ⟨effective.bind BootOverrides.sshHost <|> run.rootfs.sshHost⟩

/-- What a call carries behind its checks. -/
structure BootTask where
  request : BootRequest
  existing : Option StepResult
  profile : RootfsProfile

/-- An endpoint as a JSON object. -/
abbrev EndpointDict := Option (List (String × Routing))

/-- How a call ends. -/
inductive BootReply where
  | response (response : BootResponse)
  | raised (error : AdmissionError)

/-- A failure response. -/
def BootReply.failed (category : ErrorCategory) (message : String) : BootReply :=
  .response (.failure { category := category, message := message })

/-- What is left of a call. -/
inductive BootPhase where
  | idle
  /-- `_short_circuit_boot_success`, outside the lock -/
  | answering (m : RunManifest) (result : StepResult) (profile : RootfsProfile)
  | locking (task : BootTask)
  /-- The lock of the boot is held from here on. -/
  | loading (task : BootTask)
  | answeringLocked (m : RunManifest) (result : StepResult) (profile : RootfsProfile)
  | lockingTarget (task : BootTask) (m : RunManifest)
  | recovering (task : BootTask) (m : RunManifest)
  | planning (task : BootTask) (attempt : Nat) (replaceSucceeded : Bool)
  | starting (task : BootTask) (attempt : Nat) (replaceSucceeded : Bool) (endpoint : EndpointDict)
  | executing (task : BootTask) (attempt : Nat) (endpoint : EndpointDict)
  | recording (task : BootTask) (attempt : Nat) (endpoint : EndpointDict)
      (execution : Except BootFailure BootExecution)
  | publishing (task : BootTask) (attempt : Nat) (endpoint : EndpointDict)
      (execution : BootExecution)
  | leaving (reply : BootReply)
  /-- The lock is free again. -/
  | done (reply : BootReply)

/-- What happens next in a call, with what it comes to. -/
inductive BootEvent where
  | start (call : BootCall)
  | lock (fault : Option ManifestFault)
  | load (fault : Option ManifestFault)
  | lockTarget (fault : Option ManifestFault)
  | recover (fault : Option ManifestFault)
  | plan (outcome : Except PlanFailure (Option GdbstubEndpoint)) (fault : Option ManifestFault)
  | markRunning (fault : Option ManifestFault)
  | execute (outcome : Except BootFailure BootExecution)
  | recordAttempt (fault : Option ManifestFault)
  | publish
  | unlock

/-- A step of a call. -/
structure BootMove where
  caller : Nat
  event : BootEvent

/-! ## What the calls share -/

/-- What an attempt was booted with: its `resolved_rootfs_profile`, and the endpoint of its
plan. -/
structure BootFacts where
  profile : RootfsProfile
  endpoint : EndpointDict

/-- The manifest with the facts of its attempts, the published snapshots, and the lock of the
boot.  `executed` counts the boots the provider was asked for, and `published` lists all
snapshots. -/
structure BootWorld where
  manifest : RunManifest
  booted : List BootFacts
  store : SnapshotStore
  lock : Option Nat
  calls : Nat → BootPhase
  executed : Nat
  published : List TargetSnapshot

/-- A run that was never booted. -/
def BootWorld.fresh : BootWorld where
  manifest := .unbooted
  booted := []
  store := fun _ => none
  lock := none
  calls := fun _ => .idle
  executed := 0
  published := []

/-- A call goes on to a phase. -/
def BootWorld.goto (w : BootWorld) (t : Nat) (phase : BootPhase) : BootWorld :=
  { w with calls := Function.update w.calls t phase }

/-- The manifest is replaced. -/
def BootWorld.write (w : BootWorld) (m : RunManifest) : BootWorld := { w with manifest := m }

/-- `record_boot_attempt` -/
def BootWorld.record (w : BootWorld) (attempt : BootAttempt) (bootResult : StepResult)
    (facts : BootFacts) : BootWorld :=
  { w with
    manifest := w.manifest.recordBootAttempt attempt bootResult
    booted := w.booted ++ [facts] }

/-- The snapshot that is published for the target of the run. -/
def BootWorld.current (run : BootedRun) (w : BootWorld) : Option TargetSnapshot :=
  w.store (localTarget run.runId)

/-! ## Phases -/

/-- `target_boot_handler`, up to the lock. -/
def startPhase (run : BootedRun) (call : BootCall) (m : RunManifest) : BootPhase :=
  match call.refused with
  | some failure => .done (.response (.failure failure))
  | none =>
      match m.boot.filter fun existing => decide (ShortCircuits (call.request run) existing) with
      | some existing => .answering m existing (resolveRootfs run call m)
      | none =>
          if call.permitted = false then
            .done (.failed .configurationError
              "target.boot requires acknowledged destructive permissions before booting")
          else .locking ⟨call.request run, m.boot, resolveRootfs run call m⟩

/-- What the manifest under the lock says. -/
def loadedPhase (task : BootTask) (m : RunManifest) : BootPhase :=
  match m.boot.filter fun locked => decide (ShortCircuits task.request locked) with
  | some locked => .answeringLocked m locked task.profile
  | none => .lockingTarget task m

/-- `replace_succeeded or force_reboot` -/
def replaces (task : BootTask) (m : RunManifest) : Bool :=
  decide (m.boot.map StepResult.status = some .succeeded) || task.request.hasNewBootOverrides ||
    task.request.forceReboot

/-- The reply to a manifest or a lock that cannot be used. -/
def faultReply (task : BootTask) (m : RunManifest) (fault : ManifestFault) : BootReply :=
  .response (manifestFailure m task.existing fault).response

/-- The result of a boot that runs. -/
def runningResult (endpoint : EndpointDict) : StepResult :=
  ⟨.running, "target boot running", [("gdbstub_endpoint", endpoint.elim .null .map)]⟩

/-- `_boot_result`: the provider adds the endpoint of the plan to the details. -/
def bootResultDetails (endpoint : EndpointDict) (details : List (String × Routing)) :
    List (String × Routing) :=
  Artifacts.setItem "gdbstub_endpoint" (endpoint.elim .null .map) details

/-- The status of the attempt. -/
def attemptStatus : Except BootFailure BootExecution → StepStatus
  | .error _ => .failed
  | .ok execution => execution.status

/-- The result that is recorded with the attempt. -/
def terminalResult (endpoint : EndpointDict) : Except BootFailure BootExecution → StepResult
  | .error failure => ⟨.failed, failure.message, failure.details⟩
  | .ok execution =>
      ⟨execution.status, execution.summary, bootResultDetails endpoint execution.details⟩

/-- `_finalize_boot_execution` and `_record_boot_attempt_failure`, behind the record. -/
def recordedPhase (task : BootTask) (attempt : Nat) (endpoint : EndpointDict) :
    Except BootFailure BootExecution → BootPhase
  | .error failure => .leaving (.response (.failure failure))
  | .ok execution =>
      if execution.status = .succeeded then .publishing task attempt endpoint execution
      else .leaving (.response (.failure
        { category := execution.errorCategory.getD .infrastructureFailure
          message := execution.summary
          details := execution.details }))

/-! ## Steps -/

/-- `publish_snapshot`, and the phase behind it. -/
def BootWorld.publish (run : BootedRun) (w : BootWorld) (t : Nat) (snapshot : TargetSnapshot)
    (next : BootReply → BootPhase) (response : BootResponse) : BootWorld :=
  match w.store.put (localTarget run.runId) snapshot with
  | .ok store =>
      { w with store := store, published := w.published ++ [snapshot] }.goto t
        (next (.response response))
  | .error e => w.goto t (next (.raised e))

/-- One step.  A call that is elsewhere is left alone. -/
def bootStep (run : BootedRun) (move : BootMove) (w : BootWorld) : BootWorld :=
  let t := move.caller
  match w.calls t, move.event with
  | .idle, .start call => w.goto t (startPhase run call w.manifest)
  | .answering m result profile, .publish =>
      w.publish run t (bootSnapshot m.lastAttempt result.gdbstubEndpoint profile) .done
        (.success result.summary)
  | .locking task, .lock fault =>
      match w.lock, fault with
      | some _, _ => w.goto t (.done (faultReply task w.manifest .bootIsLocked))
      | none, some fault => w.goto t (.done (faultReply task w.manifest fault))
      | none, none => { w with lock := some t }.goto t (.loading task)
  | .loading task, .load fault =>
      match fault with
      | some fault => w.goto t (.leaving (faultReply task w.manifest fault))
      | none => w.goto t (loadedPhase task w.manifest)
  | .answeringLocked m result profile, .publish =>
      w.publish run t (bootSnapshot m.lastAttempt result.gdbstubEndpoint profile) .leaving
        (.success result.summary)
  | .lockingTarget task m, .lockTarget fault =>
      match fault with
      | some fault => w.goto t (.leaving (faultReply task w.manifest fault))
      | none => w.goto t (.recovering task m)
  | .recovering task m, .recover fault =>
      -- only a boot that is recorded as running is written again
      match fault.filter fun _ => decide (m.boot.map StepResult.status = some .running) with
      | some fault => w.goto t (.leaving (faultReply task w.manifest fault))
      | none =>
          (w.write w.manifest.recoverStaleRunning).goto t
            (.planning task (m.bootAttempts.length + 1) (replaces task m))
  | .planning task attempt replaceSucceeded, .plan outcome fault =>
      match outcome, fault with
      | .ok endpoint, _ =>
          w.goto t (.starting task attempt replaceSucceeded (endpoint.map GdbstubEndpoint.asDict))
      | .error (.configuration message), _ =>
          w.goto t (.leaving (.failed .configurationError message))
      | .error (.recorded _), some fault => w.goto t (.leaving (faultReply task w.manifest fault))
      | .error (.recorded failure), none =>
          (w.write (w.manifest.withStepResult ⟨.failed, failure.message, failure.details⟩
            replaceSucceeded)).goto t (.leaving (.response (.failure failure)))
  | .starting task attempt replaceSucceeded endpoint, .markRunning fault =>
      match fault with
      | some fault => w.goto t (.leaving (faultReply task w.manifest fault))
      | none =>
          (w.write (w.manifest.withStepResult (runningResult endpoint) replaceSucceeded)).goto t
            (.executing task attempt endpoint)
  | .executing task attempt endpoint, .execute outcome =>
      { w with executed := w.executed + 1 }.goto t (.recording task attempt endpoint outcome)
  | .recording task attempt endpoint execution, .recordAttempt fault =>
      match fault with
      | some fault => w.goto t (.leaving (faultReply task w.manifest fault))
      | none =>
          (w.record ⟨attempt, attemptStatus execution⟩ (terminalResult endpoint execution)
            ⟨task.profile, endpoint⟩).goto t (recordedPhase task attempt endpoint execution)
  | .publishing task attempt endpoint execution, .publish =>
      w.publish run t (bootSnapshot attempt endpoint task.profile) .leaving
        (.success execution.summary)
  | .leaving reply, .unlock => { w with lock := none }.goto t (.done reply)
  | _, _ => w


/-! ## What a run keeps -/

/-- The number of the last attempt that succeeded. -/
def lastSucceeded (attempts : List BootAttempt) : Option Nat :=
  ((attempts.filter fun attempt => attempt.status = .succeeded).getLast?).map BootAttempt.attempt

/-- The boot is executed, and its attempt is not recorded yet. -/
def BootPhase.Recording : BootPhase → Prop
  | .recording .. => True
  | _ => False

/-- The attempt succeeded and is recorded, and its snapshot is not published yet. -/
def BootPhase.Publishing : BootPhase → Prop
  | .publishing .. => True
  | _ => False

/-- The call ends with an error of the admission service. -/
def BootPhase.Raised : BootPhase → Prop
  | .leaving (.raised _) | .done (.raised _) => True
  | _ => False

/-- The published generation. -/
def BootWorld.generation (run : BootedRun) (w : BootWorld) : Option Int :=
  (w.current run).map TargetSnapshot.generation

/-- Attempts, executed boots and published snapshots fit together. -/
structure Consistent (run : BootedRun) (w : BootWorld) : Prop where
  numbered : w.manifest.bootAttempts.map BootAttempt.attempt =
    List.range' 1 w.manifest.bootAttempts.length
  counted : (∀ t, ¬ (w.calls t).Recording) → w.executed = w.manifest.bootAttempts.length
  pending : ∀ t, (w.calls t).Recording → w.executed = w.manifest.bootAttempts.length + 1
  latest : w.generation run = (lastSucceeded w.manifest.bootAttempts).map Int.ofNat ∨
    (∃ t, (w.calls t).Publishing) ∧
      w.generation run = (lastSucceeded w.manifest.bootAttempts.dropLast).map Int.ofNat
  facts : ∀ left ∈ w.published, ∀ right ∈ w.published, left.generation = right.generation →
    left.transports = right.transports ∧ left.platform = right.platform
  unraised : ∀ t, ¬ (w.calls t).Raised

/-- The call is not about to answer for an older attempt. -/
def BootPhase.NotBefore (attempt : Nat) : BootPhase → Prop
  | .answering m _ _ => attempt ≤ m.lastAttempt
  | _ => True

/-- No answer is outstanding whose call read the manifest before this attempt was recorded. -/
def Settled (w : BootWorld) (attempt : Nat) : Prop := ∀ t, (w.calls t).NotBefore attempt

/-- The profile reaches the target over ssh if that of the last attempt did. -/
def SameReach (w : BootWorld) (m : RunManifest) (profile : RootfsProfile) : Prop :=
  ∀ facts, w.booted[m.lastAttempt - 1]? = some facts →
    profile.sshHost.isSome = facts.profile.sshHost.isSome

/-- An attempt is recorded without a fault.  A snapshot is not published while an answer for an
older attempt is outstanding, and an answer has the profile of its attempt. -/
def Careful (move : BootMove) (w : BootWorld) : Prop :=
  match w.calls move.caller, move.event with
  | .recording .., .recordAttempt fault => fault = none
  | .publishing _ attempt _ _, .publish => Settled w attempt
  | .answering m _ profile, .publish | .answeringLocked m _ profile, .publish =>
      Settled w m.lastAttempt ∧ SameReach w m profile
  | _, _ => True

/-! ## The manifest -/

theorem withStepResult_boot (m : RunManifest) (result : StepResult) (replaceSucceeded : Bool) :
    ∃ boot, m.withStepResult result replaceSucceeded = { m with boot := boot } ∧
      (boot = m.boot ∨ boot = some result) := by
  obtain ⟨boot, attempts⟩ := m
  rw [RunManifest.withStepResult]
  cases boot with
  | none => exact ⟨some result, rfl, .inr rfl⟩
  | some existing =>
      dsimp only
      split
      · exact ⟨some existing, rfl, .inl rfl⟩
      · exact ⟨some result, rfl, .inr rfl⟩

theorem recordBootAttempt_eq (m : RunManifest) (attempt : BootAttempt) (bootResult : StepResult) :
    m.recordBootAttempt attempt bootResult = ⟨some bootResult, m.bootAttempts ++ [attempt]⟩ := by
  rw [RunManifest.recordBootAttempt, RunManifest.withStepResult]
  cases m.boot with
  | none => rfl
  | some existing => exact if_neg fun h => nomatch h.2

theorem recoverStaleRunning_boot (m : RunManifest) :
    ∃ boot, m.recoverStaleRunning = { m with boot := boot } ∧
      (boot = m.boot ∨ ∃ result, boot = some result ∧ result.status = .failed) := by
  obtain ⟨boot, attempts⟩ := m
  rw [RunManifest.recoverStaleRunning]
  cases boot with
  | none => exact ⟨none, rfl, .inl rfl⟩
  | some locked =>
      dsimp only
      split
      · obtain ⟨boot, heq, hold | hnew⟩ := withStepResult_boot ⟨some locked, attempts⟩
          ⟨.failed, locked.summary, locked.details ++ [("stale_running_recovered", .bool true)]⟩ false
        · exact ⟨boot, heq, .inl hold⟩
        · exact ⟨boot, heq, .inr ⟨_, hnew, rfl⟩⟩
      · exact ⟨some locked, rfl, .inl rfl⟩

/-- The endpoint of a result is that of the plan. -/
theorem gdbstubEndpoint_terminalResult (endpoint : EndpointDict) (execution : BootExecution) :
    (terminalResult endpoint (.ok execution)).gdbstubEndpoint = endpoint := by
  rw [StepResult.gdbstubEndpoint, terminalResult, bootResultDetails, Artifacts.lookup_setItem]
  cases endpoint <;> rfl

/-! ## Attempts -/

theorem lastSucceeded_eq_some {attempts : List BootAttempt} {attempt : BootAttempt} {i : Nat}
    (h : attempts[i]? = some attempt) (hstatus : attempt.status = .succeeded)
    (hlast : ∀ j other, attempts[j]? = some other → other.status = .succeeded → j ≤ i) :
    lastSucceeded attempts = some attempt.attempt := by
  obtain ⟨hi, rfl⟩ := List.getElem?_eq_some_iff.mp h
  have hnone : (attempts.drop (i + 1)).filter (fun attempt => attempt.status = .succeeded) = [] := by
    rw [List.filter_eq_nil_iff]
    intro other hother hsucceeded
    obtain ⟨j, hj⟩ := List.mem_iff_getElem?.mp hother
    rw [List.getElem?_drop] at hj
    have := hlast _ other hj (by simpa using hsucceeded)
    omega
  have hsplit : attempts = attempts.take i ++ attempts[i] :: attempts.drop (i + 1) := by
    rw [List.getElem_cons_drop, List.take_append_drop]
  have hfilter : attempts.filter (fun attempt => attempt.status = .succeeded) =
      (attempts.take i).filter (fun attempt => attempt.status = .succeeded) ++ [attempts[i]] := by
    conv_lhs => rw [hsplit]
    rw [List.filter_append, List.filter_cons_of_pos (by simpa using hstatus), hnone]
  rw [lastSucceeded, hfilter, List.getLast?_concat]
  rfl

theorem lastSucceeded_eq_none {attempts : List BootAttempt}
    (h : ∀ attempt ∈ attempts, attempt.status ≠ .succeeded) : lastSucceeded attempts = none := by
  have hnil : attempts.filter (fun attempt => attempt.status = .succeeded) = [] := by
    rw [List.filter_eq_nil_iff]
    intro attempt hattempt
    simpa using h attempt hattempt
  rw [lastSucceeded, hnil]
  rfl

/-! ## The invariant -/

/-- The lock is held. -/
def BootPhase.Holds : BootPhase → Prop
  | .idle | .answering .. | .locking .. | .done .. => False
  | _ => True

/-- The executed boots that are not recorded. -/
def BootPhase.debt : BootPhase → Nat
  | .recording .. => 1
  | _ => 0

/-- A result is that of a recorded attempt, the last one of a manifest. -/
def Answers (w : BootWorld) (m : RunManifest) (result : StepResult) : Prop :=
  ∃ i facts, m.lastAttempt = i + 1 ∧ w.manifest.bootAttempts[i]? = some ⟨i + 1, .succeeded⟩ ∧
    w.booted[i]? = some facts ∧ result.gdbstubEndpoint = facts.endpoint

/-- A snapshot is that of a recorded attempt. -/
def Describes (w : BootWorld) (snapshot : TargetSnapshot) : Prop :=
  ∃ i facts, w.manifest.bootAttempts[i]? = some ⟨i + 1, .succeeded⟩ ∧ w.booted[i]? = some facts ∧
    snapshot = bootSnapshot (i + 1) facts.endpoint facts.profile

/-- No later generation is published. -/
def NotPassed (run : BootedRun) (w : BootWorld) (attempt : Nat) : Prop :=
  ∀ snapshot, w.current run = some snapshot → snapshot.generation ≤ attempt

/-- What a call knows in its phase. -/
def Knows (run : BootedRun) (w : BootWorld) : BootPhase → Prop
  | .answering m result _ => Answers w m result ∧ NotPassed run w m.lastAttempt
  | .answeringLocked m result _ =>
      Answers w m result ∧ m.lastAttempt = w.manifest.bootAttempts.length
  | .lockingTarget _ m | .recovering _ m => m.bootAttempts = w.manifest.bootAttempts
  | .planning _ attempt _ | .starting _ attempt _ _ | .executing _ attempt _
  | .recording _ attempt _ _ => attempt = w.manifest.bootAttempts.length + 1
  | .publishing task attempt endpoint _ =>
      attempt = w.manifest.bootAttempts.length ∧
        w.manifest.bootAttempts[attempt - 1]? = some ⟨attempt, .succeeded⟩ ∧
        w.booted[attempt - 1]? = some ⟨task.profile, endpoint⟩
  | .leaving (.raised _) | .done (.raised _) => False
  | _ => True

/-- What holds of a call in its phase. -/
structure PhaseOk (run : BootedRun) (w : BootWorld) (t : Nat) (phase : BootPhase) : Prop where
  holds : phase.Holds →
    w.lock = some t ∧ w.executed = w.manifest.bootAttempts.length + phase.debt
  knows : Knows run w phase

/-- What every step keeps. -/
structure Inv (run : BootedRun) (w : BootWorld) : Prop where
  numbered : ∀ i attempt, w.manifest.bootAttempts[i]? = some attempt → attempt.attempt = i + 1
  sizes : w.booted.length = w.manifest.bootAttempts.length
  counted : (∀ t, ¬ (w.calls t).Recording) → w.executed = w.manifest.bootAttempts.length
  result : ∀ result, w.manifest.boot = some result → result.status = .succeeded →
    Answers w w.manifest result ∧ w.manifest.lastAttempt = w.manifest.bootAttempts.length
  phases : ∀ t, PhaseOk run w t (w.calls t)
  published : ∀ snapshot ∈ w.published, Describes w snapshot
  current : ∀ snapshot, w.current run = some snapshot → snapshot ∈ w.published
  newest : ∀ i, w.manifest.bootAttempts[i]? = some ⟨i + 1, .succeeded⟩ →
    ((∃ t, (w.calls t).Publishing) ∧ i + 1 = w.manifest.bootAttempts.length) ∨
      ∃ snapshot, w.current run = some snapshot ∧ (i + 1 : Int) ≤ snapshot.generation

theorem inv_fresh (run : BootedRun) : Inv run .fresh where
  numbered := fun _ _ h => nomatch h
  sizes := rfl
  counted := fun _ => rfl
  result := fun _ h => nomatch h
  phases := fun _ => ⟨fun h => h.elim, trivial⟩
  published := fun _ h => nomatch h
  current := fun _ h => nomatch h
  newest := fun _ h => nomatch h

section Steps

variable {run : BootedRun} {w : BootWorld} {t : Nat} {phase : BootPhase}

@[simp] theorem goto_calls_self : (w.goto t phase).calls t = phase := Function.update_self ..

theorem goto_calls_of_ne {t' : Nat} (h : t' ≠ t) : (w.goto t phase).calls t' = w.calls t' :=
  Function.update_of_ne h ..

/-- What a call knows does not depend on where the others stand. -/
theorem PhaseOk.goto {t' : Nat} {phase' : BootPhase} (h : PhaseOk run w t' phase') :
    PhaseOk run (w.goto t phase) t' phase' := ⟨h.holds, by cases phase' <;> exact h.knows⟩

/-- Something is left to do for the attempt of the call. -/
def BootPhase.Pending (phase : BootPhase) : Prop := phase.Recording ∨ phase.Publishing

/-- Who is about to publish still is. -/
theorem publishing_goto (hnot : ¬ (w.calls t).Pending) (h : ∃ t', (w.calls t').Publishing) :
    ∃ t', ((w.goto t phase).calls t').Publishing := by
  obtain ⟨t', ht'⟩ := h
  have hne : t' ≠ t := by
    rintro rfl
    exact hnot (.inr ht')
  exact ⟨t', by rwa [goto_calls_of_ne hne]⟩

theorem recording_goto (hnot : ¬ (w.calls t).Recording)
    (h : ∀ t', ¬ ((w.goto t phase).calls t').Recording) (t' : Nat) : ¬ (w.calls t').Recording := by
  rcases eq_or_ne t' t with rfl | hne
  · exact hnot
  · rw [← goto_calls_of_ne hne]
    exact h t'

/-- A call that was not about to publish goes on. -/
theorem Inv.goto (h : Inv run w) (hnot : ¬ (w.calls t).Pending) (hok : PhaseOk run w t phase) :
    Inv run (w.goto t phase) where
  numbered := h.numbered
  sizes := h.sizes
  counted := fun hnone => h.counted (recording_goto (fun hr => hnot (.inl hr)) hnone)
  result := h.result
  phases := by
    intro t'
    rcases eq_or_ne t' t with rfl | hne
    · rw [goto_calls_self]
      exact hok.goto
    · rw [goto_calls_of_ne hne]
      exact (h.phases t').goto
  published := h.published
  current := h.current
  newest := by
    intro i hi
    exact (h.newest i hi).imp_left fun ⟨hpending, hlast⟩ => ⟨publishing_goto hnot hpending, hlast⟩

/-- Another result of the boot is written, which did not succeed if it is new. -/
theorem Inv.write (h : Inv run w) {boot : Option StepResult}
    (hboot : ∀ result, boot = some result → result.status = .succeeded →
      w.manifest.boot = some result) :
    Inv run (w.write { w.manifest with boot := boot }) where
  numbered := h.numbered
  sizes := h.sizes
  counted := h.counted
  result := fun result hresult hstatus => h.result result (hboot result hresult hstatus) hstatus
  phases := fun t => ⟨(h.phases t).holds, by
    have hknows := (h.phases t).knows
    show Knows _ _ (w.calls t)
    cases hphase : w.calls t <;> rw [hphase] at hknows <;> exact hknows⟩
  published := h.published
  current := h.current
  newest := h.newest

theorem holds_of_recording {phase : BootPhase} (h : phase.Recording) : phase.Holds := by
  cases phase <;> first | exact trivial | exact h.elim

theorem holds_of_publishing {phase : BootPhase} (h : phase.Publishing) : phase.Holds := by
  cases phase <;> first | exact trivial | exact h.elim

/-- While a call holds the lock, the others do not. -/
theorem Inv.not_holds (h : Inv run w) (hlock : w.lock = some t) {t' : Nat} (hne : t' ≠ t) :
    ¬ (w.calls t').Holds := fun hholds =>
  hne (Option.some.inj (((h.phases t').holds hholds).1.symm.trans hlock))

/-- A call outside the lock knows what it knew when attempts were added. -/
theorem PhaseOk.of_not_holds {w' : BootWorld} {t' : Nat} {phase' : BootPhase}
    (h : PhaseOk run w t' phase') (hnot : ¬ phase'.Holds)
    (hanswers : ∀ m result, Answers w m result → Answers w' m result)
    (hstore : w'.current run = w.current run) : PhaseOk run w' t' phase' := by
  refine ⟨fun hholds => absurd hholds hnot, ?_⟩
  have hknows := h.knows
  cases phase' with
  | idle | locking => trivial
  | done reply => cases reply <;> exact hknows
  | answering m result profile =>
      refine ⟨hanswers m result hknows.1, ?_⟩
      rw [NotPassed, hstore]
      exact hknows.2
  | _ => exact absurd trivial hnot

/-- The lock is taken. -/
theorem Inv.lock (h : Inv run w) (hlock : w.lock = none) {task : BootTask}
    (hnot : ¬ (w.calls t).Pending) :
    Inv run ({ w with lock := some t }.goto t (.loading task)) := by
  have hfree : ∀ t', ¬ (w.calls t').Holds := fun t' hholds =>
    nomatch hlock.symm.trans ((h.phases t').holds hholds).1
  have hinv : Inv run { w with lock := some t } :=
    { h with
      phases := fun t' => (h.phases t').of_not_holds (hfree t') (fun _ _ hanswers => hanswers) rfl }
  have hcounted := h.counted fun t' hr => hfree t' (holds_of_recording hr)
  exact hinv.goto hnot ⟨fun _ => ⟨rfl, hcounted⟩, trivial⟩

/-- The lock is let go of. -/
theorem Inv.unlock (h : Inv run w) {reply : BootReply} (ht : w.calls t = .leaving reply) :
    Inv run ({ w with lock := none }.goto t (.done reply)) := by
  have hok := h.phases t
  rw [ht] at hok
  obtain ⟨hlock, hexecuted⟩ := hok.holds trivial
  have hnot : ¬ (w.calls t).Pending := by
    rw [ht]
    exact not_or.mpr ⟨id, id⟩
  exact
    { h with
      counted := fun _ => hexecuted
      phases := by
        intro t'
        rcases eq_or_ne t' t with rfl | hne
        · rw [goto_calls_self]
          have hknows := hok.knows
          exact ⟨fun hholds => hholds.elim, by cases reply <;> exact hknows⟩
        · rw [goto_calls_of_ne hne]
          exact (h.phases t').of_not_holds (h.not_holds hlock hne) (fun _ _ hanswers => hanswers) rfl
      newest := fun i hi => (h.newest i hi).imp_left fun ⟨hpending, hlast⟩ =>
        ⟨publishing_goto hnot hpending, hlast⟩ }

/-- A boot is executed. -/
theorem Inv.execute (h : Inv run w) {task : BootTask} {attempt : Nat} {endpoint : EndpointDict}
    (ht : w.calls t = .executing task attempt endpoint)
    (outcome : Except BootFailure BootExecution) :
    Inv run ({ w with executed := w.executed + 1 }.goto t
      (.recording task attempt endpoint outcome)) := by
  have hok := h.phases t
  rw [ht] at hok
  obtain ⟨hlock, hexecuted⟩ := hok.holds trivial
  have hnot : ¬ (w.calls t).Pending := by
    rw [ht]
    exact not_or.mpr ⟨id, id⟩
  exact
    { h with
      counted := fun hnone => absurd (by rw [goto_calls_self]; trivial) (hnone t)
      phases := by
        intro t'
        rcases eq_or_ne t' t with rfl | hne
        · rw [goto_calls_self]
          exact ⟨fun _ => ⟨hlock, congrArg (· + 1) hexecuted⟩, hok.knows⟩
        · rw [goto_calls_of_ne hne]
          exact (h.phases t').of_not_holds (h.not_holds hlock hne) (fun _ _ hanswers => hanswers) rfl
      newest := fun i hi => (h.newest i hi).imp_left fun ⟨hpending, hlast⟩ =>
        ⟨publishing_goto hnot hpending, hlast⟩ }

/-! ### An attempt is recorded -/

variable {attempt : BootAttempt} {bootResult : StepResult} {facts : BootFacts}

theorem record_eq (w : BootWorld) (attempt : BootAttempt) (bootResult : StepResult)
    (facts : BootFacts) :
    w.record attempt bootResult facts =
      { w with
        manifest := ⟨some bootResult, w.manifest.bootAttempts ++ [attempt]⟩
        booted := w.booted ++ [facts] } := by
  rw [BootWorld.record, recordBootAttempt_eq]

/-- What is recorded stays. -/
theorem Answers.record {m : RunManifest} {result : StepResult} (h : Answers w m result) :
    Answers (w.record attempt bootResult facts) m result := by
  obtain ⟨i, old, hlast, hattempt, hold, hresult⟩ := h
  refine ⟨i, old, hlast, ?_, ?_, hresult⟩
  · rw [record_eq]
    exact (List.getElem?_append_left (List.getElem?_eq_some_iff.mp hattempt).1).trans hattempt
  · exact (List.getElem?_append_left (List.getElem?_eq_some_iff.mp hold).1).trans hold

theorem Describes.record {snapshot : TargetSnapshot} (h : Describes w snapshot) :
    Describes (w.record attempt bootResult facts) snapshot := by
  obtain ⟨i, old, hattempt, hold, hsnapshot⟩ := h
  refine ⟨i, old, ?_, ?_, hsnapshot⟩
  · rw [record_eq]
    exact (List.getElem?_append_left (List.getElem?_eq_some_iff.mp hattempt).1).trans hattempt
  · exact (List.getElem?_append_left (List.getElem?_eq_some_iff.mp hold).1).trans hold

theorem getElem?_concat_cases {α : Type} {items : List α} {last item : α} {i : Nat}
    (h : (items ++ [last])[i]? = some item) :
    items[i]? = some item ∨ i = items.length ∧ item = last := by
  rcases lt_or_ge i items.length with hlt | hge
  · exact .inl ((List.getElem?_append_left hlt).symm.trans h)
  · obtain ⟨hi, hitem⟩ := List.getElem?_eq_some_iff.mp h
    have heq : i = items.length := by
      rw [List.length_append, List.length_singleton] at hi
      omega
    subst heq
    rw [List.getElem?_concat_length] at h
    exact .inr ⟨rfl, (Option.some.inj h).symm⟩

/-- What succeeded goes on to publish. -/
theorem recordedPhase_publishing (task : BootTask) (number : Nat) (endpoint : EndpointDict)
    {execution : Except BootFailure BootExecution}
    (hstatus : attemptStatus execution = .succeeded) :
    ∃ executed, execution = .ok executed ∧
      recordedPhase task number endpoint execution = .publishing task number endpoint executed := by
  cases execution with
  | error failure => cases hstatus
  | ok executed => exact ⟨executed, rfl, if_pos hstatus⟩

theorem recordedPhase_leaving (task : BootTask) (number : Nat) (endpoint : EndpointDict)
    {execution : Except BootFailure BootExecution}
    (hstatus : attemptStatus execution ≠ .succeeded) :
    ∃ response, recordedPhase task number endpoint execution = .leaving (.response response) := by
  cases execution with
  | error failure => exact ⟨_, rfl⟩
  | ok executed => exact ⟨_, if_neg hstatus⟩

/-- The attempt of an executed boot is recorded. -/
theorem Inv.record (h : Inv run w) {task : BootTask} {number : Nat} {endpoint : EndpointDict}
    {execution : Except BootFailure BootExecution}
    (ht : w.calls t = .recording task number endpoint execution) :
    Inv run ((w.record ⟨number, attemptStatus execution⟩ (terminalResult endpoint execution)
      ⟨task.profile, endpoint⟩).goto t (recordedPhase task number endpoint execution)) := by
  have hok := h.phases t
  rw [ht] at hok
  obtain ⟨hlock, hexecuted⟩ := hok.holds trivial
  have hnumber : number = w.manifest.bootAttempts.length + 1 := hok.knows
  have hattempt : attemptStatus execution = .succeeded →
      (w.manifest.bootAttempts ++ [⟨number, attemptStatus execution⟩] :
        List BootAttempt)[w.manifest.bootAttempts.length]? =
        some ⟨w.manifest.bootAttempts.length + 1, .succeeded⟩ := by
    intro hstatus
    rw [List.getElem?_concat_length, hnumber, hstatus]
  have hbooted : (w.booted ++ [⟨task.profile, endpoint⟩])[w.manifest.bootAttempts.length]? =
      some ⟨task.profile, endpoint⟩ := by
    rw [← h.sizes, List.getElem?_concat_length]
  have hlength : (w.manifest.bootAttempts ++ [⟨number, attemptStatus execution⟩] :
      List BootAttempt).length = w.manifest.bootAttempts.length + 1 := List.length_append ..
  have hrecord := record_eq w ⟨number, attemptStatus execution⟩ (terminalResult endpoint execution)
    ⟨task.profile, endpoint⟩
  constructor
  case numbered =>
    rw [hrecord]
    intro i attempt hi
    rcases getElem?_concat_cases hi with hold | ⟨rfl, rfl⟩
    · exact h.numbered i attempt hold
    · exact hnumber
  case sizes =>
    rw [hrecord]
    exact (List.length_append ..).trans ((congrArg (· + 1) h.sizes).trans hlength.symm)
  case counted =>
    rw [hrecord]
    exact fun _ => hexecuted.trans hlength.symm
  case result =>
    rw [hrecord]
    intro result hresult hstatus
    obtain rfl := Option.some.inj hresult
    have hlast : RunManifest.lastAttempt
        ⟨some (terminalResult endpoint execution),
          w.manifest.bootAttempts ++ [⟨number, attemptStatus execution⟩]⟩ =
        w.manifest.bootAttempts.length + 1 := by
      rw [RunManifest.lastAttempt, List.getLast?_concat]
      exact hnumber
    cases execution with
    | error failure => cases hstatus
    | ok executed =>
        exact ⟨⟨_, _, hlast, hattempt hstatus, hbooted, gdbstubEndpoint_terminalResult endpoint executed⟩,
          hlast.trans hlength.symm⟩
  case phases =>
    intro t'
    rcases eq_or_ne t' t with rfl | hne
    · rw [goto_calls_self, hrecord]
      by_cases hstatus : attemptStatus execution = .succeeded
      · obtain ⟨executed, -, hphase⟩ := recordedPhase_publishing task number endpoint hstatus
        rw [hphase]
        refine ⟨fun _ => ⟨hlock, hexecuted.trans hlength.symm⟩, hnumber.trans hlength.symm, ?_, ?_⟩
        · subst hnumber
          exact hattempt hstatus
        · subst hnumber
          exact hbooted
      · obtain ⟨response, hphase⟩ := recordedPhase_leaving task number endpoint hstatus
        rw [hphase]
        exact ⟨fun _ => ⟨hlock, hexecuted.trans hlength.symm⟩, trivial⟩
    · rw [goto_calls_of_ne hne]
      exact ((h.phases t').of_not_holds (h.not_holds hlock hne) (fun _ _ => Answers.record)
        rfl).goto
  case published => exact fun snapshot hsnapshot => (h.published snapshot hsnapshot).record
  case current => exact h.current
  case newest =>
    rw [hrecord]
    intro i hi
    rcases getElem?_concat_cases hi with hold | ⟨rfl, hnew⟩
    · rcases h.newest i hold with ⟨⟨t', ht'⟩, -⟩ | hcurrent
      · -- nobody else holds the lock
        rcases eq_or_ne t' t with rfl | hne
        · rw [ht] at ht'
          exact ht'.elim
        · exact absurd (holds_of_publishing ht') (h.not_holds hlock hne)
      · exact .inr hcurrent
    · have hstatus : attemptStatus execution = .succeeded := (congrArg BootAttempt.status hnew).symm
      obtain ⟨executed, -, hphase⟩ := recordedPhase_publishing task number endpoint hstatus
      refine .inl ⟨⟨t, ?_⟩, hlength.symm⟩
      rw [goto_calls_self, hphase]
      trivial

/-! ### A snapshot is published -/

theorem put_eq_ok {store : SnapshotStore} {k : TargetKey} {snapshot : TargetSnapshot}
    (h : ∀ current, store k = some current → current.generation ≤ snapshot.generation) :
    store.put k snapshot = .ok (Function.update store k (some snapshot)) := by
  rw [SnapshotStore.put]
  cases hcurrent : store k with
  | none => rfl
  | some current =>
      dsimp only
      rw [Checked.refuse_of_not (not_lt.mpr (h current hcurrent))]
      rfl

/-- The snapshot of a recorded attempt is published, and no answer for an older one is
outstanding. -/
theorem Inv.publish (h : Inv run w) {snapshot : TargetSnapshot} {number : Nat}
    {next : BootReply → BootPhase} {response : BootResponse} (hdescribes : Describes w snapshot)
    (hnumber : snapshot.generation = number) (hnot : ¬ (w.calls t).Recording)
    (hpassed : NotPassed run w number)
    (hsettled : Settled w number)
    (hlast : (w.calls t).Publishing → number = w.manifest.bootAttempts.length)
    (hnext : PhaseOk run w t (next (.response response)))
    (hends : ∀ w', Knows run w' (next (.response response))) :
    Inv run (w.publish run t snapshot next response) := by
  have hput : w.store.put (localTarget run.runId) snapshot =
      .ok (Function.update w.store (localTarget run.runId) (some snapshot)) :=
    put_eq_ok fun current hcurrent => hnumber.symm ▸ hpassed current hcurrent
  have hcurrent : ∀ w' : BootWorld,
      w'.store = Function.update w.store (localTarget run.runId) (some snapshot) →
      w'.current run = some snapshot := by
    intro w' hstore
    rw [BootWorld.current, hstore, Function.update_self]
  rw [BootWorld.publish, hput]
  exact
    { numbered := h.numbered
      sizes := h.sizes
      counted := fun hnone => h.counted (recording_goto hnot hnone)
      result := h.result
      phases := by
        intro t'
        rcases eq_or_ne t' t with rfl | hne
        · rw [goto_calls_self]
          exact ⟨hnext.holds, hends _⟩
        · rw [goto_calls_of_ne hne]
          refine ⟨(h.phases t').holds, ?_⟩
          have hknows := (h.phases t').knows
          show Knows _ _ (w.calls t')
          cases hphase : w.calls t' with
          | answering m result profile =>
              rw [hphase] at hknows
              refine ⟨hknows.1, fun current heq => ?_⟩
              obtain rfl := Option.some.inj ((hcurrent _ rfl).symm.trans heq)
              rw [hnumber]
              have hle := hsettled t'
              rw [hphase] at hle
              exact Int.ofNat_le.mpr hle
          | leaving reply | done reply =>
              rw [hphase] at hknows
              cases reply <;> exact hknows
          | _ =>
              rw [hphase] at hknows
              exact hknows
      published := by
        intro other hother
        rcases List.mem_append.mp hother with hold | hnew
        · exact h.published other hold
        · rw [List.mem_singleton.mp hnew]
          exact hdescribes
      current := by
        intro other hother
        obtain rfl := Option.some.inj ((hcurrent _ rfl).symm.trans hother)
        exact List.mem_append_right _ (List.mem_singleton_self _)
      newest := by
        intro i hi
        rcases h.newest i hi with ⟨⟨t', ht'⟩, hend⟩ | ⟨old, hold, hle⟩
        · rcases eq_or_ne t' t with rfl | hne
          · refine .inr ⟨snapshot, hcurrent _ rfl, ?_⟩
            rw [hnumber, hlast ht', ← hend]
            exact le_rfl
          · exact .inl ⟨⟨t', by rwa [goto_calls_of_ne hne]⟩, hend⟩
        · refine .inr ⟨snapshot, hcurrent _ rfl, hle.trans ?_⟩
          rw [hnumber]
          exact hpassed old hold }

/-- An answer publishes the snapshot of its attempt. -/
theorem Answers.describes {m : RunManifest} {result : StepResult} {profile : RootfsProfile}
    (h : Answers w m result) (hreach : SameReach w m profile) :
    Describes w (bootSnapshot m.lastAttempt result.gdbstubEndpoint profile) := by
  obtain ⟨i, facts, hlast, hattempt, hfacts, hendpoint⟩ := h
  refine ⟨i, facts, hattempt, hfacts, ?_⟩
  have hsame := hreach facts (by rwa [hlast])
  rw [hlast, hendpoint, bootSnapshot, bootSnapshot, hsame]

/-- Every published generation is the number of an attempt. -/
theorem Inv.notPassed (h : Inv run w) : NotPassed run w w.manifest.bootAttempts.length := by
  intro snapshot hsnapshot
  obtain ⟨i, facts, hattempt, -, rfl⟩ := h.published snapshot (h.current snapshot hsnapshot)
  have hlt := (List.getElem?_eq_some_iff.mp hattempt).1
  show ((i + 1 : Nat) : Int) ≤ _
  omega

/-! ### One step -/

theorem startPhase_ok (h : Inv run w) (call : BootCall) :
    PhaseOk run w t (startPhase run call w.manifest) := by
  rw [startPhase]
  cases call.refused with
  | some failure => exact ⟨fun hholds => hholds.elim, trivial⟩
  | none =>
      dsimp only
      cases hexisting : w.manifest.boot.filter fun existing =>
          decide (ShortCircuits (call.request run) existing) with
      | some existing =>
          obtain ⟨hboot, hshort⟩ := Option.filter_eq_some_iff.mp hexisting
          obtain ⟨hanswers, hlast⟩ := h.result existing hboot (of_decide_eq_true hshort).1
          exact ⟨fun hholds => hholds.elim, hanswers, hlast.symm ▸ h.notPassed⟩
      | none =>
          dsimp only
          split <;> exact ⟨fun hholds => hholds.elim, trivial⟩

theorem loadedPhase_ok (h : Inv run w) (task : BootTask)
    (hlock : w.lock = some t ∧ w.executed = w.manifest.bootAttempts.length) :
    PhaseOk run w t (loadedPhase task w.manifest) := by
  rw [loadedPhase]
  cases hexisting : w.manifest.boot.filter fun locked =>
      decide (ShortCircuits task.request locked) with
  | some existing =>
      obtain ⟨hboot, hshort⟩ := Option.filter_eq_some_iff.mp hexisting
      exact ⟨fun _ => hlock, h.result existing hboot (of_decide_eq_true hshort).1⟩
  | none => exact ⟨fun _ => hlock, rfl⟩

/-- A result that did not succeed is written by the holder of the lock, who goes on. -/
theorem Inv.withStepResult (h : Inv run w) {result : StepResult} (hfailed : result.status ≠ .succeeded)
    (replaceSucceeded : Bool) (hnot : ¬ (w.calls t).Pending)
    (hlock : w.lock = some t ∧ w.executed = w.manifest.bootAttempts.length + phase.debt)
    (hknows : ∀ boot, Knows run (w.write { w.manifest with boot := boot }) phase) :
    Inv run ((w.write (w.manifest.withStepResult result replaceSucceeded)).goto t phase) := by
  obtain ⟨boot, heq, hboot⟩ := withStepResult_boot w.manifest result replaceSucceeded
  rw [heq]
  refine (h.write fun other hother hstatus => ?_).goto hnot ⟨fun _ => hlock, hknows boot⟩
  rcases hboot with rfl | rfl
  · exact hother
  · exact absurd (Option.some.inj hother ▸ hstatus) hfailed

/-- A careful step keeps the invariant. -/
theorem Inv.step (h : Inv run w) {move : BootMove} (hc : Careful move w) :
    Inv run (bootStep run move w) := by
  have hok := h.phases move.caller
  rw [bootStep]
  split
  case h_1 call hcall hevent =>
    exact h.goto (by rw [hcall]; exact not_or.mpr ⟨id, id⟩) (startPhase_ok h call)
  case h_2 m result profile hcall hevent =>
    rw [Careful, hcall, hevent] at hc
    rw [hcall] at hok
    exact h.publish (hok.knows.1.describes hc.2) rfl (by rw [hcall]; exact id) hok.knows.2 hc.1
      (fun hp => by rw [hcall] at hp; exact hp.elim) ⟨fun hholds => hholds.elim, trivial⟩
      fun _ => trivial
  case h_3 task fault hcall hevent =>
    have hnot : ¬ (w.calls move.caller).Pending := by
      rw [hcall]
      exact not_or.mpr ⟨id, id⟩
    split
    · exact h.goto hnot ⟨fun hholds => hholds.elim, trivial⟩
    · exact h.goto hnot ⟨fun hholds => hholds.elim, trivial⟩
    · next hlock => exact h.lock hlock hnot
  case h_4 task fault hcall hevent =>
    have hnot : ¬ (w.calls move.caller).Pending := by
      rw [hcall]
      exact not_or.mpr ⟨id, id⟩
    rw [hcall] at hok
    split
    · exact h.goto hnot ⟨fun _ => hok.holds trivial, trivial⟩
    · exact h.goto hnot (loadedPhase_ok h task (hok.holds trivial))
  case h_5 m result profile hcall hevent =>
    rw [Careful, hcall, hevent] at hc
    rw [hcall] at hok
    exact h.publish (hok.knows.1.describes hc.2) rfl (by rw [hcall]; exact id)
      (hok.knows.2.symm ▸ h.notPassed) hc.1
      (fun hp => by rw [hcall] at hp; exact hp.elim) ⟨fun _ => hok.holds trivial, trivial⟩
      fun _ => trivial
  case h_6 task m fault hcall hevent =>
    have hnot : ¬ (w.calls move.caller).Pending := by
      rw [hcall]
      exact not_or.mpr ⟨id, id⟩
    rw [hcall] at hok
    split
    · exact h.goto hnot ⟨fun _ => hok.holds trivial, trivial⟩
    · exact h.goto hnot ⟨fun _ => hok.holds trivial, hok.knows⟩
  case h_7 task m fault hcall hevent =>
    have hnot : ¬ (w.calls move.caller).Pending := by
      rw [hcall]
      exact not_or.mpr ⟨id, id⟩
    rw [hcall] at hok
    split
    · exact h.goto hnot ⟨fun _ => hok.holds trivial, trivial⟩
    · obtain ⟨boot, heq, hboot⟩ := recoverStaleRunning_boot w.manifest
      have hattempt : m.bootAttempts.length + 1 = w.manifest.bootAttempts.length + 1 :=
        congrArg (List.length · + 1) hok.knows
      rw [heq]
      refine (h.write fun other hother hstatus => ?_).goto hnot
        ⟨fun _ => hok.holds trivial, hattempt⟩
      rcases hboot with rfl | ⟨result, rfl, hfailed⟩
      · exact hother
      · rw [← Option.some.inj hother, hfailed] at hstatus
        cases hstatus
  case h_8 task attempt replaceSucceeded outcome fault hcall hevent =>
    have hnot : ¬ (w.calls move.caller).Pending := by
      rw [hcall]
      exact not_or.mpr ⟨id, id⟩
    rw [hcall] at hok
    split
    · exact h.goto hnot ⟨fun _ => hok.holds trivial, hok.knows⟩
    · exact h.goto hnot ⟨fun _ => hok.holds trivial, trivial⟩
    · exact h.goto hnot ⟨fun _ => hok.holds trivial, trivial⟩
    · exact h.withStepResult (by simp) replaceSucceeded hnot (hok.holds trivial) fun _ => trivial
  case h_9 task attempt replaceSucceeded endpoint fault hcall hevent =>
    have hnot : ¬ (w.calls move.caller).Pending := by
      rw [hcall]
      exact not_or.mpr ⟨id, id⟩
    rw [hcall] at hok
    split
    · exact h.goto hnot ⟨fun _ => hok.holds trivial, trivial⟩
    · exact h.withStepResult (by simp [runningResult]) replaceSucceeded hnot (hok.holds trivial)
        fun _ => hok.knows
  case h_10 task attempt endpoint outcome hcall hevent => exact h.execute hcall outcome
  case h_11 task attempt endpoint execution fault hcall hevent =>
    rw [Careful, hcall, hevent] at hc
    obtain rfl := hc
    exact h.record hcall
  case h_12 task attempt endpoint execution hcall hevent =>
    rw [Careful, hcall, hevent] at hc
    rw [hcall] at hok
    obtain ⟨hattempt, hrecorded, hfacts⟩ := hok.knows
    have hpos : attempt - 1 + 1 = attempt := by
      have hlt := (List.getElem?_eq_some_iff.mp hrecorded).1
      omega
    have hdescribes : Describes w (bootSnapshot attempt endpoint task.profile) :=
      ⟨attempt - 1, _, by rwa [hpos], hfacts, by rw [hpos]⟩
    exact h.publish hdescribes rfl (by rw [hcall]; exact id) (hattempt.symm ▸ h.notPassed) hc
      (fun _ => hattempt) ⟨fun _ => hok.holds trivial, trivial⟩ fun _ => trivial
  case h_13 reply hcall hevent => exact h.unlock hcall
  case h_14 => exact h

end Steps

/-! ## Runs -/

section Promises

variable {run : BootedRun} {w : BootWorld}

theorem Inv.attempt_eq (h : Inv run w) {i : Nat} {attempt : BootAttempt}
    (hattempt : w.manifest.bootAttempts[i]? = some attempt) (hstatus : attempt.status = .succeeded) :
    attempt = ⟨i + 1, .succeeded⟩ := by
  obtain ⟨number, status⟩ := attempt
  obtain rfl : number = i + 1 := h.numbered i _ hattempt
  obtain rfl : status = .succeeded := hstatus
  rfl

/-- The published generation is that of the last attempt that succeeded, or of the one before
it if its snapshot is about to be published. -/
theorem Inv.latest (h : Inv run w) :
    w.generation run = (lastSucceeded w.manifest.bootAttempts).map Int.ofNat ∨
      (∃ t, (w.calls t).Publishing) ∧
        w.generation run = (lastSucceeded w.manifest.bootAttempts.dropLast).map Int.ofNat := by
  have hbefore : ∀ i attempt, w.manifest.bootAttempts.dropLast[i]? = some attempt →
      w.manifest.bootAttempts[i]? = some attempt ∧ i + 1 < w.manifest.bootAttempts.length := by
    intro i attempt hi
    have hlt := (List.getElem?_eq_some_iff.mp hi).1
    rw [List.length_dropLast] at hlt
    rw [List.getElem?_dropLast, if_pos (by omega)] at hi
    exact ⟨hi, by omega⟩
  cases hcurrent : w.current run with
  | none =>
      have hgeneration : w.generation run = none := by rw [BootWorld.generation, hcurrent]; rfl
      have honly : ∀ i attempt, w.manifest.bootAttempts[i]? = some attempt →
          attempt.status = .succeeded →
            (∃ t, (w.calls t).Publishing) ∧ i + 1 = w.manifest.bootAttempts.length := by
        intro i attempt hi hstatus
        refine (h.newest i (h.attempt_eq hi hstatus ▸ hi)).resolve_right ?_
        rintro ⟨snapshot, hsnapshot, -⟩
        rw [hcurrent] at hsnapshot
        cases hsnapshot
      by_cases hpending : ∃ t, (w.calls t).Publishing
      · refine .inr ⟨hpending, ?_⟩
        rw [hgeneration, lastSucceeded_eq_none fun attempt hattempt hstatus => ?_]
        · rfl
        · obtain ⟨i, hi⟩ := List.mem_iff_getElem?.mp hattempt
          obtain ⟨hi, hlt⟩ := hbefore i attempt hi
          have hend := (honly i attempt hi hstatus).2
          omega
      · refine .inl ?_
        rw [hgeneration, lastSucceeded_eq_none fun attempt hattempt hstatus => ?_]
        · rfl
        · obtain ⟨i, hi⟩ := List.mem_iff_getElem?.mp hattempt
          exact hpending (honly i attempt hi hstatus).1
  | some snapshot =>
      obtain ⟨j, facts, hj, -, rfl⟩ := h.published snapshot (h.current snapshot hcurrent)
      have hgeneration : w.generation run = some (Int.ofNat (j + 1)) := by
        rw [BootWorld.generation, hcurrent]
        rfl
      have hle : ∀ i attempt, w.manifest.bootAttempts[i]? = some attempt →
          attempt.status = .succeeded →
            ((∃ t, (w.calls t).Publishing) ∧ i + 1 = w.manifest.bootAttempts.length) ∨ i ≤ j := by
        intro i attempt hi hstatus
        refine (h.newest i (h.attempt_eq hi hstatus ▸ hi)).imp_right ?_
        rintro ⟨snapshot, hsnapshot, hgen⟩
        obtain rfl := Option.some.inj (hcurrent.symm.trans hsnapshot)
        replace hgen : (i + 1 : Int) ≤ ((j + 1 : Nat) : Int) := hgen
        omega
      rw [hgeneration]
      by_cases hlast : j + 1 = w.manifest.bootAttempts.length ∨ ¬ ∃ t, (w.calls t).Publishing
      · refine .inl ?_
        rw [lastSucceeded_eq_some hj rfl fun i attempt hi hstatus => ?_]
        · rfl
        · have hlt := (List.getElem?_eq_some_iff.mp hi).1
          rcases hle i attempt hi hstatus with ⟨hpending, hend⟩ | hij
          · rcases hlast with hlast | hlast
            · omega
            · exact absurd hpending hlast
          · exact hij
      · rw [not_or, not_not] at hlast
        obtain ⟨hne, hpending⟩ := hlast
        refine .inr ⟨hpending, ?_⟩
        have hlt := (List.getElem?_eq_some_iff.mp hj).1
        have hj' : w.manifest.bootAttempts.dropLast[j]? = some ⟨j + 1, .succeeded⟩ := by
          rw [List.getElem?_dropLast, if_pos (by omega)]
          exact hj
        rw [lastSucceeded_eq_some hj' rfl fun i attempt hi hstatus => ?_]
        · rfl
        · obtain ⟨hi, hend⟩ := hbefore i attempt hi
          rcases hle i attempt hi hstatus with ⟨-, hend'⟩ | hij
          · omega
          · exact hij

/-- Two snapshots of one attempt are equal. -/
theorem Describes.unique {left right : TargetSnapshot} (hl : Describes w left)
    (hr : Describes w right) (hgeneration : left.generation = right.generation) : left = right := by
  obtain ⟨i, facts, -, hi, rfl⟩ := hl
  obtain ⟨j, facts', -, hj, rfl⟩ := hr
  obtain rfl : i = j := by
    replace hgeneration : ((i + 1 : Nat) : Int) = ((j + 1 : Nat) : Int) := hgeneration
    omega
  obtain rfl := Option.some.inj (hi.symm.trans hj)
  rfl

theorem Inv.consistent (h : Inv run w) : Consistent run w where
  numbered := by
    refine List.ext_getElem (by simp) fun i hi _ => ?_
    rw [List.length_map] at hi
    rw [List.getElem_map, List.getElem_range', h.numbered i _ (List.getElem?_eq_getElem hi)]
    omega
  counted := h.counted
  pending := fun t hr => by
    have hexecuted := ((h.phases t).holds (holds_of_recording hr)).2
    have hdebt : (w.calls t).debt = 1 := by
      revert hr
      cases w.calls t <;> intro hr <;> first | rfl | exact hr.elim
    rw [hexecuted, hdebt]
  latest := h.latest
  facts := fun left hl right hr hgeneration => by
    rw [(h.published left hl).unique (h.published right hr) hgeneration]
    exact ⟨rfl, rfl⟩
  unraised := fun t hraised => by
    have hknows := (h.phases t).knows
    revert hraised hknows
    cases w.calls t with
    | leaving reply | done reply =>
        cases reply <;> intro hraised hknows
        · exact hraised
        · exact hknows
    | _ => exact fun hraised _ => hraised

/-- A publication that succeeds does not lower the generation. -/
theorem put_le {store store' : SnapshotStore} {k : TargetKey} {snapshot : TargetSnapshot}
    (h : store.put k snapshot = .ok store') :
    ∀ current, store k = some current →
      ∃ next, store' k = some next ∧ current.generation ≤ next.generation := by
  intro current hcurrent
  rw [SnapshotStore.put, hcurrent] at h
  obtain ⟨_, hrefuse, hstore⟩ := Checked.bind_eq_ok.mp h
  obtain rfl := Except.ok.inj hstore
  exact ⟨snapshot, Function.update_self .., not_lt.mp (Checked.refuse_eq_ok.mp hrefuse)⟩

/-- No step lowers the published generation. -/
theorem bootStep_generation (run : BootedRun) (move : BootMove) (w : BootWorld) :
    ∀ current, w.current run = some current → ∃ next,
      (bootStep run move w).current run = some next ∧ current.generation ≤ next.generation := by
  intro current hcurrent
  have hsame : ∀ w' : BootWorld, w'.store = w.store → ∃ next,
      w'.current run = some next ∧ current.generation ≤ next.generation := fun w' hstore =>
    ⟨current, by rwa [BootWorld.current, hstore], le_rfl⟩
  have hpublish : ∀ snapshot next response, ∃ later,
      (w.publish run move.caller snapshot next response).current run = some later ∧
        current.generation ≤ later.generation := by
    intro snapshot next response
    rw [BootWorld.publish]
    cases hput : w.store.put (localTarget run.runId) snapshot with
    | error e => exact hsame _ rfl
    | ok store => exact put_le hput current hcurrent
  rw [bootStep]
  split <;> first | exact hpublish _ _ _ | (repeat' split) <;> exact hsame _ rfl

end Promises

def plainRun : BootedRun := ⟨"r", ⟨none⟩, none⟩

/-- A call without the lock ends here. -/
def plainCall : BootCall := ⟨false, none, none, true⟩

/-- A boot in which nothing fails. -/
def wholeBoot (t : Nat) (call : BootCall) : List BootMove :=
  [.start call, .lock none, .load none, .lockTarget none, .recover none, .plan (.ok none) none,
    .markRunning none, .execute (.ok ⟨.succeeded, "kernel booted", [], none⟩), .recordAttempt none,
    .publish, .unlock].map (BootMove.mk t)

/-- The first boot has an SSH host, and the call that answers for it has none. -/
def hostCall : BootCall := { plainCall with overrides := some ⟨some "10.0.0.2", false⟩ }

end Kdive.Booting

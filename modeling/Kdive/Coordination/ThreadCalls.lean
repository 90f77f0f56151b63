import Kdive.Coordination.Threads

/-!
# The operations each program calls

Most programs of the coordination layer call only operations that a proof can
pass over.  The *ordinary* operations admit no open, commit nothing and touch no
subscriber.  The *plain* ones also leave the handle table alone and dispose of
no binding.  These lemmas say which program calls which.
-/

namespace Kdive

open Checked Program Prog

/-- The operations that admit no open, commit nothing and touch no subscriber. -/
def Op.Ordinary : Op → Prop
  | .admission (.admitOpen ..) | .admission (.admitRecovery ..) | .commit .. | .subscribersOf _
  | .startWorker _ => False
  | _ => True

/-- The ordinary operations that dispose of no binding and leave the handle table
alone. -/
def Op.Plain : Op → Prop
  | .admission (.admitOpen ..) | .admission (.admitRecovery ..) | .admission (.promote _)
  | .admission (.complete _) | .admission (.rollback _) | .admission (.confirmReaped _)
  | .admission (.abandon _) | .commit .. | .subscribersOf _ | .startWorker _ | .popHandle _
  | .dropHandle _ => False
  | _ => True

theorem Op.Plain.ordinary {o : Op} (ho : o.Plain) : o.Ordinary := by
  cases o with
  | admission c => cases c <;> trivial
  | commit | subscribersOf | startWorker => exact ho
  | _ => trivial

variable {P : Op → Prop}

/-! ## Plain programs -/

theorem deleteRecord_plain (k : TargetKey) (sid : Nat) (unlink : Fault) :
    (deleteRecord k sid unlink).Calls Op.Plain :=
  .bind (.call trivial) fun _ => .forSome fun _ _ => .when fun _ => .call trivial

theorem clearTombstone_plain (k : TargetKey) (g : Int) (unlink : Fault) :
    (clearTombstone k g unlink).Calls Op.Plain :=
  .bind (.call trivial) fun _ => .forSome fun _ _ => .when fun _ => .call trivial

theorem markRecovery_plain (k : TargetKey) (g : Int) (reason : String) (write : Fault) :
    (markRecovery k g reason write).Calls Op.Plain :=
  .bind (.call trivial) fun _ => .call trivial

theorem recordBySessionId_plain (sid : Nat) : (recordBySessionId sid).Calls Op.Plain :=
  .bind (.call trivial) fun _ => trivial

theorem releaseLease_plain (k : TargetKey) (token : Option Nat) :
    (releaseLease k token).Calls Op.Plain :=
  .forSome fun _ _ => .void (.call trivial)

theorem releaseGuard_plain (k : TargetKey) (token : Option GuardToken) :
    (releaseGuard k token).Calls Op.Plain :=
  .forSome fun _ _ => .void (.call trivial)

theorem acquireConsole_plain (capability : TransportCapability) (k : TargetKey) :
    (acquireConsole capability k).Calls Op.Plain := by
  unfold acquireConsole
  split
  · exact .bind (.call trivial) fun _ => trivial
  · trivial

/-! ## Execution -/

/-- The operations that read or move the execution state of a target. -/
def Op.OfExecution : Op → Prop
  | .admission (.currentSnapshot _) | .admission (.currentExecutionEpoch _)
  | .admission (.admitSshTier ..) | .admission (.noteExecutionTransition ..)
  | .admission (.cancelSshTier ..) | .readRecord _ | .listRecords | .writeRecord .. => True
  | _ => False

theorem Op.OfExecution.plain {o : Op} (ho : o.OfExecution) : o.Plain := by
  cases o with
  | admission c =>
      cases c with
      | currentSnapshot | currentExecutionEpoch | admitSshTier | noteExecutionTransition
      | cancelSshTier => trivial
      | _ => exact ho.elim
  | readRecord | listRecords | writeRecord => trivial
  | _ => exact ho.elim

theorem recordBySessionId_ofExecution (sid : Nat) :
    (recordBySessionId sid).Calls Op.OfExecution :=
  .bind (.call trivial) fun _ => trivial

theorem requireTargetSnapshot_ofExecution (k : TargetKey) : (requireTargetSnapshot k).Calls Op.OfExecution :=
  .bind (.call trivial) fun _ => calls_ofExcept _

theorem probeExecutionState_ofExecution (k : TargetKey) (g : Int) :
    (probeExecutionState k g).Calls Op.OfExecution :=
  .bind (.call trivial) fun _ => .bind (.call trivial) fun _ => trivial

theorem admitRunTestsSshTier_ofExecution (k : TargetKey) (now : Instant) :
    (admitRunTestsSshTier k now).Calls Op.OfExecution :=
  .bind (requireTargetSnapshot_ofExecution k) fun _ => .bind (probeExecutionState_ofExecution k _)
    fun _ => .bind (calls_ofExcept _) fun _ => .call trivial

theorem admitIntrospectCall_ofExecution (k : TargetKey) (now : Instant) :
    (admitIntrospectCall k now).Calls Op.OfExecution :=
  .bind (requireTargetSnapshot_ofExecution k) fun _ => .bind (probeExecutionState_ofExecution k _)
    fun _ => .call trivial

theorem haltDebugTransport_ofExecution (session : TransportSession) (write : Fault) :
    (haltDebugTransport session write).Calls Op.OfExecution :=
  .bind (.call trivial) fun _ => .bind (.call trivial) fun _ => .bind (.call trivial) fun _ => trivial

theorem resumeDebugTransport_ofExecution (session : TransportSession) (write : Fault) :
    (resumeDebugTransport session write).Calls Op.OfExecution :=
  .bind (.call trivial) fun _ => .bind (.call trivial) fun _ => trivial

theorem injectBreakForSession_ofExecution (env : BreakEnv) (sid : Nat) :
    (injectBreakForSession env sid).Calls Op.OfExecution :=
  .bind (recordBySessionId_ofExecution sid) fun _ => trivial

theorem breakRecord_ofExecution (env : BreakEnv) (record : TransportSession) :
    (breakRecord env record).Calls Op.OfExecution := by
  refine .bind (haltDebugTransport_ofExecution record _) fun _ => .bind ?_ fun _ =>
    .bind (calls_ofExcept _) fun unconfirmed => ?_
  · unfold runBreakMechanism
    split
    · trivial
    · exact injectBreakForSession_ofExecution env _
  · cases unconfirmed with
    | none => trivial
    | some category => exact .bind (.call trivial) fun _ => trivial

theorem transportInjectBreak_ofExecution (env : BreakEnv) (runId : String) (sid : Nat) :
    (transportInjectBreak env runId sid).Calls Op.OfExecution := by
  unfold transportInjectBreak
  split
  · trivial
  · refine .bind (recordBySessionId_ofExecution sid) fun found => ?_
    cases found with
    | none => trivial
    | some record =>
        dsimp only
        split
        · trivial
        · exact breakRecord_ofExecution env record

/-- The activities that read or move the execution state. -/
def Activity.OfExecution : Activity → Prop
  | .runTests .. | .introspect .. | .halt .. | .resume .. | .injectBreak .. => True
  | _ => False

theorem activity_ofExecution {tag : Activity} (h : tag.OfExecution) :
    (activityBody tag).Calls Op.OfExecution := by
  cases tag with
  | runTests k now => exact .void (admitRunTestsSshTier_ofExecution k now)
  | introspect k now => exact .void (admitIntrospectCall_ofExecution k now)
  | halt session write => exact haltDebugTransport_ofExecution session write
  | resume session write => exact resumeDebugTransport_ofExecution session write
  | injectBreak env runId sid => exact .void (transportInjectBreak_ofExecution env runId sid)
  | _ => exact h.elim

/-! ## Teardowns -/

/-- A cleanup step calls what its step calls. -/
theorem cleanup_calls (errors : List Raised) {step : Proc Unit} (h : step.Calls P) :
    (cleanup errors step).Calls P := by
  refine .bind (calls_attempt.mpr h) fun r => ?_
  cases r with
  | ok u => trivial
  | error e => dsimp only; split <;> trivial

/-- A plain program is ordinary. -/
theorem calls_ordinary {α : Type} {p : Proc α} (h : p.Calls Op.Plain) : p.Calls Op.Ordinary :=
  h.mono fun _ ho => ho.ordinary

theorem reapAndAbandon_ordinary (h : AdmissionHandle) : (reapAndAbandon h).Calls Op.Ordinary :=
  .bind (.call trivial) fun _ => .call trivial

theorem closeSession_ordinary (env : CloseEnv) (sid : Nat) (force : Bool) :
    (closeSession env sid force).Calls Op.Ordinary := by
  refine .bind (calls_ordinary (recordBySessionId_plain sid)) fun _ => .forSome fun record _ => ?_
  have cleaned : ∀ {errors} {step : Proc Unit}, step.Calls Op.Plain →
      (cleanup errors step).Calls Op.Ordinary := fun h => cleanup_calls _ (calls_ordinary h)
  refine .bind (calls_ofExcept _) fun _ => .bind (.call trivial) fun _ =>
    .bind (.when fun _ => .call trivial) fun _ =>
    .bind (calls_ofExcept _) fun _ => .bind (cleaned (releaseLease_plain _ _)) fun _ =>
    .bind (.call trivial) fun _ => .bind (cleaned (releaseGuard_plain _ _)) fun _ =>
    .bind (.call trivial) fun _ => ?_
  exact .bind (cleanup_calls _ (.forSome fun _ _ => .call trivial)) fun _ =>
    .bind (cleaned (.when fun _ => markRecovery_plain _ _ _ _)) fun _ =>
    .bind (cleaned (deleteRecord_plain _ _ _)) fun _ =>
    .bind (cleaned (.when fun _ => .call trivial)) fun _ => calls_ofExcept _

theorem forceRelease_ordinary (env : CloseEnv) (sid : Nat) :
    (forceRelease env sid).Calls Op.Ordinary := by
  refine .bind (calls_ordinary (recordBySessionId_plain sid)) fun found => ?_
  cases found with
  | none => exact .bind (.call trivial) fun _ => .call trivial
  | some record =>
      exact .bind (calls_ordinary (releaseLease_plain _ _)) fun _ => .bind (.call trivial) fun _ =>
        .bind (calls_ordinary (releaseGuard_plain _ _)) fun _ => .bind (.call trivial) fun _ =>
        .bind (.forSome fun h _ => .suppress (reapAndAbandon_ordinary h)) fun _ =>
        .bind (calls_ordinary (deleteRecord_plain _ _ _)) fun _ => .when fun _ => .call trivial

theorem forceDrop_ordinary (s : SessionSubscriber) (unlink : Fault) :
    (s.forceDrop unlink).Calls Op.Ordinary :=
  .bind (calls_ordinary (releaseLease_plain _ _)) fun _ =>
    .bind (calls_ordinary (releaseGuard_plain _ _)) fun _ => .bind (.call trivial) fun _ =>
    .bind (.forSome fun h _ => .suppress (reapAndAbandon_ordinary h)) fun _ =>
    .bind (.call trivial) fun _ => .bind (.call trivial) fun _ =>
    .bind (.when fun _ => calls_ordinary (deleteRecord_plain _ _ _)) fun _ => .call trivial

theorem worker_ordinary (worker : Worker) : worker.run.Calls Op.Ordinary := by
  cases worker with
  | invalidate s transports reaps unlink =>
      exact .bind (calls_ofExcept _) fun _ => .bind (.forSome fun _ _ => .call trivial) fun _ =>
        .bind (.call trivial) fun _ => forceDrop_ordinary s unlink
  | forceDrop s unlink => exact forceDrop_ordinary s unlink

/-! ## Opens -/

/-- The operations of an open before its commit, and of its unwind. -/
def Op.OfOpen : Op → Prop
  | .attachEvent .. | .reportBackend .. | .reapBackend ..
  | .guardAcquire _ | .guardRelease .. | .leaseAcquire .. | .leaseRelease .. | .setToken ..
  | .popToken _ | .dropHandle _ | .readRecord _ | .writeRecord .. | .unlinkRecord ..
  | .unsubscribe .. | .admission (.rollback _) => True
  | _ => False

theorem Op.OfOpen.ordinary {o : Op} (ho : o.OfOpen) : o.Ordinary := by
  cases o with
  | admission c => cases c with
    | rollback h => trivial
    | _ => exact ho.elim
  | commit | subscribersOf | startWorker => exact ho
  | _ => trivial

theorem acquireConsole_ofOpen (capability : TransportCapability) (k : TargetKey) :
    (acquireConsole capability k).Calls Op.OfOpen := by
  unfold acquireConsole
  split
  · exact .bind (.call trivial) fun _ => trivial
  · trivial

theorem writeOpeningRecord_ofOpen (env : OpenEnv) (request : OpenRequest)
    (handle : AdmissionHandle) (selection : Selection) (providerName : String)
    (guardToken : GuardToken) (leaseToken : Option Nat) (state : OpenState) :
    (writeOpeningRecord env request handle selection providerName guardToken leaseToken
      state).Calls Op.OfOpen :=
  .bind (.call trivial) fun _ => .bind (.call trivial) fun _ => trivial

/-- The operations of an unwind. -/
def Op.OfUnwind : Op → Prop
  | .reapBackend .. | .guardRelease .. | .leaseRelease .. | .popToken _ | .dropHandle _
  | .readRecord _ | .unlinkRecord .. | .unsubscribe .. | .admission (.rollback _) => True
  | _ => False

theorem Op.OfUnwind.ofOpen {o : Op} (ho : o.OfUnwind) : o.OfOpen := by
  cases o with
  | admission c => cases c with
    | rollback h => trivial
    | _ => exact ho.elim
  | reapBackend | guardRelease | leaseRelease | popToken | dropHandle | readRecord | unlinkRecord
  | unsubscribe => trivial
  | _ => exact ho.elim

theorem deleteRecord_ofUnwind (k : TargetKey) (sid : Nat) (unlink : Fault) :
    (deleteRecord k sid unlink).Calls Op.OfUnwind :=
  .bind (.call trivial) fun _ => .forSome fun _ _ => .when fun _ => .call trivial

theorem releaseLease_ofUnwind (k : TargetKey) (token : Option Nat) :
    (releaseLease k token).Calls Op.OfUnwind :=
  .forSome fun _ _ => .void (.call trivial)

theorem releaseGuard_ofUnwind (k : TargetKey) (token : Option GuardToken) :
    (releaseGuard k token).Calls Op.OfUnwind :=
  .forSome fun _ _ => .void (.call trivial)

theorem rollbackOpen_ofUnwind (env : OpenEnv) (k : TargetKey) (h : AdmissionHandle)
    (state : OpenState) : (rollbackOpen env k h state).Calls Op.OfUnwind := by
  refine .bind (.forSome fun _ _ => .call trivial) fun _ => .bind (.forSome fun sid _ => ?_) fun _ =>
    .bind (releaseLease_ofUnwind _ _) fun _ =>
    .bind (releaseGuard_ofUnwind _ _) fun _ => .suppress (.call trivial)
  exact .bind (.call trivial) fun _ => .bind (.call trivial) fun _ =>
    .bind (.suppress (deleteRecord_ofUnwind _ _ _)) fun _ => .when fun _ => .call trivial

theorem rollbackOpen_ofOpen (env : OpenEnv) (k : TargetKey) (h : AdmissionHandle)
    (state : OpenState) : (rollbackOpen env k h state).Calls Op.OfOpen :=
  (rollbackOpen_ofUnwind env k h state).mono fun _ ho => ho.ofOpen

/-- A guarded step calls what the step and its unwind call. -/
theorem orRollback_calls (hunwind : ∀ o, o.OfUnwind → P o) {α : Type} (env : OpenEnv)
    (k : TargetKey) (h : AdmissionHandle) (state : OpenState) {step : Proc α}
    (hstep : step.Calls P) : (orRollback env k h state step).Calls P :=
  .rescue hstep fun _ => .bind ((rollbackOpen_ofUnwind env k h state).mono hunwind)
    fun _ => calls_raise _

/-- A report writes a record that names its backend. -/
theorem writeBackendPartial_calls (hattach : ∀ sid e, P (.attachEvent sid e))
    (hreport : ∀ b returned, P (.reportBackend b returned)) (record : TransportSession) (backend : BackendIdentity)
    (write : Fault) (cleanup : List AttachEvent)
    (hwrite : P (.writeRecord
      { record with backendPid := some backend.pid, backendStartTime := backend.startTime } write)) :
    (writeBackendPartial record backend write cleanup).Calls P := by
  refine .bind (calls_attempt.mpr (.call hwrite)) fun written => .bind (.call (hreport _ _)) fun _ => ?_
  cases written with
  | ok u => trivial
  | error e => exact .bind (.forEach fun _ _ => .call (hattach _ _)) fun _ => trivial

/-- The steps of an attach call its events, its reports and the unwind. -/
theorem reportPartials_calls (hunwind : ∀ o, o.OfUnwind → P o)
    (hattach : ∀ sid e, P (.attachEvent sid e)) (hreport : ∀ b returned, P (.reportBackend b returned))
    (env : OpenEnv) (k : TargetKey) (h : AdmissionHandle) (record : TransportSession)
    (hwrite : ∀ pid start fault, P (.writeRecord
      { record with backendPid := some pid, backendStartTime := start } fault))
    (partials : List AttachStep) (state : OpenState) :
    (reportPartials (orRollback env k h) record partials state).Calls P := by
  induction partials generalizing state with
  | nil => trivial
  | cons reported rest ih =>
      cases reported with
      | event e => exact .bind (.call (hattach _ e)) fun _ => ih state
      | report backend write cleanup =>
          cases backend with
          | none => exact ih state
          | some backend =>
              exact .bind (orRollback_calls hunwind env k h state (writeBackendPartial_calls hattach
                hreport record backend write cleanup (hwrite _ _ _))) fun _ => ih _

theorem orRollback_ofOpen {α : Type} (env : OpenEnv) (k : TargetKey) (h : AdmissionHandle)
    (state : OpenState) {step : Proc α} (hstep : step.Calls Op.OfOpen) :
    (orRollback env k h state step).Calls Op.OfOpen :=
  orRollback_calls (fun _ ho => ho.ofOpen) env k h state hstep

theorem reportPartials_ofOpen (env : OpenEnv) (k : TargetKey) (h : AdmissionHandle)
    (record : TransportSession) (partials : List AttachStep) (state : OpenState) :
    (reportPartials (orRollback env k h) record partials state).Calls Op.OfOpen :=
  reportPartials_calls (fun _ ho => ho.ofOpen) (fun _ _ => trivial) (fun _ _ => trivial) env k h record
    (fun _ _ _ => trivial) partials state

/-- The operations of an open are ordinary up to its commit. -/
theorem calls_ordinary_ofOpen {α : Type} {p : Proc α} (h : p.Calls Op.OfOpen) :
    p.Calls Op.Ordinary :=
  h.mono fun _ ho => ho.ordinary

theorem rollbackOpen_ordinary (env : OpenEnv) (k : TargetKey) (h : AdmissionHandle)
    (state : OpenState) : (rollbackOpen env k h state).Calls Op.Ordinary :=
  calls_ordinary_ofOpen (rollbackOpen_ofOpen env k h state)

theorem orRollback_ordinary {α : Type} (env : OpenEnv) (k : TargetKey) (h : AdmissionHandle)
    (state : OpenState) {step : Proc α} (hstep : step.Calls Op.Ordinary) :
    (orRollback env k h state step).Calls Op.Ordinary :=
  .rescue hstep fun _ => .bind (rollbackOpen_ordinary env k h state) fun _ => calls_raise _

theorem reportPartials_ordinary (env : OpenEnv) (k : TargetKey) (h : AdmissionHandle)
    (record : TransportSession) (partials : List AttachStep) (state : OpenState) :
    (reportPartials (orRollback env k h) record partials state).Calls Op.Ordinary :=
  calls_ordinary_ofOpen (reportPartials_ofOpen env k h record partials state)

/-! ## Closes -/

/-- The operations of a close. -/
def Op.OfClose : Op → Prop
  | .listRecords | .writeRecord .. | .closeAttached .. | .leaseRelease .. | .popToken _ | .guardRelease ..
  | .popHandle _ | .admission (.complete _) | .admission (.markRecoveryRequired ..)
  | .writeTombstone .. | .readRecord _ | .unlinkRecord .. | .unsubscribe .. => True
  | _ => False

theorem deleteRecord_ofClose (k : TargetKey) (sid : Nat) (unlink : Fault) :
    (deleteRecord k sid unlink).Calls Op.OfClose :=
  .bind (.call trivial) fun _ => .forSome fun _ _ => .when fun _ => .call trivial

theorem releaseLease_ofClose (k : TargetKey) (token : Option Nat) :
    (releaseLease k token).Calls Op.OfClose :=
  .forSome fun _ _ => .void (.call trivial)

theorem releaseGuard_ofClose (k : TargetKey) (token : Option GuardToken) :
    (releaseGuard k token).Calls Op.OfClose :=
  .forSome fun _ _ => .void (.call trivial)

theorem markRecovery_ofClose (k : TargetKey) (g : Int) (reason : String) (write : Fault) :
    (markRecovery k g reason write).Calls Op.OfClose :=
  .bind (.call trivial) fun _ => .call trivial

/-- The rest of a close, once its record was found and written. -/
def closeRecord (env : CloseEnv) (record : TransportSession) (sessionId : Nat) (force : Bool)
    (closeError : Option Raised) : Proc Unit := do
  let errors ← cleanup [] (releaseLease record.targetKey record.consoleLeaseToken)
  let token ← call (.popToken sessionId)
  let errors ← cleanup errors (releaseGuard record.targetKey token)
  let handle ← call (.popHandle sessionId)
  let errors ← cleanup errors (Prog.forSome handle fun h => call (.admission (.complete h)))
  let errors ← cleanup errors
    (Prog.when (record.executionState ≠ .executing ∧ force = false)
      (markRecovery record.targetKey record.generation "closed_while_halted" env.tombstoneWrite))
  let errors ← cleanup errors (deleteRecord record.targetKey record.sessionId env.unlink)
  let errors ← cleanup errors
    (Prog.when env.dispatcher (call (.unsubscribe record.targetKey sessionId)))
  .ofExcept (raiseCloseFailures closeError errors)

/-- The close of a record that was found. -/
def closeFound (env : CloseEnv) (sessionId : Nat) (force : Bool) (record : TransportSession) :
    Proc Unit := do
  let _ ← .ofExcept (require (env.transports record.provider) (.unknownProvider record.provider))
  let closing := { record with recordState := .closing }
  call (.writeRecord closing env.closingWrite)
  Prog.when closing.attached
    (call (.closeAttached closing env.transportClose.isSome env.transportStops))
  let closeError ← .ofExcept (closeTransport env.transportClose)
  closeRecord env record sessionId force closeError

theorem closeSession_eq (env : CloseEnv) (sid : Nat) (force : Bool) :
    closeSession env sid force =
      recordBySessionId sid >>= fun found => Prog.forSome found (closeFound env sid force) := rfl

theorem recordBySessionId_run (sid : Nat) (w : World) :
    (recordBySessionId sid).run World.exec w =
      (.ok (w.registry.records.find? fun record => record.sessionId = sid), w) := by
  rw [recordBySessionId, run_bind, run_perform]
  rfl

end Kdive

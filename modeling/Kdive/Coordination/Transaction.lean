import Kdive.Coordination.World

/-!
# The transport transaction

`open` acquires the guard, the console lease and a durable record, attaches the
backend, and commits under the admission lock.  A raise at any stage unwinds
what was acquired so far.  `close` and `forceRelease` take an open session down
on its owner's path, `SessionSubscriber.invalidate` and `forceDrop` take it down
when a lifecycle transition does, and `invalidateLifecycle` is that transition.

*Environments.*  What lies outside the program decides how the calls to it turn
out: whether a secret resolves, which backend identity an attach reports, which
write fails.  An `OpenEnv` and its siblings fix those outcomes in advance.

*Unwinding.*  The source keeps the acquired resources in a variable that the
`except` block reads.  `orRollback state p` is a step `p` of the `try` block
taken while that variable holds `state`.

*Session ids.*  The source draws one id for each open that gets that far.  The
identity of the admitted handle stands for the draw, since no two opens are
admitted with one handle.
-/

namespace Kdive

open Checked Program

/-! ## Environments -/

/-- What an attach returns. -/
structure BackendAttachment where
  /-- Where the console listens. -/
  consoleEndpoint : Option Endpoint
  /-- Where the stub listens. -/
  rspEndpoint : Option Endpoint
  /-- The backend it started. -/
  backend : Option BackendIdentity
deriving DecidableEq, Repr

/-- A step of an attach. -/
inductive AttachStep where
  /-- It reports a backend, which causes a write.  If the write fails it cleans up.  A
  report without an identity is ignored. -/
  | report (backend : Option BackendIdentity) (write : Fault) (cleanup : List AttachEvent)
  | event (event : AttachEvent)

/-- The outcomes outside an open. -/
structure OpenEnv where
  /-- The provider table. -/
  transports : Transports
  /-- The break policy. -/
  breakPolicy : BreakPolicy
  /-- The address library's judgement of a host. -/
  isLoopback : String → Bool
  /-- A lifecycle dispatcher is bound. -/
  dispatcher : Bool
  /-- The clock at admission. -/
  now : Instant
  /-- The stages after which a process death is simulated. -/
  crashAfter : List String
  /-- Secret resolution. -/
  secrets : Fault
  /-- The write of the opening record. -/
  openingWrite : Fault
  /-- What the attach does before it ends. -/
  partials : List AttachStep
  /-- How the attach ends. -/
  attach : Except ExceptionKind BackendAttachment
  /-- The write of the ready record. -/
  readyWrite : Fault
  /-- The subscription. -/
  subscribe : Fault
  /-- The unlink of the recovery tombstone. -/
  clearDurable : Fault
  /-- The unlink of the record in the unwind of a failed open. -/
  rollbackUnlink : Fault
  /-- The unwind of a failed open stops the backend. -/
  rollbackReaps : Bool := true

/-- The outcomes outside a teardown. -/
structure CloseEnv where
  /-- The provider table. -/
  transports : Transports
  /-- A lifecycle dispatcher is bound. -/
  dispatcher : Bool
  /-- The write of the closing record. -/
  closingWrite : Fault
  /-- The transport's own close. -/
  transportClose : Fault
  /-- The write of the recovery tombstone. -/
  tombstoneWrite : Fault
  /-- The unlink of the record. -/
  unlink : Fault
  /-- The transport's own close stops the backend. -/
  transportStops : Bool := true

/-! ## The registry's fenced operations -/

/-- Delete the record of a target if it belongs to the expected session. -/
def deleteRecord (targetKey : TargetKey) (expectedSessionId : Nat) (unlink : Fault) :
    Proc Unit := do
  let existing ← call (.readRecord targetKey)
  Prog.forSome existing fun record =>
    Prog.when (record.sessionId = expectedSessionId) (call (.unlinkRecord targetKey expectedSessionId unlink))

/-- Clear the tombstone of a target if it stands at the expected generation. -/
def clearTombstone (targetKey : TargetKey) (expectedGeneration : Int) (unlink : Fault) :
    Proc Unit := do
  let existing ← call (.readTombstone targetKey)
  Prog.forSome existing fun tombstone =>
    Prog.when (tombstone.generation = expectedGeneration)
      (call (.unlinkTombstone targetKey unlink))

/-- The record of a session, wherever it stands. -/
def recordBySessionId (sessionId : Nat) : Proc (Option TransportSession) := do
  let records ← call .listRecords
  pure (records.find? fun record => record.sessionId = sessionId)

/-- The dual write of a recovery marker: the durable tombstone, then the cache. -/
def markRecovery (targetKey : TargetKey) (generation : Int) (reason : String)
    (tombstoneWrite : Fault) : Proc Unit := do
  call (.writeTombstone ⟨targetKey, generation, reason⟩ tombstoneWrite)
  call (.admission (.markRecoveryRequired targetKey generation))

/-- Release a lease if there is a token for it. -/
def releaseLease (targetKey : TargetKey) (token : Option Nat) : Proc Unit :=
  Prog.forSome token fun token => Prog.void (call (.leaseRelease targetKey token))

/-- Release the guard if there is a token for it. -/
def releaseGuard (targetKey : TargetKey) (token : Option GuardToken) : Proc Unit :=
  Prog.forSome token fun token => Prog.void (call (.guardRelease targetKey token))

/-! ## Open -/

/-- The backend an open would have to stop. -/
def OpenState.backend (state : OpenState) : Option BackendIdentity :=
  state.backendPid.map fun pid => ⟨pid, state.backendStart⟩

/-- `_best_effort_reap`: stop a backend if one is known.  A failure is logged. -/
def bestEffortReap (state : OpenState) (stops : Bool) : Proc Unit :=
  Prog.forSome state.backend fun backend => call (.reapBackend backend stops)

/-- The unwind of a failed open, in reverse order of acquisition. -/
def rollbackOpen (env : OpenEnv) (targetKey : TargetKey) (handle : AdmissionHandle)
    (state : OpenState) : Proc Unit := do
  bestEffortReap state env.rollbackReaps
  Prog.forSome state.sessionId fun sessionId => do
    let _ ← call (.popToken sessionId)
    call (.dropHandle sessionId)
    Prog.suppress (deleteRecord targetKey sessionId env.rollbackUnlink)
    Prog.when env.dispatcher (call (.unsubscribe targetKey sessionId))
  releaseLease targetKey state.leaseToken
  releaseGuard targetKey state.guardToken
  Prog.suppress (call (.admission (.rollback handle)))

/-- A step of the `try` block of an open, while it holds `state`. -/
def orRollback {α : Type} (env : OpenEnv) (targetKey : TargetKey) (handle : AdmissionHandle)
    (state : OpenState) (step : Proc α) : Proc α :=
  step.rescue fun e => do
    rollbackOpen env targetKey handle state
    .raise e

/-- A simulated process death after a stage. -/
def crash (crashAfter : List String) (label : String) : Except Raised Unit :=
  refuse (label ∈ crashAfter) (.simulatedCrash label)

/-- The record an open writes before it attaches. -/
def openingRecord (request : OpenRequest) (handle : AdmissionHandle) (selection : Selection)
    (providerName : String) (guardToken : GuardToken) (leaseToken : Option Nat) :
    TransportSession where
  sessionId := handle.handleId
  targetKey := request.targetKey
  generation := request.generation
  provider := providerName
  channelId := selection.channel.channelId
  consoleEndpoint := none
  rspEndpoint := none
  recordState := .opening
  consoleLeaseToken := leaseToken
  stopGuardToken := some guardToken.secret
  attachEpoch := handle.admitEpoch
  breakPlan := some selection.breakPlan
  executionState := .executing
  backendPid := none
  backendStartTime := none

/-- Draw the session id, keep its guard token, write the opening record. -/
def writeOpeningRecord (env : OpenEnv) (request : OpenRequest) (handle : AdmissionHandle)
    (selection : Selection) (providerName : String) (guardToken : GuardToken)
    (leaseToken : Option Nat) (state : OpenState) : Proc (TransportSession × OpenState) := do
  let sessionId := handle.handleId
  call (.setToken sessionId guardToken)
  let record := openingRecord request handle selection providerName guardToken leaseToken
  call (.writeRecord record env.openingWrite)
  pure (record, { state with sessionId := some sessionId })

/-- A backend's identity as the open's own. -/
def OpenState.withBackend (state : OpenState) (backend : BackendIdentity) : OpenState :=
  { state with backendPid := some backend.pid, backendStart := backend.startTime }

/-- `_write_backend_partial`: write a reported backend through. -/
def writeBackendPartial (record : TransportSession) (backend : BackendIdentity) (write : Fault)
    (cleanup : List AttachEvent) : Proc Unit := do
  let written ← (call (.writeRecord
    { record with backendPid := some backend.pid, backendStartTime := backend.startTime }
    write)).attempt
  call (.reportBackend backend false)
  match written with
  | .ok _ => pure ()
  | .error e => do
      Prog.forEach cleanup fun event => call (.attachEvent record.sessionId event)
      .raise e

/-- The steps of an attach: each reported backend is written through, then mirrored. -/
def reportPartials (unwind : OpenState → Proc Unit → Proc Unit) (record : TransportSession) :
    List AttachStep → OpenState → Proc OpenState
  | [], state => pure state
  | .event event :: rest, state => do
      call (.attachEvent record.sessionId event)
      reportPartials unwind record rest state
  | .report none _ _ :: rest, state => reportPartials unwind record rest state
  | .report (some backend) write cleanup :: rest, state => do
      unwind state (writeBackendPartial record backend write cleanup)
      reportPartials unwind record rest (state.withBackend backend)

/-- The commit of an attached open: promote, register and subscribe under the
admission lock, then clear a recovery marker. -/
def commitOpenSession (env : OpenEnv) (request : OpenRequest) (handle : AdmissionHandle)
    (session : TransportSession) (state : OpenState) (recovery : Bool) : Proc Unit := do
  call (.commit handle session state env.dispatcher env.subscribe)
  Prog.when recovery do
    clearTombstone request.targetKey request.generation env.clearDurable
    call (.admission (.clearRecoveryRequired request.targetKey request.generation))

/-- The console lease, for a provider that owns a console. -/
def acquireConsole (capability : TransportCapability) (targetKey : TargetKey) :
    Proc (Option Nat) :=
  if capability.providesConsole then do
    let token ← call (.leaseAcquire targetKey .transport)
    pure (some token)
  else pure none

/-- The open of an admitted request. -/
def openAdmitted (env : OpenEnv) (capability : TransportCapability) (request : OpenRequest)
    (recovery : Bool) (handle : AdmissionHandle) : Proc TransportSession := do
  let guarded {α : Type} (state : OpenState) (step : Proc α) : Proc α :=
    orRollback env request.targetKey handle state step
  let state : OpenState := {}
  let channel ← guarded state (.ofExcept (require handle.channel (.external .exception)))
  let selection ← guarded state (.ofExcept
    ((selectStopCapableChannel request.targetKey [channel] request.requiredCaps handle.platform
      env.breakPolicy []).mapError .selection))
  guarded state (.ofExcept (crash env.crashAfter "selected"))
  let guardToken ← guarded state (call (.guardAcquire request.targetKey))
  let state := { state with guardToken := some guardToken }
  guarded state (.ofExcept (crash env.crashAfter "guard"))
  let leaseToken ← guarded state (acquireConsole capability request.targetKey)
  let state := { state with leaseToken := leaseToken }
  guarded state (.ofExcept (crash env.crashAfter "lease"))
  guarded state (.ofExcept env.secrets.check)
  let (record, state) ← guarded state (writeOpeningRecord env request handle selection
    capability.providerName guardToken leaseToken state)
  guarded state (.ofExcept (crash env.crashAfter "record_written"))
  let state ← reportPartials guarded record env.partials state
  let attachment ← guarded state (.ofExcept (env.attach.mapError .external))
  Prog.forSome attachment.backend fun backend => call (.reportBackend backend true)
  let state := attachment.backend.elim state state.withBackend
  guarded state (.ofExcept do
    for endpoint in attachment.consoleEndpoint.toList ++ attachment.rspEndpoint.toList do
      (assertLoopbackEndpoint env.isLoopback endpoint).mapError .endpoint)
  let session : TransportSession :=
    { record with
      recordState := .ready
      consoleEndpoint := attachment.consoleEndpoint
      rspEndpoint := attachment.rspEndpoint
      backendPid := state.backendPid
      backendStartTime := state.backendStart }
  guarded state (call (.writeRecord session env.readyWrite))
  guarded state (.ofExcept (crash env.crashAfter "ready"))
  guarded state (commitOpenSession env request handle session state recovery)
  pure session

/-- Admit a request, through the recovery gate or the ordinary one. -/
def admitRequest (env : OpenEnv) (request : OpenRequest) (recovery : Bool) :
    Proc AdmissionHandle :=
  if recovery then call (.admission (.admitRecovery request.targetKey request env.now))
  else call (.admission (.admitOpen request.targetKey request env.now))

/-- `open`: the whole transaction. -/
def openSession (env : OpenEnv) (request : OpenRequest) (recovery : Bool) :
    Proc TransportSession := do
  let capability ← .ofExcept (require (env.transports request.transportRef.provider)
    (.unknownProvider request.transportRef.provider))
  .ofExcept ((refuseUnsafeExposure capability "transport.open").mapError .endpoint)
  let handle ← admitRequest env request recovery
  openAdmitted env capability request recovery handle

/-! ## Close -/

/-- One cleanup step of a close: an exception joins the errors. -/
def cleanup (errors : List Raised) (step : Proc Unit) : Proc (List Raised) := do
  match ← step.attempt with
  | .ok _ => pure errors
  | .error e => if e.isException then pure (errors ++ [e]) else .raise e

/-- What a close raises in the end. -/
def raiseCloseFailures (closeError : Option Raised) (cleanupErrors : List Raised) :
    Except Raised Unit :=
  match closeError, cleanupErrors with
  | some e, [] => .error e
  | some e, errors => .error (.group "transport close failed after cleanup errors" (e :: errors))
  | none, [] => .ok ()
  | none, errors => .error (.group "transport close cleanup failed" errors)

/-- The transport's own close.  An exception is kept for the end. -/
def closeTransport : Fault → Except Raised (Option Raised)
  | none => .ok none
  | some .baseException => .error (.external .baseException)
  | some kind => .ok (some (.external kind))

/-- `close`: take a session down in order.  A session closed while its kernel is
not running leaves a recovery marker, unless the caller forces it. -/
def closeSession (env : CloseEnv) (sessionId : Nat) (force : Bool) : Proc Unit := do
  let found ← recordBySessionId sessionId
  Prog.forSome found fun record => do
    let _ ← .ofExcept (require (env.transports record.provider) (.unknownProvider record.provider))
    let closing := { record with recordState := .closing }
    call (.writeRecord closing env.closingWrite)
    Prog.when closing.attached
      (call (.closeAttached closing env.transportClose.isSome env.transportStops))
    let closeError ← .ofExcept (closeTransport env.transportClose)
    let errors ← cleanup [] (releaseLease record.targetKey record.consoleLeaseToken)
    let token ← call (.popToken sessionId)
    let errors ← cleanup errors (releaseGuard record.targetKey token)
    let handle ← call (.popHandle sessionId)
    let errors ← cleanup errors (Prog.forSome handle fun h => call (.admission (.complete h)))
    let errors ← cleanup errors
      (Prog.when (record.executionState ≠ .executing ∧ force = false)
        (markRecovery record.targetKey record.generation "closed_while_halted" env.tombstoneWrite))
    let errors ← cleanup errors (deleteRecord record.targetKey record.sessionId env.unlink)
    let errors ← cleanup errors
      (Prog.when env.dispatcher (call (.unsubscribe record.targetKey sessionId)))
    .ofExcept (raiseCloseFailures closeError errors)

/-- Deregister a cancelled binding out of band. -/
def reapAndAbandon (handle : AdmissionHandle) : Proc Unit := do
  call (.admission (.confirmReaped handle))
  call (.admission (.abandon handle))

/-- `force_release`: drop the lines of a session without closing its backend. -/
def forceRelease (env : CloseEnv) (sessionId : Nat) : Proc Unit := do
  let found ← recordBySessionId sessionId
  match found with
  | none =>
      let _ ← call (.popToken sessionId)
      call (.dropHandle sessionId)
  | some record =>
      releaseLease record.targetKey record.consoleLeaseToken
      let token ← call (.popToken sessionId)
      releaseGuard record.targetKey token
      let handle ← call (.popHandle sessionId)
      Prog.forSome handle fun h => Prog.suppress (reapAndAbandon h)
      deleteRecord record.targetKey record.sessionId env.unlink
      Prog.when env.dispatcher (call (.unsubscribe record.targetKey sessionId))

/-! ## Lifecycle teardown -/

/-- `force_drop`: release what a session holds without waiting for its backend. -/
def SessionSubscriber.forceDrop (s : SessionSubscriber) (unlink : Fault) : Proc Unit := do
  releaseLease s.session.targetKey s.state.leaseToken
  releaseGuard s.session.targetKey s.state.guardToken
  let _ ← call (.popToken s.session.sessionId)
  Prog.forSome s.state.admissionHandle fun h => Prog.suppress (reapAndAbandon h)
  call (.dropHandle s.session.sessionId)
  let killed ← call (.killed s.session.sessionId)
  Prog.when killed (deleteRecord s.session.targetKey s.session.sessionId unlink)
  call (.unsubscribe s.session.targetKey s.session.sessionId)

/-- `invalidate`: reap the backend, then drop the rest. -/
def SessionSubscriber.invalidate (s : SessionSubscriber) (transports : Transports)
    (reaps : Bool) (unlink : Fault) : Proc Unit := do
  let _ ← .ofExcept (require (transports s.session.provider) (.unknownProvider s.session.provider))
  bestEffortReap s.state reaps
  call (.setKilled s.session.sessionId)
  s.forceDrop unlink

/-- The teardown a worker runs. -/
def Worker.run : Worker → Proc Unit
  | .invalidate s transports reaps unlink => s.invalidate transports reaps unlink
  | .forceDrop s unlink => s.forceDrop unlink

/-- The outcomes outside an emit. -/
structure EmitEnv where
  /-- The provider table. -/
  transports : Transports
  /-- The subscribers whose worker of an earlier emit still runs. -/
  alreadyOverdue : List Nat
  /-- The subscribers whose worker exceeds the deadline of this emit. -/
  overdue : List Nat
  /-- The unlink of the record by the first worker of a subscriber. -/
  invalidateUnlink : Nat → Fault
  /-- The unlink of the record by the second one. -/
  forceDropUnlink : Nat → Fault
  /-- The first worker of a subscriber stops its backend. -/
  reaps : Nat → Bool := fun _ => true

/-- `emit`: invalidate every subscriber of the target on a worker of its own, and
force-drop the ones that take too long. -/
def emit (env : EmitEnv) (targetKey : TargetKey) : Proc Unit := do
  call (.emitLock targetKey)
  let targeted ← call (.subscribersOf targetKey)
  let runnable := targeted.filter fun s => s.name ∉ env.alreadyOverdue
  Prog.forEach runnable fun s =>
    call (.startWorker
      (.invalidate s env.transports (env.reaps s.name) (env.invalidateUnlink s.name)))
  Prog.forEach (runnable.filter fun s => s.name ∈ env.overdue) fun s =>
    call (.startWorker (.forceDrop s (env.forceDropUnlink s.name)))
  call (.emitUnlock targetKey)

/-- `invalidate_lifecycle`: close admission, then tear down.  A stale invalidation
does neither. -/
def invalidateLifecycle (env : EmitEnv) (targetKey : TargetKey) (generation : Int)
    (closeAdmission : Bool) : Proc Unit := do
  let stale ← call (.lifecycleFence targetKey generation closeAdmission)
  Prog.when (stale = false) (emit env targetKey)

end Kdive

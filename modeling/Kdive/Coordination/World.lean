import Kdive.Coordination.Admission
import Kdive.Coordination.Lease
import Kdive.Coordination.Registry
import Kdive.Coordination.Selection
import Kdive.Debug.SessionStore
import Kdive.Lib.Interleaving
import Kdive.Seams.Guard
import Kdive.Transport.Resources

/-!
# The shared state and its atomic operations

`World` is everything the threads of one server share: the admission service,
the registry directory, the guard, the console leases, the tables of the open
transaction, the lifecycle subscribers and the stores of the debug layer.

`Op` lists the atomic operations on it.  Each is one critical section of the
source: a method that runs under a lock of its own, one access to a file, or one
access to a table.  Two of them hold the admission lock over several steps in
the source.  `commit` promotes a handle, enters it into the handle table and
subscribes the session.  `lifecycleFence` decides whether an invalidation is
stale and closes admission.

*Raises.*  An operation on files may fail, and then it raises what its caller's
environment says and leaves the file as it was: every write goes to a temporary
file that replaces the old one.
-/

namespace Kdive

open Checked Program

/-! ## Raises -/

/-- The kinds of exception an external call may raise. -/
inductive ExceptionKind where
  /-- The debugger's own error class. -/
  | gdbMiError
  /-- Another `Exception`. -/
  | exception
  /-- A `BaseException` that is not an `Exception`. -/
  | baseException
deriving DecidableEq, Repr

/-- What a program may raise. -/
inductive Raised where
  | admission (e : AdmissionError)
  | guard (e : GuardConflict)
  | lease (e : LeaseError)
  | selection (e : SelectionError)
  | endpoint (e : EndpointSafetyError)
  /-- A provider that is not in the transport table. -/
  | unknownProvider (provider : String)
  /-- A failed check of the debug layer. -/
  | providerDebug (code : String)
  /-- A manifest that cannot be locked or written. -/
  | manifestState
  /-- A failed precondition of the session guard. -/
  | precondition (name : String)
  /-- A simulated process death after a labelled stage. -/
  | simulatedCrash (label : String)
  /-- A call outside the program failed. -/
  | external (kind : ExceptionKind)
  /-- Several errors of one close. -/
  | group (message : String) (errors : List Raised)
deriving Repr

/-- `except Exception` catches it. -/
def Raised.isException : Raised → Bool
  | .external .baseException => false
  | _ => true

/-- The outcome of a call that may fail. -/
abbrev Fault := Option ExceptionKind

/-- Raise a fault if there is one. -/
def Fault.check : Fault → Except Raised Unit
  | none => .ok ()
  | some kind => .error (.external kind)

/-! ## Sessions -/

/-- What an open acquired so far. -/
structure OpenState where
  /-- The guard token. -/
  guardToken : Option GuardToken := none
  /-- The console lease token. -/
  leaseToken : Option Nat := none
  /-- The session id of the record it wrote. -/
  sessionId : Option Nat := none
  /-- The supervised backend. -/
  backendPid : Option Nat := none
  /-- Its start time. -/
  backendStart : Option String := none
  /-- The promoted handle. -/
  admissionHandle : Option AdmissionHandle := none
deriving Repr

/-- The lifecycle subscriber of one open session. -/
structure SessionSubscriber where
  /-- The session. -/
  session : TransportSession
  /-- What it holds. -/
  state : OpenState
deriving Repr

/-- The name it subscribes under. -/
def SessionSubscriber.name (s : SessionSubscriber) : Nat := s.session.sessionId

/-- A teardown the dispatcher runs on a thread of its own. -/
inductive Worker where
  | invalidate (subscriber : SessionSubscriber) (transports : Transports) (reaps : Bool)
      (unlink : Fault)
  | forceDrop (subscriber : SessionSubscriber) (unlink : Fault)

/-- The subscriber a worker tears down. -/
def Worker.subscriber : Worker → SessionSubscriber
  | .invalidate s _ _ _ | .forceDrop s _ => s

/-! ## The world -/

/-- What the threads share. -/
structure World where
  /-- The admission service. -/
  admission : AdmissionService
  /-- The registry directory. -/
  registry : SessionRegistry
  /-- The stop-capable guard. -/
  guard : StopCapableGuard
  /-- The console leases. -/
  leases : ConsoleLeaseManager
  /-- The guard token of each session. -/
  tokens : Nat → Option GuardToken
  /-- The promoted handle of each session. -/
  handles : Nat → Option AdmissionHandle
  /-- The lifecycle subscribers of each target, oldest first. -/
  subscribers : TargetKey → List SessionSubscriber
  /-- The sessions whose backend kill has resolved. -/
  killed : Nat → Bool
  /-- The targets an emit is running for. -/
  emitting : TargetKey → Bool
  /-- What the attaches started and hold. -/
  backends : Backends
  /-- The stores of the debug layer. -/
  debug : DebugState

namespace World

/-- A server that starts on an empty disk. -/
def empty : World where
  admission := .fresh defaultMinLeaseTtlSeconds 0
  registry := .empty
  guard := .free 0
  leases := .free 0
  tokens := fun _ => none
  handles := fun _ => none
  subscribers := fun _ => []
  killed := fun _ => false
  emitting := fun _ => false
  backends := .none
  debug := .empty

/-- The next server process on the same disk.  Drawn identities are not drawn
again. -/
def restart (w : World) : World where
  admission := .fresh w.admission.defaultMinLeaseTtl w.admission.nextId
  registry := w.registry
  guard := .free w.guard.fence
  leases := .free w.leases.drawn
  tokens := fun _ => none
  handles := fun _ => none
  subscribers := fun _ => []
  killed := fun _ => false
  emitting := fun _ => false
  backends := w.backends.restart
  debug := w.debug.restart

end World

/-! ## Operations -/

/-- An atomic operation. -/
inductive Op where
  /-- A call of the admission service. -/
  | admission (call : AdmissionService.Call)
  /-- The critical section of `invalidate_lifecycle`. -/
  | lifecycleFence (targetKey : TargetKey) (generation : Int) (closeAdmission : Bool)
  /-- The critical section of an open's commit. -/
  | commit (handle : AdmissionHandle) (session : TransportSession) (state : OpenState)
      (dispatcher : Bool) (subscribe : Fault)
  | listRecords
  | readRecord (targetKey : TargetKey)
  | writeRecord (session : TransportSession) (fault : Fault)
  /-- The unlink of a delete that found the expected session. -/
  | unlinkRecord (targetKey : TargetKey) (expectedSessionId : Nat) (fault : Fault)
  | listTombstones
  | readTombstone (targetKey : TargetKey)
  | writeTombstone (tombstone : RecoveryTombstone) (fault : Fault)
  | unlinkTombstone (targetKey : TargetKey) (fault : Fault)
  | guardAcquire (targetKey : TargetKey)
  | guardRelease (targetKey : TargetKey) (token : GuardToken)
  | leaseAcquire (targetKey : TargetKey) (owner : LeaseOwner)
  | leaseRelease (targetKey : TargetKey) (token : Nat)
  | setToken (sessionId : Nat) (token : GuardToken)
  | popToken (sessionId : Nat)
  | popHandle (sessionId : Nat)
  /-- Pop a handle nobody reads. -/
  | dropHandle (sessionId : Nat)
  | unsubscribe (targetKey : TargetKey) (name : Nat)
  | subscribersOf (targetKey : TargetKey)
  | emitLock (targetKey : TargetKey)
  | emitUnlock (targetKey : TargetKey)
  | startWorker (worker : Worker)
  | killed (sessionId : Nat)
  | setKilled (sessionId : Nat)
  | attachEvent (sessionId : Nat) (event : AttachEvent)
  /-- An open learns of a backend, through a partial or the returned attachment. -/
  | reportBackend (backend : BackendIdentity) (returned : Bool)
  /-- `reap_backend`, which may not stop the backend. -/
  | reapBackend (backend : BackendIdentity) (stops : Bool)
  /-- The transport's own close of a record. -/
  | closeAttached (session : TransportSession) (raises stops : Bool)
  | loadStep (runId : String)
  | recordStep (runId : String) (step : DebugStep) (replaceSucceeded : Bool) (fault : Bool)
  | loadSession (sessionId : Nat)
  | persistSession (session : DebugSession) (fault : Fault)
  | spawnChild
  | exitChild (child : Nat)
  | registerAttachment (sessionId child : Nat)
  | lookupAttachment (sessionId : Nat)
  | reapAttachment (sessionId : Nat)
  | debugLock (runId : String)
  | debugUnlock (runId : String)

/-- The type of the response of an operation. -/
abbrev Op.Resp : Op → Type
  | .admission call => call.Reply
  | .lifecycleFence .. => Bool
  | .listRecords => List TransportSession
  | .readRecord _ => Option TransportSession
  | .listTombstones => List RecoveryTombstone
  | .readTombstone _ => Option RecoveryTombstone
  | .guardAcquire _ => GuardToken
  | .guardRelease .. => Bool
  | .leaseAcquire .. => Nat
  | .leaseRelease .. => Bool
  | .popToken _ => Option GuardToken
  | .popHandle _ => Option AdmissionHandle
  | .subscribersOf _ => List SessionSubscriber
  | .killed _ => Bool
  | .loadStep _ => Option DebugStep
  | .loadSession _ => Option DebugSession
  | .spawnChild => Nat
  | .lookupAttachment _ => Option Nat
  | .reapAttachment _ => Option Nat
  | .commit .. | .writeRecord .. | .unlinkRecord .. | .writeTombstone .. | .unlinkTombstone ..
  | .setToken .. | .dropHandle _ | .unsubscribe .. | .emitLock _ | .emitUnlock _ | .startWorker _ | .setKilled _
  | .attachEvent .. | .reportBackend .. | .reapBackend .. | .closeAttached ..
  | .recordStep .. | .persistSession .. | .exitChild _ | .registerAttachment .. | .debugLock _
  | .debugUnlock _ => Unit

namespace World

/-- The world with another admission service. -/
def withAdmission (w : World) (admission : AdmissionService) : World :=
  { w with admission := admission }

/-- Promote, enter the handle table, subscribe.  A refused promotion changes
nothing; a failed subscription comes after the rest. -/
def commit (w : World) (handle : AdmissionHandle) (session : TransportSession)
    (state : OpenState) (dispatcher : Bool) (subscribe : Fault) : Except Raised Unit × World :=
  match w.admission.promote handle with
  | .error e => (.error (.admission e), w)
  | .ok (_, admission) =>
      let committed :=
        { w with
          admission := admission
          handles := Function.update w.handles session.sessionId (some handle) }
      if dispatcher = false then (.ok (), committed)
      else
        match subscribe.check with
        | .error e => (.error e, committed)
        | .ok _ =>
            let subscriber : SessionSubscriber :=
              ⟨session, { state with admissionHandle := some handle }⟩
            let others := (w.subscribers session.targetKey).filter (·.name ≠ session.sessionId)
            (.ok (), { committed with
              subscribers :=
                Function.update w.subscribers session.targetKey (others ++ [subscriber])
              killed := Function.update w.killed session.sessionId state.backendPid.isNone })

/-- A write that may fail: a failure leaves things as they are. -/
def written {α : Type} (fault : Fault) (old new : α) : α :=
  if fault.isSome then old else new

/-- An operation on files. -/
def fileOp (w : World) (fault : Fault) (registry : SessionRegistry) :
    Except Raised Unit × World :=
  (fault.check, { w with registry := written fault w.registry registry })

/-- Perform an operation. -/
def exec : (o : Op) → World → Except Raised o.Resp × World
  | .admission call, w =>
      ((w.admission.perform call).1.mapError .admission, w.withAdmission (w.admission.after call))
  | .lifecycleFence k g close, w =>
      (.ok (w.admission.StaleLifecycleClose k g),
        w.withAdmission
          (if w.admission.StaleLifecycleClose k g ∨ close = false then w.admission
          else (w.admission.closeAdmission k g).2))
  | .commit handle session state dispatcher subscribe, w =>
      w.commit handle session state dispatcher subscribe
  | .listRecords, w => (.ok w.registry.records, w)
  | .readRecord k, w => (.ok (w.registry.readRecord k), w)
  | .writeRecord session fault, w => w.fileOp fault (w.registry.writeRecord session)
  | .unlinkRecord k _ fault, w => w.fileOp fault (w.registry.unlinkRecord k)
  | .listTombstones, w => (.ok w.registry.tombstones, w)
  | .readTombstone k, w => (.ok (w.registry.readTombstone k), w)
  | .writeTombstone tombstone fault, w => w.fileOp fault (w.registry.writeTombstone tombstone)
  | .unlinkTombstone k fault, w => w.fileOp fault (w.registry.unlinkTombstone k)
  | .guardAcquire k, w =>
      ((settle w.guard (w.guard.acquire k)).1.mapError .guard,
        { w with guard := (settle w.guard (w.guard.acquire k)).2 })
  | .guardRelease k token, w =>
      (.ok (w.guard.release k token).1, { w with guard := (w.guard.release k token).2 })
  | .leaseAcquire k owner, w =>
      ((settle w.leases (w.leases.acquire k owner)).1.mapError .lease,
        { w with leases := (settle w.leases (w.leases.acquire k owner)).2 })
  | .leaseRelease k token, w =>
      (.ok (w.leases.release k token).1, { w with leases := (w.leases.release k token).2 })
  | .setToken sid token, w =>
      (.ok (), { w with tokens := Function.update w.tokens sid (some token) })
  | .popToken sid, w => (.ok (w.tokens sid), { w with tokens := Function.update w.tokens sid none })
  | .popHandle sid, w =>
      (.ok (w.handles sid), { w with handles := Function.update w.handles sid none })
  | .dropHandle sid, w => (.ok (), { w with handles := Function.update w.handles sid none })
  | .unsubscribe k name, w =>
      (.ok (), { w with
        subscribers :=
          Function.update w.subscribers k ((w.subscribers k).filter (·.name ≠ name)) })
  | .subscribersOf k, w => (.ok (w.subscribers k), w)
  | .emitLock k, w => (.ok (), { w with emitting := Function.update w.emitting k true })
  | .emitUnlock k, w => (.ok (), { w with emitting := Function.update w.emitting k false })
  | .startWorker _, w => (.ok (), w)
  | .killed sid, w => (.ok (w.killed sid), w)
  | .setKilled sid, w => (.ok (), { w with killed := Function.update w.killed sid true })
  | .attachEvent sid e, w => (.ok (), { w with backends := w.backends.attachEvent sid e })
  | .reportBackend b _, w => (.ok (), { w with backends := w.backends.report b })
  | .reapBackend b stops, w =>
      (.ok (), { w with backends := if stops then w.backends.reap b else w.backends })
  | .closeAttached session raises stops, w =>
      (.ok (), { w with backends := w.backends.close session raises stops })
  | .loadStep run, w => (.ok (w.debug.steps run), w)
  | .recordStep run step replace fault, w =>
      (refuse (fault = true) .manifestState,
        { w with debug := if fault then w.debug else w.debug.recordStep run step replace })
  | .loadSession sid, w => (.ok (w.debug.sessions sid), w)
  | .persistSession session fault, w =>
      (fault.check, { w with debug := written fault w.debug (w.debug.persistSession session) })
  | .spawnChild, w => (.ok w.debug.spawnChild.1, { w with debug := w.debug.spawnChild.2 })
  | .exitChild child, w => (.ok (), { w with debug := w.debug.exitChild child })
  | .registerAttachment sid child, w => (.ok (), { w with debug := w.debug.register sid child })
  | .lookupAttachment sid, w => (.ok (w.debug.attachments sid), w)
  | .reapAttachment sid, w =>
      (.ok (w.debug.reap sid).1, { w with debug := (w.debug.reap sid).2 })
  | .debugLock run, w =>
      (refuse (w.debug.locked run = true) .manifestState,
        { w with debug := { w.debug with locked := Function.update w.debug.locked run true } })
  | .debugUnlock run, w =>
      (.ok (), { w with
        debug := { w.debug with locked := Function.update w.debug.locked run false } })

/-- The lock of an emit blocks, every other operation acts at once. -/
def ready : Op → World → Bool
  | .emitLock k, w => !w.emitting k
  | _, _ => true

end World

/-- A program of the server. -/
abbrev Proc (α : Type) : Type := Prog Op.Resp Raised α

/-- Call an operation. -/
abbrev call (o : Op) : Proc o.Resp := Prog.perform o

end Kdive

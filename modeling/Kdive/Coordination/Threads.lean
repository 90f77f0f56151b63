import Kdive.Coordination.Transaction
import Kdive.Transport.InjectBreak

/-!
# The threads of the coordination layer

A server thread runs one entry point of the coordination layer, or it is a
teardown worker that an emit has started.  `coordination` runs any number of
them over one world, one operation at a time.
-/

namespace Kdive

open Interleaving Program

/-- What a thread was started for. -/
inductive Activity where
  | openSession (env : OpenEnv) (request : OpenRequest) (recovery : Bool)
  | closeSession (env : CloseEnv) (sessionId : Nat) (force : Bool)
  | forceRelease (env : CloseEnv) (sessionId : Nat)
  | invalidateLifecycle (env : EmitEnv) (targetKey : TargetKey) (generation : Int)
      (closeAdmission : Bool)
  | worker (worker : Worker)
  | runTests (targetKey : TargetKey) (now : Instant)
  | introspect (targetKey : TargetKey) (now : Instant)
  | halt (session : TransportSession) (write : Fault)
  | resume (session : TransportSession) (write : Fault)
  | injectBreak (env : BreakEnv) (runId : String) (sessionId : Nat)
  /-- One call of the admission service, such as a publication or a reopen. -/
  | admission (call : AdmissionService.Call)

/-- The program of an activity. -/
def activityBody : Activity → Proc Unit
  | .openSession env request recovery => Prog.void (openSession env request recovery)
  | .closeSession env sessionId force => closeSession env sessionId force
  | .forceRelease env sessionId => forceRelease env sessionId
  | .invalidateLifecycle env k g close => invalidateLifecycle env k g close
  | .worker w => w.run
  | .runTests k now => Prog.void (admitRunTestsSshTier k now)
  | .introspect k now => Prog.void (admitIntrospectCall k now)
  | .halt session write => haltDebugTransport session write
  | .resume session write => resumeDebugTransport session write
  | .injectBreak env runId sessionId => Prog.void (transportInjectBreak env runId sessionId)
  | .admission c => Prog.void (call (.admission c))

/-- The threads an operation starts. -/
def startedBy : (o : Op) → Except Raised o.Resp → List Activity
  | .startWorker w, _ => [.worker w]
  | _, _ => []

/-- The coordination layer. -/
def coordination : Machine Op.Resp Raised World Activity where
  exec := World.exec
  ready := World.ready
  body := activityBody
  spawns := startedBy

/-- A server that starts on the disk of `w` runs a schedule. -/
def serve (w : World) (tags : List Activity) (schedule : List Nat) :
    Pool Op.Resp Raised World Activity :=
  coordination.run schedule (coordination.pool w.restart tags)

end Kdive

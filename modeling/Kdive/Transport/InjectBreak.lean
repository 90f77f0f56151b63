import Kdive.Coordination.ExecProbe
import Kdive.Coordination.LocalTarget

/-!
# Injecting a break

`transport.inject_break` stops the kernel of an open session.  It looks the
session up, records the kernel as halted, runs the break mechanism, and asks a
probe whether the kernel did halt.  When the mechanism fails or the probe does
not confirm, it writes the record it looked up back once more, as unknown.
-/

namespace Kdive

open Checked Program

/-- How a break mechanism fails. -/
inductive BreakFailure where
  /-- `InjectBreakError`, with its category. -/
  | injectBreak (category : ErrorCategory)
  /-- Another exception. -/
  | other (kind : ExceptionKind)
deriving DecidableEq, Repr

/-- What the tool answers. -/
inductive BreakReply where
  | halted
  | failure (category : ErrorCategory) (code : String)
deriving DecidableEq, Repr

/-- The outcomes outside a break. -/
structure BreakEnv where
  /-- The refusal of the permission and profile gate. -/
  gate : Option BreakReply
  /-- The outcome of the mechanism the server was given, if it was given one. -/
  mechanism : Option (Except BreakFailure Unit)
  /-- The provider table. -/
  transports : Transports
  /-- The provider still has a handle to break over. -/
  breakResources : TransportSession → Bool
  /-- The outcome of the session's own break plan. -/
  inject : Except BreakFailure Unit
  /-- What the probe observes. -/
  probe : Except ExceptionKind Bool
  /-- The write of the halted record. -/
  haltWrite : Fault
  /-- The write of the unknown record. -/
  unknownWrite : Fault

/-- No plan or no handle to execute it over. -/
def breakUnavailable : BreakFailure := .injectBreak .configurationError

/-- `inject_break_for_session`: the break plan of the record that stands now. -/
def injectBreakForSession (env : BreakEnv) (sessionId : Nat) : Proc (Except BreakFailure Unit) := do
  let found ← recordBySessionId sessionId
  pure do
    let record ← require found breakUnavailable
    let _ ← require record.breakPlan breakUnavailable
    let _ ← require (env.transports record.provider) breakUnavailable
    refuse (env.breakResources record = false) breakUnavailable
    env.inject

/-- The mechanism, as the server is set up. -/
def runBreakMechanism (env : BreakEnv) (sessionId : Nat) : Proc (Except BreakFailure Unit) :=
  match env.mechanism with
  | some outcome => pure outcome
  | none => injectBreakForSession env sessionId

/-- Why the kernel is not known to have halted, if it is not. -/
def unconfirmedBreak (env : BreakEnv) : Except BreakFailure Unit →
    Except Raised (Option ErrorCategory)
  | .error (.injectBreak category) => .ok (some category)
  | .error (.other .baseException) => .error (.external .baseException)
  | .error (.other _) => .ok (some .infrastructureFailure)
  | .ok _ =>
      match env.probe with
      | .ok true => .ok none
      | .error .baseException => .error (.external .baseException)
      | .ok false | .error _ => .ok (some .debugAttachFailure)

/-- The break of a session that was looked up. -/
def breakRecord (env : BreakEnv) (record : TransportSession) : Proc BreakReply := do
  haltDebugTransport record env.haltWrite
  let outcome ← runBreakMechanism env record.sessionId
  let unconfirmed ← .ofExcept (unconfirmedBreak env outcome)
  match unconfirmed with
  | none => pure .halted
  | some category => do
      call (.writeRecord { record with executionState := .unknown } env.unknownWrite)
      pure (.failure category "break_unconfirmed")

/-- `transport_inject_break_handler`. -/
def transportInjectBreak (env : BreakEnv) (runId : String) (sessionId : Nat) : Proc BreakReply :=
  match env.gate with
  | some refusal => pure refusal
  | none => do
      let found ← recordBySessionId sessionId
      match found with
      | none => pure (.failure .configurationError "unknown_session")
      | some record =>
          if record.targetKey ≠ localTarget runId then
            pure (.failure .configurationError "session_run_mismatch")
          else breakRecord env record

/-- A break in which nothing outside fails. -/
def BreakEnv.calm : BreakEnv where
  gate := none
  mechanism := some (.ok ())
  transports := gdbstubTransports
  breakResources := fun _ => true
  inject := .ok ()
  probe := .ok true
  haltWrite := none
  unknownWrite := none

end Kdive

import Kdive.Lib.Checked
import Kdive.Seams.TransportState

/-!
# Where a debug session lives

A debug session is kept in four places.  The manifest of its run has a `debug`
step, which names the session and the transport session it was opened over.  The
session file holds the session itself.  The attachment registry maps it to the
gdb child that is attached, and the children are the gdb processes that run.
The first two are on disk and outlive the server process.

A run stands for one local target, `localTarget run`.  The lock of a run is a
file created exclusively, so acquiring it fails at once when it is held.
-/

namespace Kdive

open Checked

/-- The target of a run. -/
def localTarget (runId : String) : TargetKey := ⟨"local-qemu", runId⟩

/-- The status of a manifest step. -/
inductive StepStatus where
  | pending
  | running
  | succeeded
  | failed
  | skipped
  | canceled
deriving DecidableEq, Repr

/-- What the debugger last saw of the kernel. -/
inductive DebugSessionState where
  | unknown
  | running
  | stopped
  | ended
deriving DecidableEq, Repr

/-- The `debug` step of a manifest. -/
structure DebugStep where
  /-- The status. -/
  status : StepStatus
  /-- The session it names. -/
  debugSessionId : Option Nat
  /-- The state it reports. -/
  currentExecutionState : DebugSessionState
  /-- The transport session it was opened over. -/
  transportSessionId : Option Nat
deriving DecidableEq, Repr

/-- The file of a debug session. -/
structure DebugSession where
  /-- The session. -/
  sessionId : Nat
  /-- Its run. -/
  runId : String
  /-- The state it was left in. -/
  currentExecutionState : DebugSessionState
deriving DecidableEq, Repr

/-- The details of a step that is an active session. -/
def debugSessionDetailsFromResult (step : DebugStep) (allowEnded : Bool) : Option DebugStep :=
  if step.status ≠ .succeeded then none
  else if allowEnded = false ∧ step.currentExecutionState = .ended then none
  else some step

/-- The stores of the debug layer. -/
structure DebugState where
  /-- The `debug` step of each run. -/
  steps : String → Option DebugStep
  /-- The session files. -/
  sessions : Nat → Option DebugSession
  /-- The attached child of each session. -/
  attachments : Nat → Option Nat
  /-- The children that run. -/
  children : List Nat
  /-- The next child. -/
  nextChild : Nat
  /-- The runs whose lock is held. -/
  locked : String → Bool

namespace DebugState

/-- Nothing was ever debugged. -/
def empty : DebugState where
  steps := fun _ => none
  sessions := fun _ => none
  attachments := fun _ => none
  children := []
  nextChild := 0
  locked := fun _ => false

/-- The stores after the server process died: the disk is as it was. -/
def restart (d : DebugState) : DebugState :=
  { d with attachments := fun _ => none, children := [] }

/-- Record a step.  A succeeded step stays unless it may be replaced. -/
def recordStep (d : DebugState) (runId : String) (step : DebugStep) (replaceSucceeded : Bool) :
    DebugState :=
  match d.steps runId with
  | some existing =>
      if existing.status = .succeeded ∧ replaceSucceeded = false then d
      else { d with steps := Function.update d.steps runId (some step) }
  | none => { d with steps := Function.update d.steps runId (some step) }

/-- Write a session file. -/
def persistSession (d : DebugState) (session : DebugSession) : DebugState :=
  { d with sessions := Function.update d.sessions session.sessionId (some session) }

/-- Start a gdb child. -/
def spawnChild (d : DebugState) : Nat × DebugState :=
  (d.nextChild, { d with children := d.children ++ [d.nextChild], nextChild := d.nextChild + 1 })

/-- Kill a gdb child. -/
def exitChild (d : DebugState) (child : Nat) : DebugState :=
  { d with children := d.children.filter (· ≠ child) }

/-- Register an attachment. -/
def register (d : DebugState) (sessionId child : Nat) : DebugState :=
  { d with attachments := Function.update d.attachments sessionId (some child) }

/-- Take an attachment out of the registry. -/
def reap (d : DebugState) (sessionId : Nat) : Option Nat × DebugState :=
  (d.attachments sessionId, { d with attachments := Function.update d.attachments sessionId none })

end DebugState

end Kdive

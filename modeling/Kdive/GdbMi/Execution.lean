import Kdive.GdbMi.Engine

/-!
# Stops, resuming and sessions

The operations that let the target run and wait for it to stop, and a session as one
attachment with any operations after each other.

A stop that is returned carries the mark of its record: the line whose execution it
ended.
-/

namespace Kdive.GdbMi

open Program

/-! ## Stops -/

/-- `StopRecord`.  `ended` is a mark. -/
structure StopRecord where
  reason : Option Text
  bkptno : Option Text
  stoppedThread : Option Text
  frame : Option Frame
  timedOut : Bool
  ended : Option Nat
deriving DecidableEq

/-- `_TERMINAL_STOP_REASONS`. -/
def TERMINAL_STOP_REASONS : List Text :=
  ["exited".toList, "exited-normally".toList, "exited-signalled".toList]

/-- The frame of a stop, if it has one. -/
def stopFrame : Option (Value Text) → Except Fault (Option Frame)
  | some (.mapping items) => do
      let frame ← frameFrom (some (.mapping items))
      return some frame
  | _ => .ok none

/-- The error of an inferior that is gone. -/
def sessionExited (reason : Text) (ended : Option Nat) : GdbMiError where
  message := "gdb/MI inferior exited (reason); the debug session is dead"
  category := .debugAttachFailure
  code := some "session_exited"
  subject := some reason
  payload := none
  ended := ended

/-- The reason of a stop if it is terminal. -/
def terminalReason (record : Record) : Option Text :=
  (asText (field record.payload "reason")).filter (· ∈ TERMINAL_STOP_REASONS)

/-- `_stop_record_from`. -/
def stopRecordFrom (record : Record) : Except Fault StopRecord :=
  match terminalReason record with
  | some reason => .error (.mi (sessionExited reason record.ended))
  | none => do
      let frame ← stopFrame (field record.payload "frame")
      return ⟨asText (field record.payload "reason"), asText (field record.payload "bkptno"),
        asText (field record.payload "stopped-threads"), frame, false, record.ended⟩

/-- The slices of `wait_for_stop` that are left. -/
def waitSlices : Nat → Mi (Option StopRecord)
  | 0 => .ret none
  | slices + 1 => do
      let records ← Prog.perform Op.read
      Prog.perform (Op.keep records)
      Prog.when (records.isEmpty = false)
        (Prog.perform (Op.appendTranscript "<read>".toList records))
      match records.find? Record.isStopped with
      | some record => do
          let stop ← Prog.ofExcept (stopRecordFrom record)
          return some stop
      | none => waitSlices slices

/-- `wait_for_stop`, over slices of half a second. -/
def waitForStop (timeout : Rat) : Mi (Option StopRecord) :=
  waitSlices (max 1 ((timeout / (1 / 2)).floor.toNat + 1))

section Resuming

variable (redactor : Redactor)

/-- `_redact_stop`. -/
def redactStop (stop : StopRecord) : StopRecord :=
  { stop with
    reason := stop.reason.map redactor.redactText
    bkptno := stop.bkptno.map redactor.redactText
    stoppedThread := stop.stoppedThread.map redactor.redactText
    frame := stop.frame.map fun frame =>
      { frame with
        func := frame.func.map redactor.redactText
        addr := frame.addr.map redactor.redactText
        file := frame.file.map redactor.redactText } }

/-- `interrupt`. -/
def interrupt : Mi (Option StopRecord) := do
  let records ← Prog.perform (Op.write "-exec-interrupt".toList)
  Prog.perform (Op.keep records)
  Prog.perform (Op.appendTranscript "-exec-interrupt".toList records)
  let stop ← waitForStop 10
  return stop.map (redactStop redactor)

/-- The exec verbs. -/
inductive ExecVerb where
  | continue_
  | step
  | next
  | finish
deriving DecidableEq

/-- The line of a verb. -/
def ExecVerb.line : ExecVerb → Text
  | .continue_ => "-exec-continue".toList
  | .step => "-exec-step".toList
  | .next => "-exec-next".toList
  | .finish => "-exec-finish".toList

/-- `MAX_INTERACTIVE_WAIT_SEC`. -/
def MAX_INTERACTIVE_WAIT_SEC : Int := 60

/-- The seconds `resume` waits. -/
def boundedWait (timeout : Rat) : Int :=
  max 1 (min (if timeout = 0 then MAX_INTERACTIVE_WAIT_SEC else timeout.ceil)
    MAX_INTERACTIVE_WAIT_SEC)

/-- The error of a link that went silent. -/
def silentError (verb : ExecVerb) : GdbMiError where
  message := "gdb/MI RSP went silent: interrupt issued but no *stopped arrived; the link stalled"
  category := .infrastructureFailure
  code := some "transport_stall"
  subject := some verb.line
  payload := none
  ended := none

/-- `resume`. -/
def resume (verb : ExecVerb) (timeout : Rat) : Mi StopRecord := do
  let _ ← runCommand redactor verb.line
  match ← waitForStop (boundedWait timeout) with
  | some stop => return redactStop redactor stop
  | none =>
      match ← interrupt redactor with
      | some interrupted => return redactStop redactor { interrupted with timedOut := true }
      | none => .raise (.mi (silentError verb))

/-- `_resume`, for `force_resume` and `resume_and_detach`. -/
def forceResume : Mi Bool := do
  Prog.suppress (Prog.perform (Op.write "-exec-continue".toList))
  Prog.suppress (Prog.perform (Op.write "-target-disconnect".toList))
  Prog.suppress (Prog.perform Op.exit)
  return true

/-! ## Sessions -/

/-- An operation on a live attachment. -/
inductive EngineOp where
  | request (request : Request)
  | listBreakpoints
  | backtrace
  | listVariables
  | resume (verb : ExecVerb) (timeout : Rat)
  | interrupt
  | waitForStop (timeout : Rat)
  | forceResume

/-- A call of an operation, whatever it returns. -/
def EngineOp.call (shown : Value Text → Text) : EngineOp → Mi Unit
  | .request (.resolveSymbol symbol) => (resolveSymbolOp redactor symbol).void
  | .request (.readSymbol symbol) => (readSymbolOp redactor symbol).void
  | .request (.evaluateInspector inspector symbol) =>
      (evaluateInspectorOp redactor inspector symbol).void
  | .request (.setBreakpoint location) => (setBreakpointOp redactor shown location).void
  | .request (.setWatchpoint expression) => (setWatchpointOp redactor shown expression).void
  | .request (.clearBreakpoint number) => clearBreakpointOp redactor number
  | .request (.readMemory address byteCount) => (readMemoryOp redactor address byteCount).void
  | .request (.readRegisters names) => (readRegistersOp redactor names).void
  | .request (.loadModuleSymbols name ko sections) =>
      (loadModuleSymbolsOp redactor name ko sections).void
  -- the lines of `attach` on an attachment that has been made are not written again
  | .request (.loadVmlinux _) => .ret ()
  | .listBreakpoints => (listBreakpointsOp redactor shown).void
  | .backtrace => (backtraceOp redactor).void
  | .listVariables => (listVariablesOp redactor).void
  | .resume verb timeout => (GdbMi.resume redactor verb timeout).void
  | .interrupt => (GdbMi.interrupt redactor).void
  | .waitForStop timeout => (GdbMi.waitForStop timeout).void
  | .forceResume => GdbMi.forceResume.void

/-- One attachment: `attach`, and if it returns any operations one after the other, each
of which may raise. -/
def session (shown : Value Text → Text) (vmlinux : ResolvedPath) (host port : Text)
    (ops : List EngineOp) : Mi Unit := do
  attach redactor vmlinux host port
  Prog.forEach ops fun op => Prog.suppress (op.call redactor shown)

end Resuming

/-- `Redactor()` with no secrets. -/
def plainRedactor : Redactor where
  secretValues := []
  filled := fun _ h => by cases h
  alnum := isWord

end Kdive.GdbMi

import Kdive.Coordination.Admission
import Kdive.Debug.SessionStore
import Kdive.Lib.Program

/-!
# Work over ssh

What `target.run_tests` and `debug.introspect.run` do from the moment the admission
service has given them an ssh-tier handle.  They call the service to dispose of it,
record steps in the manifest, and do work of their own, any of which may raise.

*Turns.*  Between two of these steps other threads call the service.  They hold no
reference to this handle, so none of their calls promotes or disposes of it.  A `Turn` is
what they call and how the step comes out.
-/

namespace Kdive.SshTier

open Program

/-- What a step raises. -/
inductive Failure where
  | admission (error : AdmissionError)
  | render
  | value
  | os
  | other

/-- The work of the two handlers. -/
inductive Work where
  | startWatcher
  | executeTests
  | redactResult
  | makeDirectories
  | renderWrapper
  | persistFiles
  | buildArgv
  | runSsh
  | chmodOutputs
  | readStderr
  | writeArtifacts
  | finalize
deriving DecidableEq

/-- A step of a handler. -/
inductive Op where
  | complete
  | rollback
  | record (status : StepStatus)
  | work (what : Work)

/-- Work responds with the status it comes to. -/
@[reducible] def Resp : Op → Type
  | .work _ => StepStatus
  | _ => Unit

/-- A program of a handler. -/
abbrev Run (α : Type) : Type := Prog Resp Failure α

/-! ## `target.run_tests` -/

/-- `_execute_tests_under_gate`.  Its `finally` ends the watcher and raises nothing. -/
def executeTestsUnderGate : Run StepStatus := do
  let _ ← Prog.perform (Op.work .startWatcher)
  let status ← Prog.perform (Op.work .executeTests)
  Prog.perform Op.complete
  return status

/-- The `try` of `_locked_run_tests_execution` and what comes after it.  Both handlers of
the `try` roll back and record a failure. -/
def runTestsRecorded : Run Unit := do
  match ← executeTestsUnderGate.attempt with
  | .error _ =>
      Prog.suppress (Prog.perform Op.rollback)
      Prog.perform (Op.record .failed)
  | .ok status =>
      let _ ← Prog.perform (Op.work .redactResult)
      Prog.perform (Op.record status)

/-- `_locked_run_tests_execution` behind the admission. -/
def runTests : Run Unit := do
  Prog.perform (Op.record .running)
  runTestsRecorded

/-! ## `debug.introspect.run` -/

/-- `_rollback_introspect_admission`. -/
def rollbackIntrospectAdmission : Run Unit := Prog.suppress (Prog.perform Op.rollback)

/-- `_record_introspect_failure`. -/
def recordIntrospectFailure : Run Unit := do
  match ← (Prog.perform (Op.work .writeArtifacts)).attempt with
  | .error .os => return ()
  | .error failure => .raise failure
  | .ok _ => Prog.perform (Op.record .failed)

/-- `_prepare_introspect_call_workspace`: whether there is a workspace. -/
def prepareIntrospectCallWorkspace : Run Bool := do
  let _ ← Prog.perform (Op.work .makeDirectories)
  match ← (Prog.perform (Op.work .renderWrapper)).attempt with
  | .error .render =>
      -- `_introspect_render_failure`
      rollbackIntrospectAdmission
      Prog.perform (Op.record .failed)
      return false
  | .error failure => .raise failure
  | .ok _ =>
      let _ ← Prog.perform (Op.work .persistFiles)
      return true

/-- A failure of the live wrapper: roll back, read what ssh left, record. -/
def liveWrapperFailure : Run Bool := do
  rollbackIntrospectAdmission
  let _ ← Prog.perform (Op.work .readStderr)
  recordIntrospectFailure
  return false

/-- `_run_live_wrapper`: whether there is a run. -/
def runLiveWrapper : Run Bool := do
  match ← (Prog.perform (Op.work .buildArgv)).attempt with
  | .error .value =>
      rollbackIntrospectAdmission
      return false
  | .error failure => .raise failure
  | .ok _ =>
      match ← (Prog.perform (Op.work .runSsh)).attempt with
      | .error _ => liveWrapperFailure
      | .ok _ =>
          let _ ← Prog.perform (Op.work .chmodOutputs)
          match ← (Prog.perform Op.complete).attempt with
          | .error (.admission _) => liveWrapperFailure
          | .error failure => .raise failure
          | .ok _ => return true

/-- `_finalize_introspect_call`. -/
def finalizeIntrospectCall : Run Unit := do
  let status ← Prog.perform (Op.work .finalize)
  if status = .succeeded then
    let _ ← Prog.perform (Op.work .writeArtifacts)
    Prog.perform (Op.record .succeeded)
  else recordIntrospectFailure

/-- The rollback of a raise while `admission_disposed` is not set. -/
def unlessDisposed {α : Type} (body : Run α) : Run α :=
  Prog.rescue body fun failure => do
    Prog.suppress (Prog.perform Op.rollback)
    .raise failure

/-- `_execute_admitted_introspect_ssh`.  The flag is set where a helper has returned, so
what it returned decides how the call goes on and nothing is rolled back after that. -/
def executeAdmittedIntrospectSsh : Run Unit := do
  if ← unlessDisposed prepareIntrospectCallWorkspace then
    if ← unlessDisposed runLiveWrapper then
      finalizeIntrospectCall

/-- The two handlers. -/
inductive Handler where
  | runTests
  | introspectRun
deriving DecidableEq

/-- What a handler does with its handle. -/
def Handler.call : Handler → Run Unit
  | .runTests => SshTier.runTests
  | .introspectRun => executeAdmittedIntrospectSsh

/-! ## Execution -/

/-- The calls of others between two steps, and how the second comes out. -/
structure Turn where
  others : List AdmissionService.Call
  result : Except Failure StepStatus

/-- The handle that a call promotes or disposes of. -/
def takes : AdmissionService.Call → Option Nat
  | .promote handle | .complete handle | .rollback handle | .abandon handle =>
      some handle.handleId
  | _ => none

/-- The service, the disposals of the handle that were not refused, and the steps that
were recorded. -/
structure Desk where
  service : AdmissionService
  disposals : List AdmissionState
  recorded : List StepStatus
  turns : List Turn

/-- The others' calls, none of which takes the handle. -/
def interfere (handle : AdmissionHandle) (calls : List AdmissionService.Call)
    (service : AdmissionService) : AdmissionService :=
  (calls.filter fun c => takes c ≠ some handle.handleId).foldl (fun s c => s.after c) service

/-- The next turn: the others have called, and this is how the step comes out. -/
def Desk.turn (handle : AdmissionHandle) (desk : Desk) : Except Failure StepStatus × Desk :=
  match desk.turns with
  | [] => (.ok .succeeded, desk)
  | turn :: turns =>
      (turn.result,
        { desk with service := interfere handle turn.others desk.service, turns := turns })

/-- A disposal of the handle, which the service may refuse. -/
def Desk.dispose (desk : Desk) (state : AdmissionState)
    (result : Except AdmissionError (Unit × AdmissionService)) : Except Failure Unit × Desk :=
  match result with
  | .error error => (.error (.admission error), desk)
  | .ok (_, service) =>
      (.ok (), { desk with service := service, disposals := desk.disposals ++ [state] })

/-- Execute a step. -/
def exec (handle : AdmissionHandle) : (o : Op) → Desk → Except Failure (Resp o) × Desk
  | .complete, desk =>
      let next := (desk.turn handle).2
      next.dispose .completed (next.service.complete handle)
  | .rollback, desk =>
      let next := (desk.turn handle).2
      next.dispose .rolledBack (next.service.rollback handle)
  | .record status, desk =>
      match desk.turn handle with
      | (.error failure, next) => (.error failure, next)
      | (.ok _, next) => (.ok (), { next with recorded := next.recorded ++ [status] })
  | .work _, desk => desk.turn handle

/-- A handler that was just given its handle. -/
def admitted (service : AdmissionService) (turns : List Turn) : Desk where
  service := service
  disposals := []
  recorded := []
  turns := turns

end Kdive.SshTier

import Kdive.Target.SshWork

/-!
# A run of tests, command by command

What `execute_tests` does behind the one step that `Target/SshWork` gives it: the ssh
commands of a plan, one after the other, and the kernel log behind them.

*Polling.*  The runner looks at a command every tenth of a second.  A command that has not
ended is killed once the runner's event is set or its time is over.  `execute_tests` never
looks at the event: it hands it to the runner of every command.

*Moments.*  Between two steps others call the admission service, the watcher may hand a
cancelled handle's fence over to the event, and the command that runs may end.  A run is a
list of such moments, so the fence is set and the event follows anywhere in it.

*The log.*  `World.log` has what happened in order: commands that start, end or are killed,
the looks that found one running, and the event.
-/

namespace Kdive.TestRun

open Program SshTier

/-! ## Plans -/

/-- A command of a plan. -/
structure PlannedTestCommand where
  label : String
  required : Bool
  timeoutSeconds : Nat
deriving DecidableEq, Repr

/-- A plan. -/
structure TestPlan where
  commands : List PlannedTestCommand
  /-- The command for the kernel log. -/
  dmesgCommand : Option PlannedTestCommand
  stopOnFailure : Bool
deriving DecidableEq, Repr

/-- Why the runner stopped looking. -/
inductive SshStopReason where
  | completed (returncode : Int)
  | cancelled
  | timedOut
deriving DecidableEq, Repr

/-- What a runner says of its command. -/
structure SshCommandResult where
  exitStatus : Int
  timedOut : Bool
  cancelled : Bool
deriving DecidableEq, Repr

/-- The result for a reason. -/
def SshStopReason.result : SshStopReason → SshCommandResult
  | .completed returncode => ⟨returncode, false, false⟩
  | .cancelled => ⟨-1, false, true⟩
  | .timedOut => ⟨-1, true, false⟩

/-! ## Programs -/

/-- Work with files around the commands. -/
inductive FileWork where
  | makeDirectories
  | openOutputs
  | readSnippets
  | writeMetadata
  | writeSummary
deriving DecidableEq

/-- A step of a run of tests. -/
inductive Step where
  /-- A step of the handler around it. -/
  | tier (o : SshTier.Op)
  | files (what : FileWork)
  /-- `which("ssh")` -/
  | which
  /-- `Popen` -/
  | start (command : PlannedTestCommand)
  /-- `proc.wait(timeout=0.1)`: the return code, or the command still runs. -/
  | wait
  /-- `cancel.is_set()` -/
  | isSet
  /-- `_terminate_and_wait`: `SIGKILL` for the group of the command. -/
  | terminateAndWait

/-- What a step responds with. -/
@[reducible] def Answer : Step → Type
  | .tier o => SshTier.Resp o
  | .which | .isSet => Bool
  | .wait => Option Int
  | .files _ | .start _ | .terminateAndWait => Unit

/-- A program of steps. -/
abbrev Script (α : Type) : Type := Prog Answer Failure α

/-- A pass of the loop of `_poll_until_stop`, up to the look at the time. -/
def pollOnce (next : Script SshStopReason) : Script SshStopReason := do
  match ← Prog.perform Step.wait with
  | some returncode => return .completed returncode
  | none =>
      if ← Prog.perform Step.isSet then
        Prog.perform Step.terminateAndWait
        return .cancelled
      else next

/-- `_poll_until_stop` with so many more passes before the time is over.  No runner of tests
has a bound on the output. -/
def pollUntilStop : Nat → Script SshStopReason
  | 0 => pollOnce do
      Prog.perform Step.terminateAndWait
      return .timedOut
  | passes + 1 => pollOnce (pollUntilStop passes)

/-- `SubprocessSshRunner.run`.  The first look is made in any case, and ten of them are a
second. -/
def runCommand (command : PlannedTestCommand) : Script SshCommandResult := do
  Prog.perform (Step.files .openOutputs)
  Prog.perform (Step.start command)
  let reason ← pollUntilStop (10 * command.timeoutSeconds - 1)
  Prog.perform (Step.files .readSnippets)
  return reason.result

/-- A required command failed. -/
def RequiredFailed (command : PlannedTestCommand) (result : SshCommandResult) : Prop :=
  command.required = true ∧ (result.exitStatus ≠ 0 ∨ result.timedOut = true)

instance (command : PlannedTestCommand) (result : SshCommandResult) :
    Decidable (RequiredFailed command result) := inferInstanceAs (Decidable (_ ∧ _))

/-- The commands of a suite: whether a required one has failed. -/
def runCommands (stopOnFailure : Bool) : List PlannedTestCommand → Bool → Script Bool
  | [], requiredFailed => return requiredFailed
  | command :: commands, requiredFailed => do
      let result ← runCommand command
      Prog.perform (Step.files .writeMetadata)
      if RequiredFailed command result then
        if stopOnFailure then return true else runCommands stopOnFailure commands true
      else runCommands stopOnFailure commands requiredFailed

/-- `execute_tests`. -/
def executeTests (plan : TestPlan) : Script StepStatus := do
  Prog.perform (Step.files .makeDirectories)
  if ← Prog.perform Step.which then
    let requiredFailed ← runCommands plan.stopOnFailure plan.commands false
    Prog.forSome plan.dmesgCommand fun command => Prog.void (runCommand command)
    Prog.perform (Step.files .writeSummary)
    return if requiredFailed then .failed else .succeeded
  else
    Prog.perform (Step.files .writeSummary)
    return .failed

/-- The steps of the handler, `execute_tests` taken apart. -/
def detail (plan : TestPlan) : (o : SshTier.Op) → Script (SshTier.Resp o)
  | .work .executeTests => executeTests plan
  | .work what => Prog.perform (Step.tier (.work what))
  | .complete => Prog.perform (Step.tier .complete)
  | .rollback => Prog.perform (Step.tier .rollback)
  | .record status => Prog.perform (Step.tier (.record status))

/-- `target.run_tests` behind its admission. -/
def runTests (plan : TestPlan) : Script Unit := SshTier.runTests.expand (detail plan)

/-! ## Execution -/

/-- What is seen of a run. -/
inductive Event where
  | start (command : PlannedTestCommand)
  /-- A look that finds the command running. -/
  | look (command : PlannedTestCommand)
  /-- The command ends by itself. -/
  | exit (command : PlannedTestCommand) (returncode : Int)
  /-- The command is killed. -/
  | kill (command : PlannedTestCommand)
  /-- The event becomes set. -/
  | set
deriving DecidableEq, Repr

/-- The process of the runner. -/
inductive Process where
  | none
  | running (command : PlannedTestCommand)
  | ended (returncode : Int)
deriving DecidableEq, Repr

/-- What happens before a step, next to the calls of others. -/
structure Moment where
  /-- The command ends. -/
  exit : Option Int
  /-- The watcher looks at the fence of the handle. -/
  watched : Bool
  /-- There is an `ssh`. -/
  found : Bool

/-- The handler, the runner's event and its process, and what happened. -/
structure World where
  desk : Desk
  runnerCancel : Bool
  process : Process
  log : List Event
  moments : List Moment

/-- The command ends, if one runs. -/
def World.exits (world : World) (exit : Option Int) : World :=
  match world.process, exit with
  | .running command, some returncode =>
      { world with process := .ended returncode, log := world.log ++ [.exit command returncode] }
  | _, _ => world

/-- The watcher sets the event if the handle is cancelled. -/
def World.watches (handle : AdmissionHandle) (world : World) (watched : Bool) : World :=
  if watched = true ∧ world.desk.service.Cancelled handle ∧ world.runnerCancel = false then
    { world with runnerCancel := true, log := world.log ++ [.set] }
  else world

/-- The next moment, and whether there is an `ssh`. -/
def World.pass (handle : AdmissionHandle) (world : World) : Bool × World :=
  match world.moments with
  | [] => (true, world)
  | moment :: moments =>
      (moment.found,
        ({ world with moments := moments }.watches handle moment.watched).exits moment.exit)

/-- Others have called, the moment has passed, and this is how the step comes out. -/
def World.turn (handle : AdmissionHandle) (world : World) :
    Except Failure StepStatus × Bool × World :=
  let (result, desk) := world.desk.turn handle
  (result, { world with desk := desk }.pass handle)

/-- Execute a step.  Looking at a process and killing it do not raise. -/
def exec (handle : AdmissionHandle) :
    (step : Step) → World → Except Failure (Answer step) × World
  | .tier o, world =>
      let next := (world.pass handle).2
      let (result, desk) := SshTier.exec handle o next.desk
      (result, { next with desk := desk })
  | .files _, world =>
      match world.turn handle with
      | (.error failure, _, next) => (.error failure, next)
      | (.ok _, _, next) => (.ok (), next)
  | .which, world =>
      let (_, found, next) := world.turn handle
      (.ok found, next)
  | .start command, world =>
      match world.turn handle with
      | (.error failure, _, next) => (.error failure, next)
      | (.ok _, _, next) =>
          (.ok (), { next with process := .running command, log := next.log ++ [.start command] })
  | .wait, world =>
      let (_, _, next) := world.turn handle
      match next.process with
      | .none => (.ok none, next)
      | .running command => (.ok none, { next with log := next.log ++ [.look command] })
      | .ended returncode => (.ok (some returncode), { next with process := .none })
  | .isSet, world =>
      let (_, _, next) := world.turn handle
      (.ok next.runnerCancel, next)
  | .terminateAndWait, world =>
      let (_, _, next) := world.turn handle
      match next.process with
      | .running command =>
          (.ok (), { next with process := .none, log := next.log ++ [.kill command] })
      | _ => (.ok (), { next with process := .none })

/-- A run of tests whose handle was just admitted. -/
def admitted (service : AdmissionService) (turns : List Turn) (moments : List Moment) : World where
  desk := SshTier.admitted service turns
  runnerCancel := false
  process := .none
  log := []
  moments := moments

end Kdive.TestRun

import Kdive.Artifacts.Manifest
import Kdive.Introspect.Payload
import Kdive.Lib.Utf8
import Kdive.Seams.Target

/-!
# Finalizing an introspection call

When the wrapper has run, the host reads what it printed, sorts out the failures of the runner, the
failures the wrapper reports and a build id that disagrees, and records one step of the call.

*Outcomes.*  A call ends with a response or with an exception, and with the steps it recorded
(`Outcome`).  The files it writes and the manifest may fail, which is given with the call.

*Guarantee.*  `Finalized` says that the content raises nothing, that one step is recorded, and that
only a genuine result is a success.  `finalized_iff` says for which calls this is so.
-/

namespace Kdive.Introspect

open Artifacts (ArtifactRef StepResult)

/-! ## Calls -/

/-- `SshCommandResult` -/
structure RunnerResult where
  exitStatus : Int
  timedOut : Bool
  cancelled : Bool
  stdinFailed : Bool
  oversizedOutput : Bool

/-- `PostValidatorVerdict` -/
structure Verdict where
  ok : Bool
  failureCode : Option String
  failureMessage : Option String
  failureCategory : Option ErrorCategory
  extraStepDetails : List (String × Payload)
  extraResponseData : List (String × Payload)

/-- `IntrospectFinalizationContext`, with the octets of the runner's files and with what writing
files and recording a step come to. -/
structure FinalizationContext where
  callId : String
  agentDir : String
  sensitiveCallDir : String
  result : RunnerResult
  stdout : Option (List Nat)
  stderr : Option (List Nat)
  /-- Those of `stdout.raw` and `stderr.raw` that exist. -/
  rawNames : List String
  startedAt : String
  finishedAt : String
  durationMs : Int
  redactor : Redactor
  expectedBuildId : PyText
  requestTimeoutSeconds : Int
  operationName : String
  drgnOpenMessage : String
  execPrincipal : Option String
  /-- It may raise. -/
  postValidator : Option (Payload → Except Unit (Option Verdict))
  allowWrite : Bool
  acknowledgedPermissions : List String
  /-- `stderr.log` cannot be written. -/
  stderrFault : Option String
  /-- `stdout.json` cannot be written. -/
  stdoutFault : Option String
  /-- The manifest cannot be written. -/
  recordFault : Option String

/-- What a call raises. -/
inductive Raised where
  | valueError
  | recursionError
  | attributeError
  | typeError
  /-- `PydanticSerializationError` -/
  | serializationError
  | validatorError
  | osError (message : String)
  | manifestStateError (message : String)
deriving DecidableEq, Repr

/-- An exception that the content brings about. -/
def Raised.FromContent : Raised → Prop
  | .osError _ | .manifestStateError _ => False
  | _ => True

inductive ToolResponse where
  | success (summary : String) (artifacts : List ArtifactRef) (suggestedNextActions : List String)
      (data : List (String × Payload))
  | failure (category : ErrorCategory) (message : String) (details : List (String × Payload))
      (artifacts : List ArtifactRef)

/-- How a call ends, and what it recorded. -/
structure Outcome where
  recorded : List (StepResult Payload)
  reply : Except Raised ToolResponse

/-- Nothing is recorded. -/
def Outcome.raised (e : Raised) : Outcome := ⟨[], .error e⟩

/-! ## Reading -/

/-- `RUN_STDOUT_CAP` -/
def RUN_STDOUT_CAP : Nat := 2 * 1024 * 1024

/-- `_read_capped` -/
def readCapped (file : Option (List Nat)) (cap : Nat) : Option Text :=
  match file with
  | none => some []
  | some octets => if octets.length > cap then none else some (Utf8.decode octets)

/-- `raw_stdout` -/
def FinalizationContext.rawStdout (ctx : FinalizationContext) : Option Text :=
  readCapped ctx.stdout RUN_STDOUT_CAP

/-- `raw_stderr` -/
def FinalizationContext.rawStderr (ctx : FinalizationContext) : Text :=
  (ctx.stderr.map Utf8.decode).getD []

/-- The output as JSON.  A `JSONDecodeError` is caught, and `null` is the same as no output. -/
def parseStdout (py : Interpreter) (ctx : FinalizationContext) : Except Raised (Option Payload) :=
  match ctx.rawStdout with
  | none | some [] => .ok none
  | some text =>
      match loads py text with
      | .ok (.scalar .none) => .ok none
      | .ok payload => .ok (some payload)
      | .error .decode => .ok none
      | .error .tooManyDigits => .error .valueError
      | .error .recursion | .error .fuel => .error .recursionError

/-! ## Failures -/

/-- What a failure says. -/
structure FailureSpec where
  category : ErrorCategory
  code : String
  message : String
  outcomeStatusForForensics : Option String

/-- `_triage_introspect_runner_output`, behind the parse. -/
def triage (ctx : FinalizationContext) (parsed : Option Payload) : Option FailureSpec :=
  if ctx.result.oversizedOutput ∨ ctx.rawStdout = none then
    some ⟨.infrastructureFailure, "oversized_output",
      "introspect stdout exceeded " ++ toString RUN_STDOUT_CAP ++ " bytes", none⟩
  else if ctx.result.cancelled then
    some ⟨.readinessFailure, "introspect_cancelled",
      "introspect call cancelled by admission fence", none⟩
  else if ctx.result.stdinFailed then
    some ⟨.infrastructureFailure, "ssh_stdin_failure",
      "wrapper payload was not fully written to the runner stdin", none⟩
  else if ctx.result.timedOut then
    some ⟨.infrastructureFailure, "ssh_timeout",
      "runner round trip exceeded host-side timeout margin", none⟩
  else if ctx.result.exitStatus = 124 ∧ parsed.isNone then
    some ⟨.infrastructureFailure, "introspect_timeout", "timeout(1) fired", none⟩
  else if parsed.isNone then
    some ⟨.infrastructureFailure, "wrapper_crash",
      "wrapper exited " ++ toString ctx.result.exitStatus ++ " without a parseable JSON document",
      none⟩
  else none

/-- `_introspect_wrapper_failure_by_status` -/
def wrapperFailureByStatus (drgnOpenMessage : String) : List (String × FailureSpec) :=
  [("drgn_open_failure",
      ⟨.infrastructureFailure, "drgn_open_failure", drgnOpenMessage, "drgn_open_failure"⟩),
   ("drgn_version_skew",
      ⟨.infrastructureFailure, "drgn_version_skew",
        "drgn's module API lacks main_module().build_id (version skew); see outcome.drgn_version",
        "drgn_version_skew"⟩),
   ("drgn_api_incompatible",
      ⟨.infrastructureFailure, "drgn_api_incompatible",
        "drgn raised resolving main_module().build_id; the installed drgn is incompatible " ++
          "with the introspect wrapper (see outcome.error_type and outcome.drgn_version)",
        "drgn_api_incompatible"⟩),
   ("provenance_unverifiable",
      ⟨.configurationError, "provenance_unverifiable",
        "target reports no embedded build-id; provenance cannot be verified",
        "provenance_unverifiable"⟩),
   ("provenance_mismatch",
      ⟨.configurationError, "provenance_mismatch",
        "kernel build_id does not match the expected build_id", "provenance_mismatch"⟩),
   ("script_compile_error",
      ⟨.configurationError, "script_compile_error", "user script failed to compile",
        "script_compile_error"⟩),
   ("write_mode_disabled",
      ⟨.configurationError, "write_mode_disabled",
        "script attempted a drgn write API but allow_write is false", "write_mode_disabled"⟩),
   ("wrapper_internal_error",
      ⟨.infrastructureFailure, "wrapper_crash",
        "wrapper exited 6 with a minimal-recovery JSON document", "wrapper_internal_error"⟩)]

/-- The failure of a status, which is looked up if it is a string. -/
def statusFailure (drgnOpenMessage : String) (status : Option Payload) : Option FailureSpec :=
  match status with
  | some (.str text) =>
      ((wrapperFailureByStatus drgnOpenMessage).find? fun entry => host entry.1 = text).map Prod.snd
  | _ => none

/-- What the raw payload says of the build id.  A payload that is no mapping has no `get`. -/
def buildIdFailure (ctx : FinalizationContext) : Payload → Except Raised (Option FailureSpec)
  | .mapping items =>
      match getItem "build_id" items with
      | some (.str observed) =>
          if observed = ctx.expectedBuildId then .ok none
          else .ok (some ⟨.configurationError, "provenance_mismatch",
            "host build_id verify disagrees with the wrapper-reported id",
            "provenance_inconsistent"⟩)
      | _ => .ok (some ⟨.configurationError, "provenance_mismatch",
          "wrapper reported success without a build_id; cannot confirm provenance",
          "provenance_inconsistent"⟩)
  | _ => .error .attributeError

/-- `_map_introspect_wrapper_failure`, up to the record. -/
def mapWrapperFailure (ctx : FinalizationContext) (parsed redacted : Payload) :
    Except Raised (Option FailureSpec) :=
  match statusFailure ctx.drgnOpenMessage (Payload.outcomeStatus redacted) with
  | some spec => .ok (some spec)
  | none => buildIdFailure ctx parsed

/-! ## Records -/

/-- An artifact under a directory. -/
def artifact (dir name kind : String) (sensitive : Bool) : ArtifactRef :=
  ⟨dir ++ "/" ++ name, kind, sensitive, none⟩

/-- The artifacts of a call, with or without its payload. -/
def FinalizationContext.artifacts (ctx : FinalizationContext) (beforeStderr afterStderr : Bool) :
    List ArtifactRef :=
  let payload := artifact ctx.agentDir "stdout.json" "application/json" false
  [artifact ctx.agentDir "request.json" "application/json" false,
   artifact ctx.agentDir "wrapper.skeleton.py" "text/x-python" false,
   artifact ctx.sensitiveCallDir "wrapper.py" "text/x-python" true] ++
    (if beforeStderr then [payload] else []) ++
    [artifact ctx.agentDir "stderr.log" "text/plain" false] ++
    (if afterStderr then [payload] else []) ++
    ctx.rawNames.map fun name =>
      artifact ctx.sensitiveCallDir name "application/octet-stream" true

/-- The artifacts that are shown. -/
def publicArtifacts (artifacts : List ArtifactRef) : List ArtifactRef :=
  artifacts.filter fun a => !a.sensitive

/-- What every step says of the permissions. -/
def FinalizationContext.audit (ctx : FinalizationContext) : List (String × Payload) :=
  (match ctx.execPrincipal with
    | some user => [("ssh_user", hostStr user)]
    | none => []) ++
  [("allow_write", hostBool ctx.allowWrite)] ++
  (if ctx.allowWrite then
    [("acknowledged_permissions", .list (ctx.acknowledgedPermissions.map hostStr))]
  else [])

/-- `_record_terminal_introspect_result`, and the response behind it. -/
def record (py : Interpreter) (ctx : FinalizationContext) (step : StepResult Payload)
    (response : ToolResponse) : Outcome :=
  match ctx.recordFault with
  | some message => .raised (.manifestStateError message)
  | none =>
      if py.modelDumps step.details then ⟨[step], .ok response⟩ else .raised .serializationError

/-- The details of a failed step. -/
def FinalizationContext.failureDetails (ctx : FinalizationContext) (spec : FailureSpec) :
    List (String × Payload) :=
  [("call_id", hostStr ctx.callId),
   ("timeout_seconds", hostInt ctx.requestTimeoutSeconds),
   ("duration_ms", hostInt ctx.durationMs),
   ("wrapper_exit_code", hostInt ctx.result.exitStatus),
   ("outcome_status", hostStr? spec.outcomeStatusForForensics),
   ("code", hostStr spec.code)] ++ ctx.audit

/-- The failed step. -/
def FinalizationContext.failedStep (ctx : FinalizationContext) (spec : FailureSpec)
    (withPayload : Bool) : StepResult Payload :=
  ⟨"introspect:" ++ ctx.callId, .failed, spec.message, ctx.artifacts false withPayload,
    ctx.failureDetails spec⟩

/-- The response when the artifacts of a failure cannot be written.  Nothing is recorded. -/
def artifactWriteFailed (ctx : FinalizationContext) (spec : FailureSpec) (message : String) :
    Outcome :=
  ⟨[], .ok (.failure .infrastructureFailure "failed to write introspect failure artifacts"
    [("code", hostStr "artifact_write_failed"),
     ("call_id", hostStr ctx.callId),
     ("artifact_error", hostStr message),
     ("original_code", hostStr spec.code),
     ("original_message", hostStr spec.message)] [])⟩

/-- `_record_introspect_failure`.  The payload is written if it is a mapping. -/
def recordFailure (py : Interpreter) (ctx : FinalizationContext) (spec : FailureSpec)
    (redacted : Option Payload) : Outcome :=
  let step := ctx.failedStep spec redacted.isSome
  let response : ToolResponse := .failure spec.category spec.message
    [("code", hostStr spec.code), ("call_id", hostStr ctx.callId),
     ("outcome_status", hostStr? spec.outcomeStatusForForensics)]
    (publicArtifacts step.artifacts)
  match ctx.stderrFault, redacted with
  | some message, _ => artifactWriteFailed ctx spec message
  | none, some (.mapping items) =>
      if py.dumpsFits (.mapping items) then
        match ctx.stdoutFault with
        | some message => artifactWriteFailed ctx spec message
        | none => record py ctx step response
      else .raised .recursionError
  | none, _ => record py ctx step response

/-! ## Success -/

/-- An artifact as JSON. -/
def dumpArtifact (a : ArtifactRef) : Payload :=
  .mapping [(.str "path".toList, hostStr a.path), (.str "kind".toList, hostStr a.kind),
    (.str "sensitive".toList, hostBool a.sensitive),
    (.str "description".toList, hostStr? a.description)]

/-- The outcome that is shown of a script that raised. -/
def scriptErrorOutcome (outcome : List (Key × Payload)) : Payload :=
  .mapping ((.str "status".toList, hostStr "error") ::
    ["error_type", "error_message", "traceback"].filterMap fun key =>
      (getItem key outcome).map fun value => (.str key.toList, value))

/-- `diagnostic` -/
def diagnosticText (py : Interpreter) (timeoutSeconds : Int) (preludeMs : Payload) : Payload :=
  .str (ofText ("prelude (".toList ++ showNumber py preludeMs ++ (" ms) consumed >= " ++
    toString PRELUDE_WARNING_FRACTION_PCT ++ "% of timeout_seconds (" ++
    toString timeoutSeconds ++ " s); consider raising timeout_seconds.").toList))

/-- `_build_introspect_success_response`.  `none` is a `TypeError`. -/
def buildSuccessResponse (py : Interpreter) (ctx : FinalizationContext) (redacted : Payload)
    (artifacts : List ArtifactRef) : Option (List (String × Payload)) :=
  let payload := Payload.items redacted
  let status := Payload.outcomeStatus redacted
  let preludeMs := (getItem "prelude_ms" payload).getD (hostInt 0)
  let warnings := (getItem "warnings" payload).getD (.list [])
  match preludeHeavy? py ctx.requestTimeoutSeconds preludeMs,
    headTail? py ((getItem "user_stdout" payload).getD (hostStr "")) with
  | some heavy, some snippet =>
      let scriptError := match status with
        | some (.str text) => decide (text = host "error")
        | _ => false
      some ([("call_id", hostStr ctx.callId),
        ("status", hostStr (if scriptError then "script_error" else "ok")),
        ("outcome", match scriptError, getItem "outcome" payload with
          | true, some (.mapping outcome) => scriptErrorOutcome outcome
          | _, _ => .mapping [(.str "status".toList, hostStr "ok")]),
        ("emits", (getItem "emits" payload).getD (.list [])),
        ("user_stdout_snippet", snippet),
        ("drgn_stderr_snippet", .str (ofText (drgnStderrSnippet ctx.redactor ctx.rawStderr))),
        ("build_id", (getItem "build_id" payload).getD (.scalar .none)),
        ("truncated", (getItem "truncated" payload).getD (.mapping [])),
        ("started_at", hostStr ctx.startedAt),
        ("finished_at", hostStr ctx.finishedAt),
        ("duration_ms", hostInt ctx.durationMs),
        ("prelude_ms", preludeMs),
        ("artifacts", .list ((publicArtifacts artifacts).map dumpArtifact)),
        ("diagnostic", if heavy then diagnosticText py ctx.requestTimeoutSeconds preludeMs
          else .scalar .none)] ++
        (if warnings.truthy then [("warnings", warnings)] else []))
  | _, _ => none

/-- `details.update(extra)` -/
def updateDetails (details extra : List (String × Payload)) : List (String × Payload) :=
  extra.foldl (fun details item => Artifacts.setItem item.1 item.2 details) details

/-- The details of a step behind the wrapper. -/
def FinalizationContext.stepDetails (ctx : FinalizationContext) (redacted : Payload)
    (verdict : Option Verdict) : List (String × Payload) :=
  let payload := Payload.items redacted
  let details := [("call_id", hostStr ctx.callId),
    ("build_id", (getItem "build_id" payload).getD (.scalar .none)),
    ("timeout_seconds", hostInt ctx.requestTimeoutSeconds),
    ("wrapper_exit_code", hostInt ctx.result.exitStatus),
    ("duration_ms", hostInt ctx.durationMs),
    ("prelude_ms", (getItem "prelude_ms" payload).getD (hostInt 0)),
    ("truncated", (getItem "truncated" payload).getD (.mapping [])),
    ("outcome_status", (Payload.outcomeStatus redacted).getD (.scalar .none))] ++ ctx.audit
  match verdict with
  | none => details
  | some verdict =>
      let details := updateDetails details verdict.extraStepDetails
      if verdict.ok then details
      else Artifacts.setItem "code" (hostStr? verdict.failureCode) details

/-- The validator takes the payload, or there is none. -/
def Rejects (verdict : Option Verdict) : Prop := ∃ v, verdict = some v ∧ v.ok = false

instance (verdict : Option Verdict) : Decidable (Rejects verdict) :=
  match verdict with
  | none => .isFalse fun ⟨_, h, _⟩ => nomatch h
  | some v => decidable_of_iff (v.ok = false) ⟨fun h => ⟨v, rfl, h⟩, fun ⟨_, h, hok⟩ =>
      Option.some.inj h ▸ hok⟩

/-- The verdict on a payload. -/
def FinalizationContext.verdict (ctx : FinalizationContext) (redacted : Payload) :
    Except Unit (Option Verdict) :=
  match ctx.postValidator with
  | none => .ok none
  | some validate => validate redacted

/-- The step and the response of a call with a verdict. -/
def concluded (ctx : FinalizationContext) (redacted : Payload) (verdict : Option Verdict)
    (data : List (String × Payload)) : StepResult Payload × ToolResponse :=
  let artifacts := ctx.artifacts true false
  let shortId := String.ofList (ctx.callId.toList.take 8)
  let okText := "introspect call " ++ shortId ++ " ok"
  let actions := ["artifacts.get_manifest", ctx.operationName]
  let step (status : StepStatus) (summary : String) : StepResult Payload :=
    ⟨"introspect:" ++ ctx.callId, status, summary, artifacts, ctx.stepDetails redacted verdict⟩
  match verdict with
  | none => (step .succeeded okText, .success okText (publicArtifacts artifacts) actions data)
  | some verdict =>
      if verdict.ok then
        (step .succeeded okText,
          .success okText (publicArtifacts artifacts) actions
            (updateDetails verdict.extraResponseData
              (data.filter fun item => item.1 ∈ ["call_id", "truncated", "prelude_ms"])))
      else
        (step .failed ("introspect call " ++ shortId ++ " failed: " ++
            verdict.failureCode.getD "None"),
          .failure (verdict.failureCategory.getD .infrastructureFailure)
            (match verdict.failureMessage with
              | some "" | none => "post-validator rejected the introspect result"
              | some message => message)
            [("code", hostStr? verdict.failureCode), ("call_id", hostStr ctx.callId)] [])

/-- `_record_introspect_success` -/
def recordSuccess (py : Interpreter) (ctx : FinalizationContext) (redacted : Payload) : Outcome :=
  if py.dumpsFits redacted = false then .raised .recursionError
  else
    match ctx.stdoutFault, ctx.stderrFault with
    | some message, _ => .raised (.osError message)
    | none, some message => .raised (.osError message)
    | none, none =>
        match buildSuccessResponse py ctx redacted (ctx.artifacts true false) with
        | none => .raised .typeError
        | some data =>
            match ctx.verdict redacted with
            | .error _ => .raised .validatorError
            | .ok verdict =>
                record py ctx (concluded ctx redacted verdict data).1
                  (concluded ctx redacted verdict data).2

/-- `_finalize_introspect_call` -/
def finalize (py : Interpreter) (ctx : FinalizationContext) : Outcome :=
  match parseStdout py ctx with
  | .error e => .raised e
  | .ok parsed =>
      match triage ctx parsed, parsed with
      | some spec, _ => recordFailure py ctx spec none
      | none, none => .raised .attributeError
      | none, some payload =>
          if py.redactFits payload = false then .raised .recursionError
          else
            let redacted := redactPayload ctx.redactor payload
            match mapWrapperFailure ctx payload redacted with
            | .error e => .raised e
            | .ok (some spec) => recordFailure py ctx spec (some redacted)
            | .ok none => recordSuccess py ctx redacted

/-! ## The guarantee -/

/-- The runner reports no failure. -/
def RunnerResult.Clean (result : RunnerResult) : Prop :=
  result.timedOut = false ∧ result.cancelled = false ∧ result.stdinFailed = false ∧
    result.oversizedOutput = false

/-- The status of a script that ran. -/
def Ran (payload : Payload) : Prop :=
  Payload.outcomeStatus payload = some (hostStr "ok") ∨
    Payload.outcomeStatus payload = some (hostStr "error")

/-- The output is a JSON object whose script ran on the kernel that was expected, and the runner
reports no failure. -/
def Genuine (py : Interpreter) (ctx : FinalizationContext) : Prop :=
  ctx.result.Clean ∧ ∃ text items, ctx.rawStdout = some text ∧
    loads py text = .ok (.mapping items) ∧ Ran (.mapping items) ∧
    getItem "build_id" items = some (.str ctx.expectedBuildId)

/-- What a call promises. -/
structure Finalized (py : Interpreter) (ctx : FinalizationContext) (outcome : Outcome) : Prop where
  calm : ∀ e, outcome.reply = .error e → ¬ e.FromContent
  once : ∃ step, outcome.recorded = [step] ∧ step.stepName = "introspect:" ++ ctx.callId ∧
    (step.status = .succeeded ∨ step.status = .failed)
  genuine : (∃ step ∈ outcome.recorded, step.status = .succeeded) ∨
    (∃ summary artifacts actions data,
      outcome.reply = .ok (.success summary artifacts actions data)) → Genuine py ctx

/-! ## The condition -/

/-- The runner reports no failure, and this is what its output holds. -/
def Admitted (py : Interpreter) (ctx : FinalizationContext) (payload : Payload) : Prop :=
  ctx.result.Clean ∧ ∃ text, ctx.rawStdout = some text ∧ loads py text = .ok payload ∧
    payload ≠ .scalar .none

/-- The payload is refused: what is left of its status after the redaction is a known failure, or
its build id is not the expected one. -/
def Refused (ctx : FinalizationContext) (payload : Payload) : Prop :=
  statusFailure ctx.drgnOpenMessage
      (Payload.outcomeStatus (redactPayload ctx.redactor payload)) ≠ none ∨
    getItem "build_id" (Payload.items payload) ≠ some (.str ctx.expectedBuildId)

/-- The response can be built: `prelude_ms` is a number, and `user_stdout` has a length and can be
cut if it is long. -/
structure Presentable (py : Interpreter) (ctx : FinalizationContext) (redacted : Payload) :
    Prop where
  prelude : (preludeHeavy? py ctx.requestTimeoutSeconds
    ((getItem "prelude_ms" (Payload.items redacted)).getD (hostInt 0))).isSome
  userStdout : (headTail? py
    ((getItem "user_stdout" (Payload.items redacted)).getD (hostStr ""))).isSome

/-- A payload that is taken: the validator does not raise, the step can be written, and the status
is that of a script that ran unless the validator rejects it. -/
def Judged (py : Interpreter) (ctx : FinalizationContext) (payload : Payload) : Prop :=
  let redacted := redactPayload ctx.redactor payload
  ∃ verdict, ctx.verdict redacted = .ok verdict ∧
    py.modelDumps (ctx.stepDetails redacted verdict) = true ∧ (Rejects verdict ∨ Ran payload)

/-- What a payload must be like. -/
structure Orderly (py : Interpreter) (ctx : FinalizationContext) (payload : Payload) : Prop where
  object : ∃ items, payload = .mapping items
  shallow : py.redactFits payload = true ∧
    py.dumpsFits (redactPayload ctx.redactor payload) = true
  taken : ¬ Refused ctx payload →
    Presentable py ctx (redactPayload ctx.redactor payload) ∧ Judged py ctx payload

/-- What a call must be like. -/
structure Digestible (py : Interpreter) (ctx : FinalizationContext) : Prop where
  reads : ∀ text, ctx.rawStdout = some text →
    loads py text ≠ .error .tooManyDigits ∧ loads py text ≠ .error .recursion
  writes : ctx.stderrFault = none ∧ ctx.recordFault = none
  orderly : ∀ payload, Admitted py ctx payload → ctx.stdoutFault = none ∧ Orderly py ctx payload

/-! ## Records -/

section Proofs

variable {py : Interpreter} {ctx : FinalizationContext}

theorem text?_ofText (text : Text) : text? (ofText text) = some text := by
  induction text with
  | nil => rfl
  | cons c text ih =>
      rw [text?] at ih
      simp [text?, ofText, PyChar.char?] at ih ⊢
      simp [ih]

theorem plain_hostStr (s : String) : Payload.Plain (hostStr s) := by
  show text? (host s) ≠ none
  rw [host, text?_ofText]
  exact Option.some_ne_none _

theorem plain_hostStr? (s : Option String) : Payload.Plain (hostStr? s) := by
  cases s with
  | none => trivial
  | some s => exact plain_hostStr s

/-- The details of a failure are of the host. -/
theorem plain_failureDetails (spec : FailureSpec) :
    ∀ item ∈ ctx.failureDetails spec, Payload.Plain item.2 := by
  intro item hitem
  have hlist : Payload.Plain (.list (ctx.acknowledgedPermissions.map hostStr)) := by
    intro permission hpermission
    obtain ⟨name, -, rfl⟩ := List.mem_map.mp hpermission
    exact plain_hostStr name
  rw [FinalizationContext.failureDetails, List.mem_append] at hitem
  rcases hitem with hitem | hitem
  · simp only [List.mem_cons, List.not_mem_nil, or_false] at hitem
    rcases hitem with rfl | rfl | rfl | rfl | rfl | rfl
    · exact plain_hostStr _
    · trivial
    · trivial
    · trivial
    · exact plain_hostStr? _
    · exact plain_hostStr _
  · rw [FinalizationContext.audit, List.mem_append, List.mem_append] at hitem
    rcases hitem with (hitem | hitem) | hitem
    · cases huser : ctx.execPrincipal with
      | none => simp [huser] at hitem
      | some user =>
          rw [huser] at hitem
          obtain rfl := List.mem_singleton.mp hitem
          exact plain_hostStr user
    · obtain rfl := List.mem_singleton.mp hitem
      trivial
    · split at hitem
      · obtain rfl := List.mem_singleton.mp hitem
        exact hlist
      · cases hitem

/-- A call that raises records nothing. -/
theorem not_finalized_raised (e : Raised) : ¬ Finalized py ctx (.raised e) := by
  intro h
  obtain ⟨step, hstep, -⟩ := h.once
  cases hstep

/-- A step is recorded with its response. -/
theorem finalized_record {step : StepResult Payload} {response : ToolResponse}
    (hname : step.stepName = "introspect:" ++ ctx.callId)
    (hstatus : step.status = .succeeded ∨ step.status = .failed) :
    Finalized py ctx (record py ctx step response) ↔
      ctx.recordFault = none ∧ py.modelDumps step.details = true ∧
        (step.status = .succeeded ∨
          (∃ summary artifacts actions data,
            response = .success summary artifacts actions data) → Genuine py ctx) := by
  rw [record]
  cases hfault : ctx.recordFault with
  | some message =>
      refine iff_of_false (not_finalized_raised _) ?_
      rintro ⟨h, -⟩
      cases h
  | none =>
      dsimp only
      split
      · next hdumps =>
          constructor
          · intro h
            refine ⟨rfl, hdumps, fun hsuccess => h.genuine ?_⟩
            rcases hsuccess with hsucceeded | ⟨summary, artifacts, actions, data, rfl⟩
            · exact .inl ⟨step, List.mem_singleton_self step, hsucceeded⟩
            · exact .inr ⟨summary, artifacts, actions, data, rfl⟩
          · rintro ⟨-, -, hgenuine⟩
            refine ⟨fun e he => ?_, ⟨step, rfl, hname, hstatus⟩, fun hsuccess => hgenuine ?_⟩
            · cases he
            · rcases hsuccess with ⟨step', hmem, hsucceeded⟩ | ⟨summary, artifacts, actions, data, he⟩
              · exact .inl (List.mem_singleton.mp hmem ▸ hsucceeded)
              · exact .inr ⟨summary, artifacts, actions, data, Except.ok.inj he⟩
      · next hdumps =>
          refine iff_of_false (not_finalized_raised _) ?_
          rintro ⟨-, h, -⟩
          exact hdumps h

/-- Values of the host can always be written. -/
def WritesPlain (py : Interpreter) : Prop :=
  ∀ details : List (String × Payload), (∀ item ∈ details, Payload.Plain item.2) →
    py.modelDumps details = true

theorem not_finalized_artifactWriteFailed (spec : FailureSpec) (message : String) :
    ¬ Finalized py ctx (artifactWriteFailed ctx spec message) := by
  intro h
  obtain ⟨step, hstep, -⟩ := h.once
  cases hstep

/-- A failed step is recorded with its failure. -/
theorem finalized_failedStep (hplain : WritesPlain py) (spec : FailureSpec) (withPayload : Bool)
    {category : ErrorCategory} {message : String} {details : List (String × Payload)}
    {artifacts : List ArtifactRef} :
    Finalized py ctx (record py ctx (ctx.failedStep spec withPayload)
      (.failure category message details artifacts)) ↔ ctx.recordFault = none := by
  rw [finalized_record rfl (.inr rfl)]
  constructor
  · exact fun h => h.1
  · intro h
    refine ⟨h, hplain _ (plain_failureDetails spec), ?_⟩
    rintro (hsucceeded | ⟨_, _, _, _, hsuccess⟩)
    · cases hsucceeded
    · cases hsuccess

/-- A failure without a payload. -/
theorem finalized_recordFailure_none (hplain : WritesPlain py) (spec : FailureSpec) :
    Finalized py ctx (recordFailure py ctx spec none) ↔
      ctx.stderrFault = none ∧ ctx.recordFault = none := by
  rw [recordFailure.eq_def]
  cases ctx.stderrFault with
  | some message =>
      refine iff_of_false (not_finalized_artifactWriteFailed spec message) ?_
      rintro ⟨h, -⟩
      cases h
  | none => simpa using finalized_failedStep hplain spec false

/-- A failure with a payload. -/
theorem finalized_recordFailure_some (hplain : WritesPlain py) (spec : FailureSpec)
    (items : List (Key × Payload)) :
    Finalized py ctx (recordFailure py ctx spec (some (.mapping items))) ↔
      ctx.stderrFault = none ∧ ctx.recordFault = none ∧ ctx.stdoutFault = none ∧
        py.dumpsFits (.mapping items) = true := by
  rw [recordFailure.eq_def]
  cases ctx.stderrFault with
  | some message =>
      refine iff_of_false (not_finalized_artifactWriteFailed spec message) ?_
      rintro ⟨h, -⟩
      cases h
  | none =>
      dsimp only
      split
      · next hfits =>
          cases ctx.stdoutFault with
          | some message =>
              refine iff_of_false (not_finalized_artifactWriteFailed spec message) ?_
              rintro ⟨-, -, h, -⟩
              cases h
          | none => simpa [hfits] using finalized_failedStep hplain spec true
      · next hfits =>
          refine iff_of_false (not_finalized_raised _) ?_
          rintro ⟨-, -, -, h⟩
          exact hfits h

/-- What is concluded of a verdict. -/
theorem concluded_step (redacted : Payload) (verdict : Option Verdict)
    (data : List (String × Payload)) :
    (concluded ctx redacted verdict data).1.stepName = "introspect:" ++ ctx.callId ∧
      (concluded ctx redacted verdict data).1.details = ctx.stepDetails redacted verdict ∧
      (((concluded ctx redacted verdict data).1.status = .failed ∧ Rejects verdict ∧
          ∀ summary artifacts actions data', (concluded ctx redacted verdict data).2 ≠
            .success summary artifacts actions data') ∨
        (concluded ctx redacted verdict data).1.status = .succeeded ∧ ¬ Rejects verdict) := by
  rw [concluded.eq_def]
  cases verdict with
  | none =>
      refine ⟨rfl, rfl, .inr ⟨rfl, ?_⟩⟩
      rintro ⟨_, h, _⟩
      cases h
  | some verdict =>
      dsimp only
      split
      · next hok =>
          refine ⟨rfl, rfl, .inr ⟨rfl, ?_⟩⟩
          rintro ⟨v, hv, hnot⟩
          obtain rfl := Option.some.inj hv
          rw [hok] at hnot
          cases hnot
      · next hok =>
          refine ⟨rfl, rfl, .inl ⟨rfl, ⟨verdict, rfl, by simpa using hok⟩, ?_⟩⟩
          intro summary artifacts actions data' h
          cases h

theorem buildSuccessResponse_isSome (redacted : Payload) (artifacts : List ArtifactRef) :
    (buildSuccessResponse py ctx redacted artifacts).isSome ↔ Presentable py ctx redacted := by
  rw [buildSuccessResponse]
  constructor
  · intro h
    dsimp only at h
    split at h
    · next heavy snippet hheavy hsnippet => exact ⟨by simp [hheavy], by simp [hsnippet]⟩
    · cases h
  · rintro ⟨hprelude, hstdout⟩
    obtain ⟨heavy, hheavy⟩ := Option.isSome_iff_exists.mp hprelude
    obtain ⟨snippet, hsnippet⟩ := Option.isSome_iff_exists.mp hstdout
    simp [hheavy, hsnippet]

/-- A success. -/
theorem finalized_recordSuccess (redacted : Payload) :
    Finalized py ctx (recordSuccess py ctx redacted) ↔
      py.dumpsFits redacted = true ∧ ctx.stdoutFault = none ∧ ctx.stderrFault = none ∧
        ctx.recordFault = none ∧ Presentable py ctx redacted ∧
        ∃ verdict, ctx.verdict redacted = .ok verdict ∧
          py.modelDumps (ctx.stepDetails redacted verdict) = true ∧
          (Rejects verdict ∨ Genuine py ctx) := by
  have hraised : ∀ {e : Raised} {P : Prop}, ¬ P → (Finalized py ctx (.raised e) ↔ P) :=
    fun hnot => iff_of_false (not_finalized_raised _) hnot
  rw [recordSuccess]
  split
  · next hfits => exact hraised fun h => by rw [hfits] at h; exact nomatch h.1
  · next hfits =>
      have hfits' : py.dumpsFits redacted = true := by simpa using hfits
      cases hstdout : ctx.stdoutFault with
      | some message => exact hraised fun h => nomatch h.2.1
      | none =>
          cases hstderr : ctx.stderrFault with
          | some message => exact hraised fun h => nomatch h.2.2.1
          | none =>
              dsimp only
              have hpresent : (buildSuccessResponse py ctx redacted
                  (ctx.artifacts true false)).isSome ↔ Presentable py ctx redacted :=
                buildSuccessResponse_isSome redacted (ctx.artifacts true false)
              cases hdata : buildSuccessResponse py ctx redacted (ctx.artifacts true false) with
              | none =>
                  rw [hdata] at hpresent
                  exact hraised fun h => nomatch hpresent.mpr h.2.2.2.2.1
              | some data =>
                  rw [hdata] at hpresent
                  dsimp only
                  cases hverdict : ctx.verdict redacted with
                  | error _ =>
                      refine hraised fun h => ?_
                      obtain ⟨verdict, hok, -⟩ := h.2.2.2.2.2
                      cases hok
                  | ok verdict =>
                      obtain ⟨hname, hdetails, hcases⟩ :=
                        @concluded_step ctx redacted verdict data
                      have hstatus := hcases.symm.imp And.left And.left
                      dsimp only
                      rw [finalized_record hname hstatus, hdetails]
                      constructor
                      · rintro ⟨hrecord, hdumps, hgenuine⟩
                        refine ⟨hfits', rfl, rfl, hrecord, hpresent.mp rfl, verdict, rfl, hdumps, ?_⟩
                        rcases hcases with ⟨-, hrejects, -⟩ | ⟨hsucceeded, -⟩
                        · exact .inl hrejects
                        · exact .inr (hgenuine (.inl hsucceeded))
                      · rintro ⟨-, -, -, hrecord, -, verdict', hok, hdumps, hjudged⟩
                        cases hok
                        refine ⟨hrecord, hdumps, fun hsuccess => ?_⟩
                        refine hjudged.resolve_left fun hrejects => ?_
                        rcases hcases with ⟨hfailed, -, hno⟩ | ⟨-, hnot⟩
                        · rcases hsuccess with hsucceeded | ⟨_, _, _, _, hresponse⟩
                          · exact nomatch hfailed.symm.trans hsucceeded
                          · exact hno _ _ _ _ hresponse
                        · exact hnot hrejects

/-! ## Which calls -/

/-- Reading the output raises nothing. -/
def Reads (py : Interpreter) (ctx : FinalizationContext) : Prop :=
  ∀ text, ctx.rawStdout = some text →
    loads py text ≠ .error .tooManyDigits ∧ loads py text ≠ .error .recursion

/-- The output holds this payload. -/
def Holds (py : Interpreter) (ctx : FinalizationContext) (payload : Payload) : Prop :=
  ∃ text, ctx.rawStdout = some text ∧ loads py text = .ok payload ∧ payload ≠ .scalar .none

theorem loads_nil (py : Interpreter) : loads py [] = .error .decode := by
  rw [loads, PythonJson.loads]
  cases py.loadsDepth <;> rfl

/-- What is parsed of the output. -/
theorem parseStdout_cases (py : Interpreter) (ctx : FinalizationContext) :
    (∃ e, parseStdout py ctx = .error e) ∧ ¬ Reads py ctx ∨
      ∃ parsed, parseStdout py ctx = .ok parsed ∧ Reads py ctx ∧
        ∀ payload, parsed = some payload ↔ Holds py ctx payload := by
  have hnothing : ∀ {text}, ctx.rawStdout = some text →
      loads py text = .error .decode ∨ loads py text = .ok (.scalar .none) →
      Reads py ctx ∧ ∀ payload, none = some payload ↔ Holds py ctx payload := by
    intro text hraw hloads
    constructor
    · intro text' hraw'
      obtain rfl := Option.some.inj (hraw.symm.trans hraw')
      rcases hloads with hloads | hloads <;> rw [hloads] <;> exact ⟨nofun, nofun⟩
    · intro payload
      refine iff_of_false nofun ?_
      rintro ⟨text', hraw', hloads', hne⟩
      obtain rfl := Option.some.inj (hraw.symm.trans hraw')
      rcases hloads with hloads | hloads <;> rw [hloads] at hloads' <;> cases hloads'
      exact hne rfl
  rw [parseStdout.eq_def]
  cases hraw : ctx.rawStdout with
  | none =>
      refine .inr ⟨none, rfl, fun text h => ?_, fun payload => iff_of_false nofun ?_⟩
      · rw [hraw] at h
        cases h
      · rintro ⟨text, h, -⟩
        rw [hraw] at h
        cases h
  | some text =>
      cases text with
      | nil => exact .inr ⟨none, rfl, hnothing hraw (.inl (loads_nil py))⟩
      | cons c text =>
          dsimp only
          cases hloads : loads py (c :: text) with
          | error fault =>
              cases fault with
              | decode => exact .inr ⟨none, rfl, hnothing hraw (.inl hloads)⟩
              | tooManyDigits => exact .inl ⟨⟨_, rfl⟩, fun h => (h _ hraw).1 hloads⟩
              | recursion => exact .inl ⟨⟨_, rfl⟩, fun h => (h _ hraw).2 hloads⟩
              | fuel => exact absurd hloads (PythonJson.loads_ne_fuel _ _ _)
          | ok payload =>
              rcases eq_or_ne payload (.scalar .none) with rfl | hne
              · exact .inr ⟨none, rfl, hnothing hraw (.inr hloads)⟩
              · refine .inr ⟨some payload, ?_, fun text' hraw' => ?_, fun payload' => ?_⟩
                · cases payload with
                  | scalar scalar =>
                      cases scalar with
                      | none => exact absurd rfl hne
                      | _ => rfl
                  | _ => rfl
                · obtain rfl := Option.some.inj (hraw.symm.trans hraw')
                  rw [hloads]
                  exact ⟨nofun, nofun⟩
                · rw [Option.some.injEq]
                  constructor
                  · rintro rfl
                    exact ⟨_, hraw, hloads, hne⟩
                  · rintro ⟨text', hraw', hloads', -⟩
                    obtain rfl := Option.some.inj (hraw.symm.trans hraw')
                    exact Except.ok.inj (hloads.symm.trans hloads')

/-- No failure of the runner is found exactly when it reports none. -/
theorem triage_some {payload : Payload} (hholds : Holds py ctx payload) :
    triage ctx (some payload) = none ↔ ctx.result.Clean := by
  obtain ⟨text, hraw, -⟩ := hholds
  rw [triage, RunnerResult.Clean, hraw]
  cases ctx.result.oversizedOutput <;> cases ctx.result.cancelled <;>
    cases ctx.result.stdinFailed <;> cases ctx.result.timedOut <;> simp

theorem triage_none (ctx : FinalizationContext) : triage ctx none ≠ none := by
  rw [triage]
  repeat' split
  all_goals first | exact Option.some_ne_none _ | contradiction

/-- What a payload that is refused ends with. -/
theorem mapWrapperFailure_cases (ctx : FinalizationContext) (items : List (Key × Payload)) :
    (∃ spec, mapWrapperFailure ctx (.mapping items)
        (redactPayload ctx.redactor (.mapping items)) = .ok (some spec)) ∧
      Refused ctx (.mapping items) ∨
    mapWrapperFailure ctx (.mapping items) (redactPayload ctx.redactor (.mapping items)) =
        .ok none ∧ ¬ Refused ctx (.mapping items) := by
  rw [mapWrapperFailure, Refused]
  cases hstatus : statusFailure ctx.drgnOpenMessage
      (Payload.outcomeStatus (redactPayload ctx.redactor (.mapping items))) with
  | some spec => exact .inl ⟨⟨spec, rfl⟩, .inl (Option.some_ne_none _)⟩
  | none =>
      dsimp only
      rw [buildIdFailure.eq_def]
      dsimp only
      split
      · next observed hobserved =>
          split
          · next heq =>
              refine .inr ⟨rfl, ?_⟩
              rintro (h | h)
              · exact h rfl
              · exact h (heq ▸ hobserved)
          · next hne =>
              refine .inl ⟨⟨_, rfl⟩, .inr fun h => hne ?_⟩
              have hsame := hobserved.symm.trans h
              cases hsame
              rfl
      · next hnot => exact .inl ⟨⟨_, rfl⟩, .inr fun h => hnot _ h⟩

/-- A payload that is no mapping cannot be finalized. -/
theorem mapWrapperFailure_no_mapping {payload : Payload} (h : ∀ items, payload ≠ .mapping items) :
    mapWrapperFailure ctx payload (redactPayload ctx.redactor payload) = .error .attributeError := by
  cases payload with
  | mapping items => exact absurd rfl (h items)
  | str | scalar | list | tuple => rfl

/-- A payload that is not refused is genuine if its script ran. -/
theorem genuine_iff {items : List (Key × Payload)} (hclean : ctx.result.Clean)
    (hholds : Holds py ctx (.mapping items)) (hnot : ¬ Refused ctx (.mapping items)) :
    Genuine py ctx ↔ Ran (.mapping items) := by
  obtain ⟨text, hraw, hloads, -⟩ := hholds
  constructor
  · rintro ⟨-, text', items', hraw', hloads', hran, -⟩
    obtain rfl := Option.some.inj (hraw.symm.trans hraw')
    obtain rfl := Value.mapping.inj (Except.ok.inj (hloads.symm.trans hloads'))
    exact hran
  · intro hran
    refine ⟨hclean, text, items, hraw, hloads, hran, ?_⟩
    by_contra hid
    exact hnot (.inr hid)

/-- What is made of a payload that is admitted. -/
theorem finalized_payload (hplain : WritesPlain py) {payload : Payload}
    (hclean : ctx.result.Clean) (hholds : Holds py ctx payload) :
    Finalized py ctx
      (if py.redactFits payload = false then .raised .recursionError
        else
          match mapWrapperFailure ctx payload (redactPayload ctx.redactor payload) with
          | .error e => .raised e
          | .ok (some spec) =>
              recordFailure py ctx spec (some (redactPayload ctx.redactor payload))
          | .ok none => recordSuccess py ctx (redactPayload ctx.redactor payload)) ↔
      (ctx.stderrFault = none ∧ ctx.recordFault = none) ∧ ctx.stdoutFault = none ∧
        Orderly py ctx payload := by
  split
  · next hfits =>
      refine iff_of_false (not_finalized_raised _) ?_
      rintro ⟨-, -, horderly⟩
      rw [horderly.shallow.1] at hfits
      cases hfits
  · next hfits =>
      have hfits' : py.redactFits payload = true := by simpa using hfits
      by_cases hobject : ∃ items, payload = .mapping items
      · obtain ⟨items, rfl⟩ := hobject
        rcases mapWrapperFailure_cases ctx items with ⟨⟨spec, hmap⟩, hrefused⟩ | ⟨hmap, hnot⟩
        · rw [hmap]
          dsimp only
          rw [redactPayload_mapping, finalized_recordFailure_some hplain, ← redactPayload_mapping]
          constructor
          · rintro ⟨hstderr, hrecord, hstdout, hdumps⟩
            exact ⟨⟨hstderr, hrecord⟩, hstdout, ⟨items, rfl⟩, ⟨hfits', hdumps⟩,
              fun hnot => absurd hrefused hnot⟩
          · rintro ⟨⟨hstderr, hrecord⟩, hstdout, horderly⟩
            exact ⟨hstderr, hrecord, hstdout, horderly.shallow.2⟩
        · rw [hmap]
          dsimp only
          rw [finalized_recordSuccess, genuine_iff hclean hholds hnot]
          constructor
          · rintro ⟨hdumps, hstdout, hstderr, hrecord, hpresentable, hjudged⟩
            exact ⟨⟨hstderr, hrecord⟩, hstdout, ⟨items, rfl⟩, ⟨hfits', hdumps⟩,
              fun _ => ⟨hpresentable, hjudged⟩⟩
          · rintro ⟨⟨hstderr, hrecord⟩, hstdout, horderly⟩
            obtain ⟨hpresentable, hjudged⟩ := horderly.taken hnot
            exact ⟨horderly.shallow.2, hstdout, hstderr, hrecord, hpresentable, hjudged⟩
      · rw [mapWrapperFailure_no_mapping fun items heq => hobject ⟨items, heq⟩]
        refine iff_of_false (not_finalized_raised _) ?_
        rintro ⟨-, -, horderly⟩
        exact hobject horderly.object

/-- A call does what it promises exactly when it is digestible. -/
theorem finalized_iff (py : Interpreter) (ctx : FinalizationContext) (hplain : WritesPlain py) :
    Finalized py ctx (finalize py ctx) ↔ Digestible py ctx := by
  have hadmitted : ∀ payload, Admitted py ctx payload ↔ ctx.result.Clean ∧ Holds py ctx payload :=
    fun _ => Iff.rfl
  rw [finalize]
  rcases parseStdout_cases py ctx with ⟨⟨e, hparse⟩, hreads⟩ | ⟨parsed, hparse, hreads, hparsed⟩
  · rw [hparse]
    exact iff_of_false (not_finalized_raised e) fun h => hreads h.reads
  · rw [hparse]
    dsimp only
    cases parsed with
    | none =>
        have hno : ∀ payload, ¬ Holds py ctx payload := fun payload h =>
          nomatch (hparsed payload).mpr h
        cases htriage : triage ctx none with
        | none => exact absurd htriage (triage_none ctx)
        | some spec =>
            dsimp only
            rw [finalized_recordFailure_none hplain]
            exact ⟨fun h => ⟨hreads, h, fun payload ha => absurd ha.2 (hno payload)⟩, fun h => h.writes⟩
    | some payload =>
        have hholds := (hparsed payload).mp rfl
        have honly : ∀ other, Holds py ctx other → other = payload := fun other h =>
          (Option.some.inj ((hparsed other).mpr h)).symm
        cases htriage : triage ctx (some payload) with
        | some spec =>
            have hunclean : ¬ ctx.result.Clean := fun h => by
              rw [(triage_some hholds).mpr h] at htriage
              cases htriage
            dsimp only
            rw [finalized_recordFailure_none hplain]
            exact ⟨fun h => ⟨hreads, h, fun other ha => absurd ha.1 hunclean⟩, fun h => h.writes⟩
        | none =>
            have hclean := (triage_some hholds).mp htriage
            have hdigestible : Digestible py ctx ↔ (ctx.stderrFault = none ∧ ctx.recordFault = none) ∧
                ctx.stdoutFault = none ∧ Orderly py ctx payload :=
              ⟨fun h => ⟨h.writes, h.orderly payload ⟨hclean, hholds⟩⟩,
                fun h => ⟨hreads, h.1, fun other ha => honly other ha.2 ▸ h.2⟩⟩
            rw [hdigestible]
            exact finalized_payload hplain hclean hholds

end Proofs

/-! ## Small calls -/

/-- An interpreter that recurses deep enough.  The calls below have no floats. -/
def deepPython : Interpreter where
  loadsDepth := 900
  parseFloat := fun _ => 0
  percentAtLeast := fun _ _ => false
  showFloat := fun _ => []
  showList := fun _ => []
  redactFits := fun _ => true
  dumpsFits := fun _ => true
  modelDumps := fun _ => true

/-- A call whose wrapper exits as it does and prints this. -/
def printed (stdout : Text) : FinalizationContext where
  callId := "c"
  agentDir := "agent"
  sensitiveCallDir := "sensitive"
  result := ⟨6, false, false, false, false⟩
  stdout := some (Utf8.encode stdout)
  stderr := none
  rawNames := []
  startedAt := "t0"
  finishedAt := "t1"
  durationMs := 1
  redactor := Redactor.create (fun _ => false) [] []
  expectedBuildId := host "ab"
  requestTimeoutSeconds := 30
  operationName := "debug.introspect.run"
  drgnOpenMessage := "drgn could not attach to the live target"
  execPrincipal := none
  postValidator := none
  allowWrite := false
  acknowledgedPermissions := []
  stderrFault := none
  stdoutFault := none
  recordFault := none

/-- A payload with a status. -/
def statusText (status : String) : Text :=
  "\x7b\"build_id\":\"ab\",\"outcome\":\x7b\"status\":\"".toList ++ status.toList ++ "\"\x7d\x7d".toList

theorem rawStdout_nil : (printed []).rawStdout = some [] := by decide

/-- A wrapper that prints nothing. -/
theorem silent_finalized : Finalized deepPython (printed []) (finalize deepPython (printed [])) := by
  refine (finalized_iff deepPython (printed []) fun _ _ => rfl).mpr
    ⟨fun text hraw => ?_, ⟨rfl, rfl⟩, fun payload hadmitted => ?_⟩
  · obtain rfl := Option.some.inj (rawStdout_nil.symm.trans hraw)
    rw [loads_nil]
    exact ⟨nofun, nofun⟩
  · obtain ⟨-, text, hraw, hloads, -⟩ := hadmitted
    obtain rfl := Option.some.inj (rawStdout_nil.symm.trans hraw)
    rw [loads_nil] at hloads
    cases hloads

/-- What was read has the status of a script that ran. -/
def ranStatus : Except PythonJson.Fault Payload → Bool
  | .ok payload =>
      match Payload.outcomeStatus payload with
      | some (.str text) => text = host "ok" || text = host "error"
      | _ => false
  | .error _ => false

theorem ranStatus_of_ran {payload : Payload} (h : Ran payload) : ranStatus (.ok payload) = true := by
  rw [ranStatus]
  rcases h with h | h <;> simp [h, hostStr]

/-- A list is not finalized, and a status that is not known is a success. -/
theorem list_and_status_not_finalized :
    ¬ Finalized deepPython (printed "[]".toList) (finalize deepPython (printed "[]".toList)) ∧
    ¬ Finalized deepPython (printed (statusText "weird"))
      (finalize deepPython (printed (statusText "weird"))) := by
  constructor
  · intro h
    have hnothing : (finalize deepPython (printed "[]".toList)).recorded.length = 0 := by
      decide +kernel
    obtain ⟨step, hstep, -⟩ := h.once
    rw [hstep] at hnothing
    cases hnothing
  · intro h
    have hrecorded : (finalize deepPython (printed (statusText "weird"))).recorded.map
        StepResult.status = [.succeeded] := by decide +kernel
    have hraw : (printed (statusText "weird")).rawStdout = some (statusText "weird") := by
      decide +kernel
    have hnot : ranStatus (loads deepPython (statusText "weird")) = false := by decide +kernel
    obtain ⟨step, hstep, -⟩ := h.once
    rw [hstep, List.map_cons, List.map_nil, List.cons.injEq] at hrecorded
    obtain ⟨-, text, items, hraw', hloads, hran, -⟩ :=
      h.genuine (.inl ⟨step, hstep ▸ List.mem_singleton_self step, hrecorded.1⟩)
    obtain rfl := Option.some.inj (hraw.symm.trans hraw')
    rw [hloads, ranStatus_of_ran hran] at hnot
    cases hnot

end Kdive.Introspect

import Kdive.Coordination.LocalTarget

/-!
# The serial transport

`serialAttach` is an attach of the serial transport, step by step.  It takes the lock of
the source line.  For a console it opens a relay bridge.  For a line that carries a
debugger as well it starts agent-proxy, which splits the line in two.

*Attempts.*  A child of agent-proxy that cannot be verified is stopped, and another one is
started, five times at most.  Each child is reported as soon as it runs.

*Failures.*  What an attach has acquired it releases itself when it raises.  When it
returns, the tables of the transport hold it.
-/

namespace Kdive

/-- The serial transport. -/
def serialLocal : TransportCapability where
  providerName := "serial-local"
  providesConsole := true
  endpointExposure := .loopbackLocal

/-- A provider table with the serial transport. -/
def serialTransports : Transports := fun provider =>
  if provider = "serial-local" then some serialLocal else none

/-- Why a child is not used. -/
inductive ProxyFailure where
  /-- `ProxyIdentityError`. -/
  | identity
  | other (kind : ExceptionKind)
deriving DecidableEq, Repr

/-- One round of `AgentProxyBackend.start`. -/
inductive ProxyAttempt where
  /-- It was cancelled, or no child was spawned. -/
  | raised (kind : ExceptionKind)
  /-- A child was spawned, and the probe of its start time raised. -/
  | unidentified (child : BackendIdentity) (kind : ExceptionKind)
  /-- A child was reported, with the outcome of the write that causes, and verified. -/
  | reported (backend : BackendIdentity) (write : Fault) (verified : Except ProxyFailure Unit)

/-- `MAX_ATTEMPTS`. -/
def maxAttempts : Nat := 5

/-- A child without a start time is refused before it is verified. -/
def checkedIdentity (backend : BackendIdentity) (verified : Except ProxyFailure Unit) :
    Except ProxyFailure Unit :=
  if backend.startTime = none then .error .identity else verified

/-- `AgentProxyBackend.start`.  It runs out of attempts, or of time. -/
def proxyStart : Nat → List ProxyAttempt → List AttachStep × Except ExceptionKind BackendIdentity
  | 0, _ | _ + 1, [] => ([], .error .exception)
  | _ + 1, .raised kind :: _ => ([], .error kind)
  | _ + 1, .unidentified child kind :: _ =>
      ([.event (.startProxy child), .event (.stopProxy child)], .error kind)
  | left + 1, .reported backend write verified :: rest =>
      let start := AttachStep.event (.startProxy backend)
      let report := AttachStep.report (some backend) write [.stopProxy backend, .closeLock]
      match checkedIdentity backend verified with
      | .ok _ => ([start, report], .ok backend)
      | .error .identity =>
          (start :: report :: .event (.stopProxy backend) :: (proxyStart left rest).1,
            (proxyStart left rest).2)
      | .error (.other kind) => ([start, report, .event (.stopProxy backend)], .error kind)

/-- The outcomes outside an attach of the serial transport. -/
structure SerialEnv where
  /-- The check that the attach was not cancelled, and of the device. -/
  source : Fault
  /-- The lock of the source line. -/
  lock : Fault
  /-- The socket path of the bridge. -/
  bridge : Except ExceptionKind String
  /-- What the proxy is to read from. -/
  proxySource : Fault
  attempts : List ProxyAttempt
  consolePort : Nat
  gdbPort : Nat

/-- `_attach_demux`, once the lock is taken. -/
def attachDemux (env : SerialEnv) : List AttachStep × Except ExceptionKind BackendAttachment :=
  match env.proxySource with
  | some kind => ([.event .closeLock], .error kind)
  | none =>
      match proxyStart maxAttempts env.attempts with
      | (steps, .error kind) => (steps ++ [.event .closeLock], .error kind)
      | (steps, .ok backend) =>
          (steps ++ [.event (.holdProxy backend)],
            .ok ⟨some (.tcp "127.0.0.1" env.consolePort), some (.tcp "127.0.0.1" env.gdbPort),
              some backend⟩)

/-- `_attach_console_only`, once the lock is taken. -/
def attachConsoleOnly (env : SerialEnv) :
    List AttachStep × Except ExceptionKind BackendAttachment :=
  match env.bridge with
  | .error kind => ([.event .closeLock], .error kind)
  | .ok path =>
      ([.event (.openBridge path), .event (.holdBridge path)], .ok ⟨some (.unix path 0o600), none, none⟩)

/-- `attach`. -/
def serialAttach (env : SerialEnv) (lineRole : LineRole) :
    List AttachStep × Except ExceptionKind BackendAttachment :=
  match env.source, env.lock with
  | some kind, _ | none, some kind => ([], .error kind)
  | none, none =>
      let rest := if lineRole = .sharedConsole then attachConsoleOnly env else attachDemux env
      (.event .lockSource :: rest.1, rest.2)

/-! ## When nothing fails -/

/-- The channel of a line that carries a debugger. -/
def serialChannel (lineRole : LineRole) : TransportRef where
  provider := "serial-local"
  channelId := "serial0"
  lineRole := lineRole
  caps := ["console", "rsp", "supports_uart_break"]
  targetRef := [("device", .str "/dev/ttyUSB0")]
  secretRefs := []

/-- A snapshot with a serial channel. -/
def serialSnapshot (generation : Int) (lineRole : LineRole) : TargetSnapshot :=
  { bootReadySnapshot generation [] true with transports := [serialChannel lineRole] }

/-- An open of it. -/
def serialRequest (runId : String) (lineRole : LineRole) (generation : Nat) : OpenRequest :=
  { debugOpenRequest runId [] generation (bootPlatform true) with
    transportRef := serialChannel lineRole
    requiredCaps := ["console"] }

/-- An attach that starts `backend` at once, or opens the bridge. -/
def SerialEnv.calm (backend : BackendIdentity) : SerialEnv where
  source := none
  lock := none
  bridge := .ok "/run/kdive/serial0/console.sock"
  proxySource := none
  attempts := [.reported backend none (.ok ())]
  consolePort := 4440
  gdbPort := 4441

/-- An open over the serial transport. -/
def OpenEnv.serial (serial : SerialEnv) (lineRole : LineRole) : OpenEnv :=
  { OpenEnv.calm with
    transports := serialTransports
    partials := (serialAttach serial lineRole).1
    attach := (serialAttach serial lineRole).2 }

/-- A teardown of a session over the serial transport. -/
def CloseEnv.serial : CloseEnv := { CloseEnv.calm with transports := serialTransports }

/-- An emit to such sessions. -/
def EmitEnv.serial : EmitEnv := { EmitEnv.calm with transports := serialTransports }

end Kdive

import Kdive.Lib.Transcript
import Kdive.Transport.Backends
import Kdive.Transport.SerialLocal

/-!
# agent-proxy

`AgentProxyBackend` starts the process that splits a serial line in two, verifies that it is
the one that listens, and stops it.

*Looking.*  Whether the attach was cancelled, whether its time is over, who listens and who is
alive are calls whose responses nobody knows beforehand.  Waiting for a listener is a loop over
them: `passes` says how often it may look before its time is over.

*Children.*  A child is a `Popen`.  It is let go when it was waited for, when `SIGKILL` was
sent to it, or when the system refuses, which it does for a process that is gone.

`start_supervised` says what any surroundings see of a start: one child at a time, none that is
left behind, and of the one that is returned what was found out about it.
-/

namespace Kdive.AgentProxy

open Program

/-! ## Calls -/

/-- What a call raises. -/
inductive ProxyError where
  /-- `ProxyIdentityError` -/
  | identity (message : String)
  /-- `subprocess.TimeoutExpired` -/
  | timeoutExpired
  /-- `BoundedIOTimeout`, an `OSError`. -/
  | timeout
  /-- `ProcessLookupError` and `PermissionError`, which are `OSError`s. -/
  | processLookup
  | permission
  /-- Another `OSError`. -/
  | os
  /-- `BoundedIOCancelled` -/
  | cancelled
  | other
deriving DecidableEq, Repr

/-- `isinstance(exc, OSError)` -/
def ProxyError.isOs : ProxyError → Bool
  | .timeout | .processLookup | .permission | .os => true
  | _ => false

/-- A process that was started here. -/
structure Child where
  /-- Which `Popen` it is. -/
  process : Nat
  pid : Nat
deriving DecidableEq, Repr

/-- `signal.SIGTERM` and `signal.SIGKILL` -/
inductive Signal where
  | sigterm
  | sigkill
deriving DecidableEq, Repr

/-- A call. -/
inductive Op where
  /-- `cancel.is_set()` -/
  | isSet
  /-- `deadline.expired()` -/
  | expired
  | allocatePorts
  | closePorts
  | popen (argv : List String)
  /-- The start time of a process, if there is such a process. -/
  | identity (pid : Nat)
  /-- `on_partial("backend_process", ..)` -/
  | onPartial (backend : BackendIdentity)
  | isAlive (pid : Nat)
  /-- `looks_like(pid, "agent-proxy")` -/
  | looksLike (pid : Nat)
  /-- Connect to a port of `127.0.0.1`. -/
  | connect (port : Nat)
  | closeConn
  | sendall (octets : List Nat)
  | sleep
  /-- Whether a process owns the listener of a port of `127.0.0.1`, if that is known. -/
  | ownsListener (pid port : Nat)
  | terminate (child : Child)
  | kill (child : Child)
  | wait (child : Child) (seconds : Nat)
  | poll (child : Child)
  /-- `os.kill` -/
  | osKill (pid : Nat) (signal : Signal)
deriving DecidableEq, Repr

/-- What a call responds with. -/
@[reducible] def Resp : Op → Type
  | .isSet | .expired | .isAlive _ | .looksLike _ => Bool
  | .allocatePorts => Nat × Nat
  | .popen _ => Child
  | .identity _ => Option (Option String)
  | .ownsListener _ _ => Option Bool
  | _ => Unit

/-- A program of calls. -/
abbrev Script (α : Type) : Type := Prog Resp ProxyError α

/-- What a script says to its surroundings. -/
abbrev Said : Type := List (Exchange Resp ProxyError)

/-! ## Bounded steps -/

/-- `check_not_cancelled` -/
def checkNotCancelled : Script Unit := do
  if ← Prog.perform Op.isSet then .raise .cancelled else return ()

/-- `_slice`, whose result is the time that a call may take. -/
def slice : Script Unit := do
  checkNotCancelled
  if ← Prog.perform Op.expired then .raise .timeout else return ()

/-- `connect_tcp` -/
def connectTcp (port : Nat) : Script Unit := do
  slice
  Prog.perform (Op.connect port)

/-- `wait_for_listener`, with so many more passes before the time is over. -/
def waitForListener : Nat → Nat → Script Unit
  | 0, _ => do
      checkNotCancelled
      let _ ← Prog.perform Op.expired
      .raise .timeout
  | passes + 1, port => do
      checkNotCancelled
      if ← Prog.perform Op.expired then .raise .timeout
      else
        match ← (connectTcp port).attempt with
        | .ok _ => Prog.perform Op.closeConn
        | .error e =>
            if e.isOs = true then do
              Prog.perform Op.sleep
              waitForListener passes port
            else .raise e

/-- `spawn` -/
def spawn (argv : List String) : Script Child := do
  slice
  Prog.perform (Op.popen argv)

/-! ## Stopping a child -/

/-- `TERM_GRACE` and `KILL_GRACE`, in seconds. -/
def TERM_GRACE : Nat := 5

def KILL_GRACE : Nat := 2

/-- The second `try` of `_reap`. -/
def killChild (child : Child) : Script Unit :=
  Prog.rescue (do
    Prog.perform (Op.kill child)
    Prog.perform (Op.wait child KILL_GRACE)) fun e =>
      if e = .timeoutExpired ∨ e.isOs = true then return () else .raise e

/-- `_reap` -/
def reap (child : Child) : Script Unit :=
  Prog.rescue (do
    Prog.perform (Op.terminate child)
    Prog.perform (Op.wait child TERM_GRACE)) fun e =>
      if e = .timeoutExpired then killChild child
      else if e.isOs = true then return ()
      else .raise e

/-! ## Starting one -/

/-- A child that serves a session. -/
structure ProxyHandle where
  process : Child
  backend : BackendIdentity
  consolePort : Nat
  gdbPort : Nat
deriving DecidableEq, Repr

/-- `_source_argv` -/
def sourceArgv : ProxySource → List String
  | .localDevice device baud => ["0", s!"{device},{baud}"]
  | .remoteTerminalServer host port => [host, s!"{port}"]

/-- The command line: both ports on the loopback address. -/
def proxyArgv (source : ProxySource) (supportsUartBreak : Bool) (consolePort gdbPort : Nat) :
    List String :=
  ["agent-proxy", s!"127.0.0.1:{consolePort}^127.0.0.1:{gdbPort}"] ++ sourceArgv source ++
    if supportsUartBreak then [] else ["-s003"]

/-- The part of `_spawn_once` behind the spawn: the identity of the child is published before
anyone relies on it. -/
def publish (child : Child) (consolePort gdbPort : Nat) : Script ProxyHandle := do
  let found ← Prog.perform (Op.identity child.pid)
  Prog.perform (Op.onPartial ⟨child.pid, found.join⟩)
  return ⟨child, ⟨child.pid, found.join⟩, consolePort, gdbPort⟩

/-- `_spawn_once` -/
def spawnOnce (source : ProxySource) (supportsUartBreak : Bool) : Script ProxyHandle := do
  let (consolePort, gdbPort) ← Prog.perform Op.allocatePorts
  Prog.perform Op.closePorts
  let child ← spawn (proxyArgv source supportsUartBreak consolePort gdbPort)
  (publish child consolePort gdbPort).rescue fun e => do
    reap child
    .raise e

/-- A pass of the loop of `_verify_identity`. -/
def verifyPort (passes : Nat) (pid port : Nat) : Script Unit := do
  (waitForListener passes port).rescue fun e =>
    if e.isOs = true then .raise (.identity s!"allocated port {port} has no listener") else .raise e
  if (← Prog.perform (Op.ownsListener pid port)) = some true then return ()
  else .raise (.identity (s!"cannot positively confirm our child owns 127.0.0.1:{port} " ++
    "(foreign bind or ownership unverifiable) — failing closed"))

/-- `_verify_identity` -/
def verifyIdentity (passes : Nat) (handle : ProxyHandle) : Script Unit := do
  if ← Prog.perform (Op.isAlive handle.backend.pid) then
    if ← Prog.perform (Op.looksLike handle.backend.pid) then
      verifyPort passes handle.backend.pid handle.consolePort
      verifyPort passes handle.backend.pid handle.gdbPort
    else .raise (.identity "spawned child is not agent-proxy")
  else .raise (.identity "spawned agent-proxy child is not alive")

/-- What `start` checks of a new child. -/
def verified (passes : Nat) (handle : ProxyHandle) : Script Unit :=
  if handle.backend.startTime = none then
    .raise (.identity "spawned agent-proxy has no start-time fingerprint")
  else verifyIdentity passes handle

/-- What becomes of a child after these checks: with an error of identity the next attempt is
made. -/
def settle (handle : ProxyHandle) (next : ProxyError → Script ProxyHandle) :
    Except ProxyError Unit → Script ProxyHandle
  | .ok _ => return handle
  | .error (.identity message) => do
      reap handle.process
      next (.identity message)
  | .error e => do
      reap handle.process
      .raise e

/-- The attempts of `start` that are left, behind one that ended with an error. -/
def attempts (passes : Nat) (source : ProxySource) (supportsUartBreak : Bool) :
    Nat → ProxyError → Script ProxyHandle
  | 0, lastError => .raise lastError
  | left + 1, lastError => do
      checkNotCancelled
      if ← Prog.perform Op.expired then .raise lastError
      else
        let handle ← spawnOnce source supportsUartBreak
        let outcome ← (verified passes handle).attempt
        settle handle (attempts passes source supportsUartBreak left) outcome

/-- `start` -/
def start (passes : Nat) (source : ProxySource) (supportsUartBreak : Bool) : Script ProxyHandle :=
  attempts passes source supportsUartBreak maxAttempts
    (.identity "agent-proxy attach did not verify before the deadline")

/-! ## While it runs -/

/-- `_BREAK_ESCAPE` -/
def BREAK_ESCAPE : List Nat := [0xff, 0xf3]

/-- `_identity_current` -/
def identityCurrent (handle : ProxyHandle) : Script Bool := do
  if ← Prog.perform (Op.isAlive handle.backend.pid) then
    let observed ← Prog.perform (Op.identity handle.backend.pid)
    return observed.join ≠ none ∧ observed.join = handle.backend.startTime
  else return false

/-- A pass of the loop of `health`: whether the port is still served by the child. -/
def portServed (handle : ProxyHandle) (port : Nat) : Script Bool := do
  if (← Prog.perform (Op.ownsListener handle.backend.pid port)) = some true then
    Prog.rescue (do
      connectTcp port
      Prog.perform Op.closeConn
      return true) fun e => if e.isOs = true then return false else .raise e
  else return false

/-- `health`: the connection is `ready`, or `degraded`. -/
def health (handle : ProxyHandle) : Script Bool := do
  if ← identityCurrent handle then
    if ← portServed handle handle.consolePort then portServed handle handle.gdbPort
    else return false
  else return false

/-- The part of `send_break` between the connection and its end. -/
def writeBreak (handle : ProxyHandle) : Script Unit := do
  if (← Prog.perform (Op.ownsListener handle.backend.pid handle.consolePort)) = some true then
    Prog.perform (Op.sendall BREAK_ESCAPE)
  else .raise (.identity s!"send_break: child no longer owns console 127.0.0.1:{handle.consolePort}")

/-- `send_break` -/
def sendBreak (handle : ProxyHandle) : Script Unit := do
  if ← identityCurrent handle then
    if (← Prog.perform (Op.ownsListener handle.backend.pid handle.consolePort)) = some true then
      connectTcp handle.consolePort
      let written ← (writeBreak handle).attempt
      Prog.perform Op.closeConn
      Prog.ofExcept written
    else .raise (.identity s!"send_break: child no longer owns console 127.0.0.1:{handle.consolePort}")
  else .raise (.identity "send_break: agent-proxy child is no longer current")

/-- `stop` -/
def stop (handle : ProxyHandle) : Script Unit := do
  if ← identityCurrent handle then reap handle.process
  else Prog.perform (Op.poll handle.process)

/-- A signal by number, unless there is no such process to signal. -/
def signalled? (pid : Nat) (signal : Signal) : Script Bool :=
  Prog.rescue (do
    Prog.perform (Op.osKill pid signal)
    return true) fun e =>
      if e = .processLookup ∨ e = .permission then return false else .raise e

/-- The loop of `stop_by_identity`, with so many more passes before its time is over: whether the
process was seen dead. -/
def awaitDeath : Nat → Nat → Script Bool
  | 0, _ => do
      let _ ← Prog.perform Op.expired
      return false
  | passes + 1, pid => do
      if ← Prog.perform Op.expired then return false
      else if ← Prog.perform (Op.isAlive pid) then
        Prog.perform Op.sleep
        awaitDeath passes pid
      else return true

/-- `stop_by_identity` -/
def stopByIdentity (passes : Nat) (backend : BackendIdentity) : Script Bool := do
  if backend.startTime = none then return false
  else if (← Prog.perform (Op.identity backend.pid)) = some backend.startTime then
    if ← signalled? backend.pid .sigterm then
      if ← awaitDeath passes backend.pid then return true
      else if (← Prog.perform (Op.identity backend.pid)) = some backend.startTime then
        let _ ← signalled? backend.pid .sigkill
        return true
      else return true
    else return false
  else return false

end Kdive.AgentProxy

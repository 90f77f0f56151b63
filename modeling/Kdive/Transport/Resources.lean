import Kdive.Seams.TransportState

/-!
# The resources of an attach

An attach starts what serves a session and reports it to the transaction: a
supervised backend process, which may outlive the server, a relay bridge, and the
lock of the source line.  The transport keeps what it holds in tables, keyed by the
identity of the backend or by the path of the console socket.

`Backends` is both sides: which backends were reported and stopped, what the
attaches acquired and released, and the tables.  Resources are marked with the
session they were acquired for.
-/

namespace Kdive

/-- A supervised backend. -/
structure BackendIdentity where
  /-- The process. -/
  pid : Nat
  /-- Its start time. -/
  startTime : Option String
deriving DecidableEq, Repr

/-- The backend a record names. -/
def TransportSession.backend (session : TransportSession) : Option BackendIdentity :=
  session.backendPid.map fun pid => ⟨pid, session.backendStartTime⟩

/-- What an attach acquires. -/
inductive AttachResource where
  | sourceLock
  | bridge (path : String)
  /-- The process. -/
  | proxyChild (backend : BackendIdentity)
  /-- Its entry in the table. -/
  | proxyHandle (backend : BackendIdentity)
deriving DecidableEq, Repr

/-- What an attach does to its resources. -/
inductive AttachEvent where
  | lockSource
  | closeLock
  | openBridge (path : String)
  | stopBridge (path : String)
  /-- Enter the bridge and its lock into the tables. -/
  | holdBridge (path : String)
  | startProxy (backend : BackendIdentity)
  | stopProxy (backend : BackendIdentity)
  /-- Enter the proxy and its lock into the tables. -/
  | holdProxy (backend : BackendIdentity)
deriving DecidableEq, Repr

/-- The backends and the tables of the transport. -/
structure Backends where
  /-- The backends that were reported. -/
  reported : List BackendIdentity
  /-- The backends that were stopped. -/
  reaped : List BackendIdentity
  acquired : List (Nat × AttachResource)
  released : List (Nat × AttachResource)
  bridges : List (String × Nat)
  bridgeLocks : List (String × Nat)
  proxyHandles : List (BackendIdentity × Nat)
  proxyLocks : List (BackendIdentity × Nat)
deriving DecidableEq, Repr

namespace Backends

variable (b : Backends)

/-- Nothing was started. -/
def none : Backends := ⟨[], [], [], [], [], [], [], []⟩

/-- The next server process has empty tables.  The processes run on. -/
def restart : Backends :=
  { b with bridges := [], bridgeLocks := [], proxyHandles := [], proxyLocks := [] }

/-- A backend is reported. -/
def report (backend : BackendIdentity) : Backends :=
  { b with reported := b.reported ++ [backend] }

/-- A backend is stopped.  One that was stopped before is not stopped again. -/
def reap (backend : BackendIdentity) : Backends :=
  if backend ∈ b.reaped then b else { b with reaped := b.reaped ++ [backend] }

def acquire (sid : Nat) (r : AttachResource) : Backends :=
  { b with acquired := b.acquired ++ [(sid, r)] }

def release (sid : Nat) (r : AttachResource) : Backends :=
  { b with released := b.released ++ [(sid, r)] }

/-- What an attach does, for a session. -/
def attachEvent (sid : Nat) : AttachEvent → Backends
  | .lockSource => b.acquire sid .sourceLock
  | .closeLock => b.release sid .sourceLock
  | .openBridge path => b.acquire sid (.bridge path)
  | .stopBridge path => b.release sid (.bridge path)
  | .holdBridge path =>
      { b with bridges := (path, sid) :: b.bridges, bridgeLocks := (path, sid) :: b.bridgeLocks }
  | .startProxy backend => b.acquire sid (.proxyChild backend)
  | .stopProxy backend => b.reap backend
  | .holdProxy backend =>
      { b.acquire sid (.proxyHandle backend) with
        proxyHandles := (backend, sid) :: b.proxyHandles
        proxyLocks := (backend, sid) :: b.proxyLocks }

/-- `_close_demux`: pop the handle, stop the proxy, pop and close the lock. -/
def closeDemux (backend : BackendIdentity) (raises stopped : Bool) : Backends :=
  let popped :=
    match b.proxyHandles.lookup backend with
    | .none => b
    | .some sid =>
        { b.release sid (.proxyHandle backend) with
          proxyHandles := b.proxyHandles.filter (·.1 ≠ backend) }
  let halted := if stopped then popped.reap backend else popped
  if raises then halted
  else
    match halted.proxyLocks.lookup backend with
    | .none => halted
    | .some sid =>
        { halted.release sid .sourceLock with
          proxyLocks := halted.proxyLocks.filter (·.1 ≠ backend) }

/-- `_close_console_only`: pop and stop the bridge, pop and close the lock. -/
def closeConsoleOnly (path : String) (raises : Bool) : Backends :=
  let popped :=
    match b.bridges.lookup path with
    | .none => b
    | .some sid =>
        let b := { b with bridges := b.bridges.filter (·.1 ≠ path) }
        if raises then b else b.release sid (.bridge path)
  if raises then popped
  else
    match popped.bridgeLocks.lookup path with
    | .none => popped
    | .some sid =>
        { popped.release sid .sourceLock with
          bridgeLocks := popped.bridgeLocks.filter (·.1 ≠ path) }

/-- `close`: by the backend of the record, or by its console socket. -/
def close (session : TransportSession) (raises stopped : Bool) : Backends :=
  match session.backend.filter (·.pid ≠ 0) with
  | .some backend => b.closeDemux backend raises stopped
  | .none =>
      match session.consoleEndpoint with
      | .some (.unix path _) => b.closeConsoleOnly path raises
      | _ => b

/-! ## What was reported and what was stopped -/

variable {b}

theorem mem_reap {x y : BackendIdentity} : x ∈ (b.reap y).reaped ↔ x ∈ b.reaped ∨ x = y := by
  unfold reap
  split
  · exact ⟨.inl, fun h => h.elim id fun heq => heq ▸ ‹y ∈ b.reaped›⟩
  · simp

@[simp] theorem reap_reported (y : BackendIdentity) : (b.reap y).reported = b.reported := by
  unfold reap
  split <;> rfl

@[simp] theorem attachEvent_reported (sid : Nat) (e : AttachEvent) :
    (b.attachEvent sid e).reported = b.reported := by
  cases e <;> simp [attachEvent, acquire, release]

theorem attachEvent_reaped {x : BackendIdentity} (h : x ∈ b.reaped) (sid : Nat) (e : AttachEvent) :
    x ∈ (b.attachEvent sid e).reaped := by
  cases e with
  | stopProxy y => exact mem_reap.mpr (.inl h)
  | _ => exact h

theorem closeDemux_stopped (y : BackendIdentity) (raises stopped : Bool) :
    (b.closeDemux y raises stopped).reported = b.reported ∧
      (∀ x ∈ b.reaped, x ∈ (b.closeDemux y raises stopped).reaped) ∧
      (stopped = true → y ∈ (b.closeDemux y raises stopped).reaped) := by
  -- the pops leave both lists
  have popped : ∀ {c : Backends}, c.reported = b.reported → c.reaped = b.reaped →
      (if stopped then c.reap y else c).reported = b.reported ∧
        (∀ x ∈ b.reaped, x ∈ (if stopped then c.reap y else c).reaped) ∧
        (stopped = true → y ∈ (if stopped then c.reap y else c).reaped) := by
    intro c hreported hreaped
    cases stopped with
    | false => exact ⟨hreported, fun x hx => hreaped ▸ hx, fun h => by cases h⟩
    | true =>
        exact ⟨(reap_reported y).trans hreported, fun x hx => mem_reap.mpr (.inl (hreaped ▸ hx)),
          fun _ => mem_reap.mpr (.inr rfl)⟩
  unfold closeDemux
  cases b.proxyHandles.lookup y <;> cases raises <;> dsimp only
  all_goals first
    | exact popped rfl rfl
    | (rw [if_neg (by decide)]
       split <;> exact popped rfl rfl)

theorem closeConsoleOnly_kept (path : String) (raises : Bool) :
    (b.closeConsoleOnly path raises).reported = b.reported ∧
      (b.closeConsoleOnly path raises).reaped = b.reaped := by
  unfold closeConsoleOnly
  cases b.bridges.lookup path <;> cases raises <;> dsimp only
  all_goals first
    | exact ⟨rfl, rfl⟩
    | (rw [if_neg (by decide)]
       split <;> exact ⟨rfl, rfl⟩)

/-- A close reports nothing and starts nothing again. -/
theorem close_kept (session : TransportSession) (raises stopped : Bool) :
    (b.close session raises stopped).reported = b.reported ∧
      ∀ x ∈ b.reaped, x ∈ (b.close session raises stopped).reaped := by
  unfold close
  split
  · exact ⟨(closeDemux_stopped _ _ _).1, (closeDemux_stopped _ _ _).2.1⟩
  · split
    · have hkept := closeConsoleOnly_kept (b := b) ‹String› raises
      exact ⟨hkept.1, fun x hx => by rwa [hkept.2]⟩
    · exact ⟨rfl, fun _ hx => hx⟩

/-- A close that stops the backend of the record. -/
theorem close_stops {session : TransportSession} {x : BackendIdentity}
    (hx : session.backend = .some x) (hpid : session.backendPid ≠ .some 0) (raises : Bool) :
    x ∈ (b.close session raises true).reaped := by
  have hne : x.pid ≠ 0 := fun h0 => hpid (by
    obtain ⟨pid, hsome, rfl⟩ := Option.map_eq_some_iff.mp hx
    exact hsome.trans (congrArg _ h0))
  have hfilter : session.backend.filter (·.pid ≠ 0) = .some x := by simp [hx, hne]
  rw [close, hfilter]
  exact (closeDemux_stopped _ _ _).2.2 rfl

end Backends

/-- A close of the record reaches something of its transport. -/
def TransportSession.attached (session : TransportSession) : Bool :=
  session.backendPid.isSome ||
    match session.consoleEndpoint with
    | some (.unix ..) => true
    | _ => false

end Kdive

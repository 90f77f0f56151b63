import Mathlib.Logic.Function.Basic

/-!
# Targets

The facts about a target every layer shares: its key, its lifecycle state, its
platform and its lease.

A `TargetKey` is the pair of a provisioner and a target id.  It is frozen in the
source so that it can key a table, and here it has decidable equality for the
same reason.  Tables keyed by target are functions from `TargetKey`, updated
with `Function.update`.

Times are microseconds since the epoch, the resolution of `datetime`.  The
source normalises every lease expiry to UTC, so one integer line suffices.
-/

namespace Kdive

/-- The agent-facing categories of a failure. -/
inductive ErrorCategory where
  | configurationError
  | missingDependency
  | buildFailure
  | bootTimeout
  | readinessFailure
  | testFailure
  | debugAttachFailure
  | infrastructureFailure
  | notImplemented
  | staleHandle
  | transportConflict
deriving DecidableEq, Repr

/-- The kinds of primary console. -/
inductive ConsoleKind where
  | uart
  | hvc
  | virtio
deriving DecidableEq, Repr

/-- The lifecycle states of a target. -/
inductive TargetState where
  | acquiring
  | preparing
  | booting
  | ready
  | debugging
  | resetting
  | crashed
  | releasing
deriving DecidableEq, Repr

/-- The text of a target state. -/
def TargetState.value : TargetState → String
  | .acquiring => "acquiring"
  | .preparing => "preparing"
  | .booting => "booting"
  | .ready => "ready"
  | .debugging => "debugging"
  | .resetting => "resetting"
  | .crashed => "crashed"
  | .releasing => "releasing"

/-- The ways a platform may let a debugger break in. -/
inductive BreakHint where
  | uartBreak
  | sysrqG
  | agentProxyBreak
  | gdbstubNative
deriving DecidableEq, Repr

/-- The identity of a target across the whole program. -/
structure TargetKey where
  /-- Who provisioned the target. -/
  provisioner : String
  /-- Its id at the provisioner. -/
  targetId : String
deriving DecidableEq, Repr

/-- Platform facts, bound from the published snapshot. -/
structure PlatformMetadata where
  /-- The kind of the primary console. -/
  consoleKind : ConsoleKind
  /-- How many consoles there are. -/
  consoleCount : Nat
  /-- There is at least one. -/
  consoleCount_pos : 1 ≤ consoleCount
  /-- A line is reserved for the debugger. -/
  dedicatedDebugLine : Bool
  /-- The target answers over ssh. -/
  sshReachable : Bool
  /-- The break methods the platform advertises. -/
  breakHints : List BreakHint
deriving DecidableEq, Repr

/-- A point in time, in microseconds since the epoch. -/
abbrev Instant := Int

/-- `timedelta(seconds=n)`. -/
def seconds (n : Int) : Int := n * 1000000

/-- A lease on a scarce target. -/
structure LeaseInfo where
  /-- The identity of the lease. -/
  leaseId : String
  /-- Who holds it. -/
  holder : String
  /-- When it ends, if it ends. -/
  expiresAt : Option Instant
  /-- It can be renewed. -/
  renewable : Bool
deriving DecidableEq, Repr

end Kdive

import Mathlib.Algebra.Order.Ring.Rat
import Kdive.Seams.Target

/-!
# Transport state

The channel descriptor a snapshot offers, the request that asks to open it, and
the durable record of the session that owns it.

*Routing data.*  `target_ref` is a JSON value that the source freezes on entry.
Two routing values are compared with the equality of the source language: a
mapping ignores the order of its keys, and numbers compare by value across
booleans, integers and floats.  `Routing.eq` is that equality.

*Records.*  A `TransportSession` is the ownership record of one session.  It is
written before the backend is attached and rewritten at each later stage, so
its fields say how far the session got.
-/

namespace Kdive

/-- `DEFAULT_MIN_LEASE_TTL_SECONDS`. -/
def defaultMinLeaseTtlSeconds : Int := 300

/-! ## Routing data -/

/-- A frozen JSON value.  Floats are finite, so each is a rational. -/
inductive Routing where
  | null
  | bool (b : Bool)
  | int (n : Int)
  | float (q : Rat)
  | str (s : String)
  | seq (items : List Routing)
  | map (entries : List (String × Routing))
deriving Repr

/-- The numeric value of a routing value that counts as a number. -/
def Routing.number? : Routing → Option Rat
  | .bool b => some (if b then 1 else 0)
  | .int n => some n
  | .float q => some q
  | _ => none

mutual

/-- The source's `==` on routing values. -/
def Routing.eq : Routing → Routing → Bool
  | .null, .null => true
  | .str s, .str t => s == t
  | .seq xs, .seq ys => Routing.eqSeq xs ys
  | .map kvs, .map kws => kvs.length == kws.length && Routing.eqMap kvs kws
  | v, w =>
      match v.number?, w.number? with
      | some p, some q => p == q
      | _, _ => false

/-- Elementwise equality of two sequences of the same length. -/
def Routing.eqSeq : List Routing → List Routing → Bool
  | [], [] => true
  | x :: xs, y :: ys => Routing.eq x y && Routing.eqSeq xs ys
  | _, _ => false

/-- Every entry of the first mapping has an equal entry in the second. -/
def Routing.eqMap : List (String × Routing) → List (String × Routing) → Bool
  | [], _ => true
  | (k, v) :: rest, kws =>
      (match kws.lookup k with
        | some w => Routing.eq v w
        | none => false) && Routing.eqMap rest kws

end

/-! ## Channels, requests and plans -/

/-- What a line is for. -/
inductive LineRole where
  | sharedConsole
  | dedicatedDebug
  | rsp
deriving DecidableEq, Repr

/-- The ways to stop a running kernel. -/
inductive BreakMethod where
  | gdbstubNative
  | uartBreak
  | agentProxyBreak
  | sysrqG
deriving DecidableEq, Repr

/-- How a provider exposes its endpoint. -/
inductive EndpointExposure where
  | loopbackLocal
  | brokeredRequired
deriving DecidableEq, Repr

/-- The stages of an ownership record. -/
inductive RecordState where
  | pending
  | opening
  | ready
  | degraded
  | closing
  | abandoned
  | closed
deriving DecidableEq, Repr

/-- What a kernel under debug is doing. -/
inductive ExecutionState where
  | executing
  | halted
  | unknown
deriving DecidableEq, Repr

/-- The text of an execution state. -/
def ExecutionState.value : ExecutionState → String
  | .executing => "executing"
  | .halted => "halted"
  | .unknown => "unknown"

/-- A bound endpoint.  The schema pins a TCP host to a loopback literal. -/
inductive Endpoint where
  | tcp (host : String) (port : Nat)
  | unix (path : String) (mode : Nat)
deriving DecidableEq, Repr

/-- A channel descriptor. -/
structure TransportRef where
  /-- The provider that serves the channel. -/
  provider : String
  /-- The channel, unique within one target. -/
  channelId : String
  /-- What the line is for. -/
  lineRole : LineRole
  /-- What the channel can do. -/
  caps : List String
  /-- How the provider reaches the channel. -/
  targetRef : List (String × Routing)
  /-- Options of the attach. -/
  opts : List (String × Routing) := []
  /-- The secrets an attach needs. -/
  secretRefs : List String
deriving Repr

/-- The argument of `transport.open`. -/
structure OpenRequest where
  /-- The target to open. -/
  targetKey : TargetKey
  /-- The generation the caller read. -/
  generation : Nat
  /-- The caller's copy of the channel. -/
  transportRef : TransportRef
  /-- What the tier needs of the channel. -/
  requiredCaps : List String
  /-- The caller's copy of the platform facts. -/
  platform : PlatformMetadata
  /-- The caller's copy of the lease. -/
  lease : Option LeaseInfo
  /-- The least remaining lease time, in seconds, when the caller sets one. -/
  minLeaseTtl : Option { ttl : Int // 1 ≤ ttl }
deriving Repr

/-- How a session will stop its kernel. -/
structure BreakPlan where
  /-- The method. -/
  method : BreakMethod
  /-- The channel it uses. -/
  channelId : String
  /-- Why it was chosen. -/
  rationale : String
deriving DecidableEq, Repr

/-! ## Ownership records -/

/-- The durable ownership record of one session.  The source draws the session
id as `transport-<uuid4>`; a number stands for the draw. -/
structure TransportSession where
  /-- The session. -/
  sessionId : Nat
  /-- The target it owns. -/
  targetKey : TargetKey
  /-- The generation it was opened at. -/
  generation : Nat
  /-- The provider serving it. -/
  provider : String
  /-- The channel it was given. -/
  channelId : String
  /-- Where its console listens. -/
  consoleEndpoint : Option Endpoint
  /-- Where its stub listens. -/
  rspEndpoint : Option Endpoint
  /-- The stage the record is at. -/
  recordState : RecordState
  /-- The token of its console lease. -/
  consoleLeaseToken : Option Nat
  /-- The secret of its guard token, for audit only. -/
  stopGuardToken : Option Nat
  /-- The execution epoch it was admitted at. -/
  attachEpoch : Nat
  /-- How it stops the kernel. -/
  breakPlan : Option BreakPlan
  /-- What the controller last wrote about the kernel. -/
  executionState : ExecutionState
  /-- The supervised backend, when there is one. -/
  backendPid : Option Nat
  /-- The start time that fences the pid against reuse. -/
  backendStartTime : Option String
deriving DecidableEq, Repr

end Kdive

import Kdive.Lib.Checked
import Kdive.Seams.TransportState

/-!
# The admission gate

`AdmissionService` decides which operation may run against a target.  It holds
the published snapshot of each target, the table of bindings it has admitted,
the generation a lifecycle transition closed the target at, the generation a
parked kernel is marked at, and the execution epoch.

Every operation runs under the lock of its target, so each is one function of
the service.  An operation that refuses raises before it changes anything, so it
is a function into `Except AdmissionError` that returns its reply and the next
service.

*Handles.*  A binding is an `AdmissionHandle`.  Its identity and the facts bound
at admission never change, so they are a value.  What changes is its state and
its two flags, which `flags` keeps by identity.  The source compares handles by
identity, and so does `Registered`.  Identities are drawn from `nextId`, which a
restart does not reset, and `issued` lists the handles made since the process
started.

*Calls.*  `Call` names every operation with its arguments, `Call.Reply` the type
of its answer, and `perform` runs it.
-/

namespace Kdive

open Checked

/-! ## Errors -/

/-- The machine-readable reason of a refusal. -/
inductive AdmissionCode where
  | snapshotGenerationRegression
  | targetMismatch
  | admissionClosed
  | recoveryRequired
  | staleHandle
  | foreignRef
  | insufficientCaps
  | stalePlatform
  | staleLease
  | leaseNearExpiry
  | targetNotReady
  | notRecoveryRequired
  | executionStateUnknown
  | targetHalted
  | handleNotPending
  | admissionCancelled
  | executionStateChanged
  | invalidTerminalTransition
  | reaperConfirmationRequired
  | reapNotPermitted
  | handleAlreadyDisposed
  | abandonNotPermitted
  | generationNotAdvanced
  | bindingsOutstanding
  | snapshotMissing
deriving DecidableEq, Repr

/-- An admission refusal. -/
structure AdmissionError where
  /-- The message. -/
  message : String
  /-- The agent-facing category. -/
  category : ErrorCategory
  /-- The precise reason. -/
  code : AdmissionCode
deriving DecidableEq, Repr

/-! ## Snapshots -/

/-- The authoritative facts of a target. -/
structure TargetSnapshot where
  /-- The incarnation of the target. -/
  generation : Int
  /-- The channels it offers, in order. -/
  transports : List TransportRef
  /-- Its platform facts. -/
  platform : PlatformMetadata
  /-- Its lifecycle state. -/
  state : TargetState
  /-- The lease it is held under. -/
  lease : Option LeaseInfo
deriving Repr

/-- The published snapshots. -/
abbrev SnapshotStore := TargetKey → Option TargetSnapshot

/-- Publish a snapshot.  A generation never regresses. -/
def SnapshotStore.put (store : SnapshotStore) (targetKey : TargetKey)
    (snapshot : TargetSnapshot) : Except AdmissionError SnapshotStore := do
  match store targetKey with
  | none => pure ()
  | some current =>
      refuse (snapshot.generation < current.generation)
        { message := s!"snapshot generation regression for target: {snapshot.generation} < {current.generation}"
          category := .configurationError
          code := .snapshotGenerationRegression }
  return Function.update store targetKey (some snapshot)

/-! ## Handles -/

/-- What a binding was admitted for. -/
inductive AdmissionOp where
  /-- A stop-capable attach. -/
  | transportOpen
  /-- Work over ssh. -/
  | sshTier
deriving DecidableEq, Repr

/-- The states of a binding. -/
inductive AdmissionState where
  | pending
  | promoted
  | rolledBack
  | completed
  | abandoned
deriving DecidableEq, Repr

/-- A binding that is still in force. -/
def AdmissionState.Live : AdmissionState → Prop
  | .pending | .promoted => True
  | .rolledBack | .completed | .abandoned => False

instance : DecidablePred AdmissionState.Live := fun s => by
  cases s <;> unfold AdmissionState.Live <;> infer_instance

/-- A scoped binding, with the facts bound when it was admitted. -/
structure AdmissionHandle where
  /-- Its identity. -/
  handleId : Nat
  /-- The target it is bound to. -/
  targetKey : TargetKey
  /-- The snapshot generation it was admitted at. -/
  generation : Int
  /-- The execution epoch it was admitted at. -/
  admitEpoch : Nat
  /-- What it was admitted for. -/
  op : AdmissionOp
  /-- The channel it was given, when it opens one. -/
  channel : Option TransportRef
  /-- The platform facts of the snapshot. -/
  platform : PlatformMetadata
  /-- It was admitted through the recovery gate. -/
  recovery : Bool
deriving Repr

/-- The part of a handle that changes. -/
structure HandleFlags where
  /-- Its state. -/
  state : AdmissionState := .pending
  /-- The cancel fence is set. -/
  cancelled : Bool := false
  /-- The reaper confirmed the teardown. -/
  reaped : Bool := false
deriving DecidableEq, Repr

/-- The execution state a proof carries.  The field is not checked when a proof
is built, so a caller may put any value there; `unrecognized` is a value that
names no execution state, given by its printed form. -/
inductive ProofState where
  | known (state : ExecutionState)
  | unrecognized (printed : String)
deriving DecidableEq, Repr

/-- A fresh observation of the kernel. -/
structure ExecutionProof where
  /-- The generation the probe observed. -/
  generation : Int
  /-- The execution epoch the probe read. -/
  epoch : Int
  /-- What the probe saw. -/
  state : ProofState
deriving DecidableEq, Repr

/-- The execution state a proof names. -/
def ProofState.normalize : ProofState → Except AdmissionError ExecutionState
  | .known state => .ok state
  | .unrecognized printed => .error
      { message := s!"unrecognized execution-proof state {printed}; fail closed"
        category := .readinessFailure
        code := .executionStateUnknown }

/-! ## The service -/

/-- The admission service. -/
structure AdmissionService where
  /-- The published snapshots. -/
  store : SnapshotStore
  /-- The least remaining lease time when a request sets none, in seconds. -/
  defaultMinLeaseTtl : Int
  /-- The live bindings of each target, oldest first. -/
  bindings : TargetKey → List AdmissionHandle
  /-- The generation a target is closed at. -/
  closedAt : TargetKey → Option Int
  /-- The generation a parked kernel is marked at. -/
  recoveryRequired : TargetKey → Option Int
  /-- The execution epoch. -/
  execEpoch : TargetKey → Nat
  /-- Every handle made since the process started, oldest first. -/
  issued : List AdmissionHandle
  /-- The identity of the next handle. -/
  nextId : Nat
  /-- The mutable part of each handle. -/
  flags : Nat → HandleFlags

namespace AdmissionService

/-- The service a process starts with.  The identities handed out by earlier
processes are not handed out again. -/
def fresh (defaultMinLeaseTtl : Int) (nextId : Nat) : AdmissionService where
  store := fun _ => none
  defaultMinLeaseTtl := defaultMinLeaseTtl
  bindings := fun _ => []
  closedAt := fun _ => none
  recoveryRequired := fun _ => none
  execEpoch := fun _ => 0
  issued := []
  nextId := nextId
  flags := fun _ => {}

/-- `handle in self._bindings[key]`. -/
def Registered (s : AdmissionService) (handle : AdmissionHandle) : Prop :=
  handle.handleId ∈ (s.bindings handle.targetKey).map AdmissionHandle.handleId

instance (s : AdmissionService) (handle : AdmissionHandle) : Decidable (s.Registered handle) :=
  inferInstanceAs (Decidable (_ ∈ _))

/-- The target is closed by a lifecycle transition. -/
def Closed (s : AdmissionService) (targetKey : TargetKey) : Prop :=
  (s.closedAt targetKey).isSome = true

instance (s : AdmissionService) (targetKey : TargetKey) : Decidable (s.Closed targetKey) :=
  inferInstanceAs (Decidable (_ = _))

/-- The cancel fence of a handle. -/
def Cancelled (s : AdmissionService) (handle : AdmissionHandle) : Prop :=
  (s.flags handle.handleId).cancelled = true

instance (s : AdmissionService) (handle : AdmissionHandle) : Decidable (s.Cancelled handle) :=
  inferInstanceAs (Decidable (_ = _))

/-- The state of a handle. -/
def stateOf (s : AdmissionService) (handle : AdmissionHandle) : AdmissionState :=
  (s.flags handle.handleId).state

/-- Set the mutable part of one handle. -/
def setFlags (s : AdmissionService) (handle : AdmissionHandle) (flags : HandleFlags) :
    AdmissionService :=
  { s with flags := Function.update s.flags handle.handleId flags }

/-- Set the cancel fence of each handle in a list. -/
def cancelAll (s : AdmissionService) (handles : List AdmissionHandle) : AdmissionService :=
  { s with
    flags := fun id =>
      if id ∈ handles.map AdmissionHandle.handleId then { s.flags id with cancelled := true }
      else s.flags id }

/-! ## Reading -/

/-- An authoritative snapshot exists and carries the given generation. -/
def GenerationCurrent (s : AdmissionService) (targetKey : TargetKey) (generation : Int) : Prop :=
  (s.store targetKey).map TargetSnapshot.generation = some generation

instance (s : AdmissionService) (targetKey : TargetKey) (generation : Int) :
    Decidable (s.GenerationCurrent targetKey generation) :=
  inferInstanceAs (Decidable (_ = _))

/-- The handle is work over ssh whose admitted epoch is no longer current. -/
def EpochStaleForOp (s : AdmissionService) (handle : AdmissionHandle) : Prop :=
  handle.op = .sshTier ∧ handle.admitEpoch ≠ s.execEpoch handle.targetKey

instance (s : AdmissionService) (handle : AdmissionHandle) :
    Decidable (s.EpochStaleForOp handle) :=
  inferInstanceAs (Decidable (_ ∧ _))

/-- The authoritative snapshot of a target. -/
def currentSnapshot (s : AdmissionService) (targetKey : TargetKey) : Option TargetSnapshot :=
  s.store targetKey

/-- The execution epoch a probe stamps onto its proof. -/
def currentExecutionEpoch (s : AdmissionService) (targetKey : TargetKey) : Nat :=
  s.execEpoch targetKey

/-! ## Checks -/

/-- The request must offer the platform facts of the snapshot. -/
def checkPlatformDrift (snapshot : TargetSnapshot) (platform : PlatformMetadata) :
    Except AdmissionError Unit :=
  refuse (platform ≠ snapshot.platform)
    { message := "request.platform does not match the authoritative snapshot (stale/foreign facts)"
      category := .configurationError
      code := .stalePlatform }

/-- The recovery marker gates ordinary work at this snapshot: it is set and not
older than the snapshot, or there is no snapshot to compare it with. -/
def RecoveryGated (tombstone : Option Int) (snapshot : Option TargetSnapshot) : Prop :=
  match tombstone, snapshot with
  | none, _ => False
  | some _, none => True
  | some generation, some snapshot => snapshot.generation ≤ generation

instance (tombstone : Option Int) (snapshot : Option TargetSnapshot) :
    Decidable (RecoveryGated tombstone snapshot) := by
  unfold RecoveryGated
  split <;> infer_instance

/-- The gates every admission passes: open target, no recovery marker in the way,
a snapshot, and its generation. -/
def bindSnapshot (s : AdmissionService) (targetKey : TargetKey) (generation : Int)
    (recovery : Bool) : Except AdmissionError TargetSnapshot := do
  refuse (s.Closed targetKey)
    { message := "admission closed for target"
      category := .readinessFailure
      code := .admissionClosed }
  refuse (recovery = false ∧ RecoveryGated (s.recoveryRequired targetKey) (s.store targetKey))
    { message := "target is recovery_required; only transport.open(recovery=true) may attach"
      category := .readinessFailure
      code := .recoveryRequired }
  let snapshot ← require (s.store targetKey)
    { message := "no authoritative snapshot for target"
      category := .staleHandle
      code := .staleHandle }
  refuse (generation ≠ snapshot.generation)
    { message := s!"stale generation {generation} != {snapshot.generation}"
      category := .staleHandle
      code := .staleHandle }
  return snapshot

/-- The channel must offer every capability the tier needs. -/
def checkCaps (requiredCaps : List String) (channel : TransportRef) :
    Except AdmissionError Unit :=
  refuse (¬ ∀ cap ∈ requiredCaps, cap ∈ channel.caps)
    { message := "selected channel does not satisfy the tier's required_caps"
      category := .configurationError
      code := .insufficientCaps }

/-- An offered channel stands for the caller's copy. -/
def SameChannel (offered ref : TransportRef) : Prop :=
  offered.provider = ref.provider ∧ offered.channelId = ref.channelId

instance (offered ref : TransportRef) : Decidable (SameChannel offered ref) :=
  inferInstanceAs (Decidable (_ ∧ _))

/-- The caller's copy agrees with an offered channel. -/
def MatchesOffered (offered ref : TransportRef) : Prop :=
  Routing.eq (.map offered.targetRef) (.map ref.targetRef) = true ∧
    offered.lineRole = ref.lineRole ∧ offered.caps = ref.caps

instance (offered ref : TransportRef) : Decidable (MatchesOffered offered ref) :=
  inferInstanceAs (Decidable (_ ∧ _))

/-- Re-bind a caller's channel to the channel the snapshot offers. -/
def rebind (ref : TransportRef) (snapshot : TargetSnapshot) :
    Except AdmissionError TransportRef := do
  let offered ← require (snapshot.transports.find? fun offered => SameChannel offered ref)
    { message := "no such channel in snapshot"
      category := .configurationError
      code := .foreignRef }
  refuse (¬ MatchesOffered offered ref)
    { message := "transport_ref does not match snapshot"
      category := .configurationError
      code := .foreignRef }
  return offered

/-- A leased target admits only its lease holder. -/
def checkLeaseIdentity (snapshot : TargetSnapshot) (lease : Option LeaseInfo) :
    Except AdmissionError Unit :=
  match snapshot.lease with
  | none => .ok ()
  | some held =>
      refuse (lease.map LeaseInfo.leaseId ≠ some held.leaseId)
        { message := "request lease is missing or does not match the authoritative snapshot lease"
          category := .configurationError
          code := .staleLease }

/-- The lease of the snapshot must last long enough. -/
def checkLeaseTtl (s : AdmissionService) (snapshot : TargetSnapshot) (minLeaseTtl : Option Int)
    (now : Instant) : Except AdmissionError Unit :=
  match snapshot.lease.bind LeaseInfo.expiresAt with
  | none => .ok ()
  | some expiresAt =>
      refuse (expiresAt ≤ now + seconds (minLeaseTtl.getD s.defaultMinLeaseTtl))
        { message := "snapshot lease too close to expiry for min_lease_ttl"
          category := .readinessFailure
          code := .leaseNearExpiry }

/-- The states from which no live work may attach. -/
def nonLiveStates : List TargetState :=
  [.acquiring, .preparing, .booting, .resetting, .releasing, .crashed]

/-- The target must be live. -/
def rejectNonLive (state : TargetState) : Except AdmissionError Unit :=
  refuse (state ∈ nonLiveStates)
    { message := s!"target not in a live state: {state.value}"
      category := .readinessFailure
      code := .targetNotReady }

/-- All checks of a request that carries a channel. -/
def validateOpen (s : AdmissionService) (targetKey : TargetKey) (request : OpenRequest)
    (now : Instant) (recovery : Bool) :
    Except AdmissionError (TargetSnapshot × TransportRef) := do
  refuse (request.targetKey ≠ targetKey)
    { message := "request.target_key does not match the admission target"
      category := .configurationError
      code := .targetMismatch }
  let snapshot ← s.bindSnapshot targetKey request.generation recovery
  let channel ← rebind request.transportRef snapshot
  checkCaps request.requiredCaps channel
  checkPlatformDrift snapshot request.platform
  checkLeaseIdentity snapshot request.lease
  s.checkLeaseTtl snapshot (request.minLeaseTtl.map Subtype.val) now
  rejectNonLive snapshot.state
  return (snapshot, channel)

/-- A recovery attach needs a recovery marker at the snapshot's generation. -/
def requireRecoveryTombstone (s : AdmissionService) (targetKey : TargetKey)
    (snapshot : TargetSnapshot) : Except AdmissionError Unit :=
  refuse (s.recoveryRequired targetKey ≠ some snapshot.generation)
    { message := "recovery-mode attach requires a generation-current recovery_required tombstone"
      category := .readinessFailure
      code := .notRecoveryRequired }

/-- Work over ssh on a target under debug needs a proof that the kernel runs, at
the current generation and the current epoch. -/
def requireExecutingProof (s : AdmissionService) (targetKey : TargetKey)
    (snapshot : TargetSnapshot) (proof : Option ExecutionProof) : Except AdmissionError Unit := do
  let probeRequired : AdmissionError :=
    { message := "ssh-tier op against a DEBUGGING target requires a fresh EXECUTING probe (Layer 4)"
      category := .readinessFailure
      code := .executionStateUnknown }
  let proof ← require proof probeRequired
  let state ← proof.state.normalize
  refuse (state = .unknown) probeRequired
  refuse (proof.generation ≠ snapshot.generation)
    { message := s!"stale execution proof: probed at generation {proof.generation} != {snapshot.generation}"
      category := .staleHandle
      code := .staleHandle }
  refuse (proof.epoch ≠ s.execEpoch targetKey)
    { message := "stale execution proof: an execution-state transition occurred since the probe; re-probe"
      category := .readinessFailure
      code := .executionStateUnknown }
  refuse (state = .halted)
    { message := "target halted in debugger; resume or detach first"
      category := .readinessFailure
      code := .targetHalted }
  refuse (state ≠ .executing)
    { message := s!"ssh-tier op requires a positively-EXECUTING proof; got {state.value}"
      category := .readinessFailure
      code := .executionStateUnknown }

/-! ## Admission -/

/-- The handle `register` makes. -/
def newHandle (s : AdmissionService) (targetKey : TargetKey) (op : AdmissionOp)
    (channel : Option TransportRef) (snapshot : TargetSnapshot) (recovery : Bool) :
    AdmissionHandle where
  handleId := s.nextId
  targetKey := targetKey
  generation := snapshot.generation
  admitEpoch := s.execEpoch targetKey
  op := op
  channel := channel
  platform := snapshot.platform
  recovery := recovery

/-- Put a new handle into the table. -/
def registered (s : AdmissionService) (handle : AdmissionHandle) : AdmissionService :=
  { s with
    bindings := Function.update s.bindings handle.targetKey
      (s.bindings handle.targetKey ++ [handle])
    issued := s.issued ++ [handle]
    nextId := s.nextId + 1 }

/-- Register a binding against a snapshot. -/
def register (s : AdmissionService) (targetKey : TargetKey) (op : AdmissionOp)
    (channel : Option TransportRef) (snapshot : TargetSnapshot) (recovery : Bool) :
    AdmissionHandle × AdmissionService :=
  let handle := s.newHandle targetKey op channel snapshot recovery
  (handle, s.registered handle)

/-- `admit`: admission of a stop-capable open.  The target must be `READY`. -/
def admitOpen (s : AdmissionService) (targetKey : TargetKey) (request : OpenRequest)
    (now : Instant) : Except AdmissionError (AdmissionHandle × AdmissionService) := do
  let (snapshot, channel) ← s.validateOpen targetKey request now false
  refuse (snapshot.state ≠ .ready)
    { message := "stop-capable open requires READY"
      category := .readinessFailure
      code := .targetNotReady }
  return s.register targetKey .transportOpen (some channel) snapshot false

/-- Admit a recovery open, the one way in while a recovery marker stands. -/
def admitRecovery (s : AdmissionService) (targetKey : TargetKey) (request : OpenRequest)
    (now : Instant) : Except AdmissionError (AdmissionHandle × AdmissionService) := do
  let (snapshot, channel) ← s.validateOpen targetKey request now true
  s.requireRecoveryTombstone targetKey snapshot
  return s.register targetKey .transportOpen (some channel) snapshot true

/-- Admit work over ssh.  `READY` needs no proof, `DEBUGGING` needs an executing
one. -/
def admitSshTier (s : AdmissionService) (targetKey : TargetKey) (generation : Int)
    (platform : PlatformMetadata) (lease : Option LeaseInfo) (minLeaseTtl : Option Int)
    (executionProof : Option ExecutionProof) (now : Instant) :
    Except AdmissionError (AdmissionHandle × AdmissionService) := do
  let snapshot ← s.bindSnapshot targetKey generation false
  checkPlatformDrift snapshot platform
  checkLeaseIdentity snapshot lease
  s.checkLeaseTtl snapshot minLeaseTtl now
  rejectNonLive snapshot.state
  if snapshot.state ≠ .ready then
    s.requireExecutingProof targetKey snapshot executionProof
  return s.register targetKey .sshTier none snapshot false

/-! ## Publication and the execution epoch -/

/-- Publish the authoritative snapshot of a target. -/
def publishSnapshot (s : AdmissionService) (targetKey : TargetKey) (snapshot : TargetSnapshot) :
    Except AdmissionError (Unit × AdmissionService) := do
  let store ← s.store.put targetKey snapshot
  return ((), { s with store := store })

/-- Note an execution transition.  One observed at another generation is
dropped. -/
def noteExecutionTransition (s : AdmissionService) (targetKey : TargetKey) (generation : Int) :
    Nat × AdmissionService :=
  if s.GenerationCurrent targetKey generation then
    let epoch := s.execEpoch targetKey + 1
    (epoch, { s with execEpoch := Function.update s.execEpoch targetKey epoch })
  else (s.execEpoch targetKey, s)

/-- The bindings a halt cancels. -/
def haltCancels (s : AdmissionService) (targetKey : TargetKey) (generation haltEpoch : Int) :
    List AdmissionHandle :=
  (s.bindings targetKey).filter fun h =>
    h.op = .sshTier ∧ h.generation = generation ∧ (h.admitEpoch : Int) ≤ haltEpoch

/-- Cancel the ssh work a halt overtook. -/
def cancelSshTier (s : AdmissionService) (targetKey : TargetKey) (generation haltEpoch : Int) :
    List AdmissionHandle × AdmissionService :=
  if s.GenerationCurrent targetKey generation then
    let cancelled := s.haltCancels targetKey generation haltEpoch
    (cancelled, s.cancelAll cancelled)
  else ([], s)

/-! ## Promotion and disposal -/

/-- A registered binding becomes a live session. -/
def promote (s : AdmissionService) (handle : AdmissionHandle) :
    Except AdmissionError (Unit × AdmissionService) := do
  refuse (¬ s.Registered handle ∨ s.stateOf handle ≠ .pending)
    { message := "handle is not a registered PENDING binding"
      category := .readinessFailure
      code := .handleNotPending }
  refuse (s.Cancelled handle)
    { message := "admission cancelled before promotion"
      category := .readinessFailure
      code := .admissionCancelled }
  return ((), s.setFlags handle { s.flags handle.handleId with state := .promoted })

/-- Take a handle out of the table. -/
def disposed (s : AdmissionService) (handle : AdmissionHandle) (terminal : AdmissionState) :
    AdmissionService :=
  { s with
    bindings := Function.update s.bindings handle.targetKey
      ((s.bindings handle.targetKey).eraseP fun h => h.handleId = handle.handleId)
    flags := Function.update s.flags handle.handleId
      { s.flags handle.handleId with state := terminal } }

/-- Move a live registered handle to a terminal state. -/
def dispose (s : AdmissionService) (handle : AdmissionHandle) (terminal : AdmissionState) :
    Except AdmissionError (Unit × AdmissionService) := do
  refuse (¬ s.Registered handle ∨ ¬ (s.stateOf handle).Live)
    { message := "handle already disposed or not registered"
      category := .readinessFailure
      code := .handleAlreadyDisposed }
  return ((), s.disposed handle terminal)

/-- The success disposal. -/
def complete (s : AdmissionService) (handle : AdmissionHandle) :
    Except AdmissionError (Unit × AdmissionService) := do
  refuse (s.Cancelled handle)
    { message := "a cancelled handle must roll back (or abandon after confirm_reaped), not complete"
      category := .readinessFailure
      code := .admissionCancelled }
  refuse (s.EpochStaleForOp handle)
    { message := "ssh-tier op spanned an execution-state transition (halt) since admission; roll back, not complete"
      category := .readinessFailure
      code := .executionStateChanged }
  refuse (s.stateOf handle = .pending ∧ handle.op = .transportOpen)
    { message := "a pending transport.open must promote or roll back, not complete"
      category := .readinessFailure
      code := .invalidTerminalTransition }
  s.dispose handle .completed

/-- The failure disposal. -/
def rollback (s : AdmissionService) (handle : AdmissionHandle) :
    Except AdmissionError (Unit × AdmissionService) := do
  refuse (s.stateOf handle = .promoted ∧ s.Closed handle.targetKey ∧
      (s.flags handle.handleId).reaped = false)
    { message := "a promoted session on a closed target must be reaped (confirm_reaped) before rollback can deregister it; reopen stays blocked until teardown is proven"
      category := .readinessFailure
      code := .reaperConfirmationRequired }
  s.dispose handle .rolledBack

/-- The reaper reclaimed everything the binding held. -/
def confirmReaped (s : AdmissionService) (handle : AdmissionHandle) :
    Except AdmissionError (Unit × AdmissionService) := do
  refuse (¬ s.Closed handle.targetKey ∨ ¬ s.Cancelled handle)
    { message := "confirm_reaped requires a closed target and a cancelled handle"
      category := .readinessFailure
      code := .reapNotPermitted }
  refuse (¬ s.Registered handle)
    { message := "handle already disposed or not registered"
      category := .readinessFailure
      code := .handleAlreadyDisposed }
  return ((), s.setFlags handle { s.flags handle.handleId with reaped := true })

/-- The disposal of a binding whose owner cannot roll it back. -/
def abandon (s : AdmissionService) (handle : AdmissionHandle) :
    Except AdmissionError (Unit × AdmissionService) := do
  refuse (¬ s.Closed handle.targetKey ∨ ¬ s.Cancelled handle)
    { message := "abandon requires a closed target and a cancelled handle"
      category := .readinessFailure
      code := .abandonNotPermitted }
  refuse ((s.flags handle.handleId).reaped = false)
    { message := "abandon requires the reaper to confirm the binding's resources were reclaimed"
      category := .readinessFailure
      code := .reaperConfirmationRequired }
  s.dispose handle .abandoned

/-! ## Lifecycle closure and recovery markers -/

/-- A close for a generation the target has already left behind. -/
def StaleLifecycleClose (s : AdmissionService) (targetKey : TargetKey) (generation : Int) :
    Prop :=
  ¬ s.Closed targetKey ∧ ∃ snapshot ∈ s.store targetKey, generation < snapshot.generation

instance (s : AdmissionService) (targetKey : TargetKey) (generation : Int) :
    Decidable (s.StaleLifecycleClose targetKey generation) := by
  unfold StaleLifecycleClose
  infer_instance

/-- Fix the generation a target is closed at. -/
def closedAtFirst (s : AdmissionService) (targetKey : TargetKey) (generation : Int) :
    AdmissionService :=
  if s.Closed targetKey then s
  else { s with closedAt := Function.update s.closedAt targetKey (some generation) }

/-- Close a target and cancel its live bindings.  Only the first close fixes the
generation. -/
def closeAdmission (s : AdmissionService) (targetKey : TargetKey) (generation : Int) :
    List AdmissionHandle × AdmissionService :=
  if s.StaleLifecycleClose targetKey generation then ([], s)
  else (s.bindings targetKey, (s.closedAtFirst targetKey generation).cancelAll (s.bindings targetKey))

/-- Reopen a closed target once a newer snapshot is published and every old
binding is disposed. -/
def reopen (s : AdmissionService) (targetKey : TargetKey) :
    Except AdmissionError (Unit × AdmissionService) :=
  match s.closedAt targetKey with
  | none => .ok ((), s)
  | some closedGeneration => do
      refuse (¬ ∃ snapshot ∈ s.store targetKey, closedGeneration < snapshot.generation)
        { message := "admission stays closed: authoritative snapshot has not advanced past the closed generation"
          category := .readinessFailure
          code := .generationNotAdvanced }
      refuse (s.bindings targetKey ≠ [])
        { message := "cannot reopen: prior-generation bindings still outstanding; roll back or abandon them first"
          category := .readinessFailure
          code := .bindingsOutstanding }
      return ((), { s with closedAt := Function.update s.closedAt targetKey none })

/-- Mark a parked kernel.  A marker never regresses. -/
def markRecoveryRequired (s : AdmissionService) (targetKey : TargetKey) (generation : Int) :
    AdmissionService :=
  if ∃ existing ∈ s.recoveryRequired targetKey, generation < existing then s
  else { s with recoveryRequired := Function.update s.recoveryRequired targetKey (some generation) }

/-- Clear the marker of the given generation. -/
def clearRecoveryRequired (s : AdmissionService) (targetKey : TargetKey)
    (expectedGeneration : Int) : AdmissionService :=
  if s.recoveryRequired targetKey = some expectedGeneration then
    { s with recoveryRequired := Function.update s.recoveryRequired targetKey none }
  else s

/-! ## Calls -/

/-- An operation of the service, with its arguments. -/
inductive Call where
  | currentSnapshot (targetKey : TargetKey)
  | currentExecutionEpoch (targetKey : TargetKey)
  | publishSnapshot (targetKey : TargetKey) (snapshot : TargetSnapshot)
  | admitOpen (targetKey : TargetKey) (request : OpenRequest) (now : Instant)
  | admitRecovery (targetKey : TargetKey) (request : OpenRequest) (now : Instant)
  | admitSshTier (targetKey : TargetKey) (generation : Int) (platform : PlatformMetadata)
      (lease : Option LeaseInfo) (minLeaseTtl : Option Int)
      (executionProof : Option ExecutionProof) (now : Instant)
  | noteExecutionTransition (targetKey : TargetKey) (generation : Int)
  | cancelSshTier (targetKey : TargetKey) (generation haltEpoch : Int)
  | promote (handle : AdmissionHandle)
  | complete (handle : AdmissionHandle)
  | rollback (handle : AdmissionHandle)
  | confirmReaped (handle : AdmissionHandle)
  | abandon (handle : AdmissionHandle)
  | closeAdmission (targetKey : TargetKey) (generation : Int)
  | reopen (targetKey : TargetKey)
  | markRecoveryRequired (targetKey : TargetKey) (generation : Int)
  | clearRecoveryRequired (targetKey : TargetKey) (expectedGeneration : Int)

/-- The type of the answer of a call. -/
abbrev Call.Reply : Call → Type
  | .currentSnapshot _ => Option TargetSnapshot
  | .currentExecutionEpoch _ => Nat
  | .admitOpen .. | .admitRecovery .. | .admitSshTier .. => AdmissionHandle
  | .noteExecutionTransition .. => Nat
  | .cancelSshTier .. | .closeAdmission .. => List AdmissionHandle
  | .publishSnapshot .. | .promote _ | .complete _ | .rollback _ | .confirmReaped _ | .abandon _
  | .reopen _ | .markRecoveryRequired .. | .clearRecoveryRequired .. => Unit

/-- What a call that admits work admits it for. -/
def Call.admits : Call → Option AdmissionOp
  | .admitOpen .. | .admitRecovery .. => some .transportOpen
  | .admitSshTier .. => some .sshTier
  | _ => none

/-- Run one call.  A refusal leaves the service as it is. -/
def perform : (c : Call) → AdmissionService → Except AdmissionError c.Reply × AdmissionService
  | .currentSnapshot k, s => (.ok (s.currentSnapshot k), s)
  | .currentExecutionEpoch k, s => (.ok (s.currentExecutionEpoch k), s)
  | .publishSnapshot k snapshot, s => settle s (s.publishSnapshot k snapshot)
  | .admitOpen k request now, s => settle s (s.admitOpen k request now)
  | .admitRecovery k request now, s => settle s (s.admitRecovery k request now)
  | .admitSshTier k g platform lease ttl proof now, s =>
      settle s (s.admitSshTier k g platform lease ttl proof now)
  | .noteExecutionTransition k g, s =>
      (.ok (s.noteExecutionTransition k g).1, (s.noteExecutionTransition k g).2)
  | .cancelSshTier k g e, s => (.ok (s.cancelSshTier k g e).1, (s.cancelSshTier k g e).2)
  | .promote h, s => settle s (s.promote h)
  | .complete h, s => settle s (s.complete h)
  | .rollback h, s => settle s (s.rollback h)
  | .confirmReaped h, s => settle s (s.confirmReaped h)
  | .abandon h, s => settle s (s.abandon h)
  | .closeAdmission k g, s => (.ok (s.closeAdmission k g).1, (s.closeAdmission k g).2)
  | .reopen k, s => settle s (s.reopen k)
  | .markRecoveryRequired k g, s => (.ok (), s.markRecoveryRequired k g)
  | .clearRecoveryRequired k g, s => (.ok (), s.clearRecoveryRequired k g)

/-- The service after a call. -/
def after (c : Call) (s : AdmissionService) : AdmissionService := (s.perform c).2

end AdmissionService

end Kdive

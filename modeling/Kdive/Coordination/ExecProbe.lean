import Kdive.Coordination.World

/-!
# Execution probes and transitions

Work over ssh needs a running kernel.  Its callers read the published snapshot,
probe the execution state that the controller last wrote into the ownership
record, and submit the probe as their proof.  The controller halts a kernel by
writing `HALTED`, noting the transition and cancelling the ssh work it overtook,
and it resumes the kernel by writing `EXECUTING` and noting the transition.
No lock spans the steps of either side.
-/

namespace Kdive

open Checked Program

/-! ## Callers over ssh -/

/-- The cached fact an ssh admission rests on: the record's execution state,
then the epoch.  A target without a record is unknown. -/
def probeExecutionState (targetKey : TargetKey) (generation : Int) : Proc ExecutionProof := do
  let record ← call (.readRecord targetKey)
  let state := record.elim .unknown TransportSession.executionState
  let epoch ← call (.admission (.currentExecutionEpoch targetKey))
  pure ⟨generation, epoch, .known state⟩

/-- The published snapshot, which boot must have published. -/
def requireTargetSnapshot (targetKey : TargetKey) : Proc TargetSnapshot := do
  let snapshot ← call (.admission (.currentSnapshot targetKey))
  .ofExcept (require snapshot (.admission
    { message := "no authoritative snapshot for target; boot must publish a READY snapshot first"
      category := .readinessFailure
      code := .snapshotMissing }))

/-- A run of the tests is admitted.  It refuses a halted kernel itself. -/
def admitRunTestsSshTier (targetKey : TargetKey) (now : Instant) : Proc AdmissionHandle := do
  let snapshot ← requireTargetSnapshot targetKey
  let proof ← probeExecutionState targetKey snapshot.generation
  .ofExcept (refuse (proof.state = .known .halted) (.admission
    { message := "target halted in debugger; resume or detach before running tests"
      category := .readinessFailure
      code := .targetHalted }))
  call (.admission (.admitSshTier targetKey snapshot.generation snapshot.platform none none
    (some proof) now))

/-- An introspection call is admitted, under the lease of the snapshot. -/
def admitIntrospectCall (targetKey : TargetKey) (now : Instant) : Proc AdmissionHandle := do
  let snapshot ← requireTargetSnapshot targetKey
  let proof ← probeExecutionState targetKey snapshot.generation
  call (.admission (.admitSshTier targetKey snapshot.generation snapshot.platform snapshot.lease
    none (some proof) now))

/-! ## Transitions -/

/-- `halt_debug_transport`. -/
def haltDebugTransport (session : TransportSession) (write : Fault) : Proc Unit := do
  call (.writeRecord { session with executionState := .halted } write)
  let haltEpoch ← call (.admission
    (.noteExecutionTransition session.targetKey session.generation))
  let _ ← call (.admission (.cancelSshTier session.targetKey session.generation haltEpoch))

/-- `resume_debug_transport`. -/
def resumeDebugTransport (session : TransportSession) (write : Fault) : Proc Unit := do
  call (.writeRecord { session with executionState := .executing } write)
  let _ ← call (.admission (.noteExecutionTransition session.targetKey session.generation))

end Kdive

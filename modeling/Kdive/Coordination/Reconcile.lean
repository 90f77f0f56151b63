import Kdive.Coordination.AdmissionChange
import Kdive.Coordination.RegistryFiles

/-!
# Startup reconcile

A new server process runs `reconcile` before its first admission.  It marks every
target with a tombstone in the admission service, and then takes each record a
crashed process left: it reaps the backend, writes a tombstone if the kernel was
not running, notifies the server, and deletes the record.

*Failures.*  A file that cannot be read, a reap that raises and a notification
that raises something other than an `Exception` end the run.  A process may also
die between any two of its steps.
-/

namespace Kdive

open Checked Program

/-! ## State and operations -/

/-- What reconcile reads and writes. -/
structure ReconcileState where
  dir : RegistryDir
  admission : AdmissionService

/-- The atomic steps of reconcile. -/
inductive ReconcileOp where
  | tombstoneFiles
  | listRecords
  | markRecoveryRequired (targetKey : TargetKey) (generation : Int)
  | writeTombstone (tombstone : RecoveryTombstone)
  /-- The notification of the server, which closes admission if a live backend was killed. -/
  | onOrphanReaped (record : TransportSession) (killedLiveBackend : Bool) (fault : Fault)
  | deleteRecord (targetKey : TargetKey) (expectedSessionId : Nat)

/-- The type of the response of a step. -/
abbrev ReconcileOp.Resp : ReconcileOp → Type
  | .tombstoneFiles => List (FileName × TombstoneFile)
  | .listRecords => List TransportSession
  | .markRecoveryRequired .. | .writeTombstone _ | .onOrphanReaped .. | .deleteRecord .. => Unit

/-- `_on_orphan_reaped`.  A new process has no subscriber to tear down. -/
def AdmissionService.onOrphanReaped (s : AdmissionService) (record : TransportSession)
    (killedLiveBackend : Bool) : AdmissionService :=
  if s.StaleLifecycleClose record.targetKey record.generation ∨ killedLiveBackend = false then s
  else (s.closeAdmission record.targetKey record.generation).2

/-- The notification moves no recovery marker. -/
theorem AdmissionService.onOrphanReaped_recoveryRequired (s : AdmissionService)
    (record : TransportSession) (killed : Bool) :
    (s.onOrphanReaped record killed).recoveryRequired = s.recoveryRequired := by
  unfold onOrphanReaped
  split
  · rfl
  · exact (s.closeAdmission_change record.targetKey record.generation).recoveryRequired id

/-- Perform a step. -/
def ReconcileState.exec : (o : ReconcileOp) → ReconcileState → Except Raised o.Resp × ReconcileState
  | .tombstoneFiles, s => (.ok s.dir.tombs, s)
  | .listRecords, s => (s.dir.listRecords, s)
  | .markRecoveryRequired k g, s =>
      (.ok (), { s with admission := s.admission.markRecoveryRequired k g })
  | .writeTombstone t, s => (.ok (), { s with dir := s.dir.writeTombstone t })
  | .onOrphanReaped record killed fault, s =>
      (fault.check, { s with admission := s.admission.onOrphanReaped record killed })
  | .deleteRecord k sid, s =>
      ((s.dir.deleteRecord k sid).1, { s with dir := (s.dir.deleteRecord k sid).2 })

/-- A program of reconcile. -/
abbrev ReconcileProc (α : Type) : Type := Prog ReconcileOp.Resp Raised α

/-- Take one step. -/
abbrev step (o : ReconcileOp) : ReconcileProc o.Resp := Prog.perform o

/-! ## The program -/

/-- What the world outside decides about a run. -/
structure ReconcileEnv where
  /-- The fenced kill of a record's backend: whether it killed a live one, or what it raises. -/
  stopByIdentity : TransportSession → Except ExceptionKind Bool
  onOrphanReaped : TransportSession → Fault

/-- A process in which nothing raises and no backend lives. -/
def ReconcileEnv.calm : ReconcileEnv where
  stopByIdentity _ := .ok false
  onOrphanReaped _ := none

/-- The backend of one record was reaped. -/
structure OrphanReap where
  record : TransportSession
  closeAdmissionRequired : Bool
deriving DecidableEq, Repr

/-- What a run reports. -/
structure OrphanReapReport where
  reaped : List OrphanReap
  failures : List TransportSession
deriving DecidableEq, Repr

/-- Re-assert one persisted tombstone. -/
def reassertTombstone (file : TombstoneFile) : ReconcileProc Unit := do
  let loaded ← .ofExcept file.load
  Prog.forSome loaded fun t => step (.markRecoveryRequired t.targetKey t.generation)

/-- Reap the backend of a record, if it has one. -/
def reapBackend (env : ReconcileEnv) (record : TransportSession) : Except Raised Bool :=
  match record.backendPid with
  | none => .ok false
  | some _ => (env.stopByIdentity record).mapError .external

/-- The tombstone of a record whose kernel was not running. -/
def reconciledTombstone (record : TransportSession) : RecoveryTombstone where
  targetKey := record.targetKey
  generation := record.generation
  reason := "reconciled_" ++ record.executionState.value

/-- The kernel of a record is parked, or may be. -/
def Parked (record : TransportSession) : Prop :=
  record.executionState = .halted ∨ record.executionState = .unknown

instance (record : TransportSession) : Decidable (Parked record) :=
  inferInstanceAs (Decidable (_ ∨ _))

/-- Write the tombstone of a parked record and assert it. -/
def tombstoneParked (record : TransportSession) : ReconcileProc Unit :=
  Prog.when (Parked record) do
    step (.writeTombstone (reconciledTombstone record))
    step (.markRecoveryRequired record.targetKey record.generation)

/-- A failed notification is collected, if it is an `Exception`. -/
def notificationFailed : Except Raised Unit → Except Raised Bool
  | .ok _ => .ok false
  | .error e => if e.isException then .ok true else .error e

/-- Take down one record.  Returns the reap and whether its notification failed. -/
def reapOrphan (env : ReconcileEnv) (record : TransportSession) :
    ReconcileProc (OrphanReap × Bool) := do
  let killed ← .ofExcept (reapBackend env record)
  tombstoneParked record
  let notified ←
    (step (.onOrphanReaped record killed (env.onOrphanReaped record))).attempt
  let failed ← .ofExcept (notificationFailed notified)
  step (.deleteRecord record.targetKey record.sessionId)
  pure (⟨record, killed⟩, failed)

/-- Add one record to the report. -/
def OrphanReapReport.add (report : OrphanReapReport) (reap : OrphanReap) (failed : Bool) :
    OrphanReapReport where
  reaped := report.reaped ++ [reap]
  failures := if failed then report.failures ++ [reap.record] else report.failures

/-- Take down the records in order. -/
def reapOrphans (env : ReconcileEnv) :
    List TransportSession → OrphanReapReport → ReconcileProc OrphanReapReport
  | [], report => pure report
  | record :: records, report => do
      let reaped ← reapOrphan env record
      reapOrphans env records (report.add reaped.1 reaped.2)

/-- `reconcile`. -/
def reconcile (env : ReconcileEnv) : ReconcileProc OrphanReapReport := do
  let files ← step .tombstoneFiles
  Prog.forEach files fun file => reassertTombstone file.2
  let records ← step .listRecords
  reapOrphans env records ⟨[], []⟩

/-! ## Outcomes that end a run -/

/-- Nothing raises out of the reap of a record and its notification. -/
def QuietOn (env : ReconcileEnv) (record : TransportSession) : Prop :=
  (∃ killed, reapBackend env record = .ok killed) ∧
    env.onOrphanReaped record ≠ some .baseException

instance (env : ReconcileEnv) (record : TransportSession) : Decidable (QuietOn env record) :=
  have : Decidable (∃ killed, reapBackend env record = .ok killed) :=
    match h : reapBackend env record with
    | .ok killed => .isTrue ⟨killed, rfl⟩
    | .error e => .isFalse fun hex => by
        obtain ⟨killed, hk⟩ := hex
        cases hk
  inferInstanceAs (Decidable (_ ∧ _))

theorem notificationFailed_eq_ok {fault : Fault} {failed : Bool} :
    notificationFailed fault.check = .ok failed →
      fault ≠ some .baseException := by
  rintro h rfl
  simp [notificationFailed, Fault.check, Raised.isException] at h

theorem notificationFailed_of_ne {fault : Fault} (h : fault ≠ some .baseException) :
    ∃ failed, notificationFailed fault.check = .ok failed := by
  cases fault with
  | none => exact ⟨false, rfl⟩
  | some kind =>
      cases kind with
      | gdbMiError => exact ⟨true, rfl⟩
      | exception => exact ⟨true, rfl⟩
      | baseException => exact absurd rfl h

/-! ## What a run does to the directory -/

/-- The directory after the tombstone of a record. -/
def tombed (d : RegistryDir) (record : TransportSession) : RegistryDir :=
  if Parked record then d.writeTombstone (reconciledTombstone record) else d

/-- The directory after one record was taken down. -/
def reapedDir (d : RegistryDir) (record : TransportSession) : RegistryDir :=
  ((tombed d record).deleteRecord record.targetKey record.sessionId).2

@[simp] theorem tombed_owners (d : RegistryDir) (record : TransportSession) :
    (tombed d record).owners = d.owners := by
  unfold tombed
  split <;> rfl

@[simp] theorem tombed_twice (d : RegistryDir) (record : TransportSession) :
    tombed (tombed d record) record = tombed d record := by
  by_cases hparked : Parked record
  · simp [tombed, hparked]
  · simp [tombed, hparked]

/-- The admission service after the mark of a record. -/
def marked (s : AdmissionService) (record : TransportSession) : AdmissionService :=
  if Parked record then s.markRecoveryRequired record.targetKey record.generation else s

section Steps

variable {env : ReconcileEnv} {record : TransportSession} {s s' : ReconcileState}

theorem tombstoneParked_run :
    (tombstoneParked record).run ReconcileState.exec s =
      (.ok (), ⟨tombed s.dir record, marked s.admission record⟩) := by
  by_cases hparked : Parked record
  · simp [tombstoneParked, Prog.when, hparked, Prog.run_bind, ReconcileState.exec, tombed, marked]
  · simp [tombstoneParked, Prog.when, hparked, tombed, marked]

theorem tombstoneParked_reaches
    (h : (tombstoneParked record).Reaches ReconcileState.exec s s') :
    s'.dir = s.dir ∨ s'.dir = tombed s.dir record := by
  by_cases hparked : Parked record
  · simp only [tombstoneParked, Prog.when, hparked, if_true, Prog.reaches_bind,
      Prog.reaches_perform, Prog.run_perform, ReconcileState.exec] at h
    rw [tombed, if_pos hparked]
    rcases h with (rfl | rfl) | ⟨_, _, heq, rfl | rfl⟩
    · exact .inl rfl
    · exact .inr rfl
    · cases heq
      exact .inr rfl
    · cases heq
      exact .inr rfl
  · simp only [tombstoneParked, Prog.when, hparked, if_false, Prog.pure_eq,
      Prog.reaches_ret] at h
    exact .inl (congrArg ReconcileState.dir h)

/-- The admission service after a record was taken down. -/
def notified (s : AdmissionService) (record : TransportSession) (killed : Bool) :
    AdmissionService :=
  (marked s record).onOrphanReaped record killed

theorem reapOrphan_run :
    (reapOrphan env record).run ReconcileState.exec s =
      match reapBackend env record with
      | .error e => (.error e, s)
      | .ok killed =>
          match notificationFailed (env.onOrphanReaped record).check with
          | .error e => (.error e, ⟨tombed s.dir record, notified s.admission record killed⟩)
          | .ok failed =>
              (((tombed s.dir record).deleteRecord record.targetKey record.sessionId).1.map
                  fun _ => (⟨record, killed⟩, failed),
                ⟨reapedDir s.dir record, notified s.admission record killed⟩) := by
  unfold reapOrphan
  simp only [Prog.run_bind, Prog.run_ofExcept]
  cases hkill : reapBackend env record with
  | error e => rfl
  | ok killed =>
      simp only [tombstoneParked_run, Prog.run_attempt, Prog.run_perform, ReconcileState.exec]
      cases hfailed : notificationFailed (env.onOrphanReaped record).check with
      | error e => rfl
      | ok failed =>
          cases hdelete :
            ((tombed s.dir record).deleteRecord record.targetKey record.sessionId).1 with
          | error e => simp [hdelete, reapedDir, notified, Except.map]
          | ok u => simp [hdelete, reapedDir, notified, Except.map]

/-- A record that was taken down raised nothing. -/
theorem reapOrphan_ok {reap : OrphanReap × Bool}
    (h : (reapOrphan env record).run ReconcileState.exec s = (.ok reap, s')) :
    QuietOn env record ∧ s'.dir = reapedDir s.dir record ∧
      ∃ killed, s'.admission = notified s.admission record killed := by
  rw [reapOrphan_run] at h
  cases hkill : reapBackend env record with
  | error e => simp [hkill] at h
  | ok killed =>
      cases hfailed : notificationFailed (env.onOrphanReaped record).check with
      | error e => simp [hkill, hfailed] at h
      | ok failed =>
          simp only [hkill, hfailed, Prod.mk.injEq] at h
          obtain ⟨_, rfl⟩ := h
          exact ⟨⟨⟨killed, hkill⟩, notificationFailed_eq_ok hfailed⟩, rfl, killed, rfl⟩

/-- A record whose reap and notification raise nothing is taken down, if the file at
its path reads. -/
theorem reapOrphan_of_quiet (hquiet : QuietOn env record)
    (hread : ((tombed s.dir record).deleteRecord record.targetKey record.sessionId).1 = .ok ()) :
    ∃ reap admission, (reapOrphan env record).run ReconcileState.exec s =
      (.ok reap, ⟨reapedDir s.dir record, admission⟩) := by
  obtain ⟨⟨killed, hkill⟩, hcallback⟩ := hquiet
  obtain ⟨failed, hfailed⟩ := notificationFailed_of_ne hcallback
  rw [reapOrphan_run, hkill, hfailed, hread]
  exact ⟨_, _, rfl⟩

/-- Where the takedown of a record may be cut. -/
theorem reapOrphan_reaches (h : (reapOrphan env record).Reaches ReconcileState.exec s s') :
    s'.dir = s.dir ∨ s'.dir = tombed s.dir record ∨ s'.dir = reapedDir s.dir record := by
  unfold reapOrphan at h
  simp only [Prog.reaches_bind, Prog.reaches_ofExcept, Prog.run_ofExcept, tombstoneParked_run,
    Prog.reaches_attempt, Prog.reaches_perform, Prog.run_attempt, Prog.run_perform,
    ReconcileState.exec, Prog.pure_eq, Prog.reaches_ret] at h
  rcases h with rfl | ⟨killed, _, heq, h⟩
  · exact .inl rfl
  obtain ⟨_, rfl⟩ := Prod.mk.inj heq
  rcases h with h | ⟨_, _, heq, h⟩
  · cases tombstoneParked_reaches h with
    | inl hsame => exact .inl hsame
    | inr htombed => exact .inr (.inl htombed)
  cases heq
  rcases h with (rfl | rfl) | ⟨_, _, heq, h⟩
  · exact .inr (.inl rfl)
  · exact .inr (.inl rfl)
  cases heq
  rcases h with rfl | ⟨failed, _, heq, h⟩
  · exact .inr (.inl rfl)
  obtain ⟨_, rfl⟩ := Prod.mk.inj heq
  rcases h with (rfl | rfl) | ⟨_, _, heq, rfl⟩
  · exact .inr (.inl rfl)
  · exact .inr (.inr rfl)
  · obtain ⟨_, rfl⟩ := Prod.mk.inj heq
    exact .inr (.inr rfl)

end Steps

end Kdive

import Kdive.Coordination.ExecProbe
import Kdive.Coordination.LocalTarget
import Kdive.Coordination.Reconcile
import Kdive.Coordination.ThreadCalls
import Kdive.Coordination.WorldChange

/-!
# The recovery marker and its cache

A parked kernel is marked twice: by a tombstone on disk and in the cache of the
admission service.  The mark in the cache never regresses.  The tombstone is
replaced whatever stands there, so the two part when an operation marks a target
at a smaller generation.  They agree after every sequence of operations in which
none does.

*Restarts.*  A server reconciles before it serves, so a restart is the new process
together with its reconcile.
-/

namespace Kdive

open Checked Program

/-! ## The marker -/

/-- A marker was kept or replaced by one that is not smaller. -/
def NotSmaller (old new : Option Int) : Prop := ∀ g ∈ old, ∃ g' ∈ new, g ≤ g'

theorem NotSmaller.refl (m : Option Int) : NotSmaller m m := fun g hg => ⟨g, hg, le_rfl⟩

theorem NotSmaller.trans {m₁ m₂ m₃ : Option Int} (h : NotSmaller m₁ m₂)
    (h' : NotSmaller m₂ m₃) : NotSmaller m₁ m₃ := by
  intro g hg
  obtain ⟨g₂, hg₂, hle⟩ := h g hg
  obtain ⟨g₃, hg₃, hle'⟩ := h' g₂ hg₂
  exact ⟨g₃, hg₃, hle.trans hle'⟩

/-- The generation of the tombstone of a target. -/
def SessionRegistry.marker (r : SessionRegistry) (k : TargetKey) : Option Int :=
  (r.readTombstone k).map RecoveryTombstone.generation

/-- The tombstones and the cache hold the same generations. -/
def Agree (r : SessionRegistry) (a : AdmissionService) : Prop :=
  ∀ k, r.marker k = a.recoveryRequired k

section Marker

variable {r : SessionRegistry} {a : AdmissionService} {t : RecoveryTombstone} {k : TargetKey}

theorem marker_writeTombstone_self : (r.writeTombstone t).marker t.targetKey = some t.generation := by
  simp [SessionRegistry.marker]

theorem marker_writeTombstone_ne (hne : k ≠ t.targetKey) :
    (r.writeTombstone t).marker k = r.marker k := by
  rw [SessionRegistry.marker, SessionRegistry.readTombstone_writeTombstone_ne _ _ _ hne]
  rfl

/-- Writing a tombstone that is not smaller than the one it replaces. -/
theorem notSmaller_writeTombstone (hnewer : ∀ g ∈ r.marker t.targetKey, g ≤ t.generation) :
    NotSmaller (r.marker k) ((r.writeTombstone t).marker k) := by
  by_cases hk : k = t.targetKey
  · subst hk
    intro g hg
    exact ⟨t.generation, marker_writeTombstone_self, hnewer g hg⟩
  · rw [marker_writeTombstone_ne hk]
    exact .refl _

/-- The dual write keeps the agreement if it does not go back. -/
theorem Agree.mark (h : Agree r a) (hnewer : ∀ g ∈ r.marker t.targetKey, g ≤ t.generation) :
    Agree (r.writeTombstone t) (a.markRecoveryRequired t.targetKey t.generation) := by
  have hmark : a.markRecoveryRequired t.targetKey t.generation =
      { a with
        recoveryRequired :=
          Function.update a.recoveryRequired t.targetKey (some t.generation) } := by
    refine if_neg fun hex => ?_
    obtain ⟨g, hg, hlt⟩ := hex
    rw [← h] at hg
    exact absurd (hnewer g hg) (not_le.mpr hlt)
  intro k
  rw [hmark]
  by_cases hk : k = t.targetKey
  · subst hk
    show _ = Function.update a.recoveryRequired t.targetKey (some t.generation) t.targetKey
    rw [marker_writeTombstone_self, Function.update_self]
  · show _ = Function.update a.recoveryRequired t.targetKey (some t.generation) k
    rw [marker_writeTombstone_ne hk, h k, Function.update_of_ne hk]

/-- The dual clearance keeps the agreement. -/
theorem Agree.clear (h : Agree r a) {g : Int} :
    Agree (if r.marker k = some g then r.unlinkTombstone k else r)
      (a.clearRecoveryRequired k g) := by
  unfold AdmissionService.clearRecoveryRequired
  rw [h k]
  split
  · intro k'
    show _ = Function.update a.recoveryRequired k none k'
    by_cases hk : k' = k
    · subst hk
      simp [SessionRegistry.marker]
    · rw [SessionRegistry.marker, SessionRegistry.readTombstone_unlinkTombstone_ne _ _ _ hk,
        Function.update_of_ne hk]
      exact h k'
  · exact h

end Marker

/-! ## Reconcile -/

/-- The registry after the tombstone of a record. -/
def tombedRegistry (r : SessionRegistry) (record : TransportSession) : SessionRegistry :=
  if Parked record then r.writeTombstone (reconciledTombstone record) else r

section Reconcile

variable {r : SessionRegistry} {a : AdmissionService} {env : ReconcileEnv}
  {record : TransportSession} {records : List TransportSession} {s : ReconcileState}

theorem Distinct.tombed (h : r.Distinct) : (tombedRegistry r record).Distinct := by
  unfold tombedRegistry
  split
  · exact h.writeTombstone _
  · exact h

@[simp] theorem tombedRegistry_records : (tombedRegistry r record).records = r.records := by
  unfold tombedRegistry
  split <;> rfl

theorem tombed_ofRegistry (h : r.Distinct) :
    tombed (.ofRegistry r h) record = .ofRegistry (tombedRegistry r record) (Distinct.tombed h) := by
  by_cases hparked : Parked record
  · simp [tombed, tombedRegistry, hparked, RegistryDir.ofRegistry_writeTombstone]
  · simp [tombed, tombedRegistry, hparked]

/-- A tombstone of a record that is not smaller than the one it replaces. -/
def TombstoneAdvances (r : SessionRegistry) (record : TransportSession) : Prop :=
  Parked record → ∀ g ∈ r.marker record.targetKey, g ≤ record.generation

instance (r : SessionRegistry) (record : TransportSession) :
    Decidable (TombstoneAdvances r record) :=
  inferInstanceAs (Decidable (_ → _))

theorem Agree.tombed (h : Agree r a) (hadv : TombstoneAdvances r record) (killed : Bool) :
    Agree (tombedRegistry r record) (notified a record killed) ∧
      ∀ k, NotSmaller (r.marker k) ((tombedRegistry r record).marker k) := by
  unfold Agree notified tombedRegistry marked
  simp only [AdmissionService.onOrphanReaped_recoveryRequired]
  split
  · rename_i hparked
    exact ⟨h.mark (t := reconciledTombstone record) (hadv hparked),
      fun k => notSmaller_writeTombstone (hadv hparked)⟩
  · exact ⟨h, fun k => .refl _⟩

/-- The tombstones a start asserts, in order. -/
def assertAll (ts : List RecoveryTombstone) (a : AdmissionService) : AdmissionService :=
  ts.foldl (fun a t => a.markRecoveryRequired t.targetKey t.generation) a

theorem reassert_run (ts : List RecoveryTombstone) (s : ReconcileState) :
    (Prog.forEach (ts.map tombEntry) fun file => reassertTombstone file.2).run
      ReconcileState.exec s = (.ok (), ⟨s.dir, assertAll ts s.admission⟩) := by
  induction ts generalizing s with
  | nil => rfl
  | cons t ts ih => exact ih ⟨s.dir, s.admission.markRecoveryRequired t.targetKey t.generation⟩

/-- Marking a target that has no marker. -/
theorem markRecoveryRequired_of_none {k : TargetKey} {g : Int} (h : a.recoveryRequired k = none) :
    (a.markRecoveryRequired k g).recoveryRequired =
      Function.update a.recoveryRequired k (some g) := by
  unfold AdmissionService.markRecoveryRequired
  rw [h]
  simp

/-- Asserting the tombstones of distinct targets enters each. -/
theorem assertAll_recoveryRequired {ts : List RecoveryTombstone} {k : TargetKey}
    (hdistinct : (ts.map RecoveryTombstone.targetKey).Nodup)
    (hnone : ∀ t ∈ ts, a.recoveryRequired t.targetKey = none) :
    (assertAll ts a).recoveryRequired k =
      ((ts.find? fun t => t.targetKey = k).map RecoveryTombstone.generation).or
        (a.recoveryRequired k) := by
  induction ts generalizing a with
  | nil => rfl
  | cons t ts ih =>
      obtain ⟨hfirst, hrest⟩ := List.forall_mem_cons.mp hnone
      rw [List.map_cons, List.nodup_cons] at hdistinct
      have hmark := markRecoveryRequired_of_none (g := t.generation) hfirst
      have hother : ∀ t' ∈ ts, t'.targetKey ≠ t.targetKey := fun t' hm heq =>
        hdistinct.1 (heq ▸ List.mem_map_of_mem hm)
      show (assertAll ts (a.markRecoveryRequired t.targetKey t.generation)).recoveryRequired k = _
      rw [ih hdistinct.2 fun t' hm => by
        rw [hmark, Function.update_of_ne (hother t' hm)]
        exact hrest t' hm]
      rw [hmark]
      by_cases hk : t.targetKey = k
      · subst hk
        have hnotFound : ts.find? (fun t' => t'.targetKey = t.targetKey) = none := by
          rw [List.find?_eq_none]
          intro t' hm
          simpa using hother t' hm
        simp [hnotFound]
      · rw [List.find?_cons_of_neg (by simpa using hk), Function.update_of_ne (Ne.symm hk)]

/-- A start from an empty cache leaves the tombstones and the cache in agreement. -/
theorem agree_assertAll (h : r.Distinct) (hnone : ∀ k, a.recoveryRequired k = none) :
    Agree r (assertAll r.tombstones a) := by
  intro k
  rw [assertAll_recoveryRequired h.2 fun t _ => hnone t.targetKey, hnone k, Option.or_none]
  rfl

/-- No tombstone a run writes is smaller than the one it replaces.  A run writes one for
each parked record up to the one at which it raises. -/
def RunAdvances (env : ReconcileEnv) (r : SessionRegistry) (records : List TransportSession) :
    Prop :=
  ∀ done record rest, records = done ++ record :: rest → (∀ other ∈ done, QuietOn env other) →
    (∃ killed, reapBackend env record = .ok killed) → TombstoneAdvances r record

/-- What the records leave behind: a registry and a cache that agree, with no marker
smaller. -/
def LeavesAgreement (r : SessionRegistry) (s : ReconcileState) : Prop :=
  ∃ r' h, s.dir = .ofRegistry r' h ∧ Agree r' s.admission ∧
    ∀ k, NotSmaller (r.marker k) (r'.marker k)

/-- The records after the first, once it was taken down. -/
theorem RunAdvances.tail (h : RunAdvances env r (record :: records))
    (hdistinct : ((record :: records).map TransportSession.targetKey).Nodup)
    (hquiet : QuietOn env record) :
    RunAdvances env ((tombedRegistry r record).unlinkRecord record.targetKey) records := by
  rintro done next rest rfl hdone hkill hparked g hg
  refine h (record :: done) next rest rfl (List.forall_mem_cons.mpr ⟨hquiet, hdone⟩) hkill
    hparked g ?_
  have hne : next.targetKey ≠ record.targetKey := by
    rw [List.map_cons, List.nodup_cons] at hdistinct
    exact fun heq => hdistinct.1 (heq ▸ List.mem_map_of_mem (by simp))
  have hsame : (tombedRegistry r record).marker next.targetKey = r.marker next.targetKey := by
    unfold tombedRegistry
    split
    · exact marker_writeTombstone_ne hne
    · rfl
  rwa [← hsame]

theorem LeavesAgreement.of_le {r' : SessionRegistry} (h : LeavesAgreement r' s)
    (hkept : ∀ k, NotSmaller (r.marker k) (r'.marker k)) : LeavesAgreement r s := by
  obtain ⟨r'', hr'', hdir, hagree, hle⟩ := h
  exact ⟨r'', hr'', hdir, hagree, fun k => (hkept k).trans (hle k)⟩

theorem reapOrphans_agree {report : OrphanReapReport} (h : r.Distinct)
    (hrecords : r.records = records) (hdir : s.dir = .ofRegistry r h)
    (hagree : Agree r s.admission) (hadv : RunAdvances env r records) :
    LeavesAgreement r ((reapOrphans env records report).run ReconcileState.exec s).2 := by
  induction records generalizing r s report with
  | nil => exact ⟨r, h, hdir, hagree, fun k => .refl _⟩
  | cons record records ih =>
      rw [reapOrphans, Prog.run_bind, reapOrphan_run]
      cases hkill : reapBackend env record with
      | error e => exact ⟨r, h, hdir, hagree, fun k => .refl _⟩
      | ok killed =>
          have hfirst : TombstoneAdvances r record :=
            hadv [] record records rfl (by simp) ⟨killed, hkill⟩
          obtain ⟨hmarked, hkept⟩ := hagree.tombed hfirst killed
          have htombed : tombed s.dir record =
              .ofRegistry (tombedRegistry r record) (Distinct.tombed h) := by
            rw [hdir, tombed_ofRegistry]
          cases hfailed : notificationFailed (env.onOrphanReaped record).check with
          | error e => exact ⟨_, _, htombed, hmarked, hkept⟩
          | ok failed =>
              have hquiet : QuietOn env record :=
                ⟨⟨killed, hkill⟩, notificationFailed_eq_ok hfailed⟩
              have hm : ownEntry record ∈ (tombed s.dir record).owners := by
                rw [tombed_owners, hdir]
                exact List.mem_map_of_mem (hrecords ▸ List.mem_cons_self)
              have hreaped : reapedDir s.dir record =
                  .ofRegistry ((tombedRegistry r record).unlinkRecord record.targetKey)
                    ((Distinct.tombed h).unlinkRecord _) := by
                rw [reapedDir, RegistryDir.deleteRecord_own hm, htombed,
                  RegistryDir.ofRegistry_unlinkOwner]
              have hdistinct := h.1
              rw [hrecords] at hdistinct
              have hleft : ((tombedRegistry r record).unlinkRecord record.targetKey).records =
                  records := by
                rw [List.map_cons, List.nodup_cons] at hdistinct
                rw [SessionRegistry.unlinkRecord, tombedRegistry_records, hrecords,
                  List.filter_cons_of_neg (by simp), List.filter_eq_self]
                intro other hother
                have hne : other.targetKey ≠ record.targetKey := fun heq =>
                  hdistinct.1 (heq ▸ List.mem_map_of_mem hother)
                simpa using hne
              simp only [RegistryDir.deleteRecord_own hm]
              exact (ih (s := ⟨reapedDir s.dir record, notified s.admission record killed⟩)
                _ hleft hreaped hmarked (hadv.tail hdistinct hquiet)).of_le hkept

/-- A start from an empty cache on the directory of a registry. -/
theorem reconcile_agree (h : r.Distinct) (hnone : ∀ k, a.recoveryRequired k = none)
    (hadv : RunAdvances env r r.records) :
    LeavesAgreement r ((reconcile env).run ReconcileState.exec ⟨.ofRegistry r h, a⟩).2 := by
  have hlist : (RegistryDir.ofRegistry r h).listRecords = .ok r.records := by
    rw [RegistryDir.listRecords_eq_ok]
    show (r.records.map ownEntry).map Prod.snd = _
    rw [List.map_map]
    rfl
  have htombs : (RegistryDir.ofRegistry r h).tombs = r.tombstones.map tombEntry := rfl
  have hrun : (reconcile env).run ReconcileState.exec ⟨.ofRegistry r h, a⟩ =
      (reapOrphans env r.records ⟨[], []⟩).run ReconcileState.exec
        ⟨.ofRegistry r h, assertAll r.tombstones a⟩ := by
    unfold reconcile
    simp only [Prog.run_bind, Prog.run_perform, ReconcileState.exec, htombs, reassert_run, hlist]
  rw [hrun]
  exact reapOrphans_agree h rfl rfl (agree_assertAll h hnone) hadv

end Reconcile

/-! ## Legacy sessions -/

/-- The generation a legacy session is fenced at. -/
def legacyGeneration (snapshot : Option TargetSnapshot) : Int :=
  snapshot.elim 0 TargetSnapshot.generation

/-- `mark_legacy_session_recovery_required`. -/
def markLegacySession (runId : String) (tombstoneWrite : Fault) : Proc Unit := do
  let snapshot ← call (.admission (.currentSnapshot (localTarget runId)))
  markRecovery (localTarget runId) (legacyGeneration snapshot) "legacy_session_no_ownership"
    tombstoneWrite

/-- `_fence_legacy_debug_session`: a debug session without a record is refused. -/
def fenceLegacyDebugSession (runId : String) (tombstoneWrite : Fault) : Proc Unit := do
  let record ← call (.readRecord (localTarget runId))
  Prog.when (record.isNone) do
    markLegacySession runId tombstoneWrite
    .raise (.providerDebug "legacy_session_no_ownership")

/-! ## Sequences of operations -/

/-- A new process on the same disk, which reconciles before it serves.  A server keeps
one file for each target. -/
def World.start (w : World) (env : ReconcileEnv) : World :=
  if h : w.registry.Distinct then
    let s := ((reconcile env).run ReconcileState.exec
      ⟨.ofRegistry w.registry h, w.restart.admission⟩).2
    { w.restart with registry := s.dir.toRegistry, admission := s.admission }
  else w.restart

/-- The operations that move no recovery marker. -/
def Op.SparesMarker (o : Op) : Prop := ¬ World.MovesMarker o

/-- One operation of a server. -/
inductive ServerStep where
  | close (env : CloseEnv) (sessionId : Nat) (force : Bool)
  | fenceLegacy (runId : String) (tombstoneWrite : Fault)
  | markLegacy (runId : String) (tombstoneWrite : Fault)
  | openSession (env : OpenEnv) (request : OpenRequest) (recovery : Bool)
  | restart (env : ReconcileEnv)
  /-- Any other program. -/
  | other (program : Proc Unit) (spares : program.Calls Op.SparesMarker)

/-- The world when the operation has returned. -/
def ServerStep.perform : ServerStep → World → World
  | .close env sid force, w => ((closeSession env sid force).run World.exec w).2
  | .fenceLegacy runId write, w => ((fenceLegacyDebugSession runId write).run World.exec w).2
  | .markLegacy runId write, w => ((markLegacySession runId write).run World.exec w).2
  | .openSession env request recovery, w =>
      ((Kdive.openSession env request recovery).run World.exec w).2
  | .restart env, w => w.start env
  | .other program _, w => (program.run World.exec w).2

/-- A close that gets to the write of a tombstone. -/
structure ClosesParked (env : CloseEnv) (record : TransportSession) (force : Bool) : Prop where
  parked : record.executionState ≠ .executing
  unforced : force = false
  known : env.transports record.provider ≠ none
  recorded : env.closingWrite = none
  closed : env.transportClose ≠ some .baseException
  written : env.tombstoneWrite = none

/-- No tombstone the operation writes is smaller than the one it replaces. -/
def ServerStep.Advances : ServerStep → World → Prop
  | .close env sid force, w =>
      ∀ record, w.registry.records.find? (fun record => record.sessionId = sid) = some record →
        ClosesParked env record force →
          ∀ g ∈ w.registry.marker record.targetKey, g ≤ record.generation
  | .fenceLegacy runId write, w =>
      write = none → w.registry.readRecord (localTarget runId) = none →
        ∀ g ∈ w.registry.marker (localTarget runId),
          g ≤ legacyGeneration (w.admission.currentSnapshot (localTarget runId))
  | .markLegacy runId write, w =>
      write = none → ∀ g ∈ w.registry.marker (localTarget runId),
        g ≤ legacyGeneration (w.admission.currentSnapshot (localTarget runId))
  | .restart env, w => RunAdvances env w.registry w.registry.records
  | .openSession .., _ | .other .., _ => True

/-- The operation is a recovery open of a target that succeeds. -/
def ServerStep.Recovers : ServerStep → World → TargetKey → Prop
  | .openSession env request recovery, w, k =>
      recovery = true ∧ k = request.targetKey ∧
        ∃ session, ((Kdive.openSession env request recovery).run World.exec w).1 = .ok session
  | _, _, _ => False

/-- What an operation does to the markers. -/
structure MarkersKept (step : ServerStep) (w : World) : Prop where
  agree : Agree (step.perform w).registry (step.perform w).admission
  durable : ∀ k, NotSmaller (w.registry.marker k) ((step.perform w).registry.marker k) ∨
    step.Recovers w k ∧ (step.perform w).registry.marker k = none
  cache : ∀ k, NotSmaller (w.admission.recoveryRequired k)
      ((step.perform w).admission.recoveryRequired k) ∨
    step.Recovers w k ∧ (step.perform w).admission.recoveryRequired k = none

/-! ## What each program does -/

/-- The markers and the files are in order. -/
structure World.Consistent (w : World) : Prop where
  distinct : w.registry.Distinct
  agree : Agree w.registry w.admission

/-- The markers are those of an earlier state. -/
structure SameMarkers (w₀ w : World) : Prop where
  distinct : w.registry.Distinct
  tombstones : w.registry.tombstones = w₀.registry.tombstones
  cache : w.admission.recoveryRequired = w₀.admission.recoveryRequired

/-- The markers are those of an earlier state or not smaller. -/
structure LaterMarkers (w₀ w : World) : Prop where
  consistent : w.Consistent
  kept : ∀ k, NotSmaller (w₀.registry.marker k) (w.registry.marker k)

section Steps

variable {w₀ w : World} {o : Op}

theorem SameMarkers.marker (h : SameMarkers w₀ w) (k : TargetKey) :
    w.registry.marker k = w₀.registry.marker k := by
  simp only [SessionRegistry.marker, SessionRegistry.readTombstone, h.tombstones]

theorem SameMarkers.later (h : SameMarkers w₀ w) (h₀ : w₀.Consistent) : LaterMarkers w₀ w where
  consistent := ⟨h.distinct, fun k => by rw [h.marker, h₀.agree, h.cache]⟩
  kept := fun k => by
    rw [h.marker]
    exact .refl _

theorem SameMarkers.exec (h : SameMarkers w₀ w) (ho : o.SparesMarker) :
    SameMarkers w₀ (w.exec o).2 where
  distinct := World.exec_distinct o w h.distinct
  tombstones := (World.exec_tombstones o w ho).trans h.tombstones
  cache := (World.exec_recoveryRequired o w ho).trans h.cache

theorem LaterMarkers.exec (h : LaterMarkers w₀ w) (ho : o.SparesMarker) :
    LaterMarkers w₀ (w.exec o).2 := by
  have hsame : SameMarkers w (w.exec o).2 := SameMarkers.exec ⟨h.consistent.distinct, rfl, rfl⟩ ho
  refine ⟨(hsame.later h.consistent).consistent, fun k => ?_⟩
  rw [hsame.marker]
  exact h.kept k

end Steps

/-! ## Programs that spare the markers -/

section Spares

open Prog

theorem Op.OfOpen.spares {o : Op} (ho : o.OfOpen) : o.SparesMarker := by
  cases o with
  | admission c => cases c with
    | rollback h => exact id
    | _ => exact ho.elim
  | writeTombstone | unlinkTombstone => exact ho.elim
  | _ => exact id

/-- The operations of an open spare the markers up to its commit. -/
theorem calls_spares {α : Type} {p : Proc α} (h : p.Calls Op.OfOpen) :
    p.Calls Op.SparesMarker :=
  h.mono fun _ ho => ho.spares

end Spares

/-! ## The dual writes -/

section Dual

variable {w₀ w : World} {k : TargetKey} {g : Int}

/-- A program whose operations spare the markers. -/
theorem wp_of_spares {α : Type} {p : Proc α} {Q : Except Raised α → World → Prop}
    (hp : p.Calls Op.SparesMarker) (hQ : ∀ r w, SameMarkers w₀ w → Q r w)
    (h : SameMarkers w₀ w) : p.wp (Prog.Rule.ofExec World.exec) Q w :=
  hp.wp (fun _ ho _ _ hg hR => hR _ _ (hg.exec ho)) hQ h

/-- The write of a tombstone and its mark, where the tombstone does not go back. -/
theorem markRecovery_later {reason : String} {write : Fault}
    (h : w.Consistent) (hnewer : write = none → ∀ m ∈ w.registry.marker k, m ≤ g) :
    LaterMarkers w ((markRecovery k g reason write).run World.exec w).2 := by
  have hsame : LaterMarkers w w := SameMarkers.later ⟨h.distinct, rfl, rfl⟩ h
  unfold markRecovery
  rw [Prog.run_bind, Prog.run_perform]
  cases write with
  | some kind => exact hsame
  | none =>
      have hnewer := hnewer rfl
      exact ⟨⟨h.distinct.writeTombstone ⟨k, g, reason⟩, h.agree.mark (t := ⟨k, g, reason⟩) hnewer⟩,
        fun k' => notSmaller_writeTombstone (t := ⟨k, g, reason⟩) hnewer⟩

/-- The two halves of a clearance. -/
def clearRecovery (k : TargetKey) (g : Int) (unlink : Fault) : Proc Unit := do
  clearTombstone k g unlink
  call (.admission (.clearRecoveryRequired k g))

/-- A clearance that raises changed nothing.  One that returns cleared both or none. -/
theorem clearRecovery_run {unlink : Fault} (h : w.Consistent) :
    match (clearRecovery k g unlink).run World.exec w with
    | (.error _, w') => w' = w
    | (.ok _, w') => w'.Consistent ∧
        ∀ k', NotSmaller (w.registry.marker k') (w'.registry.marker k') ∨
          k' = k ∧ w'.registry.marker k' = none := by
  have hclear : Agree (if w.registry.marker k = some g then w.registry.unlinkTombstone k
      else w.registry) (w.admission.clearRecoveryRequired k g) := h.agree.clear
  unfold clearRecovery clearTombstone
  simp only [Prog.run_bind, Prog.run_perform, World.exec]
  cases hread : w.registry.readTombstone k with
  | none =>
      have hmarker : w.registry.marker k = none := by simp [SessionRegistry.marker, hread]
      rw [hmarker, if_neg (by simp)] at hclear
      exact ⟨⟨h.distinct, hclear⟩, fun k' => .inl (.refl _)⟩
  | some t =>
      have hmarker : w.registry.marker k = some t.generation := by
        simp [SessionRegistry.marker, hread]
      rw [hmarker] at hclear
      by_cases hg : t.generation = g
      · subst hg
        rw [if_pos rfl] at hclear
        simp only [Prog.forSome, Prog.when, if_true, Prog.run_perform, World.exec]
        cases unlink with
        | some kind => rfl
        | none =>
            refine ⟨⟨h.distinct.unlinkTombstone k, hclear⟩, fun k' => ?_⟩
            by_cases hk : k' = k
            · subst hk
              refine .inr ⟨rfl, ?_⟩
              show (w.registry.unlinkTombstone k').marker k' = none
              simp [SessionRegistry.marker]
            · refine .inl ?_
              show NotSmaller _ ((w.registry.unlinkTombstone k).marker k')
              rw [SessionRegistry.marker, SessionRegistry.marker,
                SessionRegistry.readTombstone_unlinkTombstone_ne _ _ _ hk]
              exact .refl _
      · rw [if_neg (by simpa using hg)] at hclear
        simp only [Prog.forSome, Prog.when, hg, if_false, Prog.pure_eq, Prog.run_ret]
        exact ⟨⟨h.distinct, hclear⟩, fun k' => .inl (.refl _)⟩

end Dual

/-! ## One operation -/

section Perform

open Prog

variable {w : World}

/-- A cleanup step of a close spares the markers if its step does. -/
theorem cleanup_spares (errors : List Raised) {step : Proc Unit}
    (h : step.Calls Op.SparesMarker) : (cleanup errors step).Calls Op.SparesMarker := by
  refine .bind (calls_attempt.mpr h) fun r => ?_
  cases r with
  | ok u => trivial
  | error e => dsimp only; split <;> trivial

/-- A sequence whose first part spares the markers. -/
theorem wp_bind_spares {α β : Type} {p : Proc α} {f : α → Proc β} {w₀ w : World}
    {Q : Except Raised β → World → Prop} (hp : p.Calls Op.SparesMarker)
    (hf : ∀ a w, SameMarkers w₀ w → (f a).wp (Rule.ofExec World.exec) Q w)
    (herror : ∀ e w, SameMarkers w₀ w → Q (.error e) w) (h : SameMarkers w₀ w) :
    (p >>= f).wp (Rule.ofExec World.exec) Q w :=
  hp.wp_bind (fun _ ho _ _ hg hR => hR _ _ (hg.exec ho)) hf herror h

theorem closeRecord_later {env : CloseEnv} {record : TransportSession} {sid : Nat} {force : Bool}
    {closeError : Option Raised} {w₀ w : World} (h₀ : w₀.Consistent)
    (hnewer : record.executionState ≠ .executing → force = false → env.tombstoneWrite = none →
      ∀ g ∈ w₀.registry.marker record.targetKey, g ≤ record.generation)
    (h : SameMarkers w₀ w) :
    (closeRecord env record sid force closeError).wp (Rule.ofExec World.exec)
      (fun _ w' => LaterMarkers w₀ w') w := by
  have herror : ∀ (e : Raised) w, SameMarkers w₀ w → LaterMarkers w₀ w :=
    fun _ _ hs => hs.later h₀
  have unwound : ∀ {p : Proc Unit}, p.Calls Op.OfUnwind → p.Calls Op.SparesMarker := fun hp =>
    calls_spares (hp.mono fun _ ho => ho.ofOpen)
  refine wp_bind_spares (cleanup_spares _ (unwound (releaseLease_ofUnwind _ _))) (fun _ w h => ?_)
    herror h
  refine wp_bind_spares (.call id) (fun token w h => ?_) herror h
  refine wp_bind_spares (cleanup_spares _ (unwound (releaseGuard_ofUnwind _ _))) (fun _ w h => ?_)
    herror h
  refine wp_bind_spares (.call id) (fun handle w h => ?_) herror h
  refine wp_bind_spares (cleanup_spares _ (.forSome fun _ _ => .call id)) (fun errors w h => ?_)
    herror h
  -- after the mark the markers may have moved, and nothing below touches them
  have later : ∀ {p : Proc Unit} {w}, p.Calls Op.SparesMarker → LaterMarkers w₀ w →
      p.wp (Rule.ofExec World.exec) (fun _ w' => LaterMarkers w₀ w') w := fun hp hw =>
    hp.wp (fun _ ho _ _ hg hR => hR _ _ (hg.exec ho)) (fun _ _ => id) hw
  have rest : ∀ errors, (do
      let errors ← cleanup errors (deleteRecord record.targetKey record.sessionId env.unlink)
      let errors ← cleanup errors
        (Prog.when env.dispatcher (call (.unsubscribe record.targetKey sid)))
      .ofExcept (raiseCloseFailures closeError errors) : Proc Unit).Calls Op.SparesMarker :=
    fun errors => .bind (cleanup_spares _ (unwound (deleteRecord_ofUnwind _ _ _))) fun _ =>
      .bind (cleanup_spares _ (.when fun _ => .call id)) fun _ => calls_ofExcept _
  have hmark : (Prog.when (record.executionState ≠ .executing ∧ force = false)
      (markRecovery record.targetKey record.generation "closed_while_halted"
        env.tombstoneWrite)).wp (Rule.ofExec World.exec) (fun _ w' => LaterMarkers w₀ w') w := by
    rw [wp_when]
    refine ⟨fun hparked => ?_, fun _ => h.later h₀⟩
    rw [wp_ofExec]
    have hw := h.later h₀
    have hwrite : LaterMarkers w ((markRecovery record.targetKey record.generation
        "closed_while_halted" env.tombstoneWrite).run World.exec w).2 :=
      markRecovery_later hw.consistent fun hfault g hg =>
        hnewer hparked.1 hparked.2 hfault g (by rwa [← h.marker])
    exact ⟨hwrite.consistent, fun k => (hw.kept k).trans (hwrite.kept k)⟩
  rw [wp_bind, cleanup, wp_bind, wp_attempt]
  refine wp_mono (Rule.ofExec_mono _) (fun r w' hr => ?_) hmark
  cases r with
  | ok u => exact later (rest _) hr
  | error e =>
      show (if e.isException then pure (errors ++ [e]) else .raise e : Proc _).wp _ _ _
      split
      · exact later (rest _) hr
      · exact hr

theorem close_later {env : CloseEnv} {sid : Nat} {force : Bool} (h : w.Consistent)
    (hadv : (ServerStep.close env sid force).Advances w) :
    LaterMarkers w ((closeSession env sid force).run World.exec w).2 := by
  have hsame : SameMarkers w w := ⟨h.distinct, rfl, rfl⟩
  rw [closeSession_eq, run_bind, recordBySessionId_run]
  cases hfound : w.registry.records.find? fun record => record.sessionId = sid with
  | none => exact hsame.later h
  | some record =>
      show LaterMarkers w ((closeFound env sid force record).run World.exec w).2
      rw [closeFound, run_bind, run_ofExcept]
      cases hprovider : env.transports record.provider with
      | none => exact hsame.later h
      | some capability =>
          show LaterMarkers w ((call (.writeRecord _ env.closingWrite) >>= _).run World.exec w).2
          rw [run_bind, run_perform]
          cases hwrite : env.closingWrite with
          | some kind => exact hsame.later h
          | none =>
              have hwritten : SameMarkers w
                  (w.exec (.writeRecord { record with recordState := .closing } none)).2 :=
                hsame.exec id
              refine (wp_ofExec (Q := fun _ w' => LaterMarkers w w')).mp ?_
              refine wp_bind_spares (.when fun _ => .call id) (fun _ w' hclosing => ?_)
                (fun _ _ hs => hs.later h) hwritten
              rw [wp_bind, wp_ofExcept]
              cases hclose : closeTransport env.transportClose with
              | error e => exact hclosing.later h
              | ok closeError =>
                  have hclosed : env.transportClose ≠ some .baseException := by
                    intro hbase
                    rw [hbase] at hclose
                    cases hclose
                  exact closeRecord_later h
                    (fun hparked hforce htomb => hadv record hfound
                      ⟨hparked, hforce, by simp [hprovider], hwrite, hclosed, htomb⟩) hclosing

theorem markLegacy_later {runId : String} {write : Fault} (h : w.Consistent)
    (hadv : (ServerStep.markLegacy runId write).Advances w) :
    LaterMarkers w ((markLegacySession runId write).run World.exec w).2 := by
  unfold markLegacySession
  rw [run_bind, run_perform]
  exact markRecovery_later h hadv

theorem fenceLegacy_later {runId : String} {write : Fault} (h : w.Consistent)
    (hadv : (ServerStep.fenceLegacy runId write).Advances w) :
    LaterMarkers w ((fenceLegacyDebugSession runId write).run World.exec w).2 := by
  unfold fenceLegacyDebugSession
  rw [run_bind, run_perform]
  simp only [World.exec]
  cases hrecord : w.registry.readRecord (localTarget runId) with
  | some record => exact SameMarkers.later ⟨h.distinct, rfl, rfl⟩ h
  | none =>
      have hmark := markLegacy_later h fun hwrite => hadv hwrite hrecord
      simp only [Prog.when, Option.isNone_none, if_true, run_bind]
      generalize (markLegacySession runId write).run World.exec w = result at hmark ⊢
      obtain ⟨r, w'⟩ := result
      cases r with
      | ok u => exact hmark
      | error e => exact hmark

theorem other_later {program : Proc Unit} (hp : program.Calls Op.SparesMarker)
    (h : w.Consistent) : LaterMarkers w (program.run World.exec w).2 :=
  wp_ofExec.mp (wp_of_spares (Q := fun _ w' => LaterMarkers w w') hp
    (fun _ _ hs => hs.later h) ⟨h.distinct, rfl, rfl⟩)

theorem start_later {env : ReconcileEnv} (h : w.Consistent)
    (hadv : (ServerStep.restart env).Advances w) : LaterMarkers w (w.start env) := by
  unfold World.start
  rw [dif_pos h.distinct]
  obtain ⟨r', hr', hdir, hagree, hkept⟩ := reconcile_agree (a := w.restart.admission) h.distinct
    (fun k => rfl) hadv
  refine ⟨⟨?_, ?_⟩, fun k => ?_⟩
  · show SessionRegistry.Distinct (RegistryDir.toRegistry _)
    rw [hdir, RegistryDir.toRegistry_ofRegistry]
    exact hr'
  · show Agree (RegistryDir.toRegistry _) _
    rw [hdir, RegistryDir.toRegistry_ofRegistry]
    exact hagree
  · show NotSmaller _ (SessionRegistry.marker (RegistryDir.toRegistry _) k)
    rw [hdir, RegistryDir.toRegistry_ofRegistry]
    exact hkept k

/-- What an open may do to the markers, with its result. -/
def OpenedMarkers (request : OpenRequest) (recovery : Bool) (w₀ : World)
    (r : Except Raised TransportSession) (w : World) : Prop :=
  w.Consistent ∧ ∀ k, NotSmaller (w₀.registry.marker k) (w.registry.marker k) ∨
    (recovery = true ∧ k = request.targetKey ∧ ∃ session, r = .ok session) ∧
      w.registry.marker k = none

theorem SameMarkers.opened {w₀ w : World} (h : SameMarkers w₀ w) (h₀ : w₀.Consistent)
    {request : OpenRequest} {recovery : Bool} {r : Except Raised TransportSession} :
    OpenedMarkers request recovery w₀ r w :=
  have hlater := h.later h₀
  ⟨hlater.consistent, fun k => .inl (hlater.kept k)⟩

/-- The clearance of a committed recovery open. -/
theorem clearRecovery_wp {w₀ w : World} (h₀ : w₀.Consistent) (h : SameMarkers w₀ w)
    (k : TargetKey) (g : Int) (unlink : Fault) :
    (clearRecovery k g unlink).wp (Rule.ofExec World.exec) (fun r w' => match r with
      | .error _ => SameMarkers w₀ w'
      | .ok _ => w'.Consistent ∧ ∀ k', NotSmaller (w₀.registry.marker k') (w'.registry.marker k') ∨
          k' = k ∧ w'.registry.marker k' = none) w := by
  rw [wp_ofExec]
  have hrun := @clearRecovery_run w k g unlink (h.later h₀).consistent
  generalize (clearRecovery k g unlink).run World.exec w = result at hrun ⊢
  obtain ⟨r, w'⟩ := result
  cases r with
  | error e =>
      obtain rfl : w' = w := hrun
      exact h
  | ok u =>
      refine ⟨hrun.1, fun k' => ?_⟩
      rw [← h.marker]
      exact hrun.2 k'

/-- A commit that raises left the markers, one that returns may have cleared them. -/
theorem commitOpenSession_wp {w₀ w : World} (h₀ : w₀.Consistent) (h : SameMarkers w₀ w)
    (env : OpenEnv) (request : OpenRequest) (handle : AdmissionHandle)
    (session : TransportSession) (state : OpenState) (recovery : Bool) :
    (commitOpenSession env request handle session state recovery).wp (Rule.ofExec World.exec)
      (fun r w' => match r with
        | .error _ => SameMarkers w₀ w'
        | .ok _ => w'.Consistent ∧
            ∀ k, NotSmaller (w₀.registry.marker k) (w'.registry.marker k) ∨
              (recovery = true ∧ k = request.targetKey) ∧ w'.registry.marker k = none) w := by
  refine wp_bind_spares (.call id) (fun _ w h => ?_) (fun _ _ hs => hs) h
  rw [wp_when]
  refine ⟨fun hrecovery => ?_, fun _ => ?_⟩
  · refine wp_mono (Rule.ofExec_mono _) (fun r w' hr => ?_)
      (clearRecovery_wp h₀ h request.targetKey request.generation env.clearDurable)
    cases r with
    | error e => exact hr
    | ok u =>
        refine ⟨hr.1, fun k => (hr.2 k).imp_right fun hcleared => ?_⟩
        exact ⟨⟨hrecovery, hcleared.1⟩, hcleared.2⟩
  · have hlater := h.later h₀
    exact ⟨hlater.consistent, fun k => .inl (hlater.kept k)⟩

/-- The commit ends the open: nothing fails after its clearance. -/
theorem commit_markers {w₀ w : World} (h₀ : w₀.Consistent) (h : SameMarkers w₀ w)
    (env : OpenEnv) (request : OpenRequest) (handle : AdmissionHandle)
    (session : TransportSession) (state : OpenState) (recovery : Bool) :
    (orRollback env request.targetKey handle state
        (commitOpenSession env request handle session state recovery) >>= fun _ =>
      pure session).wp (Rule.ofExec World.exec) (OpenedMarkers request recovery w₀) w := by
  rw [wp_bind, orRollback, wp_rescue]
  refine wp_mono (Rule.ofExec_mono _) (fun r w' hr => ?_)
    (commitOpenSession_wp h₀ h env request handle session state recovery)
  cases r with
  | ok u =>
      refine ⟨hr.1, fun k => (hr.2 k).imp_right fun hcleared => ?_⟩
      exact ⟨⟨hcleared.1.1, hcleared.1.2, session, rfl⟩, hcleared.2⟩
  | error e =>
      have hrollback := calls_spares (rollbackOpen_ofOpen env request.targetKey handle state)
      exact wp_bind_spares hrollback (fun _ w hs => hs.opened h₀) (fun _ _ hs => hs.opened h₀) hr

theorem openAdmitted_markers {w₀ w : World} (env : OpenEnv) (capability : TransportCapability)
    (request : OpenRequest) (recovery : Bool) (handle : AdmissionHandle) (h₀ : w₀.Consistent)
    (h : SameMarkers w₀ w) :
    (openAdmitted env capability request recovery handle).wp (Rule.ofExec World.exec)
      (OpenedMarkers request recovery w₀) w := by
  have guarded : ∀ {α : Type} (state : OpenState) {step : Proc α}, step.Calls Op.OfOpen →
      (orRollback env request.targetKey handle state step).Calls Op.SparesMarker :=
    fun state _ h => calls_spares (orRollback_ofOpen env request.targetKey handle state h)
  have checked : ∀ {α : Type} (state : OpenState) (r : Except Raised α),
      (orRollback env request.targetKey handle state (.ofExcept r)).Calls Op.SparesMarker :=
    fun state r => guarded state (calls_ofExcept r)
  have herror : ∀ (e : Raised) w, SameMarkers w₀ w →
      OpenedMarkers request recovery w₀ (.error e) w := fun _ _ hs => hs.opened h₀
  unfold openAdmitted
  refine wp_bind_spares (checked _ _) (fun channel w h => ?_) herror h
  refine wp_bind_spares (checked _ _) (fun selection w h => ?_) herror h
  refine wp_bind_spares (checked _ _) (fun _ w h => ?_) herror h
  refine wp_bind_spares (guarded _ (.call trivial)) (fun guardToken w h => ?_) herror h
  refine wp_bind_spares (checked _ _) (fun _ w h => ?_) herror h
  refine wp_bind_spares (guarded _ (acquireConsole_ofOpen _ _)) (fun leaseToken w h => ?_) herror h
  refine wp_bind_spares (checked _ _) (fun _ w h => ?_) herror h
  refine wp_bind_spares (checked _ _) (fun _ w h => ?_) herror h
  refine wp_bind_spares (guarded _ (writeOpeningRecord_ofOpen ..)) (fun opening w h => ?_)
    herror h
  refine wp_bind_spares (checked _ _) (fun _ w h => ?_) herror h
  refine wp_bind_spares (calls_spares (reportPartials_ofOpen ..)) (fun state w h => ?_) herror h
  refine wp_bind_spares (checked _ _) (fun attachment w h => ?_) herror h
  refine wp_bind_spares (.forSome fun _ _ => .call id) (fun _ w h => ?_) herror h
  refine wp_bind_spares (checked _ _) (fun _ w h => ?_) herror h
  refine wp_bind_spares (guarded _ (.call trivial)) (fun _ w h => ?_) herror h
  refine wp_bind_spares (checked _ _) (fun _ w h => ?_) herror h
  exact commit_markers h₀ h env request handle _ _ recovery

theorem openSession_markers (env : OpenEnv) (request : OpenRequest) (recovery : Bool)
    (h : w.Consistent) :
    (openSession env request recovery).wp (Rule.ofExec World.exec)
      (OpenedMarkers request recovery w) w := by
  have herror : ∀ (e : Raised) w', SameMarkers w w' →
      OpenedMarkers request recovery w (.error e) w' := fun _ _ hs => hs.opened h
  have hadmit : (admitRequest env request recovery).Calls Op.SparesMarker := by
    unfold admitRequest
    split
    · exact .call id
    · exact .call id
  refine wp_bind_spares (calls_ofExcept _) (fun capability w' hs => ?_) herror
    ⟨h.distinct, rfl, rfl⟩
  refine wp_bind_spares (calls_ofExcept _) (fun _ w' hs => ?_) herror hs
  refine wp_bind_spares hadmit (fun handle w' hs => ?_) herror hs
  exact openAdmitted_markers env capability request recovery handle h hs

end Perform

/-! ## Agreement -/

/-- What an operation that does not write a smaller tombstone does to the markers. -/
theorem perform_markers {w : World} (h : w.Consistent) (step : ServerStep)
    (hadv : step.Advances w) : (step.perform w).Consistent ∧
      ∀ k, NotSmaller (w.registry.marker k) ((step.perform w).registry.marker k) ∨
        step.Recovers w k ∧ (step.perform w).registry.marker k = none := by
  have later : ∀ {w'}, LaterMarkers w w' → w'.Consistent ∧
      ∀ k, NotSmaller (w.registry.marker k) (w'.registry.marker k) ∨
        step.Recovers w k ∧ w'.registry.marker k = none := fun hlater =>
    ⟨hlater.consistent, fun k => .inl (hlater.kept k)⟩
  cases step with
  | close env sid force => exact later (close_later h hadv)
  | fenceLegacy runId write => exact later (fenceLegacy_later h hadv)
  | markLegacy runId write => exact later (markLegacy_later h hadv)
  | openSession env request recovery =>
      exact Prog.wp_ofExec.mp (openSession_markers env request recovery h)
  | restart env => exact later (start_later h hadv)
  | other program spares => exact later (other_later spares h)

theorem markersKept_of_advances {w : World} (h : w.Consistent) (step : ServerStep)
    (hadv : step.Advances w) : MarkersKept step w := by
  obtain ⟨hw, hkept⟩ := perform_markers h step hadv
  refine ⟨hw.agree, hkept, fun k => ?_⟩
  rw [← h.agree, ← hw.agree]
  exact hkept k

theorem consistent_empty : World.empty.Consistent where
  distinct := by decide
  agree := fun _ => rfl

/-- In every run in which no operation writes a tombstone that is smaller than the one
it replaces, the tombstones and the cache agree after every operation, and neither is
replaced by a smaller one except by a recovery that clears it. -/
theorem recovery_markers_agree (steps : List ServerStep)
    (h : Runs.Along ServerStep.perform ServerStep.Advances steps World.empty) :
    Runs.Along ServerStep.perform MarkersKept steps World.empty :=
  Runs.along_of_inv (I := World.Consistent) (fun step _ hw hadv => (perform_markers hw step hadv).1)
    (fun step _ hw hadv => markersKept_of_advances hw step hadv) consistent_empty h

/-- Boot publishes a generation of the target. -/
def ServerStep.publish (generation : Int) : ServerStep :=
  .other (Prog.void (call (.admission (.publishSnapshot (localTarget "run")
    (bootReadySnapshot generation gdbstubEndpoint true))))) (.void (.call id))

/-- A debug session halts the kernel. -/
def ServerStep.halt : ServerStep :=
  .other (do
      let record ← call (.readRecord (localTarget "run"))
      Prog.forSome record fun record => haltDebugTransport record none)
    (.bind (.call id) fun _ => .forSome fun _ _ =>
      .bind (.call id) fun _ => .bind (.call id) fun _ => .bind (.call id) fun _ => trivial)

/-- A session on generation 1 is closed while halted, the server restarts, and a
recovery open clears the marker. -/
def recoveredTarget : List ServerStep :=
  [.publish 1, .openSession .calm (debugOpenRequest "run" gdbstubEndpoint 1 (bootPlatform true)) false,
    .halt, .close .calm 0 false, .restart .calm, .publish 1,
    .openSession .calm (debugOpenRequest "run" gdbstubEndpoint 1 (bootPlatform true)) true]

/-- A run with no record left has nothing to write. -/
theorem RunAdvances.of_nil {env : ReconcileEnv} {r : SessionRegistry}
    {records : List TransportSession} (h : records = []) : RunAdvances env r records := by
  intro done record rest heq
  rw [h] at heq
  simp at heq

theorem recovery_markers_agree_recovered :
    (Runs.run ServerStep.perform (recoveredTarget.take 5) World.empty).registry.marker
        (localTarget "run") = some 1 ∧
      (Runs.run ServerStep.perform recoveredTarget World.empty).registry.marker
        (localTarget "run") = none ∧
      Runs.Along ServerStep.perform MarkersKept recoveredTarget World.empty := by
  have hclose : (ServerStep.close .calm 0 false).Advances
      (Runs.run ServerStep.perform (recoveredTarget.take 3) World.empty) := by
    intro record _ _ g hg
    have hnone : (Runs.run ServerStep.perform (recoveredTarget.take 3)
        World.empty).registry.tombstones = [] := by decide +kernel
    rw [SessionRegistry.marker, SessionRegistry.readTombstone, hnone] at hg
    cases hg
  exact ⟨by decide +kernel, by decide +kernel, recovery_markers_agree recoveredTarget
    ⟨trivial, trivial, trivial, hclose, .of_nil (by decide +kernel), trivial, trivial, trivial⟩⟩

/-- A legacy session is fenced at generation 1.  After a restart no snapshot is
published, and the session is fenced again. -/
def refencedTarget : List ServerStep :=
  [.publish 1, .fenceLegacy "run" none, .restart .calm, .fenceLegacy "run" none]

theorem recovery_markers_refenced :
    ¬ Runs.Along ServerStep.perform MarkersKept refencedTarget World.empty := by
  intro h
  have hagree := h.2.2.2.1.agree (localTarget "run")
  revert hagree
  decide +kernel

end Kdive

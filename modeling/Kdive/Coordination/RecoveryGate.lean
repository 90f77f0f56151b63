import Kdive.Coordination.AdmissionTable
import Kdive.Coordination.LocalTarget

/-!
# The gates of an admission

Three calls put a handle into the table.  All of them pass the lifecycle gate,
which is shut while the target is closed.  The recovery gate lets ordinary work
through only when the published generation is beyond the recovery marker, and
`admit_recovery` only when it stands at the marker.
-/

namespace Kdive

open Checked

namespace AdmissionService

/-- The kind of handle a call admits: `some true` through the recovery gate,
`some false` an ordinary one. -/
def Call.recovery : Call → Option Bool
  | .admitOpen .. | .admitSshTier .. => some false
  | .admitRecovery .. => some true
  | _ => none

/-- What held when a handle joined the table. -/
structure PassedGates (s : AdmissionService) (c : Call) (k : TargetKey) (h : AdmissionHandle) :
    Prop where
  kind : c.recovery = some h.recovery
  opened : ¬ s.Closed k
  published : ∃ snapshot, s.store k = some snapshot ∧ h.generation = snapshot.generation
  ordinary : h.recovery = false → ∀ marker ∈ s.recoveryRequired k, marker < h.generation
  recovery : h.recovery = true → s.recoveryRequired k = some h.generation

/-- A marker that does not gate the published snapshot is older. -/
theorem lt_of_not_gated {marker : Option Int} {snapshot : TargetSnapshot}
    (h : ¬ RecoveryGated marker (some snapshot)) : ∀ m ∈ marker, m < snapshot.generation := by
  intro m hm
  obtain rfl := Option.mem_def.mp hm
  exact not_le.mp h

theorem Admits.passed {s s' : AdmissionService} {c : Call} {k : TargetKey} {recovery : Bool}
    {h : AdmissionHandle} (ha : s.Admits k recovery h s') (hkind : c.recovery = some recovery)
    (hflag : h.recovery = recovery)
    (hmarker : recovery = true → s.recoveryRequired k = some h.generation) :
    s.PassedGates c k h where
  kind := hflag ▸ hkind
  opened := ha.opened
  published := ha.snapshot
  ordinary := by
    intro hordinary
    obtain ⟨snapshot, hsnap, hgen⟩ := ha.snapshot
    have hgate := ha.gate (hflag ▸ hordinary)
    rw [hsnap] at hgate
    rw [hgen]
    exact lt_of_not_gated hgate
  recovery := fun hrecovery => hmarker (hflag ▸ hrecovery)

theorem admitSshTier_recovery {s s' : AdmissionService} {k : TargetKey} {g : Int}
    {platform : PlatformMetadata} {lease : Option LeaseInfo} {ttl : Option Int}
    {proof : Option ExecutionProof} {now : Instant} {h : AdmissionHandle}
    (hok : s.admitSshTier k g platform lease ttl proof now = .ok (h, s')) : h.recovery = false := by
  simp only [admitSshTier, bind_eq_ok] at hok
  obtain ⟨snapshot, _, _, _, _, _, _, _, _, _, hreg⟩ := hok
  have hreg : s.register k .sshTier none snapshot false = (h, s') := by
    split at hreg
    · obtain ⟨_, _, hreg⟩ := bind_eq_ok.mp hreg
      exact pure_eq_ok.mp hreg
    · exact pure_eq_ok.mp hreg
  simp only [register, Prod.mk.injEq] at hreg
  obtain ⟨rfl, _⟩ := hreg
  rfl

/-- A call that changes the table by registering a handle has passed its gates. -/
theorem after_registered {s : AdmissionService} {c : Call} {h : AdmissionHandle}
    (hc : c.admits = some h.op) (hafter : s.after c = s.registered h) :
    s.PassedGates c h.targetKey h := by
  have same : ∀ {h' : AdmissionHandle}, s.registered h = s.registered h' → h = h' := by
    intro h' heq
    have hissued := congrArg issued heq
    rw [registered_issued, registered_issued, List.append_cancel_left_eq] at hissued
    exact (List.cons.inj hissued).1
  have changed : s ≠ s.registered h := by
    intro heq
    have hissued := congrArg (fun s => s.issued.length) heq
    simp at hissued
  cases c with
  | admitOpen k request now =>
      cases hok : s.admitOpen k request now with
      | error e =>
          rw [after, perform, hok, settle_error] at hafter
          exact absurd hafter changed
      | ok r =>
          obtain ⟨h', s'⟩ := r
          rw [after, perform, hok, settle_ok] at hafter
          obtain ⟨hadmits, _, hflag, _⟩ := admitOpen_eq_ok hok
          obtain rfl := same (hafter.symm.trans hadmits.after)
          rw [hadmits.key]
          exact hadmits.passed rfl hflag (by simp)
  | admitRecovery k request now =>
      cases hok : s.admitRecovery k request now with
      | error e =>
          rw [after, perform, hok, settle_error] at hafter
          exact absurd hafter changed
      | ok r =>
          obtain ⟨h', s'⟩ := r
          rw [after, perform, hok, settle_ok] at hafter
          obtain ⟨hadmits, _, hflag, _, _, hmarker⟩ := admitRecovery_eq_ok hok
          obtain rfl := same (hafter.symm.trans hadmits.after)
          rw [hadmits.key]
          exact hadmits.passed rfl hflag fun _ => hmarker
  | admitSshTier k g platform lease ttl proof now =>
      cases hok : s.admitSshTier k g platform lease ttl proof now with
      | error e =>
          rw [after, perform, hok, settle_error] at hafter
          exact absurd hafter changed
      | ok r =>
          obtain ⟨h', s'⟩ := r
          rw [after, perform, hok, settle_ok] at hafter
          obtain ⟨hadmits, _⟩ := admitSshTier_eq_ok hok
          obtain rfl := same (hafter.symm.trans hadmits.after)
          rw [hadmits.key]
          exact hadmits.passed rfl (admitSshTier_recovery hok) (by simp)
  | _ => cases hc

/-- In every state a run of calls reaches, a call that puts a handle into a table has
passed the gates of its kind. -/
theorem recovery_gate (ttl : Int) (nextId : Nat) (cs : List Call) (c : Call) (k : TargetKey)
    (h : AdmissionHandle) :
    let s := Runs.run after cs (AdmissionService.fresh ttl nextId)
    h ∈ (s.after c).bindings k → h ∉ s.bindings k → s.PassedGates c k h := by
  intro s hnew hold
  have hv : s.Valid := valid_of_run ttl nextId cs
  cases (perform_change c s).binding hv hnew with
  | inl hbefore => exact absurd hbefore.1 hold
  | inr hjoined =>
      obtain ⟨hc, _, hafter⟩ := hjoined
      rw [← (hv.after c).key_of_mem hnew]
      exact after_registered hc hafter

end AdmissionService

open AdmissionService in
/-- After boot, the admission of a debug session. -/
theorem recovery_gate_boot :
    let cs := [Call.publishSnapshot (localTarget "run") (bootReadySnapshot 1 gdbstubEndpoint true)]
    let c := Call.admitOpen (localTarget "run")
      (debugOpenRequest "run" gdbstubEndpoint 1 (bootPlatform true)) 0
    let s := Runs.run after cs (.fresh defaultMinLeaseTtlSeconds 0)
    ∃ h ∈ (s.after c).bindings (localTarget "run"), s.PassedGates c (localTarget "run") h := by
  intro cs c s
  obtain ⟨h, hnew⟩ := List.exists_mem_of_ne_nil ((s.after c).bindings (localTarget "run"))
    (List.isEmpty_eq_false_iff.mp (by decide +kernel))
  have hempty : s.bindings (localTarget "run") = [] := rfl
  exact ⟨h, hnew, recovery_gate _ _ cs c _ h hnew (by rw [hempty]; exact List.not_mem_nil)⟩

end Kdive

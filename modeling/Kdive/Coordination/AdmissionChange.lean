import Mathlib.Order.Basic
import Kdive.Lib.Runs
import Kdive.Coordination.Admission

/-!
# What an admission call can do

The calls change the service in eleven ways only.  `Change c s s'` lists them, each
with the guards under which the call `c` makes it, and `perform_change` says that
every call makes one of them.  An invariant of the service is proved
by cases on `Change`, so no proof unfolds the calls again.

`Evolves` is what every change has in common.  Handles are only added, a
terminal state and the two flags stay, generations and epochs only grow.  It is
a preorder, so it relates the two ends of every run.
-/

namespace Kdive

open Checked

theorem AdmissionState.live_iff {t : AdmissionState} :
    t.Live ↔ t = .pending ∨ t = .promoted := by
  cases t <;> simp [AdmissionState.Live]

namespace AdmissionService

/-! ## The fields of an updated service -/

section Fields

variable (s : AdmissionService) (h : AdmissionHandle) (f : HandleFlags)
  (hs : List AdmissionHandle) (t : AdmissionState)

@[simp] theorem setFlags_store : (s.setFlags h f).store = s.store := rfl
@[simp] theorem setFlags_bindings : (s.setFlags h f).bindings = s.bindings := rfl
@[simp] theorem setFlags_closedAt : (s.setFlags h f).closedAt = s.closedAt := rfl
@[simp] theorem setFlags_recoveryRequired :
    (s.setFlags h f).recoveryRequired = s.recoveryRequired := rfl
@[simp] theorem setFlags_execEpoch : (s.setFlags h f).execEpoch = s.execEpoch := rfl
@[simp] theorem setFlags_issued : (s.setFlags h f).issued = s.issued := rfl
@[simp] theorem setFlags_nextId : (s.setFlags h f).nextId = s.nextId := rfl
@[simp] theorem setFlags_flags :
    (s.setFlags h f).flags = Function.update s.flags h.handleId f := rfl

@[simp] theorem cancelAll_store : (s.cancelAll hs).store = s.store := rfl
@[simp] theorem cancelAll_bindings : (s.cancelAll hs).bindings = s.bindings := rfl
@[simp] theorem cancelAll_closedAt : (s.cancelAll hs).closedAt = s.closedAt := rfl
@[simp] theorem cancelAll_recoveryRequired :
    (s.cancelAll hs).recoveryRequired = s.recoveryRequired := rfl
@[simp] theorem cancelAll_execEpoch : (s.cancelAll hs).execEpoch = s.execEpoch := rfl
@[simp] theorem cancelAll_issued : (s.cancelAll hs).issued = s.issued := rfl
@[simp] theorem cancelAll_nextId : (s.cancelAll hs).nextId = s.nextId := rfl

theorem cancelAll_flags (id : Nat) :
    (s.cancelAll hs).flags id =
      if id ∈ hs.map AdmissionHandle.handleId then { s.flags id with cancelled := true }
      else s.flags id := rfl

@[simp] theorem cancelAll_state (id : Nat) :
    ((s.cancelAll hs).flags id).state = (s.flags id).state := by
  rw [cancelAll_flags]; split <;> rfl

@[simp] theorem cancelAll_reaped (id : Nat) :
    ((s.cancelAll hs).flags id).reaped = (s.flags id).reaped := by
  rw [cancelAll_flags]; split <;> rfl

theorem cancelAll_cancelled (id : Nat) :
    ((s.cancelAll hs).flags id).cancelled = true ↔
      (∃ h ∈ hs, h.handleId = id) ∨ (s.flags id).cancelled = true := by
  rw [cancelAll_flags, ← List.mem_map]; split <;> simp_all

@[simp] theorem cancelAll_nil : s.cancelAll [] = s := by
  simp [cancelAll]

@[simp] theorem registered_store : (s.registered h).store = s.store := rfl
@[simp] theorem registered_closedAt : (s.registered h).closedAt = s.closedAt := rfl
@[simp] theorem registered_recoveryRequired :
    (s.registered h).recoveryRequired = s.recoveryRequired := rfl
@[simp] theorem registered_execEpoch : (s.registered h).execEpoch = s.execEpoch := rfl
@[simp] theorem registered_flags : (s.registered h).flags = s.flags := rfl
@[simp] theorem registered_issued : (s.registered h).issued = s.issued ++ [h] := rfl
@[simp] theorem registered_nextId : (s.registered h).nextId = s.nextId + 1 := rfl
@[simp] theorem registered_bindings :
    (s.registered h).bindings =
      Function.update s.bindings h.targetKey (s.bindings h.targetKey ++ [h]) := rfl

@[simp] theorem disposed_store : (s.disposed h t).store = s.store := rfl
@[simp] theorem disposed_closedAt : (s.disposed h t).closedAt = s.closedAt := rfl
@[simp] theorem disposed_recoveryRequired :
    (s.disposed h t).recoveryRequired = s.recoveryRequired := rfl
@[simp] theorem disposed_execEpoch : (s.disposed h t).execEpoch = s.execEpoch := rfl
@[simp] theorem disposed_issued : (s.disposed h t).issued = s.issued := rfl
@[simp] theorem disposed_nextId : (s.disposed h t).nextId = s.nextId := rfl
@[simp] theorem disposed_flags :
    (s.disposed h t).flags =
      Function.update s.flags h.handleId { s.flags h.handleId with state := t } := rfl
@[simp] theorem disposed_bindings :
    (s.disposed h t).bindings =
      Function.update s.bindings h.targetKey
        ((s.bindings h.targetKey).eraseP fun h' => h'.handleId = h.handleId) := rfl

end Fields

/-! ## The changes -/

/-- The calls that move a recovery marker. -/
def Call.Marks : Call → Prop
  | .markRecoveryRequired .. | .clearRecoveryRequired .. => True
  | _ => False

/-- The ways a call changes the service. -/
inductive Change : Call → AdmissionService → AdmissionService → Prop
  /-- A read, a refusal or a call that finds nothing to do. -/
  | refl (c : Call) (s : AdmissionService) : Change c s s
  | publish {s : AdmissionService} (k : TargetKey) (snapshot : TargetSnapshot)
      (newer : ∀ current ∈ s.store k, current.generation ≤ snapshot.generation) :
      Change (.publishSnapshot k snapshot) s
        { s with store := Function.update s.store k (some snapshot) }
  | register {c : Call} {s : AdmissionService} (h : AdmissionHandle) (snapshot : TargetSnapshot)
      (admits : c.admits = some h.op) (id : h.handleId = s.nextId) (opened : ¬ s.Closed h.targetKey)
      (published : s.store h.targetKey = some snapshot)
      (generation : h.generation = snapshot.generation)
      (epoch : h.admitEpoch = s.execEpoch h.targetKey) : Change c s (s.registered h)
  | note {s : AdmissionService} (k : TargetKey) (g : Int) (current : s.GenerationCurrent k g) :
      Change (.noteExecutionTransition k g) s
        { s with execEpoch := Function.update s.execEpoch k (s.execEpoch k + 1) }
  | cancel {c : Call} {s : AdmissionService} (k : TargetKey) (hs : List AdmissionHandle)
      (listed : ∀ h ∈ hs, h ∈ s.bindings k) : Change c s (s.cancelAll hs)
  | promote {s : AdmissionService} (h : AdmissionHandle) (registered : s.Registered h)
      (pending : s.stateOf h = .pending) (uncancelled : ¬ s.Cancelled h) :
      Change (.promote h) s (s.setFlags h { s.flags h.handleId with state := .promoted })
  /-- A disposal.  Of a cancelled promoted handle on a closed target it asks for
  the reaper's confirmation. -/
  | dispose {c : Call} {s : AdmissionService} (h : AdmissionHandle) (t : AdmissionState)
      (terminal : ¬ t.Live) (registered : s.Registered h) (live : (s.stateOf h).Live)
      (reaped : s.Cancelled h → s.stateOf h = .promoted → s.Closed h.targetKey →
        (s.flags h.handleId).reaped = true) : Change c s (s.disposed h t)
  | reap {s : AdmissionService} (h : AdmissionHandle) (registered : s.Registered h) :
      Change (.confirmReaped h) s (s.setFlags h { s.flags h.handleId with reaped := true })
  | close {s : AdmissionService} (k : TargetKey) (g : Int) (opened : ¬ s.Closed k)
      (current : ∀ snapshot ∈ s.store k, snapshot.generation ≤ g) :
      Change (.closeAdmission k g) s
        ({ s with closedAt := Function.update s.closedAt k (some g) }.cancelAll (s.bindings k))
  | reopen {s : AdmissionService} (k : TargetKey) (g : Int) (closed : s.closedAt k = some g)
      (newer : ∃ snapshot ∈ s.store k, g < snapshot.generation) (empty : s.bindings k = []) :
      Change (.reopen k) s { s with closedAt := Function.update s.closedAt k none }
  | recovery {c : Call} {s : AdmissionService} (markers : TargetKey → Option Int)
      (marks : c.Marks) : Change c s { s with recoveryRequired := markers }

/-! ## What a successful call says -/

theorem bindSnapshot_eq_ok {s : AdmissionService} {k : TargetKey} {g : Int} {recovery : Bool}
    {snapshot : TargetSnapshot} :
    s.bindSnapshot k g recovery = .ok snapshot ↔
      ¬ s.Closed k ∧ s.store k = some snapshot ∧ g = snapshot.generation ∧
        (recovery = false → ¬ RecoveryGated (s.recoveryRequired k) (s.store k)) := by
  simp only [bindSnapshot, bind_eq_ok, refuse_eq_ok, require_eq_ok, pure_eq_ok, exists_const]
  constructor
  · rintro ⟨hopen, hgate, a, ha, hg, rfl⟩
    exact ⟨hopen, ha, not_ne_iff.mp hg, fun hr hgated => hgate ⟨hr, hgated⟩⟩
  · rintro ⟨hopen, hsnap, hg, hgate⟩
    exact ⟨hopen, fun hr => hgate hr.1 hr.2, snapshot, hsnap, not_ne_iff.mpr hg, rfl⟩

theorem rebind_eq_ok {ref channel : TransportRef} {snapshot : TargetSnapshot} :
    rebind ref snapshot = .ok channel ↔
      snapshot.transports.find? (fun offered => SameChannel offered ref) = some channel ∧
        MatchesOffered channel ref := by
  simp only [rebind, bind_eq_ok, require_eq_ok, refuse_eq_ok, pure_eq_ok, exists_const, not_not]
  constructor
  · rintro ⟨offered, hfind, hmatches, rfl⟩
    exact ⟨hfind, hmatches⟩
  · rintro ⟨hfind, hmatches⟩
    exact ⟨channel, hfind, hmatches, rfl⟩

/-- A re-bound channel is the snapshot's own. -/
theorem mem_of_rebind {ref channel : TransportRef} {snapshot : TargetSnapshot}
    (h : rebind ref snapshot = .ok channel) : channel ∈ snapshot.transports :=
  List.mem_of_find?_eq_some (rebind_eq_ok.mp h).1

/-- A validated open was bound to the published snapshot of an open target. -/
theorem validateOpen_eq_ok {s : AdmissionService} {k : TargetKey} {request : OpenRequest}
    {now : Instant} {recovery : Bool} {snapshot : TargetSnapshot} {channel : TransportRef}
    (h : s.validateOpen k request now recovery = .ok (snapshot, channel)) :
    request.targetKey = k ∧ s.bindSnapshot k request.generation recovery = .ok snapshot ∧
      rebind request.transportRef snapshot = .ok channel ∧
      snapshot.state ∉ nonLiveStates := by
  simp only [validateOpen, checkCaps, checkPlatformDrift, rejectNonLive, bind_eq_ok,
    refuse_eq_ok, pure_eq_ok, Prod.mk.injEq, exists_const] at h
  obtain ⟨hkey, snapshot', hbind, channel', hrebind, _, _, _, _, _, _, hlive, rfl, rfl⟩ := h
  exact ⟨not_ne_iff.mp hkey, hbind, hrebind, hlive⟩

/-- A proof that admits names the running kernel at the current generation and
epoch. -/
theorem requireExecutingProof_eq_ok {s : AdmissionService} {k : TargetKey}
    {snapshot : TargetSnapshot} {proof : Option ExecutionProof} {u : Unit}
    (h : s.requireExecutingProof k snapshot proof = .ok u) :
    proof = some ⟨snapshot.generation, s.execEpoch k, .known .executing⟩ := by
  simp only [requireExecutingProof, bind_eq_ok, refuse_eq_ok, require_eq_ok] at h
  obtain ⟨⟨g, e, st⟩, rfl, state, hstate, _, _, _, hgen, _, hepoch, _, _, hexec⟩ := h
  cases st with
  | unrecognized printed => simp [ProofState.normalize] at hstate
  | known state' =>
      simp only [ProofState.normalize, Except.ok.injEq] at hstate
      simp_all

/-- What every admission does to the service. -/
structure Admits (s : AdmissionService) (k : TargetKey) (recovery : Bool)
    (h : AdmissionHandle) (s' : AdmissionService) : Prop where
  /-- The target was open. -/
  opened : ¬ s.Closed k
  /-- It passed the recovery gate. -/
  gate : recovery = false → ¬ RecoveryGated (s.recoveryRequired k) (s.store k)
  /-- The handle is new. -/
  id : h.handleId = s.nextId
  /-- It is bound to the target. -/
  key : h.targetKey = k
  /-- It carries the published generation. -/
  snapshot : ∃ snapshot, s.store k = some snapshot ∧ h.generation = snapshot.generation
  /-- It carries the current epoch. -/
  epoch : h.admitEpoch = s.execEpoch k
  /-- It was put into the table. -/
  after : s' = s.registered h

theorem Admits.of_register {s : AdmissionService} {k : TargetKey} {op : AdmissionOp}
    {channel : Option TransportRef} {g : Int} {snapshot : TargetSnapshot}
    {recovery recovery' : Bool} {h : AdmissionHandle} {s' : AdmissionService}
    (hbind : s.bindSnapshot k g recovery = .ok snapshot)
    (hreg : s.register k op channel snapshot recovery' = (h, s')) : s.Admits k recovery h s' := by
  obtain ⟨hopen, hsnap, _, hgate⟩ := bindSnapshot_eq_ok.mp hbind
  simp only [register, Prod.mk.injEq] at hreg
  obtain ⟨rfl, rfl⟩ := hreg
  exact ⟨hopen, hgate, rfl, rfl, ⟨snapshot, hsnap, rfl⟩, rfl, rfl⟩

theorem admitOpen_eq_ok {s s' : AdmissionService} {k : TargetKey} {request : OpenRequest}
    {now : Instant} {h : AdmissionHandle} (hok : s.admitOpen k request now = .ok (h, s')) :
    s.Admits k false h s' ∧ h.op = .transportOpen ∧ h.recovery = false ∧
      request.targetKey = k ∧ (request.generation : Int) = h.generation := by
  simp only [admitOpen, bind_eq_ok, refuse_eq_ok, pure_eq_ok, exists_const] at hok
  obtain ⟨⟨snapshot, channel⟩, hvalid, _, hreg⟩ := hok
  obtain ⟨hkey, hbind, _, _⟩ := validateOpen_eq_ok hvalid
  have hgen := (bindSnapshot_eq_ok.mp hbind).2.2.1
  refine ⟨.of_register hbind hreg, ?_⟩
  simp only [register, Prod.mk.injEq] at hreg
  obtain ⟨rfl, rfl⟩ := hreg
  exact ⟨rfl, rfl, hkey, hgen⟩

/-- An admitted open carries the channel it was re-bound to and the platform of the
snapshot. -/
theorem admitOpen_channel {s s' : AdmissionService} {k : TargetKey} {request : OpenRequest}
    {now : Instant} {h : AdmissionHandle} (hok : s.admitOpen k request now = .ok (h, s')) :
    ∃ snapshot channel, s.store k = some snapshot ∧
      rebind request.transportRef snapshot = .ok channel ∧ h.channel = some channel ∧
      h.platform = snapshot.platform := by
  simp only [admitOpen, bind_eq_ok, refuse_eq_ok, pure_eq_ok, exists_const] at hok
  obtain ⟨⟨snapshot, channel⟩, hvalid, _, hreg⟩ := hok
  obtain ⟨_, hbind, hrebind, _⟩ := validateOpen_eq_ok hvalid
  simp only [register, Prod.mk.injEq] at hreg
  obtain ⟨rfl, rfl⟩ := hreg
  exact ⟨snapshot, channel, (bindSnapshot_eq_ok.mp hbind).2.1, hrebind, rfl, rfl⟩

theorem admitRecovery_eq_ok {s s' : AdmissionService} {k : TargetKey} {request : OpenRequest}
    {now : Instant} {h : AdmissionHandle} (hok : s.admitRecovery k request now = .ok (h, s')) :
    s.Admits k true h s' ∧ h.op = .transportOpen ∧ h.recovery = true ∧
      request.targetKey = k ∧ (request.generation : Int) = h.generation ∧
      s.recoveryRequired k = some h.generation := by
  simp only [admitRecovery, requireRecoveryTombstone, bind_eq_ok, refuse_eq_ok, pure_eq_ok,
    exists_const] at hok
  obtain ⟨⟨snapshot, channel⟩, hvalid, hmarker, hreg⟩ := hok
  obtain ⟨hkey, hbind, _, _⟩ := validateOpen_eq_ok hvalid
  have hgen := (bindSnapshot_eq_ok.mp hbind).2.2.1
  refine ⟨.of_register hbind hreg, ?_⟩
  simp only [register, Prod.mk.injEq] at hreg
  obtain ⟨rfl, rfl⟩ := hreg
  exact ⟨rfl, rfl, hkey, hgen, not_ne_iff.mp hmarker⟩

/-- So does an open admitted through the recovery gate. -/
theorem admitRecovery_channel {s s' : AdmissionService} {k : TargetKey} {request : OpenRequest}
    {now : Instant} {h : AdmissionHandle} (hok : s.admitRecovery k request now = .ok (h, s')) :
    ∃ snapshot channel, s.store k = some snapshot ∧
      rebind request.transportRef snapshot = .ok channel ∧ h.channel = some channel ∧
      h.platform = snapshot.platform := by
  simp only [admitRecovery, bind_eq_ok, pure_eq_ok] at hok
  obtain ⟨⟨snapshot, channel⟩, hvalid, _, _, hreg⟩ := hok
  obtain ⟨_, hbind, hrebind, _⟩ := validateOpen_eq_ok hvalid
  simp only [register, Prod.mk.injEq] at hreg
  obtain ⟨rfl, rfl⟩ := hreg
  exact ⟨snapshot, channel, (bindSnapshot_eq_ok.mp hbind).2.1, hrebind, rfl, rfl⟩

/-- An admission of an open answers with a registered handle or changes nothing. -/
theorem perform_admitOpen (s : AdmissionService) (k : TargetKey) (request : OpenRequest)
    (now : Instant) :
    (∃ e, s.perform (.admitOpen k request now) = (.error e, s)) ∨
      ∃ h, s.perform (.admitOpen k request now) = (.ok h, s.registered h) ∧
        s.Admits k false h (s.registered h) ∧ h.op = .transportOpen ∧
        request.targetKey = k ∧ (request.generation : Int) = h.generation := by
  cases hok : s.admitOpen k request now with
  | error e => exact .inl ⟨e, by rw [perform, hok, settle_error]⟩
  | ok r =>
      obtain ⟨h, s'⟩ := r
      obtain ⟨hadmits, hop, _, hkey, hgeneration⟩ := admitOpen_eq_ok hok
      obtain rfl := hadmits.after
      exact .inr ⟨h, by rw [perform, hok, settle_ok], hadmits, hop, hkey, hgeneration⟩

/-- So does an admission through the recovery gate. -/
theorem perform_admitRecovery (s : AdmissionService) (k : TargetKey) (request : OpenRequest)
    (now : Instant) :
    (∃ e, s.perform (.admitRecovery k request now) = (.error e, s)) ∨
      ∃ h, s.perform (.admitRecovery k request now) = (.ok h, s.registered h) ∧
        s.Admits k true h (s.registered h) ∧ h.op = .transportOpen ∧
        request.targetKey = k ∧ (request.generation : Int) = h.generation := by
  cases hok : s.admitRecovery k request now with
  | error e => exact .inl ⟨e, by rw [perform, hok, settle_error]⟩
  | ok r =>
      obtain ⟨h, s'⟩ := r
      obtain ⟨hadmits, hop, _, hkey, hgeneration, _⟩ := admitRecovery_eq_ok hok
      obtain rfl := hadmits.after
      exact .inr ⟨h, by rw [perform, hok, settle_ok], hadmits, hop, hkey, hgeneration⟩

theorem admitSshTier_eq_ok {s s' : AdmissionService} {k : TargetKey} {g : Int}
    {platform : PlatformMetadata} {lease : Option LeaseInfo} {ttl : Option Int}
    {proof : Option ExecutionProof} {now : Instant} {h : AdmissionHandle}
    (hok : s.admitSshTier k g platform lease ttl proof now = .ok (h, s')) :
    s.Admits k false h s' ∧ h.op = .sshTier ∧ g = h.generation ∧
      ∃ snapshot, s.store k = some snapshot ∧ snapshot.generation = g ∧
        (snapshot.state ≠ .ready →
          proof = some ⟨g, s.execEpoch k, .known .executing⟩) := by
  simp only [admitSshTier, bind_eq_ok] at hok
  obtain ⟨snapshot, hbind, _, _, _, _, _, _, _, _, hreg⟩ := hok
  obtain ⟨_, hsnap, hgen, _⟩ := bindSnapshot_eq_ok.mp hbind
  have hproof : snapshot.state ≠ .ready →
      proof = some ⟨g, s.execEpoch k, .known .executing⟩ := by
    intro hstate
    rw [if_pos hstate] at hreg
    obtain ⟨u, hexec, _⟩ := bind_eq_ok.mp hreg
    rw [hgen]
    exact requireExecutingProof_eq_ok hexec
  have hreg : s.register k .sshTier none snapshot false = (h, s') := by
    split at hreg
    · obtain ⟨_, _, hreg⟩ := bind_eq_ok.mp hreg
      exact pure_eq_ok.mp hreg
    · exact pure_eq_ok.mp hreg
  refine ⟨.of_register hbind hreg, ?_⟩
  simp only [register, Prod.mk.injEq] at hreg
  obtain ⟨rfl, rfl⟩ := hreg
  exact ⟨rfl, hgen, snapshot, hsnap, hgen.symm, hproof⟩

theorem publishSnapshot_eq_ok {s s' : AdmissionService} {k : TargetKey}
    {snapshot : TargetSnapshot} {u : Unit} (hok : s.publishSnapshot k snapshot = .ok (u, s')) :
    (∀ current ∈ s.store k, current.generation ≤ snapshot.generation) ∧
      s' = { s with store := Function.update s.store k (some snapshot) } := by
  simp only [publishSnapshot, bind_eq_ok, pure_eq_ok, Prod.mk.injEq] at hok
  obtain ⟨store, hput, _, rfl⟩ := hok
  simp only [SnapshotStore.put] at hput
  cases hcurrent : s.store k with
  | none =>
      rw [hcurrent] at hput
      simp only [pure_eq_ok] at hput
      exact ⟨by simp, by rw [hput]⟩
  | some current =>
      rw [hcurrent] at hput
      simp only [bind_eq_ok, refuse_eq_ok, pure_eq_ok, exists_const, not_lt] at hput
      exact ⟨by simpa using hput.1, by rw [hput.2]⟩

theorem promote_eq_ok {s s' : AdmissionService} {h : AdmissionHandle} {u : Unit} :
    s.promote h = .ok (u, s') ↔
      s.Registered h ∧ s.stateOf h = .pending ∧ ¬ s.Cancelled h ∧
        s.setFlags h { s.flags h.handleId with state := .promoted } = s' := by
  simp [promote, not_or, and_assoc]

theorem dispose_eq_ok {s s' : AdmissionService} {h : AdmissionHandle} {t : AdmissionState}
    {u : Unit} :
    s.dispose h t = .ok (u, s') ↔
      s.Registered h ∧ (s.stateOf h).Live ∧ s.disposed h t = s' := by
  simp [dispose, not_or, and_assoc]

theorem complete_eq_ok {s s' : AdmissionService} {h : AdmissionHandle} {u : Unit} :
    s.complete h = .ok (u, s') ↔
      ¬ s.Cancelled h ∧ ¬ s.EpochStaleForOp h ∧
        ¬ (s.stateOf h = .pending ∧ h.op = .transportOpen) ∧
        s.Registered h ∧ (s.stateOf h).Live ∧ s.disposed h .completed = s' := by
  simp only [complete, bind_eq_ok, refuse_eq_ok, exists_const, dispose_eq_ok]

theorem rollback_eq_ok {s s' : AdmissionService} {h : AdmissionHandle} {u : Unit} :
    s.rollback h = .ok (u, s') ↔
      (s.stateOf h = .promoted → s.Closed h.targetKey → (s.flags h.handleId).reaped = true) ∧
        s.Registered h ∧ (s.stateOf h).Live ∧ s.disposed h .rolledBack = s' := by
  simp only [rollback, bind_eq_ok, refuse_eq_ok, exists_const, dispose_eq_ok, not_and,
    Bool.not_eq_false]

theorem confirmReaped_eq_ok {s s' : AdmissionService} {h : AdmissionHandle} {u : Unit} :
    s.confirmReaped h = .ok (u, s') ↔
      s.Closed h.targetKey ∧ s.Cancelled h ∧ s.Registered h ∧
        s.setFlags h { s.flags h.handleId with reaped := true } = s' := by
  simp [confirmReaped, not_or, and_assoc]

theorem abandon_eq_ok {s s' : AdmissionService} {h : AdmissionHandle} {u : Unit} :
    s.abandon h = .ok (u, s') ↔
      s.Closed h.targetKey ∧ s.Cancelled h ∧ (s.flags h.handleId).reaped = true ∧
        s.Registered h ∧ (s.stateOf h).Live ∧ s.disposed h .abandoned = s' := by
  simp only [abandon, bind_eq_ok, refuse_eq_ok, exists_const, dispose_eq_ok, not_or, not_not,
    Bool.not_eq_false, and_assoc]

theorem reopen_eq_ok {s s' : AdmissionService} {k : TargetKey} {u : Unit} :
    s.reopen k = .ok (u, s') ↔
      (s.closedAt k = none ∧ s = s') ∨
        ∃ g, s.closedAt k = some g ∧ (∃ snapshot ∈ s.store k, g < snapshot.generation) ∧
          s.bindings k = [] ∧ { s with closedAt := Function.update s.closedAt k none } = s' := by
  unfold reopen
  cases hclosed : s.closedAt k with
  | none => simp
  | some g => simp

/-! ## Every call makes a change -/

theorem Admits.change {s s' : AdmissionService} {k : TargetKey} {recovery : Bool}
    {h : AdmissionHandle} (ha : s.Admits k recovery h s') {c : Call} (hc : c.admits = some h.op) :
    Change c s s' := by
  obtain ⟨snapshot, hsnap, hgen⟩ := ha.snapshot
  obtain rfl := ha.key
  obtain rfl := ha.after
  exact .register h snapshot hc ha.id ha.opened hsnap hgen ha.epoch

theorem note_change (s : AdmissionService) (k : TargetKey) (g : Int) :
    Change (.noteExecutionTransition k g) s (s.noteExecutionTransition k g).2 := by
  unfold noteExecutionTransition
  split
  · exact .note k g ‹_›
  · exact .refl _ s

theorem cancelSshTier_change (s : AdmissionService) (k : TargetKey) (g e : Int) :
    Change (.cancelSshTier k g e) s (s.cancelSshTier k g e).2 := by
  unfold cancelSshTier
  split
  · exact .cancel k _ fun h hm => (List.mem_filter.mp hm).1
  · exact .refl _ s

theorem closeAdmission_change (s : AdmissionService) (k : TargetKey) (g : Int) :
    Change (.closeAdmission k g) s (s.closeAdmission k g).2 := by
  unfold closeAdmission closedAtFirst
  by_cases hclosed : s.Closed k
  · rw [if_neg (fun h => h.1 hclosed), if_pos hclosed]
    exact .cancel k _ fun h hm => hm
  · rw [if_neg hclosed]
    split
    · exact .refl _ s
    · rename_i hstale
      refine .close k g hclosed fun snapshot hsnap => ?_
      exact not_lt.mp fun hlt => hstale ⟨hclosed, snapshot, hsnap, hlt⟩

theorem reopen_change {s s' : AdmissionService} {k : TargetKey} {u : Unit}
    (hok : s.reopen k = .ok (u, s')) : Change (.reopen k) s s' := by
  rcases reopen_eq_ok.mp hok with ⟨_, rfl⟩ | ⟨g, hclosed, hnewer, hempty, rfl⟩
  · exact .refl _ s
  · exact .reopen k g hclosed hnewer hempty

theorem markRecoveryRequired_change (s : AdmissionService) (k : TargetKey) (g : Int) :
    Change (.markRecoveryRequired k g) s (s.markRecoveryRequired k g) := by
  unfold markRecoveryRequired
  split
  · exact .refl _ s
  · exact .recovery _ trivial

theorem clearRecoveryRequired_change (s : AdmissionService) (k : TargetKey) (g : Int) :
    Change (.clearRecoveryRequired k g) s (s.clearRecoveryRequired k g) := by
  unfold clearRecoveryRequired
  split
  · exact .recovery _ trivial
  · exact .refl _ s

theorem not_completed_live : ¬ AdmissionState.completed.Live := id

theorem not_rolledBack_live : ¬ AdmissionState.rolledBack.Live := id

theorem not_abandoned_live : ¬ AdmissionState.abandoned.Live := id

/-- Every call makes one of the changes. -/
theorem perform_change (c : Call) (s : AdmissionService) : Change c s (s.after c) := by
  have settled : ∀ {α : Type} {r : Except AdmissionError (α × AdmissionService)} {c : Call},
      (∀ a s', r = .ok (a, s') → Change c s s') → Change c s (settle s r).2 :=
    fun h => settle_inv (P := Change _ s) (.refl _ s) h
  cases c with
  | currentSnapshot k => exact .refl _ s
  | currentExecutionEpoch k => exact .refl _ s
  | publishSnapshot k snapshot =>
      refine settled fun _ _ hok => ?_
      obtain ⟨hnewer, rfl⟩ := publishSnapshot_eq_ok hok
      exact .publish k snapshot hnewer
  | admitOpen k request now =>
      refine settled fun _ _ hok => ?_
      obtain ⟨hadmits, hop, _⟩ := admitOpen_eq_ok hok
      exact hadmits.change (congrArg some hop.symm)
  | admitRecovery k request now =>
      refine settled fun _ _ hok => ?_
      obtain ⟨hadmits, hop, _⟩ := admitRecovery_eq_ok hok
      exact hadmits.change (congrArg some hop.symm)
  | admitSshTier k g platform lease ttl proof now =>
      refine settled fun _ _ hok => ?_
      obtain ⟨hadmits, hop, _⟩ := admitSshTier_eq_ok hok
      exact hadmits.change (congrArg some hop.symm)
  | noteExecutionTransition k g => exact note_change s k g
  | cancelSshTier k g e => exact cancelSshTier_change s k g e
  | promote h =>
      refine settled fun _ _ hok => ?_
      obtain ⟨hreg, hpending, hcancel, rfl⟩ := promote_eq_ok.mp hok
      exact .promote h hreg hpending hcancel
  | complete h =>
      refine settled fun _ _ hok => ?_
      obtain ⟨hcancel, _, _, hreg, hlive, rfl⟩ := complete_eq_ok.mp hok
      exact .dispose h _ not_completed_live hreg hlive fun hc => absurd hc hcancel
  | rollback h =>
      refine settled fun _ _ hok => ?_
      obtain ⟨hreaped, hreg, hlive, rfl⟩ := rollback_eq_ok.mp hok
      exact .dispose h _ not_rolledBack_live hreg hlive fun _ => hreaped
  | confirmReaped h =>
      refine settled fun _ _ hok => ?_
      obtain ⟨_, _, hreg, rfl⟩ := confirmReaped_eq_ok.mp hok
      exact .reap h hreg
  | abandon h =>
      refine settled fun _ _ hok => ?_
      obtain ⟨_, _, hreaped, hreg, hlive, rfl⟩ := abandon_eq_ok.mp hok
      exact .dispose h _ not_abandoned_live hreg hlive fun _ _ _ => hreaped
  | closeAdmission k g => exact closeAdmission_change s k g
  | reopen k => exact settled fun _ _ hok => reopen_change hok
  | markRecoveryRequired k g => exact markRecoveryRequired_change s k g
  | clearRecoveryRequired k g => exact clearRecoveryRequired_change s k g

/-- The other calls leave the recovery markers. -/
theorem Change.recoveryRequired {c : Call} {s s' : AdmissionService} (h : Change c s s')
    (hc : ¬ c.Marks) : s'.recoveryRequired = s.recoveryRequired := by
  cases h with
  | recovery markers marks => exact absurd marks hc
  | _ => rfl

/-! ## Recovery markers -/

/-- The recovery marker of a target stands at a generation or beyond it. -/
def MarkedFrom (s : AdmissionService) (k : TargetKey) (g : Int) : Prop :=
  ∃ m ∈ s.recoveryRequired k, g ≤ m

theorem markedFrom_self (s : AdmissionService) (k : TargetKey) (g : Int) :
    (s.markRecoveryRequired k g).MarkedFrom k g := by
  unfold markRecoveryRequired
  split
  · rename_i hnewer
    obtain ⟨existing, hexisting, hlt⟩ := hnewer
    exact ⟨existing, hexisting, hlt.le⟩
  · exact ⟨g, Function.update_self .., le_rfl⟩

/-- A marker never goes back. -/
theorem MarkedFrom.mark {s : AdmissionService} {k k' : TargetKey} {g g' : Int}
    (h : s.MarkedFrom k g) : (s.markRecoveryRequired k' g').MarkedFrom k g := by
  unfold markRecoveryRequired
  split
  · exact h
  · rename_i hnot
    obtain ⟨existing, hexisting, hle⟩ := h
    by_cases hk : k = k'
    · subst hk
      have hge : existing ≤ g' := not_lt.mp fun hlt => hnot ⟨existing, hexisting, hlt⟩
      exact ⟨g', Function.update_self .., hle.trans hge⟩
    · exact ⟨existing, (Function.update_of_ne hk ..).trans hexisting, hle⟩

/-- Only a clearance takes a marker away. -/
theorem MarkedFrom.after {s : AdmissionService} {k : TargetKey} {g : Int} (h : s.MarkedFrom k g)
    {c : Call} (hc : ∀ k' g', c ≠ .clearRecoveryRequired k' g') : (s.after c).MarkedFrom k g := by
  have spared : ¬ c.Marks → (s.after c).MarkedFrom k g := fun hspared => by
    unfold MarkedFrom
    rwa [(perform_change c s).recoveryRequired hspared]
  cases c with
  | markRecoveryRequired k' g' => exact h.mark
  | clearRecoveryRequired k' g' => exact absurd rfl (hc k' g')
  | _ => exact spared id

/-! ## What every change has in common -/

/-- The service moved forward. -/
structure Evolves (s s' : AdmissionService) : Prop where
  /-- Handles are only added. -/
  issued : s.issued <+: s'.issued
  /-- Identities are drawn upwards. -/
  nextId : s.nextId ≤ s'.nextId
  /-- A terminal state never changes again. -/
  terminal : ∀ id, ¬ (s.flags id).state.Live → (s'.flags id).state = (s.flags id).state
  /-- A cancel fence stays set. -/
  cancelled : ∀ id, (s.flags id).cancelled = true → (s'.flags id).cancelled = true
  /-- A reap confirmation stays set. -/
  reaped : ∀ id, (s.flags id).reaped = true → (s'.flags id).reaped = true
  /-- A published generation never regresses. -/
  generation : ∀ k, ∀ snapshot ∈ s.store k,
    ∃ snapshot' ∈ s'.store k, snapshot.generation ≤ snapshot'.generation
  /-- An execution epoch never decreases. -/
  epoch : ∀ k, s.execEpoch k ≤ s'.execEpoch k

theorem Evolves.refl (s : AdmissionService) : Evolves s s where
  issued := List.prefix_refl _
  nextId := le_rfl
  terminal := fun _ _ => rfl
  cancelled := fun _ h => h
  reaped := fun _ h => h
  generation := fun _ snapshot h => ⟨snapshot, h, le_rfl⟩
  epoch := fun _ => le_rfl

theorem Evolves.trans {s₁ s₂ s₃ : AdmissionService} (h₁ : Evolves s₁ s₂) (h₂ : Evolves s₂ s₃) :
    Evolves s₁ s₃ where
  issued := h₁.issued.trans h₂.issued
  nextId := h₁.nextId.trans h₂.nextId
  terminal := fun id h => by
    have h' : ¬ (s₂.flags id).state.Live := by rwa [h₁.terminal id h]
    rw [h₂.terminal id h', h₁.terminal id h]
  cancelled := fun id h => h₂.cancelled id (h₁.cancelled id h)
  reaped := fun id h => h₂.reaped id (h₁.reaped id h)
  generation := fun k snapshot h => by
    obtain ⟨snapshot', h', hle⟩ := h₁.generation k snapshot h
    obtain ⟨snapshot'', h'', hle'⟩ := h₂.generation k snapshot' h'
    exact ⟨snapshot'', h'', hle.trans hle'⟩
  epoch := fun k => (h₁.epoch k).trans (h₂.epoch k)

instance : IsPreorder AdmissionService Evolves where
  refl := Evolves.refl
  trans _ _ _ := Evolves.trans

/-- A change of one handle's flags that keeps a terminal state and sets no flag
back moves forward. -/
theorem Evolves.setFlags {s : AdmissionService} {h : AdmissionHandle} {f : HandleFlags}
    (hstate : ¬ (s.stateOf h).Live → f.state = s.stateOf h)
    (hcancelled : s.Cancelled h → f.cancelled = true)
    (hreaped : (s.flags h.handleId).reaped = true → f.reaped = true) :
    Evolves s (s.setFlags h f) where
  issued := List.prefix_refl _
  nextId := le_rfl
  terminal := fun id hid => by
    rcases eq_or_ne id h.handleId with rfl | hne
    · simpa [stateOf] using hstate hid
    · simp [hne]
  cancelled := fun id hid => by
    rcases eq_or_ne id h.handleId with rfl | hne
    · simpa using hcancelled hid
    · simpa [hne] using hid
  reaped := fun id hid => by
    rcases eq_or_ne id h.handleId with rfl | hne
    · simpa using hreaped hid
    · simpa [hne] using hid
  generation := fun _ snapshot h => ⟨snapshot, h, le_rfl⟩
  epoch := fun _ => le_rfl

theorem Evolves.cancelAll (s : AdmissionService) (hs : List AdmissionHandle) :
    Evolves s (s.cancelAll hs) where
  issued := List.prefix_refl _
  nextId := le_rfl
  terminal := fun id _ => cancelAll_state s hs id
  cancelled := fun id h => (cancelAll_cancelled s hs id).mpr (.inr h)
  reaped := fun id h => by rwa [cancelAll_reaped]
  generation := fun _ snapshot h => ⟨snapshot, h, le_rfl⟩
  epoch := fun _ => le_rfl

/-- A change of the other fields moves forward. -/
theorem Evolves.of_eq {s s' : AdmissionService} (hissued : s.issued <+: s'.issued)
    (hnext : s.nextId ≤ s'.nextId) (hflags : s'.flags = s.flags)
    (hstore : ∀ k, ∀ snapshot ∈ s.store k,
      ∃ snapshot' ∈ s'.store k, snapshot.generation ≤ snapshot'.generation)
    (hepoch : ∀ k, s.execEpoch k ≤ s'.execEpoch k) : Evolves s s' where
  issued := hissued
  nextId := hnext
  terminal := fun id _ => by rw [hflags]
  cancelled := fun id h => by rwa [hflags]
  reaped := fun id h => by rwa [hflags]
  generation := hstore
  epoch := hepoch

theorem Change.evolves {c : Call} {s s' : AdmissionService} (h : Change c s s') :
    Evolves s s' := by
  have kept : ∀ k, ∀ snapshot ∈ s.store k,
      ∃ snapshot' ∈ s.store k, snapshot.generation ≤ snapshot'.generation :=
    fun _ snapshot h => ⟨snapshot, h, le_rfl⟩
  cases h with
  | refl => exact .refl s
  | publish k snapshot newer =>
      refine .of_eq (List.prefix_refl _) le_rfl rfl (fun k' current hcurrent => ?_)
        fun _ => le_rfl
      rcases eq_or_ne k' k with rfl | hne
      · exact ⟨snapshot, by simp, newer current hcurrent⟩
      · exact ⟨current, by simpa [hne] using hcurrent, le_rfl⟩
  | register h =>
      exact .of_eq (List.prefix_append _ _) (Nat.le_succ _) rfl kept fun _ => le_rfl
  | note k =>
      refine .of_eq (List.prefix_refl _) le_rfl rfl kept fun k' => ?_
      rcases eq_or_ne k' k with rfl | hne
      · simp
      · simp [hne]
  | cancel k hs => exact .cancelAll s hs
  | promote h registered pending uncancelled =>
      refine .setFlags (fun hdead => ?_) id id
      rw [pending] at hdead
      exact absurd trivial hdead
  | dispose h t terminal registered live reaped =>
      have hset := Evolves.setFlags (s := s) (h := h)
        (f := { s.flags h.handleId with state := t }) (fun hdead => absurd live hdead) id id
      exact ⟨hset.issued, hset.nextId, hset.terminal, hset.cancelled, hset.reaped,
        hset.generation, hset.epoch⟩
  | reap h => exact .setFlags (fun _ => rfl) id fun _ => rfl
  | close k g =>
      have hclose := Evolves.cancelAll s (s.bindings k)
      exact ⟨hclose.issued, hclose.nextId, hclose.terminal, hclose.cancelled, hclose.reaped,
        hclose.generation, hclose.epoch⟩
  | reopen k =>
      exact .of_eq (List.prefix_refl _) le_rfl rfl kept fun _ => le_rfl
  | recovery =>
      exact .of_eq (List.prefix_refl _) le_rfl rfl kept fun _ => le_rfl

theorem after_evolves (c : Call) (s : AdmissionService) : Evolves s (s.after c) :=
  (perform_change c s).evolves

/-- Every run moves forward. -/
theorem run_evolves (cs : List Call) (s : AdmissionService) :
    Evolves s (Runs.run after cs s) :=
  Runs.run_rel after_evolves cs s

end AdmissionService

end Kdive

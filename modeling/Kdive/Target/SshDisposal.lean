import Kdive.Coordination.AdmissionTable
import Kdive.Coordination.LocalTarget
import Kdive.Target.SshWork

/-!
# An ssh handle is disposed of once

Between being admitted and the end of the call the handle is held: registered, pending
and disposed of by nobody.  Each step leaves it held, or takes it out of the table for
good (`Held`, `Gone`).  A second disposal is refused.

`debug.introspect.run` disposes of its handle whatever raises.  `target.run_tests` does
unless the first step raises, which records that the tests are running and stands
outside of its `try` (`disposedOnce_iff`).
-/

namespace Kdive

open Checked Program

namespace AdmissionService

/-- What a call's reply leaves of the state of an identity. -/
theorem settle_state {α : Type} {s : AdmissionService} {id : Nat}
    {result : Except AdmissionError (α × AdmissionService)}
    (h : ∀ a s', result = .ok (a, s') → (s'.flags id).state = (s.flags id).state) :
    ((settle s result).2.flags id).state = (s.flags id).state := by
  cases result with
  | error error => rfl
  | ok answer => exact h answer.1 answer.2 rfl

theorem disposed_state_of_ne {s : AdmissionService} {h : AdmissionHandle} {t : AdmissionState}
    {id : Nat} (hne : id ≠ h.handleId) : ((s.disposed h t).flags id).state = (s.flags id).state := by
  rw [disposed_flags, Function.update_of_ne hne]

/-- A call that does not take a handle leaves its state alone. -/
theorem after_state {s : AdmissionService} {c : Call} {id : Nat}
    (hc : SshTier.takes c ≠ some id) : ((s.after c).flags id).state = (s.flags id).state := by
  have hne : ∀ h : AdmissionHandle, some h.handleId ≠ some id → id ≠ h.handleId :=
    fun h hne heq => hne (congrArg some heq.symm)
  cases c with
  | currentSnapshot | currentExecutionEpoch => rfl
  | publishSnapshot k snapshot =>
      refine settle_state fun u s' hok => ?_
      rw [(publishSnapshot_eq_ok hok).2]
  | admitOpen k request now =>
      refine settle_state fun h s' hok => ?_
      rw [(admitOpen_eq_ok hok).1.after, registered_flags]
  | admitRecovery k request now =>
      refine settle_state fun h s' hok => ?_
      rw [(admitRecovery_eq_ok hok).1.after, registered_flags]
  | admitSshTier =>
      refine settle_state fun h s' hok => ?_
      rw [(admitSshTier_eq_ok hok).1.after, registered_flags]
  | noteExecutionTransition k g =>
      show ((s.noteExecutionTransition k g).2.flags id).state = _
      rw [noteExecutionTransition]
      split <;> rfl
  | cancelSshTier k g e =>
      show ((s.cancelSshTier k g e).2.flags id).state = _
      rw [cancelSshTier]
      split
      · exact cancelAll_state ..
      · rfl
  | promote h =>
      refine settle_state fun u s' hok => ?_
      obtain ⟨_, _, _, rfl⟩ := promote_eq_ok.mp hok
      rw [setFlags_flags, Function.update_of_ne (hne h hc)]
  | complete h =>
      refine settle_state fun u s' hok => ?_
      obtain ⟨_, _, _, _, _, rfl⟩ := complete_eq_ok.mp hok
      exact disposed_state_of_ne (hne h hc)
  | rollback h =>
      refine settle_state fun u s' hok => ?_
      obtain ⟨_, _, _, rfl⟩ := rollback_eq_ok.mp hok
      exact disposed_state_of_ne (hne h hc)
  | abandon h =>
      refine settle_state fun u s' hok => ?_
      obtain ⟨_, _, _, _, _, rfl⟩ := abandon_eq_ok.mp hok
      exact disposed_state_of_ne (hne h hc)
  | confirmReaped h =>
      refine settle_state fun u s' hok => ?_
      obtain ⟨_, _, _, rfl⟩ := confirmReaped_eq_ok.mp hok
      rw [setFlags_flags]
      by_cases hid : id = h.handleId
      · rw [hid, Function.update_self]
      · rw [Function.update_of_ne hid]
  | closeAdmission k g =>
      show ((s.closeAdmission k g).2.flags id).state = _
      rw [closeAdmission]
      split
      · rfl
      · rw [cancelAll_state, closedAtFirst]
        split <;> rfl
  | reopen k =>
      refine settle_state fun u s' hok => ?_
      rcases reopen_eq_ok.mp hok with ⟨_, rfl⟩ | ⟨_, _, _, _, rfl⟩ <;> rfl
  | markRecoveryRequired k g =>
      show ((s.markRecoveryRequired k g).flags id).state = _
      rw [markRecoveryRequired]
      split <;> rfl
  | clearRecoveryRequired k g =>
      show ((s.clearRecoveryRequired k g).flags id).state = _
      rw [clearRecoveryRequired]
      split <;> rfl

end AdmissionService

namespace SshTier

open AdmissionService

variable {handle : AdmissionHandle} {desk : Desk}

/-! ## Held and gone -/

/-- What is known of the service about the handle while it is held. -/
structure InForce (handle : AdmissionHandle) (s : AdmissionService) : Prop where
  valid : s.Valid
  issued : handle ∈ s.issued
  pending : s.stateOf handle = .pending

/-- What is known of it once the handle is out of the table. -/
structure Out (handle : AdmissionHandle) (s : AdmissionService) : Prop where
  valid : s.Valid
  issued : handle ∈ s.issued
  gone : handle ∉ s.bindings handle.targetKey

/-- The handle is held, and no success was recorded. -/
structure Held (handle : AdmissionHandle) (desk : Desk) : Prop where
  inForce : InForce handle desk.service
  none : desk.disposals = []
  quiet : .succeeded ∉ desk.recorded

/-- The handle was disposed of once.  A success was recorded only if that was a
completion. -/
structure Gone (handle : AdmissionHandle) (state : AdmissionState) (desk : Desk) : Prop where
  out : Out handle desk.service
  once : desk.disposals = [state]
  quiet : state ≠ .completed → .succeeded ∉ desk.recorded

theorem InForce.registered {s : AdmissionService} (h : InForce handle s) : s.Registered handle :=
  List.mem_map_of_mem ((h.valid.table _ _).mpr ⟨h.issued, rfl, by rw [h.pending]; trivial⟩)

theorem Out.not_registered {s : AdmissionService} (h : Out handle s) : ¬s.Registered handle := by
  intro hregistered
  obtain ⟨other, hmem, hid⟩ := List.mem_map.mp hregistered
  rw [h.valid.eq_of_id (h.valid.issued_of_mem hmem) h.issued hid] at hmem
  exact h.gone hmem

/-- Calls of others leave a handle in force. -/
theorem InForce.interfere {s : AdmissionService} (h : InForce handle s) (calls : List Call) :
    InForce handle (interfere handle calls s) := by
  unfold SshTier.interfere
  induction calls generalizing s with
  | nil => exact h
  | cons c calls ih =>
      by_cases hc : takes c ≠ some handle.handleId
      · rw [List.filter_cons_of_pos (by simpa using hc), List.foldl_cons]
        exact ih ⟨h.valid.after c, (after_evolves c s).issued.subset h.issued,
          (after_state hc).trans h.pending⟩
      · rw [List.filter_cons_of_neg (by simpa using hc)]
        exact ih h

/-- Calls of others do not bring a handle back. -/
theorem Out.interfere {s : AdmissionService} (h : Out handle s) (calls : List Call) :
    Out handle (interfere handle calls s) := by
  unfold SshTier.interfere
  induction calls generalizing s with
  | nil => exact h
  | cons c calls ih =>
      by_cases hc : takes c ≠ some handle.handleId
      · rw [List.filter_cons_of_pos (by simpa using hc), List.foldl_cons]
        exact ih ⟨h.valid.after c, (after_evolves c s).issued.subset h.issued,
          (perform_change c s).gone h.valid h.issued h.gone⟩
      · rw [List.filter_cons_of_neg (by simpa using hc)]
        exact ih h

theorem Held.turn (h : Held handle desk) : Held handle (desk.turn handle).2 := by
  unfold Desk.turn
  split
  · exact h
  · exact ⟨h.inForce.interfere _, h.none, h.quiet⟩

theorem Gone.turn {state : AdmissionState} (h : Gone handle state desk) :
    Gone handle state (desk.turn handle).2 := by
  unfold Desk.turn
  split
  · exact h
  · exact ⟨h.out.interfere _, h.once, h.quiet⟩

/-- A success is not recorded before a completion. -/
theorem not_mem_recorded {recorded : List StepStatus} {status : StepStatus}
    (h : .succeeded ∉ recorded) (hstatus : status ≠ .succeeded) :
    StepStatus.succeeded ∉ recorded ++ [status] := fun hmem =>
  (List.mem_append.mp hmem).elim h fun hlast => hstatus (List.mem_singleton.mp hlast).symm

/-- Disposing of a handle in force takes it out. -/
theorem InForce.disposed {s : AdmissionService} (h : InForce handle s) {state : AdmissionState}
    (hstate : ¬state.Live) : Out handle (s.disposed handle state) where
  valid := h.valid.disposed hstate h.registered
  issued := h.issued
  gone := fun hmem => ((h.valid.mem_disposed h.registered _).mp hmem).2 rfl

/-! ## One step -/

section Steps

/-- A handler's steps, executed one after the other. -/
abbrev alone (handle : AdmissionHandle) : Prog.Rule Resp Failure Desk :=
  Prog.Rule.ofExec (exec handle)

/-- Work leaves a handle held. -/
theorem held_work {what : Work} {Q : Except Failure StepStatus → Desk → Prop}
    (h : Held handle desk) (hQ : ∀ result desk', Held handle desk' → Q result desk') :
    alone handle (.work what) Q desk := hQ _ _ h.turn

/-- Recording no success leaves a handle held. -/
theorem held_record {status : StepStatus} {Q : Except Failure Unit → Desk → Prop}
    (h : Held handle desk) (hstatus : status ≠ .succeeded)
    (hQ : ∀ result desk', Held handle desk' → Q result desk') :
    alone handle (.record status) Q desk := by
  have hturn := h.turn
  rw [alone, Prog.Rule.ofExec, exec]
  cases hnext : desk.turn handle with
  | mk result next =>
      rw [hnext] at hturn
      cases result with
      | error failure => exact hQ _ _ hturn
      | ok status' =>
          exact hQ _ _ ⟨hturn.inForce, hturn.none, not_mem_recorded hturn.quiet hstatus⟩

/-- A completion takes a held handle out or is refused. -/
theorem held_complete {Q : Except Failure Unit → Desk → Prop} (h : Held handle desk)
    (hgone : ∀ desk', Gone handle .completed desk' → Q (.ok ()) desk')
    (hheld : ∀ error desk', Held handle desk' → Q (.error (.admission error)) desk') :
    alone handle .complete Q desk := by
  have hturn := h.turn
  rw [alone, Prog.Rule.ofExec, exec]
  generalize (desk.turn handle).2 = next at hturn
  cases hresult : next.service.complete handle with
  | error error => exact hheld error next hturn
  | ok answer =>
      obtain ⟨_, _, _, _, _, hafter⟩ := complete_eq_ok.mp hresult
      refine hgone _ ⟨?_, congrArg (· ++ [AdmissionState.completed]) hturn.none, ?_⟩
      · show Out handle answer.2
        rw [← hafter]
        exact hturn.inForce.disposed not_completed_live
      · exact fun hne => absurd rfl hne

/-- A rollback takes a held handle out. -/
theorem held_rollback {Q : Except Failure Unit → Desk → Prop} (h : Held handle desk)
    (hgone : ∀ desk', Gone handle .rolledBack desk' → Q (.ok ()) desk') :
    alone handle .rollback Q desk := by
  have hturn := h.turn
  rw [alone, Prog.Rule.ofExec, exec]
  generalize (desk.turn handle).2 = next at hturn
  have hlive : (next.service.stateOf handle).Live := by
    rw [hturn.inForce.pending]
    trivial
  have hresult : next.service.rollback handle =
      .ok ((), next.service.disposed handle .rolledBack) := by
    refine rollback_eq_ok.mpr ⟨fun hpromoted => ?_, hturn.inForce.registered, hlive, rfl⟩
    rw [hturn.inForce.pending] at hpromoted
    cases hpromoted
  rw [hresult]
  exact hgone _ ⟨hturn.inForce.disposed not_rolledBack_live,
    congrArg (· ++ [AdmissionState.rolledBack]) hturn.none, fun _ => hturn.quiet⟩

/-- A step that a call may take once its handle is gone. -/
def Op.Late (state : AdmissionState) : Op → Prop
  | .record status => status = .succeeded → state = .completed
  | _ => True

/-- What is gone stays gone: every further disposal is refused. -/
theorem gone_step {state : AdmissionState} {o : Op} {Q : Except Failure (Resp o) → Desk → Prop}
    (ho : o.Late state) (h : Gone handle state desk)
    (hQ : ∀ result desk', Gone handle state desk' → Q result desk') :
    alone handle o Q desk := by
  have hturn := h.turn
  rw [alone, Prog.Rule.ofExec]
  cases o with
  | complete =>
      rw [exec]
      generalize (desk.turn handle).2 = next at hturn
      cases hresult : next.service.complete handle with
      | error error => exact hQ _ _ hturn
      | ok answer => exact absurd (complete_eq_ok.mp hresult).2.2.2.1 hturn.out.not_registered
  | rollback =>
      rw [exec]
      generalize (desk.turn handle).2 = next at hturn
      cases hresult : next.service.rollback handle with
      | error error => exact hQ _ _ hturn
      | ok answer => exact absurd (rollback_eq_ok.mp hresult).2.1 hturn.out.not_registered
  | record status =>
      rw [exec]
      cases hnext : desk.turn handle with
      | mk result next =>
          rw [hnext] at hturn
          cases result with
          | error failure => exact hQ _ _ hturn
          | ok status' =>
              refine hQ _ _ ⟨hturn.out, hturn.once, fun hne => ?_⟩
              exact not_mem_recorded (hturn.quiet hne) fun hsucceeded => hne (ho hsucceeded)
  | work what => exact hQ _ _ hturn

end Steps

/-- A program whose steps may be taken late leaves a handle gone that is. -/
theorem gone_program {state : AdmissionState} {α : Type} {p : Run α}
    {Q : Except Failure α → Desk → Prop} (hp : p.Calls (Op.Late state))
    (h : Gone handle state desk) (hQ : ∀ result desk', Gone handle state desk' → Q result desk') :
    p.wp (alone handle) Q desk :=
  hp.wp (fun _ ho _ _ hgone hR => gone_step ho hgone hR) hQ h

/-! ## The handlers -/

/-- The handle is gone, one way or the other. -/
def Settled (handle : AdmissionHandle) (desk : Desk) : Prop :=
  ∃ state, Gone handle state desk

theorem alone_mono (handle : AdmissionHandle) : (alone handle).Mono := Prog.Rule.ofExec_mono _

/-- `_record_introspect_failure` records no success. -/
theorem recordIntrospectFailure_late (state : AdmissionState) :
    recordIntrospectFailure.Calls (Op.Late state) := by
  refine .bind (Prog.calls_attempt.mpr (.call trivial)) fun result => ?_
  cases result with
  | ok status => exact .call fun heq => by cases heq
  | error failure => cases failure <;> trivial

/-- A rollback of a held handle that nobody hears of. -/
theorem held_suppress_rollback {α : Type} {p : Run α} {Q : Except Failure α → Desk → Prop}
    (h : Held handle desk)
    (hp : ∀ desk', Gone handle .rolledBack desk' → p.wp (alone handle) Q desk') :
    (Prog.suppress (Prog.perform Op.rollback) >>= fun _ => p).wp (alone handle) Q desk := by
  rw [Prog.wp_bind, Prog.wp_suppress, Prog.wp_perform]
  exact held_rollback h hp

/-- The failure of the live wrapper rolls the handle back. -/
theorem liveWrapperFailure_rolls (h : Held handle desk) {Q : Except Failure Bool → Desk → Prop}
    (hQ : ∀ result desk', Gone handle .rolledBack desk' → result ≠ .ok true → Q result desk') :
    liveWrapperFailure.wp (alone handle) Q desk := by
  refine held_suppress_rollback h fun desk' hgone => ?_
  rw [Prog.wp_bind, Prog.wp_perform]
  refine gone_step trivial hgone fun result desk'' hgone => ?_
  cases result with
  | error failure => exact hQ _ _ hgone (by simp)
  | ok status =>
      dsimp only
      rw [Prog.wp_bind]
      refine gone_program (recordIntrospectFailure_late _) hgone fun result desk'' hgone => ?_
      cases result with
      | error failure => exact hQ _ _ hgone (by simp)
      | ok u => exact hQ _ _ hgone (by simp)

/-- The workspace leaves the handle held, or there is none and it is gone. -/
theorem prepareIntrospectCallWorkspace_leaves (h : Held handle desk) :
    prepareIntrospectCallWorkspace.wp (alone handle) (fun result desk' => match result with
      | .ok true => Held handle desk'
      | .ok false => Settled handle desk'
      | .error _ => Held handle desk' ∨ Settled handle desk') desk := by
  rw [prepareIntrospectCallWorkspace, Prog.wp_bind, Prog.wp_perform]
  refine held_work h fun result desk₁ h₁ => ?_
  cases result with
  | error failure => exact .inl h₁
  | ok status =>
      dsimp only
      rw [Prog.wp_bind, Prog.wp_attempt, Prog.wp_perform]
      refine held_work h₁ fun result desk₂ h₂ => ?_
      cases result with
      | ok status =>
          dsimp only
          rw [Prog.wp_bind, Prog.wp_perform]
          refine held_work h₂ fun result desk₃ h₃ => ?_
          cases result with
          | error failure => exact .inl h₃
          | ok status => exact h₃
      | error failure =>
          cases failure with
          | render =>
              refine held_suppress_rollback h₂ fun desk₃ hgone => ?_
              rw [Prog.wp_bind, Prog.wp_perform]
              refine gone_step (fun heq => by cases heq) hgone fun result desk₄ hgone => ?_
              cases result with
              | error failure => exact .inr ⟨_, hgone⟩
              | ok u => exact ⟨_, hgone⟩
          | admission | value | os | other => exact .inl h₂

/-- The live wrapper completes the handle, or there is no run and it is gone. -/
theorem runLiveWrapper_leaves (h : Held handle desk) :
    runLiveWrapper.wp (alone handle) (fun result desk' => match result with
      | .ok true => Gone handle .completed desk'
      | .ok false => Settled handle desk'
      | .error _ => Held handle desk' ∨ Settled handle desk') desk := by
  have hfailure : ∀ {desk'}, Held handle desk' → liveWrapperFailure.wp (alone handle)
      (fun result desk' => match result with
        | .ok true => Gone handle .completed desk'
        | .ok false => Settled handle desk'
        | .error _ => Held handle desk' ∨ Settled handle desk') desk' := by
    intro desk' h'
    refine liveWrapperFailure_rolls h' fun result desk'' hgone hnot => ?_
    cases result with
    | error failure => exact .inr ⟨_, hgone⟩
    | ok run =>
        cases run with
        | false => exact ⟨_, hgone⟩
        | true => exact absurd rfl hnot
  rw [runLiveWrapper, Prog.wp_bind, Prog.wp_attempt, Prog.wp_perform]
  refine held_work h fun result desk₁ h₁ => ?_
  cases result with
  | error failure =>
      cases failure with
      | value => exact held_suppress_rollback h₁ fun desk₂ hgone => ⟨_, hgone⟩
      | admission | render | os | other => exact .inl h₁
  | ok status =>
      dsimp only
      rw [Prog.wp_bind, Prog.wp_attempt, Prog.wp_perform]
      refine held_work h₁ fun result desk₂ h₂ => ?_
      cases result with
      | error failure => exact hfailure h₂
      | ok status =>
          dsimp only
          rw [Prog.wp_bind, Prog.wp_perform]
          refine held_work h₂ fun result desk₃ h₃ => ?_
          cases result with
          | error failure => exact .inl h₃
          | ok status =>
              dsimp only
              rw [Prog.wp_bind, Prog.wp_attempt, Prog.wp_perform]
              exact held_complete h₃ (fun desk₄ hgone => hgone) fun error desk₄ h₄ => hfailure h₄

/-- A raise while the flag is not set ends with the handle gone. -/
theorem unlessDisposed_settles {body : Run Bool} {Q : Except Failure Bool → Desk → Prop}
    (hbody : body.wp (alone handle) (fun result desk' => match result with
      | .ok answer => Q (.ok answer) desk'
      | .error _ => Held handle desk' ∨ Settled handle desk') desk)
    (hQ : ∀ failure desk', Settled handle desk' → Q (.error failure) desk') :
    (unlessDisposed body).wp (alone handle) Q desk := by
  rw [unlessDisposed, Prog.wp_rescue]
  refine Prog.wp_mono (alone_mono handle) (fun result desk' hend => ?_) hbody
  cases result with
  | ok answer => exact hend
  | error failure =>
      rcases hend with hheld | ⟨state, hgone⟩
      · exact held_suppress_rollback hheld fun desk'' hgone => hQ _ _ ⟨_, hgone⟩
      · refine (Prog.wp_bind ..).mpr ((Prog.wp_suppress _).mpr ((Prog.wp_perform _).mpr ?_))
        exact gone_step trivial hgone fun _ desk'' hgone => hQ _ _ ⟨_, hgone⟩

/-- `debug.introspect.run` ends with its handle gone. -/
theorem introspectRun_settles (h : Held handle desk) :
    executeAdmittedIntrospectSsh.wp (alone handle) (fun _ desk' => Settled handle desk') desk := by
  rw [executeAdmittedIntrospectSsh, Prog.wp_bind]
  refine unlessDisposed_settles ?_ fun _ _ hsettled => hsettled
  refine Prog.wp_mono (alone_mono handle) (fun result desk₁ h₁ => ?_)
    (prepareIntrospectCallWorkspace_leaves h)
  cases result with
  | error failure => exact h₁
  | ok workspace =>
      cases workspace with
      | false => exact h₁
      | true =>
          refine (Prog.wp_bind ..).mpr ?_
          refine unlessDisposed_settles ?_ fun _ _ hsettled => hsettled
          refine Prog.wp_mono (alone_mono handle) (fun result desk₂ h₂ => ?_)
            (runLiveWrapper_leaves h₁)
          cases result with
          | error failure => exact h₂
          | ok run =>
              cases run with
              | false => exact h₂
              | true =>
                  refine gone_program (Prog.Calls.all (fun o => ?_) _) h₂
                    fun _ _ hgone => ⟨_, hgone⟩
                  cases o with
                  | record status => exact fun _ => rfl
                  | complete | rollback | work => trivial

/-- The tests run to a completion, or the handle is still held. -/
theorem executeTestsUnderGate_leaves (h : Held handle desk) :
    executeTestsUnderGate.wp (alone handle) (fun result desk' => match result with
      | .ok _ => Gone handle .completed desk'
      | .error _ => Held handle desk') desk := by
  rw [executeTestsUnderGate, Prog.wp_bind, Prog.wp_perform]
  refine held_work h fun result desk₁ h₁ => ?_
  cases result with
  | error failure => exact h₁
  | ok status =>
      dsimp only
      rw [Prog.wp_bind, Prog.wp_perform]
      refine held_work h₁ fun result desk₂ h₂ => ?_
      cases result with
      | error failure => exact h₂
      | ok status =>
          dsimp only
          rw [Prog.wp_bind, Prog.wp_perform]
          exact held_complete h₂ (fun desk₃ hgone => hgone) fun error desk₃ h₃ => h₃

/-- Once its first step has not raised, `target.run_tests` ends with its handle gone. -/
theorem runTestsRecorded_settles (h : Held handle desk) :
    runTestsRecorded.wp (alone handle) (fun _ desk' => Settled handle desk') desk := by
  rw [runTestsRecorded, Prog.wp_bind, Prog.wp_attempt]
  refine Prog.wp_mono (alone_mono handle) (fun result desk₁ h₁ => ?_)
    (executeTestsUnderGate_leaves h)
  cases result with
  | error failure =>
      refine held_suppress_rollback h₁ fun desk₂ hgone => ?_
      exact gone_program (.call fun heq => by cases heq) hgone fun _ _ hgone => ⟨_, hgone⟩
  | ok status =>
      refine gone_program (Prog.Calls.all (fun o => ?_) _) h₁ fun _ _ hgone => ⟨_, hgone⟩
      cases o with
      | record status => exact fun _ => rfl
      | complete | rollback | work => trivial

/-! ## The result -/

/-- The handle was completed or rolled back exactly once, it is not registered any more,
and a success was recorded only if it was completed. -/
structure DisposedOnce (handle : AdmissionHandle) (desk : Desk) : Prop where
  once : desk.disposals.length = 1
  gone : ¬desk.service.Registered handle
  completed : .succeeded ∈ desk.recorded → desk.disposals = [.completed]

/-- The first step of the call does not raise. -/
def FirstStepReturns (turns : List Turn) : Prop :=
  ∀ turn ∈ turns.head?, ∃ status, turn.result = .ok status

theorem Settled.disposedOnce (h : Settled handle desk) : DisposedOnce handle desk := by
  obtain ⟨state, hgone⟩ := h
  refine ⟨by rw [hgone.once]; rfl, hgone.out.not_registered, fun hmem => ?_⟩
  by_cases hstate : state = .completed
  · rw [hgone.once, hstate]
  · exact absurd hmem (hgone.quiet hstate)

/-- A handle that was just admitted is held. -/
theorem held_admitted {s s' : AdmissionService} (hvalid : s.Valid) {k : TargetKey} {g : Int}
    {platform : PlatformMetadata} {lease : Option LeaseInfo} {ttl : Option Int}
    {proof : Option ExecutionProof} {now : Instant}
    (hadmission : s.admitSshTier k g platform lease ttl proof now = .ok (handle, s'))
    (turns : List Turn) : Held handle (admitted s' turns) := by
  obtain ⟨hadmits, _⟩ := admitSshTier_eq_ok hadmission
  have hafter : s.after (.admitSshTier k g platform lease ttl proof now) = s' := by
    rw [after, perform, hadmission]
    rfl
  refine ⟨⟨hafter ▸ hvalid.after _, ?_, ?_⟩, rfl, List.not_mem_nil⟩
  · show handle ∈ s'.issued
    rw [hadmits.after, registered_issued]
    exact List.mem_append_right _ (List.mem_singleton_self _)
  · show (s'.flags handle.handleId).state = .pending
    rw [hadmits.after, registered_flags, hvalid.blank _ hadmits.id.ge]

/-- A handler disposes of an admitted handle exactly once, whatever others call and
whatever raises, but for `target.run_tests` where its first step raises. -/
theorem disposedOnce_iff (handler : Handler) (ttl : Int) (nextId : Nat) (calls : List Call)
    (k : TargetKey) (g : Int) (platform : PlatformMetadata) (lease : Option LeaseInfo)
    (minLeaseTtl : Option Int) (proof : Option ExecutionProof) (now : Instant)
    (handle : AdmissionHandle) (s' : AdmissionService) (turns : List Turn)
    (hadmission : (Runs.run after calls (AdmissionService.fresh ttl nextId)).admitSshTier k g platform
      lease minLeaseTtl proof now = .ok (handle, s')) :
    DisposedOnce handle (handler.call.run (exec handle) (admitted s' turns)).2 ↔
      (handler = .runTests → FirstStepReturns turns) := by
  have hheld := held_admitted (valid_of_run ttl nextId calls) hadmission turns
  cases handler with
  | introspectRun =>
      exact iff_of_true (Prog.wp_ofExec.mp (introspectRun_settles hheld)).disposedOnce
        fun heq => by cases heq
  | runTests =>
      have hturn := hheld.turn
      have hrun : ∀ result desk', (admitted s' turns).turn handle = (result, desk') →
          (Handler.call .runTests).run (exec handle) (admitted s' turns) = match result with
            | .ok _ => runTestsRecorded.run (exec handle)
                { desk' with recorded := desk'.recorded ++ [.running] }
            | .error failure => (.error failure, desk') := by
        intro result desk' hnext
        rw [Handler.call, SshTier.runTests, Prog.run_bind, Prog.run_perform, exec, hnext]
        cases result <;> rfl
      cases hnext : (admitted s' turns).turn handle with
      | mk result desk' =>
          rw [hnext] at hturn
          rw [hrun result desk' hnext]
          have hfirst : FirstStepReturns turns ↔ ∃ status, result = .ok status := by
            cases turns with
            | nil =>
                obtain ⟨rfl, _⟩ := Prod.mk.inj hnext
                exact iff_of_true (fun _ h => by cases h) ⟨_, rfl⟩
            | cons turn turns =>
                obtain ⟨rfl, _⟩ := Prod.mk.inj hnext
                simp [FirstStepReturns]
          cases result with
          | error failure =>
              refine iff_of_false (fun h => ?_) fun h => ?_
              · have honce := h.once
                rw [hturn.none] at honce
                cases honce
              · obtain ⟨status, hstatus⟩ := hfirst.mp (h rfl)
                cases hstatus
          | ok status =>
              have hrecorded : Held handle
                  { desk' with recorded := desk'.recorded ++ [.running] } :=
                ⟨hturn.inForce, hturn.none, not_mem_recorded hturn.quiet (by decide)⟩
              exact iff_of_true
                (Prog.wp_ofExec.mp (runTestsRecorded_settles hrecorded)).disposedOnce
                fun _ => hfirst.mpr ⟨status, rfl⟩

/-- A booted target. -/
def bootedCalls : List Call :=
  [.publishSnapshot (localTarget "run") (bootReadySnapshot 1 gdbstubEndpoint true)]

/-- The handle of its first ssh work. -/
def firstHandle : AdmissionHandle where
  handleId := 0
  targetKey := localTarget "run"
  generation := 1
  admitEpoch := 0
  op := .sshTier
  channel := none
  platform := bootPlatform true
  recovery := false

theorem firstHandle_admission :
    (Runs.run after bootedCalls (fresh 60 0)).admitSshTier (localTarget "run") 1
        (bootPlatform true) none none none 0 =
      .ok (firstHandle, (Runs.run after bootedCalls (fresh 60 0)).registered firstHandle) := by
  rfl

/-- Tests on a booted target whose runner raises. -/
theorem disposedOnce_runner_raises :
    DisposedOnce firstHandle ((Handler.runTests.call.run (exec firstHandle) (admitted
        ((Runs.run after bootedCalls (fresh 60 0)).registered firstHandle)
        [⟨[], .ok .running⟩, ⟨[], .ok .running⟩, ⟨[], .error .other⟩])).2) ↔
      (Handler.runTests = .runTests →
        FirstStepReturns [⟨[], .ok .running⟩, ⟨[], .ok .running⟩, ⟨[], .error .other⟩]) :=
  disposedOnce_iff .runTests 60 0 bootedCalls (localTarget "run") 1 (bootPlatform true) none none
    none 0 firstHandle _ _ firstHandle_admission

/-- The manifest is locked when the RUNNING step is recorded: the handle stays. -/
theorem runTests_locked_manifest_leaks :
    ¬DisposedOnce firstHandle (Handler.runTests.call.run (exec firstHandle) (admitted
      ((Runs.run after bootedCalls (fresh 60 0)).registered firstHandle)
      [⟨[], .error .other⟩])).2 := by
  intro h
  have hnone : (Handler.runTests.call.run (exec firstHandle) (admitted
      ((Runs.run after bootedCalls (fresh 60 0)).registered firstHandle)
      [⟨[], .error .other⟩])).2.disposals = [] := rfl
  have honce := h.once
  rw [hnone] at honce
  cases honce

end SshTier

end Kdive

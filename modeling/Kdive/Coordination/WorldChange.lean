import Kdive.Coordination.AdmissionTable
import Kdive.Coordination.RegistryFiles
import Kdive.Coordination.World

/-!
# What an operation can do to the world

Each operation touches few parts of the world.  These lemmas say which, so a
proof about one part looks only at the operations that touch it.

*Admission.*  `admissionCalls` lists the calls of the admission service inside an
operation, and `exec_admission` says that an operation acts on the service as
these calls.  So what holds of every run of the service holds of the server.
-/

namespace Kdive

open Checked

/-- The calls of the admission service inside an operation. -/
def Op.admissionCalls : Op → List AdmissionService.Call
  | .admission c => [c]
  | .lifecycleFence k g true => [.closeAdmission k g]
  | .commit handle .. => [.promote handle]
  | _ => []

namespace World

variable (o : Op) (w : World)

/-! ## Commits -/

/-- A commit is refused, stops at the subscription, or goes through. -/
inductive Committed (h : AdmissionHandle) (session : TransportSession) (state : OpenState)
    (dispatcher : Bool) (w : World) : Except Raised Unit × World → Prop
  | refused (e : AdmissionError) (promoted : w.admission.promote h = .error e) :
      Committed h session state dispatcher w (.error (.admission e), w)
  | entered (r : Except Raised Unit) (admission : AdmissionService)
      (promoted : w.admission.promote h = .ok ((), admission))
      (failed : dispatcher = true → ∃ e, r = .error e) :
      Committed h session state dispatcher w (r,
        { w with
          admission := admission
          handles := Function.update w.handles session.sessionId (some h) })
  | subscribed (admission : AdmissionService)
      (promoted : w.admission.promote h = .ok ((), admission)) :
      Committed h session state dispatcher w (.ok (),
        { w with
          admission := admission
          handles := Function.update w.handles session.sessionId (some h)
          subscribers := Function.update w.subscribers session.targetKey
            ((w.subscribers session.targetKey).filter (·.name ≠ session.sessionId) ++
              [⟨session, { state with admissionHandle := some h }⟩])
          killed := Function.update w.killed session.sessionId state.backendPid.isNone })

theorem commit_cases (h : AdmissionHandle) (session : TransportSession) (state : OpenState)
    (dispatcher : Bool) (subscribe : Fault) :
    Committed h session state dispatcher w (w.commit h session state dispatcher subscribe) := by
  unfold commit
  cases hpromote : w.admission.promote h with
  | error e => exact .refused e hpromote
  | ok r =>
      obtain ⟨u, admission⟩ := r
      cases dispatcher with
      | false => exact .entered _ _ hpromote fun h => by cases h
      | true =>
          simp only [Bool.true_eq_false, if_false]
          cases subscribe.check with
          | error e => exact .entered _ _ hpromote fun _ => ⟨e, rfl⟩
          | ok u => exact .subscribed _ hpromote

/-! ## The admission service -/

/-- An operation acts on the admission service as the calls inside it. -/
theorem exec_admission :
    (w.exec o).2.admission = Runs.run AdmissionService.after o.admissionCalls w.admission := by
  cases o with
  | admission c => rfl
  | lifecycleFence k g close =>
      cases close with
      | false => simp [exec, withAdmission, Op.admissionCalls]
      | true =>
          by_cases hstale : w.admission.StaleLifecycleClose k g
          · simp [exec, withAdmission, Op.admissionCalls, AdmissionService.after,
              AdmissionService.perform, AdmissionService.closeAdmission, hstale]
          · simp [exec, withAdmission, Op.admissionCalls, AdmissionService.after,
              AdmissionService.perform, hstale]
  | commit h session state dispatcher subscribe =>
      simp only [Op.admissionCalls, Runs.run_cons, Runs.run_nil, AdmissionService.after,
        AdmissionService.perform, exec]
      have hcommit := w.commit_cases h session state dispatcher subscribe
      generalize w.commit h session state dispatcher subscribe = r at hcommit ⊢
      cases hcommit with
      | refused e promoted => rw [promoted]; rfl
      | entered r admission promoted => rw [promoted]; rfl
      | subscribed admission promoted => rw [promoted]; rfl
  | _ => rfl

/-- An operation makes one change of the service or none. -/
theorem exec_change : (w.exec o).2.admission = w.admission ∨ ∃ c ∈ o.admissionCalls,
    AdmissionService.Change c w.admission (w.exec o).2.admission := by
  rw [exec_admission]
  cases o with
  | admission c => exact .inr ⟨c, by simp [Op.admissionCalls], w.admission.perform_change c⟩
  | lifecycleFence k g close =>
      cases close with
      | false => exact .inl rfl
      | true =>
          exact .inr ⟨.closeAdmission k g, by simp [Op.admissionCalls],
            w.admission.perform_change _⟩
  | commit h =>
      exact .inr ⟨.promote h, by simp [Op.admissionCalls], w.admission.perform_change _⟩
  | _ => exact .inl rfl

theorem exec_valid (hv : w.admission.Valid) : (w.exec o).2.admission.Valid := by
  rw [exec_admission]
  exact Runs.run_inv' (fun c _ hv => hv.after c) _ hv

theorem exec_evolves : AdmissionService.Evolves w.admission (w.exec o).2.admission := by
  rw [exec_admission]
  exact AdmissionService.run_evolves _ _

/-! ## Recovery markers -/

/-- The operations that move a recovery marker, in the cache or on disk. -/
def MovesMarker : Op → Prop
  | .admission c => c.Marks
  | .writeTombstone .. | .unlinkTombstone .. => True
  | _ => False

/-- The other operations leave the cache. -/
theorem exec_recoveryRequired (ho : ¬ MovesMarker o) :
    (w.exec o).2.admission.recoveryRequired = w.admission.recoveryRequired := by
  cases exec_change o w with
  | inl hsame => rw [hsame]
  | inr hchange =>
      obtain ⟨c, hc, hchange⟩ := hchange
      refine hchange.recoveryRequired fun hmarks => ho ?_
      cases o with
      | admission c' =>
          obtain rfl := List.mem_singleton.mp hc
          exact hmarks
      | lifecycleFence k g close =>
          cases close with
          | false => cases hc
          | true =>
              obtain rfl := List.mem_singleton.mp hc
              exact hmarks
      | commit h =>
          obtain rfl := List.mem_singleton.mp hc
          exact hmarks
      | _ => cases hc

/-- And the files. -/
theorem exec_tombstones (ho : ¬ MovesMarker o) :
    (w.exec o).2.registry.tombstones = w.registry.tombstones := by
  cases o with
  | writeTombstone | unlinkTombstone => exact absurd trivial ho
  | writeRecord session fault => cases fault <;> rfl
  | unlinkRecord k sid fault => cases fault <;> rfl
  | commit h session state dispatcher subscribe =>
      have hcommit := w.commit_cases h session state dispatcher subscribe
      simp only [exec]
      generalize w.commit h session state dispatcher subscribe = r at hcommit ⊢
      cases hcommit <;> rfl
  | _ => rfl

/-! ## The ownership records -/

/-- An operation writes a record, unlinks one, or leaves them all. -/
theorem exec_records :
    (w.exec o).2.registry.records = w.registry.records ∨
      (∃ r, o = .writeRecord r none ∧
        (w.exec o).2.registry.records = (w.registry.writeRecord r).records) ∨
      ∃ k sid, o = .unlinkRecord k sid none ∧
        (w.exec o).2.registry.records = (w.registry.unlinkRecord k).records := by
  cases o with
  | writeRecord r fault =>
      cases fault with
      | none => exact .inr (.inl ⟨r, rfl, rfl⟩)
      | some kind => exact .inl rfl
  | unlinkRecord k sid fault =>
      cases fault with
      | none => exact .inr (.inr ⟨k, sid, rfl, rfl⟩)
      | some kind => exact .inl rfl
  | writeTombstone t fault => cases fault <;> exact .inl rfl
  | unlinkTombstone k fault => cases fault <;> exact .inl rfl
  | commit h session state dispatcher subscribe =>
      have hcommit := w.commit_cases h session state dispatcher subscribe
      simp only [exec]
      generalize w.commit h session state dispatcher subscribe = r at hcommit ⊢
      cases hcommit <;> exact .inl rfl
  | _ => exact .inl rfl

/-- A record after an operation was there before, or the operation wrote it. -/
theorem mem_exec_records {r : TransportSession} (hr : r ∈ (w.exec o).2.registry.records) :
    r ∈ w.registry.records ∨ o = .writeRecord r none := by
  obtain heq | ⟨r', ho, heq⟩ | ⟨k, sid, ho, heq⟩ := exec_records o w
  · exact .inl (heq ▸ hr)
  · rw [heq, SessionRegistry.writeRecord, List.mem_append, List.mem_singleton] at hr
    cases hr with
    | inl hold => exact .inl (List.mem_filter.mp hold).1
    | inr hnew => exact .inr (hnew ▸ ho)
  · rw [heq] at hr
    exact .inl (List.mem_filter.mp hr).1

/-- A target keeps one record and one tombstone. -/
theorem exec_distinct (h : w.registry.Distinct) : (w.exec o).2.registry.Distinct := by
  cases o with
  | writeRecord session fault =>
      cases fault with
      | none => exact h.writeRecord session
      | some kind => exact h
  | unlinkRecord k sid fault =>
      cases fault with
      | none => exact h.unlinkRecord k
      | some kind => exact h
  | writeTombstone t fault =>
      cases fault with
      | none => exact h.writeTombstone t
      | some kind => exact h
  | unlinkTombstone k fault =>
      cases fault with
      | none => exact h.unlinkTombstone k
      | some kind => exact h
  | commit handle session state dispatcher subscribe =>
      have hcommit := w.commit_cases handle session state dispatcher subscribe
      simp only [exec]
      generalize w.commit handle session state dispatcher subscribe = r at hcommit ⊢
      cases hcommit <;> exact h
  | _ => exact h

/-! ## The handle table -/

/-- An entry of the handle table after an operation was there before, or a commit
made it. -/
theorem exec_handles {sid : Nat} {h : AdmissionHandle} (hh : (w.exec o).2.handles sid = some h) :
    w.handles sid = some h ∨ ∃ session state dispatcher subscribe admission,
      o = .commit h session state dispatcher subscribe ∧ session.sessionId = sid ∧
        w.admission.promote h = .ok ((), admission) := by
  cases o with
  | commit h' session state dispatcher subscribe =>
      have hcommit := w.commit_cases h' session state dispatcher subscribe
      simp only [exec] at hh ⊢
      generalize w.commit h' session state dispatcher subscribe = r at hcommit hh
      have entered : ∀ {admission}, w.admission.promote h' = .ok ((), admission) →
          Function.update w.handles session.sessionId (some h') sid = some h →
          w.handles sid = some h ∨ ∃ session' state' dispatcher' subscribe' admission,
            Op.commit h' session state dispatcher subscribe =
              .commit h session' state' dispatcher' subscribe' ∧ session'.sessionId = sid ∧
            w.admission.promote h = .ok ((), admission) := by
        intro admission promoted hh
        by_cases hsid : sid = session.sessionId
        · rw [hsid, Function.update_self, Option.some.injEq] at hh
          subst hh
          exact .inr ⟨session, state, dispatcher, subscribe, admission, rfl, hsid.symm, promoted⟩
        · rw [Function.update_of_ne hsid] at hh
          exact .inl hh
      cases hcommit with
      | refused e promoted => exact .inl hh
      | entered r admission promoted => exact entered promoted hh
      | subscribed admission promoted => exact entered promoted hh
  | popHandle sid' =>
      by_cases hsid : sid = sid'
      · simp [exec, hsid] at hh
      · exact .inl (by simpa [exec, hsid] using hh)
  | dropHandle sid' =>
      by_cases hsid : sid = sid'
      · simp [exec, hsid] at hh
      · exact .inl (by simpa [exec, hsid] using hh)
  | _ => exact .inl hh

/-! ## The subscribers -/

/-- A subscriber after an operation was there before, or a commit that went
through subscribed it. -/
theorem exec_subscribers {k : TargetKey} {s : SessionSubscriber}
    (hs : s ∈ (w.exec o).2.subscribers k) :
    s ∈ w.subscribers k ∨ ∃ h session state dispatcher subscribe admission,
      o = .commit h session state dispatcher subscribe ∧ session.targetKey = k ∧
        w.admission.promote h = .ok ((), admission) ∧
        s = ⟨session, { state with admissionHandle := some h }⟩ := by
  cases o with
  | commit h session state dispatcher subscribe =>
      have hcommit := w.commit_cases h session state dispatcher subscribe
      simp only [exec] at hs ⊢
      generalize w.commit h session state dispatcher subscribe = r at hcommit hs ⊢
      cases hcommit with
      | refused e promoted => exact .inl hs
      | entered r admission promoted => exact .inl hs
      | subscribed admission promoted =>
          by_cases hk : k = session.targetKey
          · subst hk
            simp only [Function.update_self, List.mem_append, List.mem_filter,
              List.mem_singleton] at hs
            cases hs with
            | inl hold => exact .inl hold.1
            | inr hnew =>
                exact .inr ⟨h, session, state, dispatcher, subscribe, admission, rfl, rfl,
                  promoted, hnew⟩
          · exact .inl (by simpa [hk] using hs)
  | unsubscribe k' name =>
      by_cases hk : k = k'
      · subst hk
        simp only [exec, Function.update_self, List.mem_filter] at hs
        exact .inl hs.1
      · exact .inl (by simpa [exec, hk] using hs)
  | _ => exact .inl hs

/-! ## The backends -/

/-- A session counts as killed after an operation if it did before, if the operation says
so, or if a commit subscribed it without a backend. -/
theorem exec_killed {sid : Nat} (hk : (w.exec o).2.killed sid = true) :
    w.killed sid = true ∨ o = .setKilled sid ∨ ∃ h session state dispatcher subscribe,
      o = .commit h session state dispatcher subscribe ∧ session.sessionId = sid ∧
        state.backendPid = none := by
  cases o with
  | commit h session state dispatcher subscribe =>
      have hcommit := w.commit_cases h session state dispatcher subscribe
      simp only [exec] at hk ⊢
      generalize w.commit h session state dispatcher subscribe = r at hcommit hk
      cases hcommit with
      | refused e promoted => exact .inl hk
      | entered r admission promoted => exact .inl hk
      | subscribed admission promoted =>
          by_cases hsid : sid = session.sessionId
          · subst hsid
            have hnone : state.backendPid = none := by simpa using hk
            exact .inr (.inr ⟨h, session, state, dispatcher, subscribe, rfl, rfl, hnone⟩)
          · exact .inl (by simpa [hsid] using hk)
  | setKilled sid' =>
      by_cases hsid : sid = sid'
      · exact .inr (.inl (hsid ▸ rfl))
      · exact .inl (by simpa [exec, hsid] using hk)
  | _ => exact .inl hk

/-- Only a report reports. -/
theorem exec_reported {x : BackendIdentity} (hx : x ∈ (w.exec o).2.backends.reported) :
    x ∈ w.backends.reported ∨ ∃ returned, o = .reportBackend x returned := by
  cases o with
  | attachEvent sid e => exact .inl (by simpa [exec] using hx)
  | reportBackend y returned =>
      simp only [exec, Backends.report, List.mem_append, List.mem_singleton] at hx
      cases hx with
      | inl hold => exact .inl hold
      | inr heq => exact .inr ⟨returned, by rw [heq]⟩
  | reapBackend y stops =>
      cases stops with
      | false => exact .inl hx
      | true => exact .inl (by simpa [exec] using hx)
  | closeAttached session raises stops =>
      exact .inl (by simpa [exec, (Backends.close_kept session raises stops).1] using hx)
  | commit h session state dispatcher subscribe =>
      have hcommit := w.commit_cases h session state dispatcher subscribe
      simp only [exec] at hx
      generalize w.commit h session state dispatcher subscribe = r at hcommit hx
      cases hcommit <;> exact .inl hx
  | _ => exact .inl hx

/-- A stopped backend stays stopped. -/
theorem exec_reaped {x : BackendIdentity} (hx : x ∈ w.backends.reaped) :
    x ∈ (w.exec o).2.backends.reaped := by
  cases o with
  | attachEvent sid e => exact Backends.attachEvent_reaped hx sid e
  | reapBackend y stops =>
      cases stops with
      | false => exact hx
      | true => exact Backends.mem_reap.mpr (.inl hx)
  | closeAttached session raises stops => exact (Backends.close_kept session raises stops).2 x hx
  | commit h session state dispatcher subscribe =>
      have hcommit := w.commit_cases h session state dispatcher subscribe
      simp only [exec]
      generalize w.commit h session state dispatcher subscribe = r at hcommit ⊢
      cases hcommit <;> exact hx
  | _ => exact hx

end World

end Kdive

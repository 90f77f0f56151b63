import Kdive.Coordination.ExecutionEpoch
import Kdive.Coordination.LocalTarget
import Kdive.Coordination.ThreadCalls
import Kdive.Coordination.WorldChange

/-!
# The generation fence of an invalidation

`invalidate_lifecycle` for a generation `g` checks under the admission lock that
the target has not left `g` behind, and closes admission.  It drops the lock and
then emits, and the emit tears down whatever subscribers the target has at that
time.  A publication, a reopen and an open may all run in between.

The close is fenced in every interleaving.  The teardown is fenced as long as
the emit reads the subscribers while the target is `StillAt` the generation.  The
invariant behind it is `Reached`: the generation of every subscribed session has
been published, and is not beyond the generation the target is closed at.
-/

namespace Kdive

open Checked Program Interleaving

namespace AdmissionService

/-! ## Generations a target has reached -/

/-- The generation was published, and a closed target was closed at it or later. -/
structure Reached (s : AdmissionService) (k : TargetKey) (g : Int) : Prop where
  published : ∃ snapshot ∈ s.store k, g ≤ snapshot.generation
  closed : ∀ c ∈ s.closedAt k, g ≤ c

theorem Change.reached {c : Call} {s s' : AdmissionService} (hc : Change c s s') {k : TargetKey}
    {g : Int} (h : s.Reached k g) : s'.Reached k g := by
  have published : ∃ snapshot ∈ s'.store k, g ≤ snapshot.generation := by
    obtain ⟨snapshot, hsnap, hle⟩ := h.published
    obtain ⟨snapshot', hsnap', hle'⟩ := hc.evolves.generation k snapshot hsnap
    exact ⟨snapshot', hsnap', hle.trans hle'⟩
  refine ⟨published, fun c' hc' => ?_⟩
  cases hc with
  | close k' g' opened current =>
      by_cases hk : k = k'
      · subst hk
        obtain ⟨snapshot, hsnap, hle⟩ := h.published
        simp only [cancelAll_closedAt, Function.update_self, Option.mem_some_iff] at hc'
        exact hc' ▸ hle.trans (current snapshot hsnap)
      · exact h.closed c' (by simpa [hk] using hc')
  | reopen k' g' closed =>
      by_cases hk : k = k'
      · subst hk
        simp at hc'
      · exact h.closed c' (by simpa [hk] using hc')
  | refl | publish | register | note | cancel | promote | dispose | reap | recovery =>
      exact h.closed c' hc'

/-- The generation of every handle was published. -/
def Published (s : AdmissionService) : Prop :=
  ∀ h ∈ s.issued, ∃ snapshot ∈ s.store h.targetKey, h.generation ≤ snapshot.generation

theorem Change.published {c : Call} {s s' : AdmissionService} (hc : Change c s s')
    (hp : s.Published) : s'.Published := by
  intro h hi
  have old : h ∈ s.issued → ∃ snapshot ∈ s'.store h.targetKey,
      h.generation ≤ snapshot.generation := fun hi => by
    obtain ⟨snapshot, hsnap, hle⟩ := hp h hi
    obtain ⟨snapshot', hsnap', hle'⟩ := hc.evolves.generation _ snapshot hsnap
    exact ⟨snapshot', hsnap', hle.trans hle'⟩
  cases hc with
  | register h' snapshot admits id opened published generation =>
      rw [registered_issued, List.mem_append, List.mem_singleton] at hi
      cases hi with
      | inl hi => exact old hi
      | inr heq =>
          subst heq
          exact ⟨snapshot, published, generation.le⟩
  | refl | publish | note | cancel | promote | dispose | reap | close | reopen | recovery =>
      exact old hi

/-- A handle that promotes stands on an open target. -/
theorem Valid.promote_open {s s' : AdmissionService} (hv : s.Valid) {h : AdmissionHandle}
    (hi : h ∈ s.issued) {u : Unit} (hok : s.promote h = .ok (u, s')) : ¬ s.Closed h.targetKey := by
  obtain ⟨hreg, _, huncancelled, _⟩ := promote_eq_ok.mp hok
  exact fun hclosed => huncancelled (hv.closed _ hclosed h (hv.mem_of_registered hi hreg))

end AdmissionService

/-! ## The invariant -/

/-- The published generations cover every handle and every subscriber. -/
structure Covered (w : World) : Prop where
  valid : w.admission.Valid
  published : w.admission.Published
  subscribers : ∀ k, ∀ s ∈ w.subscribers k, w.admission.Reached k s.session.generation

/-- A session that is committed for a handle carries the handle's target and
generation. -/
def OpenedFor (h : AdmissionHandle) (session : TransportSession) : Prop :=
  session.targetKey = h.targetKey ∧ (session.generation : Int) = h.generation

theorem Covered.exec {w : World} (hw : Covered w) (o : Op)
    (hcommit : ∀ h session state dispatcher subscribe,
      o = .commit h session state dispatcher subscribe →
        h ∈ w.admission.issued ∧ OpenedFor h session) : Covered (w.exec o).2 := by
  have hafter := w.exec_admission o
  have reached : ∀ {k g}, w.admission.Reached k g → (w.exec o).2.admission.Reached k g := by
    intro k g hreached
    rw [hafter]
    exact Runs.run_inv' (I := fun s => s.Reached k g)
      (fun c s hr => (AdmissionService.perform_change c s).reached hr) o.admissionCalls hreached
  refine ⟨w.exec_valid o hw.valid, ?_, fun k s hs => ?_⟩
  · rw [hafter]
    exact Runs.run_inv' (fun c s hp => (AdmissionService.perform_change c s).published hp)
      o.admissionCalls hw.published
  · cases w.exec_subscribers o hs with
    | inl hold => exact reached (hw.subscribers k s hold)
    | inr hnew =>
        obtain ⟨h, session, state, dispatcher, subscribe, admission, rfl, rfl, hpromote, rfl⟩ := hnew
        obtain ⟨hissued, hkey, hgeneration⟩ := hcommit _ _ _ _ _ rfl
        have hopen := hw.valid.promote_open hissued hpromote
        refine reached ⟨?_, fun c hc => ?_⟩
        · rw [hkey]
          exact hgeneration ▸ hw.published h hissued
        · rw [hkey] at hc
          exact absurd (by simp [AdmissionService.Closed, Option.mem_def.mp hc]) hopen

/-! ## The discipline of the threads -/

/-- The generation an invalidation is for. -/
def Activity.invalidates : Activity → Option Int
  | .invalidateLifecycle _ _ g _ => some g
  | _ => none

/-- A subscriber a thread may tear down. -/
def Activity.Reaches (tag : Activity) (s : SessionSubscriber) : Prop :=
  ∀ g ∈ tag.invalidates, (s.session.generation : Int) ≤ g

/-- What a thread needs and learns.  An admission gives it a handle, which it may
commit a session for.  An invalidation reads and tears down subscribers it
reaches. -/
def fenceRule (tag : Activity) : Prog.Rule Op.Resp Raised (List AdmissionHandle)
  | .admission (.admitOpen k request _), Q, hs => (∀ e, Q (.error e) hs) ∧
      ∀ h, h.targetKey = k → (request.generation : Int) = h.generation → Q (.ok h) (h :: hs)
  | .admission (.admitRecovery k request _), Q, hs => (∀ e, Q (.error e) hs) ∧
      ∀ h, h.targetKey = k → (request.generation : Int) = h.generation → Q (.ok h) (h :: hs)
  | .commit h session _ _ _, Q, hs => (h ∈ hs ∧ OpenedFor h session) ∧ ∀ r, Q r hs
  | .subscribersOf _, Q, hs => ∀ subscribers, (∀ s ∈ subscribers, tag.Reaches s) →
      Q (.ok subscribers) hs
  | .startWorker worker, Q, hs => tag.Reaches worker.subscriber ∧ ∀ r, Q r hs
  | _, Q, hs => ∀ r, Q r hs

/-- The fence as a discipline: the handles a thread was admitted were issued. -/
def fence : Discipline Op.Resp Raised World Activity (List AdmissionHandle) Empty where
  rule := fenceRule
  post := fun _ _ _ => True
  inv := Covered
  knows := fun _ w hs => ∀ h ∈ hs, h ∈ w.admission.issued
  start := fun _ => []
  due := fun _ _ => False
  owns := fun _ _ => False

/-- The target has not moved past a generation. -/
def AdmissionService.StillAt (s : AdmissionService) (k : TargetKey) (g : Int) : Prop :=
  match s.closedAt k with
  | some c => c ≤ g
  | none => ∀ snapshot ∈ s.store k, snapshot.generation ≤ g

instance (s : AdmissionService) (k : TargetKey) (g : Int) : Decidable (s.StillAt k g) := by
  unfold AdmissionService.StillAt
  split <;> infer_instance

theorem AdmissionService.Reached.le {s : AdmissionService} {k : TargetKey} {g g' : Int}
    (h : s.Reached k g) (hstill : s.StillAt k g') : g ≤ g' := by
  unfold AdmissionService.StillAt at hstill
  cases hclosed : s.closedAt k with
  | some c =>
      rw [hclosed] at hstill
      exact (h.closed c hclosed).trans hstill
  | none =>
      rw [hclosed] at hstill
      obtain ⟨snapshot, hsnap, hle⟩ := h.published
      exact hle.trans (hstill snapshot hsnap)

/-- An invalidation reads the subscribers of a target that has not moved past its
generation. -/
def ReadsInTime (tag : Activity) (o : Op) (w : World) : Prop :=
  match o with
  | .subscribersOf k => ∀ g ∈ tag.invalidates, w.admission.StillAt k g
  | _ => True

instance (tag : Activity) (o : Op) (w : World) : Decidable (ReadsInTime tag o w) := by
  unfold ReadsInTime
  split <;> infer_instance

/-- A thread tears down only subscribers it reaches. -/
def TearsDownReached (tag : Activity) (o : Op) : Prop :=
  match o with
  | .startWorker worker => tag.Reaches worker.subscriber
  | _ => True

instance (tag : Activity) (s : SessionSubscriber) : Decidable (tag.Reaches s) :=
  inferInstanceAs (Decidable (∀ g ∈ tag.invalidates, _))

instance (tag : Activity) (o : Op) : Decidable (TearsDownReached tag o) := by
  unfold TearsDownReached
  split <;> infer_instance

/-- A close for a generation the target left behind changes nothing. -/
def ClosesReached (o : Op) (w : World) : Prop :=
  match o with
  | .lifecycleFence k g _ => (∃ snapshot ∈ w.admission.store k, g < snapshot.generation) →
      (w.exec o).2.admission = w.admission
  | _ => True

/-- An invalidation tears down no newer session, and closes no newer target. -/
def Fenced (tag : Activity) (o : Op) (w : World) : Prop :=
  TearsDownReached tag o ∧ ClosesReached o w

/-! ## The programs keep to it -/

theorem fenceRule_ordinary {tag : Activity} {o : Op} (ho : o.Ordinary)
    {Q : Except Raised o.Resp → List AdmissionHandle → Prop} {hs : List AdmissionHandle}
    (hQ : ∀ r, Q r hs) : fenceRule tag o Q hs := by
  cases o with
  | admission c => cases c <;> first | exact hQ | cases ho
  | commit | subscribersOf | startWorker => cases ho
  | _ => exact hQ

/-- A program of ordinary operations keeps to the fence. -/
theorem fence_ordinary {α : Type} {tag : Activity} {p : Proc α} (hp : p.Calls Op.Ordinary)
    {Q : Except Raised α → List AdmissionHandle → Prop} {hs : List AdmissionHandle}
    (hQ : ∀ r, Q r hs) : p.wp (fenceRule tag) Q hs :=
  hp.wp (K := (· = hs)) (fun _ ho _ hs' heq hR => fenceRule_ordinary ho fun r => hR r hs' heq)
    (fun r _ heq => heq ▸ hQ r) rfl

theorem fenceRule_mono (tag : Activity) : (fenceRule tag).Mono := by
  intro o Q Q' hs hQ h
  cases o with
  | admission c =>
      cases c with
      | admitOpen | admitRecovery =>
          exact ⟨fun e => hQ _ _ (h.1 e), fun handle hk hg => hQ _ _ (h.2 handle hk hg)⟩
      | _ => exact fun r => hQ _ _ (h r)
  | commit | startWorker => exact ⟨h.1, fun r => hQ _ _ (h.2 r)⟩
  | subscribersOf k => exact fun subscribers hr => hQ _ _ (h subscribers hr)
  | _ => exact fun r => hQ _ _ (h r)

/-! ## The open keeps to it -/

/-- One ordinary step of a program. -/
theorem fence_step {α β : Type} {tag : Activity} {p : Proc α} {f : α → Proc β}
    {hs : List AdmissionHandle} (hp : p.Calls Op.Ordinary)
    (hf : ∀ a, (f a).wp (fenceRule tag) (fun _ _ => True) hs) :
    (p >>= f).wp (fenceRule tag) (fun _ _ => True) hs := by
  rw [Prog.wp_bind]
  refine fence_ordinary hp fun r => ?_
  cases r with
  | ok a => exact hf a
  | error e => trivial

/-- A guarded step of the open: the unwind of a raise is ordinary. -/
theorem guarded_step {α β : Type} {tag : Activity} {env : OpenEnv} {k : TargetKey}
    {handle : AdmissionHandle} {state : OpenState} {step : Proc α} {f : α → Proc β}
    {hs : List AdmissionHandle}
    (h : step.wp (fenceRule tag) (fun r hs' => match r with
      | .ok a => (f a).wp (fenceRule tag) (fun _ _ => True) hs'
      | .error _ => True) hs) :
    (orRollback env k handle state step >>= f).wp (fenceRule tag) (fun _ _ => True) hs := by
  rw [Prog.wp_bind, orRollback, Prog.wp_rescue]
  refine Prog.wp_mono (fenceRule_mono tag) (fun r hs' hr => ?_) h
  cases r with
  | ok a => exact hr
  | error e =>
      refine (Prog.wp_bind _ _).mpr ?_
      refine fence_ordinary (rollbackOpen_ordinary env k handle state) fun r => ?_
      cases r with
      | ok u => trivial
      | error e => trivial

/-- The commit of an open, with the handle it was admitted. -/
theorem commit_fenced {tag : Activity} (env : OpenEnv) (request : OpenRequest)
    {handle : AdmissionHandle} {session : TransportSession} (state : OpenState) (recovery : Bool)
    {hs : List AdmissionHandle} (hmem : handle ∈ hs) (hfor : OpenedFor handle session) :
    (commitOpenSession env request handle session state recovery).wp (fenceRule tag)
      (fun _ _ => True) hs := by
  rw [commitOpenSession, Prog.wp_bind, Prog.wp_perform]
  refine ⟨⟨hmem, hfor⟩, fun r => ?_⟩
  cases r with
  | error e => trivial
  | ok u =>
      refine fence_ordinary (.when fun _ => ?_) fun _ => trivial
      exact .bind (calls_ordinary (clearTombstone_plain _ _ _)) fun _ => .call trivial

/-- The opening record carries the target and the generation of the request. -/
theorem writeOpeningRecord_fenced {tag : Activity} {env : OpenEnv} {request : OpenRequest}
    {handle : AdmissionHandle} {selection : Selection} {provider : String} {token : GuardToken}
    {lease : Option Nat} {state : OpenState} {hs : List AdmissionHandle}
    {Q : Except Raised (TransportSession × OpenState) → List AdmissionHandle → Prop}
    (hok : Q (.ok (openingRecord request handle selection provider token lease,
      { state with sessionId := some handle.handleId })) hs)
    (herror : ∀ e, Q (.error e) hs) :
    (writeOpeningRecord env request handle selection provider token lease state).wp
      (fenceRule tag) Q hs := by
  simp only [writeOpeningRecord, Prog.wp_bind, Prog.wp_perform]
  intro r
  cases r with
  | error e => exact herror e
  | ok u =>
      intro r
      cases r with
      | error e => exact herror e
      | ok u => exact hok

theorem openAdmitted_fenced {tag : Activity} (env : OpenEnv) (capability : TransportCapability)
    (request : OpenRequest) (recovery : Bool) {handle : AdmissionHandle}
    {hs : List AdmissionHandle} (hmem : handle ∈ hs) (hkey : handle.targetKey = request.targetKey)
    (hgeneration : (request.generation : Int) = handle.generation) :
    (openAdmitted env capability request recovery handle).wp (fenceRule tag)
      (fun _ _ => True) hs := by
  have guarded : ∀ {α : Type} (state : OpenState) {step : Proc α}, step.Calls Op.Ordinary →
      (orRollback env request.targetKey handle state step).Calls Op.Ordinary :=
    fun state _ h => orRollback_ordinary env request.targetKey handle state h
  unfold openAdmitted
  refine fence_step (guarded _ (Prog.calls_ofExcept _)) fun channel => ?_
  refine fence_step (guarded _ (Prog.calls_ofExcept _)) fun selection => ?_
  refine fence_step (guarded _ (Prog.calls_ofExcept _)) fun _ => ?_
  refine fence_step (guarded _ (.call trivial)) fun guardToken => ?_
  refine fence_step (guarded _ (Prog.calls_ofExcept _)) fun _ => ?_
  refine fence_step (guarded _ (calls_ordinary (acquireConsole_plain _ _))) fun leaseToken => ?_
  refine fence_step (guarded _ (Prog.calls_ofExcept _)) fun _ => ?_
  refine fence_step (guarded _ (Prog.calls_ofExcept _)) fun _ => ?_
  refine guarded_step (writeOpeningRecord_fenced ?_ fun _ => trivial)
  refine fence_step (guarded _ (Prog.calls_ofExcept _)) fun _ => ?_
  refine fence_step (reportPartials_ordinary _ _ _ _ _ _) fun state => ?_
  refine fence_step (guarded _ (Prog.calls_ofExcept _)) fun attachment => ?_
  refine fence_step (.forSome fun _ _ => .call trivial) fun _ => ?_
  refine fence_step (guarded _ (Prog.calls_ofExcept _)) fun _ => ?_
  refine fence_step (guarded _ (.call trivial)) fun _ => ?_
  refine fence_step (guarded _ (Prog.calls_ofExcept _)) fun _ => ?_
  refine guarded_step (Prog.wp_mono (fenceRule_mono tag) (fun r hs' _ => ?_)
    (commit_fenced env request _ recovery hmem ⟨?_, ?_⟩))
  · cases r with
    | ok u => trivial
    | error e => trivial
  · exact hkey.symm
  · exact hgeneration

theorem openSession_fenced {tag : Activity} (env : OpenEnv) (request : OpenRequest)
    (recovery : Bool) {hs : List AdmissionHandle} :
    (openSession env request recovery).wp (fenceRule tag) (fun _ _ => True) hs := by
  refine fence_step (Prog.calls_ofExcept _) fun capability => ?_
  refine fence_step (Prog.calls_ofExcept _) fun _ => ?_
  rw [Prog.wp_bind]
  unfold admitRequest
  cases recovery with
  | false =>
      refine (Prog.wp_perform _).mpr ⟨fun _ => trivial, fun handle hkey hgeneration => ?_⟩
      exact openAdmitted_fenced env capability request _ (List.mem_cons_self ..) hkey hgeneration
  | true =>
      refine (Prog.wp_perform _).mpr ⟨fun _ => trivial, fun handle hkey hgeneration => ?_⟩
      exact openAdmitted_fenced env capability request _ (List.mem_cons_self ..) hkey hgeneration

/-! ## The emit keeps to it -/

/-- A loop that starts workers for subscribers the thread reaches. -/
theorem startWorkers_fenced {tag : Activity} {subscribers : List SessionSubscriber}
    (hreaches : ∀ s ∈ subscribers, tag.Reaches s) (worker : SessionSubscriber → Worker)
    (hworker : ∀ s, (worker s).subscriber = s)
    {Q : Except Raised Unit → List AdmissionHandle → Prop} (hQ : ∀ r hs, Q r hs)
    (hs : List AdmissionHandle) :
    (Prog.forEach subscribers fun s => call (.startWorker (worker s))).wp (fenceRule tag) Q hs := by
  refine Prog.wp_forEach (J := fun _ => True) (fenceRule_mono tag) (fun s hmem hs' _ => ?_)
    (fun hs' _ => hQ _ hs') trivial
  refine (Prog.wp_perform _).mpr ⟨?_, fun r => ?_⟩
  · rw [hworker]
    exact hreaches s hmem
  · cases r with
    | ok u => trivial
    | error e => exact hQ _ _

theorem emit_fenced {tag : Activity} (env : EmitEnv) (k : TargetKey)
    {hs : List AdmissionHandle} :
    (emit env k).wp (fenceRule tag) (fun _ _ => True) hs := by
  refine fence_step (.call trivial) fun _ => ?_
  refine (Prog.wp_bind _ _).mpr ((Prog.wp_perform _).mpr fun subscribers hreaches => ?_)
  have hrunnable : ∀ s ∈ subscribers.filter fun s => s.name ∉ env.alreadyOverdue, tag.Reaches s :=
    fun s hmem => hreaches s (List.mem_filter.mp hmem).1
  refine (Prog.wp_bind _ _).mpr (startWorkers_fenced hrunnable
    (fun s => .invalidate s env.transports (env.reaps s.name) (env.invalidateUnlink s.name)) (fun _ => rfl)
    (fun r hs' => ?_) hs)
  cases r with
  | error e => trivial
  | ok u =>
      refine (Prog.wp_bind _ _).mpr (startWorkers_fenced
        (fun s hmem => hrunnable s (List.mem_filter.mp hmem).1)
        (fun s => .forceDrop s (env.forceDropUnlink s.name)) (fun _ => rfl) (fun r hs'' => ?_) hs')
      cases r with
      | error e => trivial
      | ok u => exact fence_ordinary (p := call (.emitUnlock k)) (.call trivial) fun _ => trivial

theorem invalidateLifecycle_fenced {tag : Activity} (env : EmitEnv) (k : TargetKey) (g : Int)
    (close : Bool) {hs : List AdmissionHandle} :
    (invalidateLifecycle env k g close).wp (fenceRule tag) (fun _ _ => True) hs := by
  unfold invalidateLifecycle
  refine fence_step (.call trivial) fun stale => ?_
  exact Prog.wp_when.mpr ⟨fun _ => emit_fenced env k, fun _ => trivial⟩

/-- Every thread of the coordination layer keeps to the fence. -/
theorem activity_fenced (tag : Activity) (w : World) :
    fence.Keeps w (coordination.start tag) (fence.start tag) := by
  refine ⟨by simp [fence], ?_⟩
  change (activityBody tag).wp (fenceRule tag) (fun _ _ => True) []
  have ordinary : ∀ {p : Proc Unit}, p.Calls Op.Ordinary →
      p.wp (fenceRule tag) (fun _ _ => True) [] := fun hp => fence_ordinary hp fun _ => trivial
  cases tag with
  | openSession env request recovery =>
      exact (Prog.wp_void _).mpr (openSession_fenced env request recovery)
  | closeSession env sid force => exact ordinary (closeSession_ordinary env sid force)
  | forceRelease env sid => exact ordinary (forceRelease_ordinary env sid)
  | invalidateLifecycle env k g close =>
      exact invalidateLifecycle_fenced env k g close
  | worker w => exact ordinary (worker_ordinary w)
  | runTests | introspect | halt | resume | injectBreak =>
      refine ordinary ((activity_ofExecution ?_).mono fun _ ho => ho.plain.ordinary)
      trivial
  | admission c =>
      refine (Prog.wp_void _).mpr ((Prog.wp_perform _).mpr ?_)
      cases c with
      | admitOpen | admitRecovery => exact ⟨fun _ => trivial, fun _ _ _ => trivial⟩
      | _ => exact fun _ => trivial

/-! ## The discipline is sound -/

theorem fence_sound : Sound coordination fence ReadsInTime where
  inv := by
    intro tag o w hs Q h
    refine h.inv.exec o fun handle session state dispatcher subscribe heq => ?_
    subst heq
    obtain ⟨⟨hmem, hfor⟩, _⟩ := h.rule
    exact ⟨h.knows handle hmem, hfor⟩
  frame := by
    intro tag o w hs Q h tag' hs' hknows _ handle hmem
    exact (w.exec_evolves o).issued.subset (hknows handle hmem)
  learn := by
    intro tag o w hs Q h
    have known : ∀ handle ∈ hs, handle ∈ (w.exec o).2.admission.issued := fun handle hmem =>
      (w.exec_evolves o).issued.subset (h.knows handle hmem)
    have learned : (∀ h ∈ hs, h ∈ w.admission.issued) →
        ∀ {handle}, ∀ h ∈ handle :: hs, h ∈ (w.admission.registered handle).issued := by
      intro hknows handle h hmem
      rw [AdmissionService.registered_issued, List.mem_append, List.mem_singleton]
      cases List.mem_cons.mp hmem with
      | inl heq => exact .inr heq
      | inr hmem => exact .inl (hknows h hmem)
    have hands : ∀ {w' : World} {hs' : List AdmissionHandle},
        fence.Hands w w' hs hs' ∧ fence.StaysApart w hs hs' :=
      ⟨fun x => x.elim, fun _ _ _ _ => trivial⟩
    have hrule := h.rule
    cases o with
    | admission c =>
        cases c with
        | admitOpen k request now =>
            simp only [coordination, World.exec, World.withAdmission, AdmissionService.after]
            rcases w.admission.perform_admitOpen k request now with
              ⟨e, heq⟩ | ⟨handle, heq, hadmits, _, _, hgeneration⟩
            · rw [heq]
              exact ⟨hs, h.knows, hrule.1 _, hands⟩
            · rw [heq]
              exact ⟨handle :: hs, learned h.knows, hrule.2 handle hadmits.key hgeneration, hands⟩
        | admitRecovery k request now =>
            simp only [coordination, World.exec, World.withAdmission, AdmissionService.after]
            rcases w.admission.perform_admitRecovery k request now with
              ⟨e, heq⟩ | ⟨handle, heq, hadmits, _, _, hgeneration⟩
            · rw [heq]
              exact ⟨hs, h.knows, hrule.1 _, hands⟩
            · rw [heq]
              exact ⟨handle :: hs, learned h.knows, hrule.2 handle hadmits.key hgeneration, hands⟩
        | _ => exact ⟨hs, known, hrule _, hands⟩
    | commit | startWorker => exact ⟨hs, known, hrule.2 _, hands⟩
    | subscribersOf k =>
        refine ⟨hs, known, hrule _ fun s hmem g hg => ?_, hands⟩
        exact (h.inv.subscribers k s hmem).le (h.cond g hg)
    | _ => exact ⟨hs, known, hrule _, hands⟩
  spawn := by
    intro tag o w hs Q h tag' htag'
    exact activity_fenced tag' _
  fresh := fun _ _ _ => ⟨fun _ _ => trivial, trivial, fun _ hmem => absurd hmem List.not_mem_nil⟩
  symm := fun _ _ _ => trivial

/-! ## The fence of an invalidation -/

/-- The server starts with nothing admitted and nobody subscribed. -/
theorem covered_restart (w : World) : Covered w.restart where
  valid := .fresh _ _
  published := by simp [World.restart, AdmissionService.fresh, AdmissionService.Published]
  subscribers := by simp [World.restart]

/-- An invalidation for a generation the target left behind closes nothing. -/
theorem lifecycleFence_stale {w : World} (hv : w.admission.Valid) {k : TargetKey} {g : Int}
    (close : Bool) (hstale : ∃ snapshot ∈ w.admission.store k, g < snapshot.generation) :
    (w.exec (.lifecycleFence k g close)).2.admission = w.admission := by
  rw [World.exec_admission]
  cases close with
  | false => rfl
  | true => exact hv.close_stale hstale

/-- In every run in which each invalidation reads the subscribers of a target that
has not moved past its generation, no invalidation tears down a newer session,
and none closes a newer target. -/
theorem generation_fence (w : World) (tags : List Activity) (schedule : List Nat)
    (hread : coordination.Along ReadsInTime schedule (coordination.pool w.restart tags)) :
    coordination.Along Fenced schedule (coordination.pool w.restart tags) := by
  refine fence_sound.along (fun {tag o w hs Q} h => ?_)
    (Discipline.sat_pool coordination (covered_restart w) (fun x => x.elim)
      (fun tag _ => activity_fenced tag _) fun _ _ _ _ => trivial) hread
  have hrule := h.rule
  cases o with
  | startWorker worker => exact ⟨hrule.1, trivial⟩
  | lifecycleFence k g close => exact ⟨trivial, lifecycleFence_stale h.inv.valid close⟩
  | _ => exact ⟨trivial, trivial⟩

/-- Boot of generation 1, an open on it, an invalidation of it. -/
theorem generation_fence_in_time :
    coordination.Along Fenced [0, 1, 1, 1, 1, 1, 1, 2, 2, 2, 2, 3, 3, 3, 2]
      (coordination.pool World.empty.restart
        [.admission (.publishSnapshot (localTarget "run") (bootReadySnapshot 1 gdbstubEndpoint true)),
          .openSession .calm (debugOpenRequest "run" gdbstubEndpoint 1 (bootPlatform true)) false,
          .invalidateLifecycle .calm (localTarget "run") 1 true]) :=
  generation_fence World.empty _ _ (by decide +kernel)

/-- Boot of generation 1, an invalidation of it, boot of generation 2, a reopen,
and an open at generation 2. -/
def overtaken : List Activity :=
  [.admission (.publishSnapshot (localTarget "run") (bootReadySnapshot 1 gdbstubEndpoint true)),
    .invalidateLifecycle .calm (localTarget "run") 1 true,
    .admission (.publishSnapshot (localTarget "run") (bootReadySnapshot 2 gdbstubEndpoint true)),
    .admission (.reopen (localTarget "run")),
    .openSession .calm (debugOpenRequest "run" gdbstubEndpoint 2 (bootPlatform true)) false]

/-- The invalidation has closed admission when the later steps overtake it. -/
theorem generation_fence_overtaken :
    ¬ coordination.Along Fenced [0, 1, 2, 3, 4, 4, 4, 4, 4, 4, 1, 1, 1]
      (coordination.pool World.empty.restart overtaken) := by
  intro h
  have hdown := h.mono (D := fun tag o _ => TearsDownReached tag o) fun _ _ _ hf => hf.1
  revert hdown
  decide +kernel

end Kdive

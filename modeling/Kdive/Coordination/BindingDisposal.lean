import Kdive.Coordination.Custody

/-!
# Every binding has somebody to dispose of it

A teardown swallows a refused disposal.  Then nobody answers for the binding any
more, and a reopen of its target is refused for good.  `DisposesInTime` is the
condition under which no disposal of a binding in the table is refused.  Every
program of the coordination layer keeps to `custody` under it, so at the end of
all threads every binding of an open has its entry in the handle table
(`bindings_disposable`).
-/

namespace Kdive

open Checked Program Interleaving

theorem custodyRule_mono (tag : Activity) : (custodyRule tag).Mono := by
  intro o Q Q' g hQ h
  cases o with
  | admission c =>
      cases c with
      | admitOpen | admitRecovery => exact ⟨fun e => hQ _ _ (h.1 e), fun x => hQ _ _ (h.2 x)⟩
      | promote => exact h
      | complete | rollback | abandon =>
          exact h.imp (fun hs => ⟨hs.1, fun r => hQ _ _ (hs.2 r)⟩) fun hn r => hQ _ _ (hn r)
      | confirmReaped =>
          exact h.imp (fun hs => ⟨hs.1, fun e => hQ _ _ (hs.2.1 e), hQ _ _ hs.2.2⟩)
            fun hn r => hQ _ _ (hn r)
      | _ => exact fun r hr => hQ _ _ (h r hr)
  | commit => exact ⟨h.1, fun e => hQ _ _ (h.2.1 e), hQ _ _ h.2.2⟩
  | popHandle => exact ⟨hQ _ _ h.1, fun x hx => hQ _ _ (h.2 x hx)⟩
  | dropHandle => exact h.imp (fun hs => ⟨hs.1, hQ _ _ hs.2⟩) (hQ _ _)
  | subscribersOf => exact fun subscribers facts hf => hQ _ _ (h subscribers facts hf)
  | startWorker => exact ⟨h.1, fun r => hQ _ _ (h.2 r)⟩
  | _ => exact fun r hr => hQ _ _ (h r hr)

/-! ## Plain programs pass -/

section Programs

variable {tag : Activity} {g : Custody} {α β : Type}

theorem custody_plain {p : Proc α} {Q : Except Raised α → Custody → Prop} (hp : p.Calls Op.Plain)
    (hQ : ∀ r, Q r g) : p.wp (custodyRule tag) Q g := by
  refine hp.wp (K := fun g' => g' = g) (fun o ho R g' hg hR => ?_) (fun r g' hg => ?_) rfl
  · exact (custodyRule_plain ho).mpr fun r _ => hR r g' hg
  · exact hg ▸ hQ r

theorem custody_step {p : Proc α} {f : α → Proc β} {Q : Except Raised β → Custody → Prop}
    (hp : p.Calls Op.Plain) (hf : ∀ a, (f a).wp (custodyRule tag) Q g)
    (herror : ∀ e, Q (.error e) g) : (p >>= f).wp (custodyRule tag) Q g := by
  refine (Prog.wp_bind _ _).mpr (custody_plain hp fun r => ?_)
  cases r with
  | ok a => exact hf a
  | error e => exact herror e

/-- A plain operation that cannot fail answers. -/
theorem custody_total {o : Op} (hplain : o.Plain) (htotal : o.Total) {f : o.Resp → Proc β}
    {Q : Except Raised β → Custody → Prop} (hf : ∀ a, (f a).wp (custodyRule tag) Q g) :
    (call o >>= f).wp (custodyRule tag) Q g := by
  refine (Prog.wp_bind _ _).mpr ((Prog.wp_perform _).mpr ((custodyRule_plain hplain).mpr ?_))
  intro r hr
  obtain ⟨a, rfl⟩ := hr htotal
  exact hf a

/-- A release at the end of an unwind does not fail. -/
theorem custody_release {ι : Type} {o : ι → Op} (hplain : ∀ i, (o i).Plain)
    (htotal : ∀ i, (o i).Total) (item : Option ι) {f : Unit → Proc β}
    {Q : Except Raised β → Custody → Prop} (hf : (f ()).wp (custodyRule tag) Q g) :
    (Prog.forSome item (fun i => Prog.void (call (o i))) >>= f).wp (custodyRule tag) Q g := by
  cases item with
  | none => exact hf
  | some i =>
      refine (Prog.wp_bind _ _).mpr ((Prog.wp_void _).mpr ((Prog.wp_perform _).mpr ?_))
      refine (custodyRule_plain (hplain i)).mpr fun r hr => ?_
      obtain ⟨a, rfl⟩ := hr (htotal i)
      exact hf

theorem custody_report {backend : Option BackendIdentity} {f : Unit → Proc β}
    {Q : Except Raised β → Custody → Prop} (hf : (f ()).wp (custodyRule tag) Q g) :
    (Prog.forSome backend (fun b => call (.reportBackend b true)) >>= f).wp (custodyRule tag) Q g := by
  cases backend with
  | none => exact hf
  | some b => exact custody_total (o := .reportBackend b true) trivial trivial fun _ => hf

theorem custody_reap {state : OpenState} {stops : Bool} {f : Unit → Proc β}
    {Q : Except Raised β → Custody → Prop} (hf : (f ()).wp (custodyRule tag) Q g) :
    (bestEffortReap state stops >>= f).wp (custodyRule tag) Q g := by
  unfold bestEffortReap
  cases state.backend with
  | none => exact hf
  | some b => exact custody_total (o := .reapBackend b stops) trivial trivial fun _ => hf

/-! ## Teardowns -/

/-- A thread that reaps a handle it was issued leaves it gone. -/
theorem reapAndAbandon_gone {h : AdmissionHandle} (hfact : Fact.issued h ∈ g.facts)
    {Q : Except Raised Unit → Custody → Prop}
    (hQ : ∀ r g', Fact.gone h ∈ g'.facts → (g'.owes = g.owes.filter fun id => id ≠ h.handleId) →
      Q r g') : (reapAndAbandon h).wp (custodyRule tag) Q g := by
  refine (Prog.wp_bind _ _).mpr ((Prog.wp_perform _).mpr (.inl ⟨hfact, fun e => ?_, ?_⟩))
  · exact hQ _ _ (List.mem_cons_self ..) rfl
  · refine (Prog.wp_perform _).mpr (.inl ⟨List.mem_cons_self .., fun r => ?_⟩)
    exact hQ _ _ (List.mem_cons_self ..) rfl

/-- A thread that takes an entry out of the handle table answers for it. -/
theorem popHandle_owed {sid : Nat} (howes : g.owes = []) {f : Option AdmissionHandle → Proc β}
    {Q : Except Raised β → Custody → Prop} (hnone : (f none).wp (custodyRule tag) Q g)
    (hsome : ∀ h g', .started h ∈ g'.facts → .issued h ∈ g'.facts → g'.owes = [h.handleId] →
      (f (some h)).wp (custodyRule tag) Q g') :
    (call (.popHandle sid) >>= f).wp (custodyRule tag) Q g := by
  refine (Prog.wp_bind _ _).mpr ((Prog.wp_perform _).mpr ⟨hnone, fun h hid => ?_⟩)
  refine hsome h _ (List.mem_cons_of_mem _ (List.mem_cons_self ..)) (List.mem_cons_self ..) ?_
  rw [Custody.owe, hid]
  exact congrArg _ howes

/-- A thread that answers for one handle answers for none once it is gone. -/
theorem settled_owes {h : AdmissionHandle} (howes : g.owes = [h.handleId]) :
    (g.owes.filter fun id => id ≠ h.handleId) = [] := by
  simp [howes]

theorem cleanup_settles {errors : List Raised} {step : Proc Unit}
    {Q : Except Raised (List Raised) → Custody → Prop}
    (hstep : step.wp (custodyRule tag) (fun _ g' => ∀ r, Q r g') g) :
    (cleanup errors step).wp (custodyRule tag) Q g := by
  refine (Prog.wp_bind _ _).mpr ((Prog.wp_attempt _).mpr ?_)
  refine Prog.wp_mono (custodyRule_mono tag) (fun r g' hQ => ?_) hstep
  cases r with
  | ok u => exact hQ _
  | error e =>
      dsimp only
      split
      · exact hQ _
      · exact hQ _

theorem closeSession_settles (env : CloseEnv) (sid : Nat) (force : Bool) (howes : g.owes = []) :
    (closeSession env sid force).wp (custodyRule tag) (fun _ g' => g'.owes = []) g := by
  have cleaned : ∀ {errors} {step : Proc Unit}, step.Calls Op.Plain →
      (cleanup errors step).Calls Op.Plain := fun h => cleanup_calls _ h
  refine custody_step (recordBySessionId_plain sid) (fun found => ?_) fun _ => howes
  cases found with
  | none => exact howes
  | some record =>
      refine custody_step (Prog.calls_ofExcept _) (fun _ => ?_) fun _ => howes
      refine custody_step (.call trivial) (fun _ => ?_) fun _ => howes
      refine custody_step (.when fun _ => .call trivial) (fun _ => ?_) fun _ => howes
      refine custody_step (Prog.calls_ofExcept _) (fun closeError => ?_) fun _ => howes
      refine custody_step (cleaned (releaseLease_plain _ _)) (fun _ => ?_) fun _ => howes
      refine custody_step (.call trivial) (fun token => ?_) fun _ => howes
      refine custody_step (cleaned (releaseGuard_plain _ _)) (fun errors => ?_) fun _ => howes
      -- the rest of the close once the binding is disposed of
      have finish : ∀ errors {g' : Custody}, g'.owes = [] → (do
          let errors ← cleanup errors
            (Prog.when (record.executionState ≠ .executing ∧ force = false)
              (markRecovery record.targetKey record.generation "closed_while_halted"
                env.tombstoneWrite))
          let errors ← cleanup errors (deleteRecord record.targetKey record.sessionId env.unlink)
          let errors ← cleanup errors
            (Prog.when env.dispatcher (call (.unsubscribe record.targetKey sid)))
          .ofExcept (raiseCloseFailures closeError errors) : Proc Unit).wp (custodyRule tag)
            (fun _ g' => g'.owes = []) g' := by
        intro errors g' howes'
        refine custody_step (cleaned (.when fun _ => markRecovery_plain _ _ _ _)) (fun _ => ?_)
          fun _ => howes'
        refine custody_step (cleaned (deleteRecord_plain _ _ _)) (fun _ => ?_) fun _ => howes'
        refine custody_step (cleaned (.when fun _ => .call trivial)) (fun _ => ?_) fun _ => howes'
        exact custody_plain (Prog.calls_ofExcept _) fun _ => howes'
      refine popHandle_owed howes ?_ fun h g' hstarted _ howes' => ?_
      · refine custody_step (cleanup_calls _ (.forSome fun _ hmem => by cases hmem))
          (fun errors => finish errors howes) fun _ => howes
      · refine (Prog.wp_bind _ _).mpr (cleanup_settles ?_)
        refine (Prog.wp_perform _).mpr (.inl ⟨hstarted, fun _ r => ?_⟩)
        cases r with
        | ok errors => exact finish errors (settled_owes howes')
        | error e => exact settled_owes howes'

theorem forceRelease_settles (env : CloseEnv) (sid : Nat) (hforces : tag.Forces)
    (howes : g.owes = []) :
    (forceRelease env sid).wp (custodyRule tag) (fun _ g' => g'.owes = []) g := by
  refine custody_step (recordBySessionId_plain sid) (fun found => ?_) fun _ => howes
  cases found with
  | none =>
      refine custody_step (.call trivial) (fun token => ?_) fun _ => howes
      exact (Prog.wp_perform _).mpr (.inl ⟨.inr hforces, howes⟩)
  | some record =>
      refine custody_step (releaseLease_plain _ _) (fun _ => ?_) fun _ => howes
      refine custody_step (.call trivial) (fun token => ?_) fun _ => howes
      refine custody_step (releaseGuard_plain _ _) (fun _ => ?_) fun _ => howes
      have finish : ∀ {g' : Custody}, g'.owes = [] → (do
          deleteRecord record.targetKey record.sessionId env.unlink
          Prog.when env.dispatcher (call (.unsubscribe record.targetKey sid)) : Proc Unit).wp
            (custodyRule tag) (fun _ g' => g'.owes = []) g' := by
        intro g' howes'
        refine custody_step (deleteRecord_plain _ _ _) (fun _ => ?_) fun _ => howes'
        exact custody_plain (.when fun _ => .call trivial) fun _ => howes'
      refine popHandle_owed howes ?_ fun h g' _ hissued howes' => ?_
      · exact finish howes
      · refine (Prog.wp_bind _ _).mpr ((Prog.wp_suppress _).mpr ?_)
        refine reapAndAbandon_gone hissued fun r g'' _ hsettled => ?_
        exact finish (hsettled.trans (settled_owes howes'))

/-- A subscriber whose handle was issued is torn down with nothing left over. -/
theorem forceDrop_settles {s : SessionSubscriber} {h : AdmissionHandle} (hfor : s.For h)
    (unlink : Fault) (hissued : Fact.issued h ∈ g.facts) (howes : g.owes = []) :
    (s.forceDrop unlink).wp (custodyRule tag) (fun _ g' => g'.owes = []) g := by
  refine custody_step (releaseLease_plain _ _) (fun _ => ?_) fun _ => howes
  refine custody_step (releaseGuard_plain _ _) (fun _ => ?_) fun _ => howes
  refine custody_step (.call trivial) (fun token => ?_) fun _ => howes
  rw [hfor.1]
  refine (Prog.wp_bind _ _).mpr ((Prog.wp_suppress _).mpr ?_)
  refine reapAndAbandon_gone hissued fun r g' hgone hsettled => ?_
  have howes' : g'.owes = [] := by simp [hsettled, howes]
  refine (Prog.wp_bind _ _).mpr ((Prog.wp_perform _).mpr (.inl ⟨.inl ⟨h, hgone, hfor.2⟩, ?_⟩))
  refine custody_step (.call trivial) (fun killed => ?_) fun _ => howes'
  refine custody_step (.when fun _ => deleteRecord_plain _ _ _) (fun _ => ?_) fun _ => howes'
  exact custody_plain (p := call (.unsubscribe _ _)) (.call trivial) fun _ => howes'

theorem worker_settles (worker : Worker) {h : AdmissionHandle} (hfor : worker.subscriber.For h)
    (hissued : Fact.issued h ∈ g.facts) (howes : g.owes = []) :
    worker.run.wp (custodyRule tag) (fun _ g' => g'.owes = []) g := by
  cases worker with
  | forceDrop s unlink => exact forceDrop_settles hfor unlink hissued howes
  | invalidate s transports reaps unlink =>
      refine custody_step (Prog.calls_ofExcept _) (fun _ => ?_) fun _ => howes
      refine custody_step (.forSome fun _ _ => .call trivial) (fun _ => ?_) fun _ => howes
      refine custody_step (.call trivial) (fun _ => ?_) fun _ => howes
      exact forceDrop_settles hfor unlink hissued howes

/-! ## The open -/

/-- A thread that opens a session answers at most for the handle it was admitted. -/
structure Custody.Opening (h : AdmissionHandle) (g : Custody) : Prop where
  issued : Fact.issued h ∈ g.facts
  owes : ∀ id ∈ g.owes, id = h.handleId

theorem Custody.Opening.settle {h : AdmissionHandle} (hg : g.Opening h) :
    (g.settle h).owes = [] := by
  refine List.filter_eq_nil_iff.mpr fun id hmem => ?_
  simp [hg.owes id hmem]

theorem Custody.Opening.release {h : AdmissionHandle} (hg : g.Opening h) :
    (g.release h.handleId).Opening h ∧ (g.release h.handleId).owes = [] := by
  have howes : (g.release h.handleId).owes = [] := by
    refine List.filter_eq_nil_iff.mpr fun id hmem => ?_
    simp [hg.owes id hmem]
  exact ⟨⟨hg.issued, by simp [howes]⟩, howes⟩

theorem Custody.Opening.owe {h : AdmissionHandle} (hg : g.Opening h) :
    (g.owe h.handleId).Opening h := by
  refine ⟨hg.issued, fun id hmem => ?_⟩
  cases List.mem_cons.mp hmem with
  | inl heq => exact heq
  | inr hold => exact hg.owes id hold

/-- The session id an open holds is its handle's. -/
def OpenState.Of (state : OpenState) (h : AdmissionHandle) : Prop :=
  ∀ sid ∈ state.sessionId, sid = h.handleId

/-- An unwind disposes of the binding. -/
theorem rollbackOpen_settles (env : OpenEnv) (k : TargetKey) {h : AdmissionHandle}
    {state : OpenState} (hstate : state.Of h) (hg : g.Opening h) :
    (rollbackOpen env k h state).wp (custodyRule tag)
      (fun r g' => r = .ok () ∧ g'.owes = []) g := by
  have finish : ∀ {g' : Custody}, g'.Opening h → (do
      releaseLease k state.leaseToken
      releaseGuard k state.guardToken
      Prog.suppress (call (.admission (.rollback h))) : Proc Unit).wp (custodyRule tag)
        (fun r g' => r = .ok () ∧ g'.owes = []) g' := by
    intro g' hg'
    refine custody_release (o := .leaseRelease k) (fun _ => trivial) (fun _ => trivial) _ ?_
    refine custody_release (o := .guardRelease k) (fun _ => trivial) (fun _ => trivial) _ ?_
    refine (Prog.wp_suppress _).mpr ((Prog.wp_perform _).mpr (.inl ⟨hg'.issued, fun r => ?_⟩))
    exact ⟨rfl, hg'.settle⟩
  refine custody_reap ((Prog.wp_bind _ _).mpr ?_)
  cases hsid : state.sessionId with
  | none => exact finish hg
  | some sid =>
      obtain rfl := hstate sid hsid
      refine custody_total (o := .popToken _) trivial trivial fun token => ?_
      refine (Prog.wp_bind _ _).mpr ((Prog.wp_perform _).mpr (.inr ?_))
      refine (Prog.wp_bind _ _).mpr ((Prog.wp_suppress _).mpr ?_)
      refine custody_plain (deleteRecord_plain _ _ _) fun _ => ?_
      refine Prog.wp_when.mpr ⟨fun _ => (Prog.wp_perform _).mpr ?_, fun _ => finish hg.owe⟩
      refine (custodyRule_plain (o := .unsubscribe _ _) trivial).mpr fun r hr => ?_
      obtain ⟨a, rfl⟩ := hr trivial
      exact finish hg.owe

/-- A step of the `try` block either goes on or unwinds. -/
theorem guarded_custody {env : OpenEnv} {k : TargetKey} {h : AdmissionHandle} {state : OpenState}
    {step : Proc α} {Q : Except Raised α → Custody → Prop} (hstate : state.Of h)
    (herror : ∀ e g', g'.owes = [] → Q (.error e) g')
    (hstep : step.wp (custodyRule tag) (fun r g' => match r with
      | .ok a => Q (.ok a) g'
      | .error _ => g'.Opening h) g) :
    (orRollback env k h state step).wp (custodyRule tag) Q g := by
  refine (Prog.wp_rescue _ _).mpr (Prog.wp_mono (custodyRule_mono tag) (fun r g' hr => ?_) hstep)
  cases r with
  | ok a => exact hr
  | error e =>
      refine (Prog.wp_bind _ _).mpr ?_
      refine Prog.wp_mono (custodyRule_mono tag) (fun r g'' hr' => ?_)
        (rollbackOpen_settles env k hstate hr)
      rw [hr'.1]
      exact herror e g'' hr'.2

/-- A plain step of the `try` block. -/
theorem guarded_plain {env : OpenEnv} {k : TargetKey} {h : AdmissionHandle} {state : OpenState}
    {step : Proc α} {f : α → Proc β} {Q : Except Raised β → Custody → Prop}
    (hstep : step.Calls Op.Plain) (hstate : state.Of h) (hg : g.Opening h)
    (herror : ∀ e g', g'.owes = [] → Q (.error e) g')
    (hf : ∀ a, (f a).wp (custodyRule tag) Q g) :
    (orRollback env k h state step >>= f).wp (custodyRule tag) Q g := by
  refine (Prog.wp_bind _ _).mpr (guarded_custody hstate (fun e g' howes => herror e g' howes) ?_)
  refine custody_plain hstep fun r => ?_
  cases r with
  | ok a => exact hf a
  | error e => exact hg

/-- Reported identities leave the session id of the open alone. -/
theorem reportPartials_custody {env : OpenEnv} {k : TargetKey} {h : AdmissionHandle}
    {record : TransportSession} {Q : Except Raised OpenState → Custody → Prop}
    (hg : g.Opening h) (herror : ∀ e g', g'.owes = [] → Q (.error e) g')
    (hok : ∀ state : OpenState, state.Of h → Q (.ok state) g)
    (partials : List AttachStep) {state : OpenState} (hstate : state.Of h) :
    (reportPartials (orRollback env k h) record partials state).wp (custodyRule tag) Q g := by
  induction partials generalizing state with
  | nil => exact hok state hstate
  | cons reported rest ih =>
      cases reported with
      | event e => exact custody_total (o := .attachEvent _ e) trivial trivial fun _ => ih hstate
      | report backend write cleanup =>
          cases backend with
          | none => exact ih hstate
          | some backend =>
              exact guarded_plain (writeBackendPartial_calls (fun _ _ => trivial) (fun _ _ => trivial)
                record backend write cleanup trivial) hstate hg herror fun _ => ih hstate

/-- The opening record carries the session id of the open. -/
theorem writeOpeningRecord_custody {env : OpenEnv} {request : OpenRequest} {h : AdmissionHandle}
    {selection : Selection} {provider : String} {token : GuardToken} {lease : Option Nat}
    {state : OpenState} {Q : Except Raised (TransportSession × OpenState) → Custody → Prop}
    (hok : Q (.ok (openingRecord request h selection provider token lease,
      { state with sessionId := some h.handleId })) g)
    (herror : ∀ e, Q (.error e) g) :
    (writeOpeningRecord env request h selection provider token lease state).wp
      (custodyRule tag) Q g := by
  refine custody_step (.call trivial) (fun _ => ?_) herror
  refine custody_step (.call trivial) (fun _ => ?_) herror
  exact hok

/-- A commit that goes through hands the binding over to the handle table. -/
theorem commitOpenSession_custody (env : OpenEnv) (request : OpenRequest) {h : AdmissionHandle}
    {session : TransportSession} (state : OpenState) (recovery : Bool)
    (hid : session.sessionId = h.handleId) (hg : g.Opening h)
    {Q : Except Raised Unit → Custody → Prop} (herror : ∀ e g', g'.Opening h → Q (.error e) g')
    (hok : ∀ g', g'.owes = [] → Q (.ok ()) g') :
    (commitOpenSession env request h session state recovery).wp (custodyRule tag) Q g := by
  refine (Prog.wp_bind _ _).mpr ((Prog.wp_perform _).mpr ⟨⟨hg.issued, hid⟩, fun e => ?_, ?_⟩)
  · exact herror e g hg
  · refine custody_plain (.when fun _ => ?_) fun r => ?_
    · exact .bind (clearTombstone_plain _ _ _) fun _ => .call trivial
    · cases r with
      | ok u => exact hok _ hg.release.2
      | error e => exact herror e _ hg.release.1

theorem openAdmitted_settles (env : OpenEnv) (capability : TransportCapability)
    (request : OpenRequest) (recovery : Bool) {h : AdmissionHandle} (hg : g.Opening h) :
    (openAdmitted env capability request recovery h).wp (custodyRule tag)
      (fun _ g' => g'.owes = []) g := by
  have herror : ∀ (_ : Raised) (g' : Custody), g'.owes = [] → g'.owes = [] := fun _ _ howes => howes
  have empty : ∀ {state : OpenState}, state.sessionId = none → state.Of h := by
    intro state hnone sid hsid
    rw [hnone] at hsid
    cases hsid
  unfold openAdmitted
  refine guarded_plain (Prog.calls_ofExcept _) (empty rfl) hg herror fun channel => ?_
  refine guarded_plain (Prog.calls_ofExcept _) (empty rfl) hg herror fun selection => ?_
  refine guarded_plain (Prog.calls_ofExcept _) (empty rfl) hg herror fun _ => ?_
  refine guarded_plain (.call trivial) (empty rfl) hg herror fun guardToken => ?_
  refine guarded_plain (Prog.calls_ofExcept _) (empty rfl) hg herror fun _ => ?_
  refine guarded_plain (acquireConsole_plain _ _) (empty rfl) hg herror fun leaseToken => ?_
  refine guarded_plain (Prog.calls_ofExcept _) (empty rfl) hg herror fun _ => ?_
  refine guarded_plain (Prog.calls_ofExcept _) (empty rfl) hg herror fun _ => ?_
  refine (Prog.wp_bind _ _).mpr (guarded_custody (empty rfl) herror ?_)
  refine writeOpeningRecord_custody ?_ fun _ => hg
  have published : ∀ {state : OpenState}, state.sessionId = some h.handleId → state.Of h := by
    intro state hsome sid hsid
    rw [hsome] at hsid
    exact (Option.some.inj hsid).symm
  refine guarded_plain (Prog.calls_ofExcept _) (published rfl) hg herror fun _ => ?_
  refine (Prog.wp_bind _ _).mpr (reportPartials_custody hg herror (fun state hstate => ?_) _
    (published rfl))
  refine guarded_plain (Prog.calls_ofExcept _) hstate hg herror fun attachment => ?_
  refine custody_report ?_
  have attached : (attachment.backend.elim state state.withBackend).Of h := by
    cases attachment.backend with
    | none => exact hstate
    | some backend => exact hstate
  refine guarded_plain (Prog.calls_ofExcept _) attached hg herror fun _ => ?_
  refine guarded_plain (.call trivial) attached hg herror fun _ => ?_
  refine guarded_plain (Prog.calls_ofExcept _) attached hg herror fun _ => ?_
  refine (Prog.wp_bind _ _).mpr (guarded_custody attached herror ?_)
  exact commitOpenSession_custody env request _ recovery rfl hg (fun _ _ hopening => hopening)
    fun _ howes => howes

theorem openSession_settles (env : OpenEnv) (request : OpenRequest) (recovery : Bool)
    (howes : g.owes = []) :
    (openSession env request recovery).wp (custodyRule tag) (fun _ g' => g'.owes = []) g := by
  refine custody_step (Prog.calls_ofExcept _) (fun capability => ?_) fun _ => howes
  refine custody_step (Prog.calls_ofExcept _) (fun _ => ?_) fun _ => howes
  have admitted : ∀ h : AdmissionHandle, ((g.learn (.issued h)).owe h.handleId).Opening h := by
    intro h
    refine ⟨List.mem_cons_self .., fun id hmem => ?_⟩
    simpa [Custody.owe, Custody.learn, howes] using hmem
  rw [Prog.wp_bind]
  unfold admitRequest
  cases recovery with
  | false =>
      refine (Prog.wp_perform _).mpr ⟨fun _ => howes, fun h => ?_⟩
      exact openAdmitted_settles env capability request _ (admitted h)
  | true =>
      refine (Prog.wp_perform _).mpr ⟨fun _ => howes, fun h => ?_⟩
      exact openAdmitted_settles env capability request _ (admitted h)

/-! ## The emit -/

/-- A loop that starts workers for subscribers whose handles were issued. -/
theorem startWorkers_custody {subscribers : List SessionSubscriber}
    (hissued : ∀ s ∈ subscribers, ∃ h, s.For h ∧ Fact.issued h ∈ g.facts)
    (worker : SessionSubscriber → Worker) (hworker : ∀ s, (worker s).subscriber = s)
    {Q : Except Raised Unit → Custody → Prop} (hQ : ∀ r, Q r g) :
    (Prog.forEach subscribers fun s => call (.startWorker (worker s))).wp (custodyRule tag) Q g := by
  refine Prog.wp_forEach (J := fun g' => g' = g) (custodyRule_mono tag) (fun s hmem g' hg => ?_)
    (fun g' hg => hg ▸ hQ _) rfl
  subst hg
  refine (Prog.wp_perform _).mpr ⟨?_, fun r => ?_⟩
  · rw [hworker]
    exact hissued s hmem
  · cases r with
    | ok u => exact rfl
    | error e => exact hQ _

theorem emit_settles (env : EmitEnv) (k : TargetKey) (howes : g.owes = []) :
    (emit env k).wp (custodyRule tag) (fun _ g' => g'.owes = []) g := by
  refine custody_step (.call trivial) (fun _ => ?_) fun _ => howes
  refine (Prog.wp_bind _ _).mpr ((Prog.wp_perform _).mpr fun subscribers facts hissued => ?_)
  have issued : ∀ s ∈ subscribers.filter fun s => s.name ∉ env.alreadyOverdue,
      ∃ h, s.For h ∧ Fact.issued h ∈ facts ++ g.facts := by
    intro s hmem
    obtain ⟨h, hfor, hfact⟩ := hissued s (List.mem_filter.mp hmem).1
    exact ⟨h, hfor, List.mem_append_left _ hfact⟩
  refine (Prog.wp_bind _ _).mpr (startWorkers_custody issued
    (fun s => .invalidate s env.transports (env.reaps s.name) (env.invalidateUnlink s.name)) (fun _ => rfl)
    fun r => ?_)
  cases r with
  | error e => exact howes
  | ok u =>
      refine (Prog.wp_bind _ _).mpr (startWorkers_custody
        (fun s hmem => issued s (List.mem_filter.mp hmem).1)
        (fun s => .forceDrop s (env.forceDropUnlink s.name)) (fun _ => rfl) fun r => ?_)
      cases r with
      | error e => exact howes
      | ok u => exact custody_plain (p := call (.emitUnlock k)) (.call trivial) fun _ => howes

theorem invalidateLifecycle_settles (env : EmitEnv) (k : TargetKey) (generation : Int)
    (close : Bool) (howes : g.owes = []) :
    (invalidateLifecycle env k generation close).wp (custodyRule tag)
      (fun _ g' => g'.owes = []) g := by
  refine custody_step (.call trivial) (fun stale => ?_) fun _ => howes
  exact Prog.wp_when.mpr ⟨fun _ => emit_settles env k howes, fun _ => howes⟩

end Programs

/-! ## The threads -/

/-- What a server starts a thread for.  Workers are started by an emit, and only an
open calls the admission and the promotion of an open. -/
def Activity.Entry : Activity → Prop
  | .worker _ | .admission (.promote _) | .admission (.admitOpen ..)
  | .admission (.admitRecovery ..) => False
  | _ => True

/-- Every entry point answers for nothing at its end. -/
theorem activity_settles {tag : Activity} (hentry : tag.Entry) :
    (activityBody tag).wp (custodyRule tag) (fun _ g' => g'.owes = []) {} := by
  have plain : ∀ {p : Proc Unit}, p.Calls Op.Plain →
      p.wp (custodyRule tag) (fun _ g' => g'.owes = []) {} := fun hp => custody_plain hp fun _ => rfl
  cases tag with
  | openSession env request recovery =>
      exact (Prog.wp_void _).mpr (openSession_settles env request recovery rfl)
  | closeSession env sid force => exact closeSession_settles env sid force rfl
  | forceRelease env sid => exact forceRelease_settles env sid trivial rfl
  | invalidateLifecycle env k generation close =>
      exact invalidateLifecycle_settles env k generation close rfl
  | worker w => cases hentry
  | runTests | introspect | halt | resume | injectBreak =>
      refine plain ((activity_ofExecution ?_).mono fun _ ho => ho.plain)
      trivial
  | admission c =>
      refine (Prog.wp_void _).mpr ((Prog.wp_perform _).mpr ?_)
      cases c with
      | admitOpen | admitRecovery | promote => cases hentry
      | complete | rollback | abandon | confirmReaped => exact .inr fun _ => rfl
      | _ => exact fun _ _ => rfl

/-! ## The discipline is sound -/

/-- A worker starts with the handle of its subscriber, which the emit was told. -/
theorem worker_knows {w : World} {g : Custody} {worker : Worker} {x : AdmissionHandle}
    (hknows : ∀ f ∈ g.facts, f.Holds w.admission) (hfor : worker.subscriber.For x)
    (hfact : Fact.issued x ∈ g.facts) :
    ∀ f ∈ (Activity.start (.worker worker)).facts, f.Holds w.admission := by
  intro f hf
  simp only [Activity.start, hfor.1, Option.toList_some, List.map_cons, List.map_nil,
    List.mem_singleton] at hf
  exact hf ▸ hknows _ hfact

theorem custody_sound : Sound coordination custody DisposesInTime where
  inv := by
    intro tag o w g Q h
    refine h.inv.exec o fun handle session state dispatcher subscribe heq => ?_
    subst heq
    obtain ⟨⟨hfact, hid⟩, _⟩ := h.rule
    exact ⟨h.knows _ hfact, hid⟩
  frame := by
    intro tag o w g Q h tag' g' hknows _ f hf
    exact (hknows f hf).exec h.inv.valid o
  learn := by
    intro tag o w g Q h
    have hrule := h.rule
    have hcond := h.cond
    have hw := h.inv
    have learned : ∀ {o' : Op} {Q' : Except Raised o'.Resp → Custody → Prop} {g' : Custody},
        Learned w (w.exec o').2 g g' → Q' (w.exec o').1 g' →
        ∃ g', custody.knows tag (w.exec o').2 g' ∧ Q' (w.exec o').1 g' ∧
          custody.Hands w (w.exec o').2 g g' ∧ custody.StaysApart w g g' :=
      fun hl hQ => ⟨_, hl.facts, hQ, hl.hands, fun _ _ _ _ => trivial⟩
    have plain : ∀ {o' : Op} {Q' : Except Raised o'.Resp → Custody → Prop}, o'.Plain →
        (∀ r, (o'.Total → ∃ a, r = .ok a) → Q' r g) →
        ∃ g', custody.knows tag (w.exec o').2 g' ∧ Q' (w.exec o').1 g' ∧
          custody.Hands w (w.exec o').2 g g' ∧ custody.StaysApart w g g' := fun {o'} _ ho hQ =>
      learned (learned_nothing hw h.knows o' fun x hx => ho.before hw.valid hx)
        (hQ _ fun htotal => htotal.answers w)
    have unchanged : custody.Hands w w g g ∧ custody.StaysApart w g g :=
      ⟨hands_before fun x hx => .inr ⟨hx, id⟩, fun _ _ _ h => h⟩
    cases o with
    | admission c =>
        cases c with
        | admitOpen k request now =>
            simp only [coordination, World.exec, World.withAdmission, AdmissionService.after]
            rcases w.admission.perform_admitOpen k request now with
              ⟨e, heq⟩ | ⟨x, heq, hadmits, hop, _⟩
            · rw [heq]
              exact ⟨g, h.knows, hrule.1 _, unchanged⟩
            · rw [heq]
              have hl := learned_admitted (c := .admitOpen k request now) hw h.knows hadmits hop rfl
              exact ⟨_, hl.facts, hrule.2 x, hl.hands, fun _ _ _ _ => trivial⟩
        | admitRecovery k request now =>
            simp only [coordination, World.exec, World.withAdmission, AdmissionService.after]
            rcases w.admission.perform_admitRecovery k request now with
              ⟨e, heq⟩ | ⟨x, heq, hadmits, hop, _⟩
            · rw [heq]
              exact ⟨g, h.knows, hrule.1 _, unchanged⟩
            · rw [heq]
              have hl :=
                learned_admitted (c := .admitRecovery k request now) hw h.knows hadmits hop rfl
              exact ⟨_, hl.facts, hrule.2 x, hl.hands, fun _ _ _ _ => trivial⟩
        | promote x => exact hrule.elim
        | complete x =>
            cases hrule with
            | inl hs =>
                have hgone := AdmissionService.complete_gone hw.valid (h.knows _ hs.1) hcond
                exact learned (learned_settle (c := .complete x) hw h.knows trivial hgone) (hs.2 _)
            | inr hQ => exact learned (learned_disposal hw h.knows trivial) (hQ _)
        | rollback x =>
            cases hrule with
            | inl hs =>
                have hgone := AdmissionService.rollback_gone hw.valid (h.knows _ hs.1) hcond
                exact learned (learned_settle (c := .rollback x) hw h.knows trivial hgone) (hs.2 _)
            | inr hQ => exact learned (learned_disposal hw h.knows trivial) (hQ _)
        | abandon x =>
            cases hrule with
            | inl hs =>
                have hgone := AdmissionService.abandon_gone hw.valid (h.knows _ hs.1)
                exact learned (learned_settle (c := .abandon x) hw h.knows trivial hgone) (hs.2 _)
            | inr hQ => exact learned (learned_disposal hw h.knows trivial) (hQ _)
        | confirmReaped x =>
            cases hrule with
            | inl hs =>
                obtain ⟨g', hl, hQ⟩ := learned_confirmReaped hw h.knows hs.1 hcond hs.2.1 hs.2.2
                exact learned hl hQ
            | inr hQ => exact learned (learned_disposal hw h.knows trivial) (hQ _)
        | _ => exact plain trivial hrule
    | commit x session state dispatcher subscribe =>
        obtain ⟨⟨hfact, hid⟩, herror, hok⟩ := hrule
        obtain ⟨g', hl, hQ⟩ := learned_commit hw h.knows hfact hid herror hok
        exact learned hl hQ
    | popHandle sid =>
        obtain ⟨g', hl, hQ⟩ := learned_popHandle hw h.knows hrule.1 hrule.2
        exact learned hl hQ
    | dropHandle sid =>
        cases hrule with
        | inl hs =>
            refine learned (learned_dropHandle hw h.knows fun x hx hr => ?_) hs.2
            cases hs.1 with
            | inl hgone =>
                obtain ⟨h', hfact, hid⟩ := hgone
                obtain ⟨hx', hstarted⟩ := hw.entries sid x hx
                have hmem := hw.valid.mem_of_registered hstarted.issued hr
                obtain rfl : x = h' := (h.knows _ hfact).eq hw.valid hmem (hx'.trans hid.symm)
                exact (h.knows _ hfact).claim hmem
            | inr hforces => exact hcond hforces x hx hr
        | inr hQ => exact learned (learned_dropHandle_owe hw h.knows sid) hQ
    | subscribersOf k =>
        obtain ⟨g', hl, hQ⟩ := learned_subscribersOf hw h.knows k hrule
        exact learned hl hQ
    | startWorker worker =>
        exact learned (learned_nothing hw h.knows (.startWorker worker) fun x hx => hx) (hrule.2 _)
    | _ => exact plain trivial hrule
  spawn := by
    intro tag o w g Q h tag' htag'
    cases o with
    | startWorker worker =>
        obtain rfl := List.mem_singleton.mp htag'
        obtain ⟨x, hfor, hfact⟩ := h.rule.1
        have hissued : Fact.issued x ∈ (Activity.start (.worker worker)).facts := by
          simp [Activity.start, hfor.1]
        exact ⟨worker_knows h.knows hfor hfact, worker_settles worker hfor hissued rfl⟩
    | _ => cases htag'
  fresh := by
    intro tag o w g Q h tag' htag'
    cases o with
    | startWorker worker =>
        obtain rfl := List.mem_singleton.mp htag'
        obtain ⟨x, hfor, hfact⟩ := h.rule.1
        exact ⟨fun _ _ => trivial, trivial, worker_knows h.knows hfor hfact⟩
    | _ => cases htag'
  symm := fun _ _ _ => trivial

/-! ## Disposal -/

/-- A server starts with no binding and no entry. -/
theorem linked_restart (w : World) : Linked w.restart where
  valid := .fresh _ _
  entries := by simp [World.restart]
  subscribers := by simp [World.restart]

/-- Somebody can dispose of the binding: a teardown finds it in the handle table, or
it is of an ssh-tier call, whose caller holds it. -/
def Disposable (w : World) (h : AdmissionHandle) : Prop :=
  w.handles h.handleId = some h ∨ h.op = .sshTier ∧ w.admission.stateOf h = .pending

/-- The binding is promoted and its session is gone. -/
structure Orphaned (w : World) (k : TargetKey) (h : AdmissionHandle) : Prop where
  promoted : w.admission.stateOf h = .promoted
  entry : w.handles h.handleId = none
  holder : w.guard.holders k = none
  record : w.registry.readRecord k = none

instance (w : World) (k : TargetKey) (h : AdmissionHandle) : Decidable (Orphaned w k h) :=
  decidable_of_iff (w.admission.stateOf h = .promoted ∧ (w.handles h.handleId).isNone = true ∧
      w.guard.holders k = none ∧ w.registry.readRecord k = none)
    ⟨fun ho => ⟨ho.1, Option.isNone_iff_eq_none.mp ho.2.1, ho.2.2.1, ho.2.2.2⟩,
      fun ho => ⟨ho.promoted, Option.isNone_iff_eq_none.mpr ho.entry, ho.holder, ho.record⟩⟩

instance (tag : Activity) : Decidable tag.Entry := by
  unfold Activity.Entry
  split <;> infer_instance

/-- In every run in which no disposal of a binding in the table is refused, once all
threads are done somebody can dispose of every binding that is left. -/
theorem bindings_disposable (w : World) {tags : List Activity} (hentry : ∀ tag ∈ tags, tag.Entry)
    {schedule : List Nat}
    (htime : coordination.Along DisposesInTime schedule (coordination.pool w.restart tags))
    (hdone : ∀ t ∈ (serve w tags schedule).threads, t.Done) (k : TargetKey)
    (h : AdmissionHandle) (hbound : h ∈ (serve w tags schedule).world.admission.bindings k) :
    Disposable (serve w tags schedule).world h := by
  have hstart : custody.Sat (coordination.pool w.restart tags) := by
    refine Discipline.sat_pool coordination (linked_restart w) (fun x hx => ?_) (fun tag htag => ?_)
      fun _ _ _ _ => trivial
    · simpa [World.restart, AdmissionService.fresh] using hx.bound
    · have hg : Activity.start tag = {} := by
        cases tag with
        | worker => exact (hentry _ htag).elim
        | _ => rfl
      refine ⟨?_, ?_⟩
      · show ∀ f ∈ (Activity.start tag).facts, _
        rw [hg]
        simp
      · show (activityBody tag).wp (custodyRule tag) _ (Activity.start tag)
        rw [hg]
        exact activity_settles (hentry tag htag)
  have hend : custody.Sat (serve w tags schedule) := custody_sound.sat_run hstart htime
  generalize serve w tags schedule = P at *
  have hsettled : ∀ x, ¬ Unclaimed P.world x := hend.settled hdone fun _ _ g x howes howns => by
    have hmem : x.handleId ∈ g.owes := howns
    rw [show g.owes = [] from howes] at hmem
    cases hmem
  have hv := hend.1.valid
  have hkey := hv.key_of_mem hbound
  by_cases hclaimed : P.world.handles h.handleId = some h
  · exact .inl hclaimed
  · have hopened : ¬ (h.op = .transportOpen ∨ P.world.admission.stateOf h = .promoted) :=
      fun hopened => hsettled h ⟨hkey ▸ hbound, hopened, hclaimed⟩
    obtain ⟨hop, hpromoted⟩ := not_or.mp hopened
    refine .inr ⟨?_, (AdmissionState.live_iff.mp (hv.live_of_mem hbound)).resolve_right hpromoted⟩
    cases hcase : h.op with
    | transportOpen => exact absurd hcase hop
    | sshTier => rfl

/-- Boot and an open. -/
def bootOpen : List Activity :=
  [.admission (.publishSnapshot (localTarget "run") (bootReadySnapshot 1 gdbstubEndpoint true)),
    .openSession .calm (debugOpenRequest "run" gdbstubEndpoint 1 (bootPlatform true)) false]

/-- The open's binding is in the table, and a teardown finds it. -/
theorem bindings_disposable_open :
    ∃ h ∈ (serve .empty bootOpen (0 :: .replicate 6 1)).world.admission.bindings
      (localTarget "run"), Disposable (serve .empty bootOpen (0 :: .replicate 6 1)).world h := by
  obtain ⟨h, hbound⟩ := List.exists_mem_of_ne_nil
    ((serve .empty bootOpen (0 :: .replicate 6 1)).world.admission.bindings (localTarget "run"))
    (List.isEmpty_eq_false_iff.mp (by decide +kernel))
  exact ⟨h, hbound, bindings_disposable .empty (by decide +kernel) (by decide +kernel)
    (by decide +kernel) _ h hbound⟩

/-- Boot of generation 1, an open, a forced release of it while the target is open,
an invalidation, boot of generation 2. -/
def openForceReleased : List Activity :=
  [.admission (.publishSnapshot (localTarget "run") (bootReadySnapshot 1 gdbstubEndpoint true)),
    .openSession .calm (debugOpenRequest "run" gdbstubEndpoint 1 (bootPlatform true)) false,
    .forceRelease .calm 0,
    .invalidateLifecycle .calm (localTarget "run") 1 true,
    .admission (.publishSnapshot (localTarget "run") (bootReadySnapshot 2 gdbstubEndpoint true))]

/-- The forced release swallows the refused reap of the open target.  All threads
end, the session is gone, and a reopen is refused for its binding. -/
theorem bindings_disposable_released :
    let P := serve .empty openForceReleased
      (0 :: .replicate 6 1 ++ .replicate 8 2 ++ .replicate 4 3 ++ [4])
    (∀ t ∈ P.threads, t.Done) ∧
      (∃ h ∈ P.world.admission.bindings (localTarget "run"),
        Orphaned P.world (localTarget "run") h) ∧
      (P.world.admission.perform (.reopen (localTarget "run"))).1.mapError AdmissionError.code =
        .error .bindingsOutstanding := by
  decide +kernel

end Kdive

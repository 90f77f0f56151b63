import Kdive.Coordination.LocalTarget
import Kdive.Coordination.ThreadCalls
import Kdive.Coordination.WorldChange

/-!
# Custody of the bindings

A binding of an open stands in the admission table from its admission to its
disposal.  In between somebody answers for it.  The thread that opens it does at
first.  The commit hands it to the handle table, where a teardown finds it, and a
teardown that takes it out of the handle table answers for it until it has
disposed of it.

A `Fact` about a handle stays true once it is, so a thread may learn it and rely
on it later.  `custody` is the discipline: what a thread knows, and the
identities it answers for.  The lemmas at the end say what each operation
teaches, provided that disposals are not refused (`DisposesInTime`).
-/

namespace Kdive

open Checked Program Interleaving

/-! ## Facts that stay true -/

/-- What a thread may know of a handle. -/
inductive Fact where
  /-- It was issued for an open. -/
  | issued (h : AdmissionHandle)
  /-- It is not pending any more. -/
  | started (h : AdmissionHandle)
  /-- As long as it is in the table, its target is closed and it is reaped. -/
  | reaped (h : AdmissionHandle)
  /-- It left the table. -/
  | gone (h : AdmissionHandle)

/-- The handle a fact is about. -/
def Fact.handle : Fact → AdmissionHandle
  | .issued h | .started h | .reaped h | .gone h => h

/-- What a fact claims beyond that its handle was issued. -/
def Fact.Claim (s : AdmissionService) : Fact → Prop
  | .issued _ => True
  | .started h => s.stateOf h ≠ .pending
  | .reaped h => h ∈ s.bindings h.targetKey →
      s.Closed h.targetKey ∧ (s.flags h.handleId).reaped = true
  | .gone h => h ∉ s.bindings h.targetKey

/-- The fact is true. -/
structure Fact.Holds (s : AdmissionService) (f : Fact) : Prop where
  issued : f.handle ∈ s.issued
  opens : f.handle.op = .transportOpen
  claim : f.Claim s

theorem Fact.Holds.change {c : AdmissionService.Call} {s s' : AdmissionService}
    (hc : AdmissionService.Change c s s') (hv : s.Valid) {f : Fact} (h : f.Holds s) :
    f.Holds s' := by
  refine ⟨hc.evolves.issued.subset h.issued, h.opens, ?_⟩
  have hclaim := h.claim
  cases f with
  | issued h' => trivial
  | started h' => exact hc.started hclaim
  | reaped h' =>
      intro hm
      have hold : h' ∈ s.bindings h'.targetKey :=
        Classical.byContradiction fun hgone => hc.gone hv h.issued hgone hm
      exact ⟨hc.stays_closed (hclaim hold).1 hold, hc.evolves.reaped _ (hclaim hold).2⟩
  | gone h' => exact hc.gone hv h.issued hclaim

theorem Fact.Holds.exec {w : World} (hv : w.admission.Valid) (o : Op) {f : Fact}
    (h : f.Holds w.admission) : f.Holds (w.exec o).2.admission := by
  rw [World.exec_admission]
  exact (Runs.run_inv' (I := fun s => s.Valid ∧ f.Holds s)
    (fun c s hs => ⟨hs.1.after c, hs.2.change (s.perform_change c) hs.1⟩) o.admissionCalls
    ⟨hv, h⟩).2

/-- Facts of one identity are about one handle. -/
theorem Fact.Holds.eq {s : AdmissionService} (hv : s.Valid) {f : Fact} (hf : f.Holds s)
    {k : TargetKey} {x : AdmissionHandle} (hx : x ∈ s.bindings k)
    (hid : x.handleId = f.handle.handleId) : x = f.handle :=
  hv.eq_of_id (hv.issued_of_mem hx) hf.issued hid

/-! ## Whose turn it is -/

/-- What a thread knows, and the identities it answers for. -/
structure Custody where
  facts : List Fact := []
  owes : List Nat := []

instance : Inhabited Custody := ⟨{}⟩

namespace Custody

/-- Learn a fact. -/
def learn (g : Custody) (f : Fact) : Custody := { g with facts := f :: g.facts }

/-- Answer for a handle. -/
def owe (g : Custody) (id : Nat) : Custody := { g with owes := id :: g.owes }

/-- Answer for it no more. -/
def release (g : Custody) (id : Nat) : Custody :=
  { g with owes := g.owes.filter fun id' => id' ≠ id }

/-- A handle left the table. -/
def settle (g : Custody) (h : AdmissionHandle) : Custody :=
  (g.learn (.gone h)).release h.handleId

end Custody

/-- A binding that is promoted or of an open, and that no teardown will find in the
handle table. -/
structure Unclaimed (w : World) (x : AdmissionHandle) : Prop where
  bound : x ∈ w.admission.bindings x.targetKey
  opened : x.op = .transportOpen ∨ w.admission.stateOf x = .promoted
  entry : w.handles x.handleId ≠ some x

/-- A subscriber tears down the session of one handle. -/
def SessionSubscriber.For (s : SessionSubscriber) (h : AdmissionHandle) : Prop :=
  s.state.admissionHandle = some h ∧ h.handleId = s.session.sessionId

/-- The handle table and the subscribers name handles that were committed. -/
structure Linked (w : World) : Prop where
  valid : w.admission.Valid
  entries : ∀ sid h, w.handles sid = some h → h.handleId = sid ∧ (Fact.started h).Holds w.admission
  subscribers : ∀ k, ∀ s ∈ w.subscribers k, ∃ h, s.For h ∧ (Fact.issued h).Holds w.admission

/-! ## The discipline of the threads -/

/-- The operation cannot fail. -/
def Op.Total : Op → Prop
  | .popToken _ | .unsubscribe .. | .leaseRelease .. | .guardRelease .. | .attachEvent ..
  | .reportBackend .. | .reapBackend .. => True
  | _ => False

/-- The thread runs `force_release`. -/
def Activity.Forces : Activity → Prop
  | .forceRelease .. => True
  | _ => False

/-- What a thread needs and learns.  It answers for a handle from its admission to
its commit, and from the time it pops the handle to the time the binding left the
table. -/
def custodyRule (tag : Activity) : Prog.Rule Op.Resp Raised Custody
  | .admission (.admitOpen ..), Q, g =>
      (∀ e, Q (.error e) g) ∧ ∀ h, Q (.ok h) ((g.learn (.issued h)).owe h.handleId)
  | .admission (.admitRecovery ..), Q, g =>
      (∀ e, Q (.error e) g) ∧ ∀ h, Q (.ok h) ((g.learn (.issued h)).owe h.handleId)
  | .admission (.promote _), _, _ => False
  | .admission (.complete h), Q, g =>
      (.started h ∈ g.facts ∧ ∀ r, Q r (g.settle h)) ∨ ∀ r, Q r g
  | .admission (.rollback h), Q, g =>
      (.issued h ∈ g.facts ∧ ∀ r, Q r (g.settle h)) ∨ ∀ r, Q r g
  | .admission (.confirmReaped h), Q, g =>
      (.issued h ∈ g.facts ∧ (∀ e, Q (.error e) (g.settle h)) ∧ Q (.ok ()) (g.learn (.reaped h))) ∨
        ∀ r, Q r g
  | .admission (.abandon h), Q, g =>
      (.reaped h ∈ g.facts ∧ ∀ r, Q r (g.settle h)) ∨ ∀ r, Q r g
  | .commit h session .., Q, g => (.issued h ∈ g.facts ∧ session.sessionId = h.handleId) ∧
      (∀ e, Q (.error e) g) ∧ Q (.ok ()) (g.release h.handleId)
  | .popHandle sid, Q, g => Q (.ok none) g ∧
      ∀ h, h.handleId = sid → Q (.ok (some h)) (((g.learn (.started h)).learn (.issued h)).owe sid)
  | .dropHandle sid, Q, g =>
      ((∃ h, .gone h ∈ g.facts ∧ h.handleId = sid) ∨ tag.Forces) ∧ Q (.ok ()) g ∨
        Q (.ok ()) (g.owe sid)
  | .subscribersOf _, Q, g => ∀ subscribers facts,
      (∀ s ∈ subscribers, ∃ h, s.For h ∧ Fact.issued h ∈ facts) →
        Q (.ok subscribers) { g with facts := facts ++ g.facts }
  | .startWorker worker, Q, g =>
      (∃ h, worker.subscriber.For h ∧ .issued h ∈ g.facts) ∧ ∀ r, Q r g
  | o, Q, g => ∀ r, (o.Total → ∃ a, r = .ok a) → Q r g

/-- What a teardown worker knows from its subscriber. -/
def Activity.start : Activity → Custody
  | .worker w => { facts := w.subscriber.state.admissionHandle.toList.map .issued }
  | _ => {}

/-- Custody of the bindings as a discipline. -/
def custody : Discipline Op.Resp Raised World Activity Custody AdmissionHandle where
  rule := custodyRule
  post := fun _ _ g => g.owes = []
  inv := Linked
  knows := fun _ w g => ∀ f ∈ g.facts, f.Holds w.admission
  start := Activity.start
  due := Unclaimed
  owns := fun g x => x.handleId ∈ g.owes

/-- A disposal finds its binding gone, or in a state in which it is not refused. -/
def DisposesInTime (tag : Activity) (o : Op) (w : World) : Prop :=
  match o with
  | .admission (.complete h) => w.admission.Registered h → ¬ w.admission.Cancelled h
  | .admission (.confirmReaped h) => w.admission.Registered h → w.admission.Closed h.targetKey
  | .admission (.rollback h) => w.admission.Registered h → w.admission.stateOf h = .promoted →
      ¬ w.admission.Closed h.targetKey
  | .dropHandle sid => tag.Forces → ∀ h ∈ w.handles sid, ¬ w.admission.Registered h
  | _ => True

instance (tag : Activity) : Decidable tag.Forces := by
  unfold Activity.Forces
  split <;> infer_instance

instance (tag : Activity) (o : Op) (w : World) : Decidable (DisposesInTime tag o w) := by
  unfold DisposesInTime
  split <;> infer_instance

theorem Linked.exec {w : World} (hw : Linked w) (o : Op)
    (hcommit : ∀ h session state dispatcher subscribe,
      o = .commit h session state dispatcher subscribe →
        (Fact.issued h).Holds w.admission ∧ session.sessionId = h.handleId) :
    Linked (w.exec o).2 := by
  refine ⟨w.exec_valid o hw.valid, fun sid h hh => ?_, fun k s hs => ?_⟩
  · cases w.exec_handles o hh with
    | inl hold =>
        obtain ⟨hid, hfact⟩ := hw.entries sid h hold
        exact ⟨hid, hfact.exec hw.valid o⟩
    | inr hnew =>
        obtain ⟨session, state, dispatcher, subscribe, admission, rfl, rfl, hpromote⟩ := hnew
        obtain ⟨hissued, hid⟩ := hcommit _ _ _ _ _ rfl
        have hafter := hissued.exec hw.valid (.commit h session state dispatcher subscribe)
        refine ⟨hid.symm, hafter.issued, hafter.opens, ?_⟩
        obtain ⟨_, _, _, heq⟩ := AdmissionService.promote_eq_ok.mp hpromote
        rw [Fact.Claim, World.exec_admission]
        simp [Op.admissionCalls, AdmissionService.after, AdmissionService.perform, hpromote, ← heq,
          AdmissionService.stateOf]
  · cases w.exec_subscribers o hs with
    | inl hold =>
        obtain ⟨h, hfor, hfact⟩ := hw.subscribers k s hold
        exact ⟨h, hfor, hfact.exec hw.valid o⟩
    | inr hnew =>
        obtain ⟨h, session, state, dispatcher, subscribe, admission, rfl, rfl, _, rfl⟩ := hnew
        obtain ⟨hissued, hid⟩ := hcommit _ _ _ _ _ rfl
        exact ⟨h, ⟨rfl, hid.symm⟩, hissued.exec hw.valid _⟩

/-! ## Disposals that are not refused -/

namespace AdmissionService

variable {s : AdmissionService} {h : AdmissionHandle}

/-- A handle that is not registered is gone, and stays so. -/
theorem gone_after (hv : s.Valid) {f : Fact} (hf : f.Holds s) (hr : ¬ s.Registered f.handle)
    (c : Call) : (Fact.gone f.handle).Holds (s.after c) := by
  have hgone : (Fact.gone f.handle).Holds s :=
    ⟨hf.issued, hf.opens, fun hm => hr (registered_of_mem hm)⟩
  exact hgone.change (s.perform_change c) hv

/-- A disposed handle is gone. -/
theorem gone_disposed (hv : s.Valid) {f : Fact} (hf : f.Holds s) (hr : s.Registered f.handle)
    (t : AdmissionState) : (Fact.gone f.handle).Holds (s.disposed f.handle t) := by
  refine ⟨hf.issued, hf.opens, fun hm => ?_⟩
  exact ((hv.mem_disposed hr _).mp hm).2 rfl

theorem live_of_registered (hv : s.Valid) {f : Fact} (hf : f.Holds s)
    (hr : s.Registered f.handle) : (s.stateOf f.handle).Live :=
  hv.live_of_mem (hv.mem_of_registered hf.issued hr)

theorem complete_gone (hv : s.Valid) (hf : (Fact.started h).Holds s)
    (hfence : s.Registered h → ¬ s.Cancelled h) : (Fact.gone h).Holds (s.after (.complete h)) := by
  by_cases hr : s.Registered h
  · have hok : s.complete h = .ok ((), s.disposed h .completed) := by
      refine complete_eq_ok.mpr ⟨hfence hr, fun hstale => ?_, fun hpending => ?_, hr,
        live_of_registered hv hf hr, rfl⟩
      · exact absurd (hf.opens.symm.trans hstale.1) (by simp)
      · exact hf.claim hpending.1
    rw [after, perform, hok]
    exact gone_disposed hv hf hr _
  · exact gone_after hv hf hr _

theorem rollback_gone (hv : s.Valid) (hf : (Fact.issued h).Holds s)
    (hfence : s.Registered h → s.stateOf h = .promoted → ¬ s.Closed h.targetKey) :
    (Fact.gone h).Holds (s.after (.rollback h)) := by
  by_cases hr : s.Registered h
  · have hok : s.rollback h = .ok ((), s.disposed h .rolledBack) :=
      rollback_eq_ok.mpr ⟨fun hp hclosed => absurd hclosed (hfence hr hp), hr,
        live_of_registered hv hf hr, rfl⟩
    rw [after, perform, hok]
    exact gone_disposed hv hf hr _
  · exact gone_after hv hf hr _

theorem abandon_gone (hv : s.Valid) (hf : (Fact.reaped h).Holds s) :
    (Fact.gone h).Holds (s.after (.abandon h)) := by
  by_cases hr : s.Registered h
  · have hm := hv.mem_of_registered hf.issued hr
    obtain ⟨hclosed, hreaped⟩ := hf.claim hm
    have hok : s.abandon h = .ok ((), s.disposed h .abandoned) :=
      abandon_eq_ok.mpr ⟨hclosed, hv.closed _ hclosed h hm, hreaped, hr,
        live_of_registered hv hf hr, rfl⟩
    rw [after, perform, hok]
    exact gone_disposed hv hf hr _
  · exact gone_after hv hf hr _

/-- A reap confirmation succeeds on a binding that is in the table of a closed
target. -/
theorem confirmReaped_outcome (hv : s.Valid) (hf : (Fact.issued h).Holds s)
    (hfence : s.Registered h → s.Closed h.targetKey) :
    (∃ e, (s.perform (.confirmReaped h)).1 = .error e ∧
      (Fact.gone h).Holds (s.after (.confirmReaped h))) ∨
      (s.perform (.confirmReaped h)).1 = .ok () ∧
        (Fact.reaped h).Holds (s.after (.confirmReaped h)) := by
  by_cases hr : s.Registered h
  · have hm := hv.mem_of_registered hf.issued hr
    have hclosed := hfence hr
    have hok : s.confirmReaped h =
        .ok ((), s.setFlags h { s.flags h.handleId with reaped := true }) :=
      confirmReaped_eq_ok.mpr ⟨hclosed, hv.closed _ hclosed h hm, hr, rfl⟩
    rw [after, perform, hok]
    exact .inr ⟨rfl, hf.issued, hf.opens, fun _ => ⟨hclosed, by simp⟩⟩
  · have hgone := gone_after hv hf hr (.confirmReaped h)
    cases hok : s.confirmReaped h with
    | error e => exact .inl ⟨e, by rw [perform, hok]; rfl, hgone⟩
    | ok r =>
        obtain ⟨u, s'⟩ := r
        exact absurd (confirmReaped_eq_ok.mp hok).2.2.1 hr

end AdmissionService

/-! ## What is due after an operation -/

/-- The calls that dispose of a binding, or confirm that it may be disposed of. -/
def AdmissionService.Call.Disposal : AdmissionService.Call → Prop
  | .complete _ | .rollback _ | .confirmReaped _ | .abandon _ => True
  | _ => False

/-- A binding that is unclaimed after an operation was unclaimed before, unless the
operation admits an open, promotes it or takes its entry. -/
theorem Unclaimed.before {w : World} {o : Op} {x : AdmissionHandle} (hv : w.admission.Valid)
    (hx : Unclaimed (w.exec o).2 x)
    (hentry : w.handles x.handleId = some x → (w.exec o).2.handles x.handleId = some x)
    (hadmits : ∀ c ∈ o.admissionCalls, c.admits ≠ some .transportOpen)
    (hpromotes : ∀ h, .promote h ∈ o.admissionCalls → h.handleId ≠ x.handleId) :
    Unclaimed w x := by
  have entry : w.handles x.handleId ≠ some x := fun heq => hx.entry (hentry heq)
  rcases w.exec_change o with heq | ⟨c, hmem, hchange⟩
  · have hbound := hx.bound
    have hopened := hx.opened
    rw [heq] at hbound hopened
    exact ⟨hbound, hopened, entry⟩
  · rcases hchange.binding hv hx.bound with ⟨hold, hpromoted⟩ | ⟨hnew, hpending, _⟩
    · refine ⟨hold, ?_, entry⟩
      cases hx.opened with
      | inl hop => exact .inl hop
      | inr hp =>
          rcases hpromoted hp with hp | ⟨h, rfl, hid⟩
          · exact .inr hp
          · exact absurd hid (hpromotes h hmem)
    · cases hx.opened with
      | inl hop => exact absurd (hop ▸ hnew) (hadmits c hmem)
      | inr hp => rw [hp] at hpending; cases hpending

/-! ## The discipline is sound -/

/-- A thread that answers for no less, while no more is due. -/
theorem hands_before {w w' : World} {g g' : Custody}
    (hdue : ∀ x, Unclaimed w' x → x.handleId ∈ g'.owes ∨
      Unclaimed w x ∧ (x.handleId ∈ g.owes → x.handleId ∈ g'.owes)) : custody.Hands w w' g g' := by
  intro x hx
  cases hdue x hx with
  | inl howes => exact .inl howes
  | inr hbefore =>
      by_cases howes : x.handleId ∈ g.owes
      · exact .inl (hbefore.2 howes)
      · exact .inr ⟨hbefore.1, howes⟩

/-- A thread may drop a handle that is gone. -/
theorem hands_settle {w w' : World} {g : Custody} {h : AdmissionHandle}
    (hv : w'.admission.Valid) (hgone : (Fact.gone h).Holds w'.admission)
    (hdue : ∀ x, Unclaimed w' x → Unclaimed w x) : custody.Hands w w' g (g.settle h) := by
  refine hands_before fun x hx => .inr ⟨hdue x hx, fun howes => ?_⟩
  refine List.mem_filter.mpr ⟨howes, decide_eq_true fun hid => ?_⟩
  obtain rfl : x = h := hgone.eq hv hx.bound hid
  exact hgone.claim hx.bound

theorem knows_learn {s : AdmissionService} {g : Custody} (h : ∀ f ∈ g.facts, f.Holds s) {f : Fact}
    (hf : f.Holds s) : ∀ f' ∈ (g.learn f).facts, f'.Holds s := by
  intro f' hmem
  cases List.mem_cons.mp hmem with
  | inl heq => exact heq ▸ hf
  | inr hold => exact h f' hold

theorem custodyRule_plain {tag : Activity} {o : Op} (ho : o.Plain)
    {Q : Except Raised o.Resp → Custody → Prop} {g : Custody} :
    custodyRule tag o Q g ↔ ∀ r, (o.Total → ∃ a, r = .ok a) → Q r g := by
  cases o with
  | admission c => cases c <;> first | exact Iff.rfl | cases ho
  | commit | subscribersOf | startWorker | popHandle | dropHandle => cases ho
  | _ => exact Iff.rfl

theorem Op.Plain.handles {o : Op} (ho : o.Plain) (w : World) :
    (w.exec o).2.handles = w.handles := by
  cases o with
  | commit | popHandle | dropHandle => cases ho
  | _ => rfl

theorem Op.Plain.calls {o : Op} (ho : o.Plain) :
    ∀ c ∈ o.admissionCalls, c.admits ≠ some .transportOpen ∧ ∀ h, c ≠ .promote h := by
  cases o with
  | admission c =>
      simp only [Op.admissionCalls, List.mem_singleton, forall_eq]
      cases c <;> simp [AdmissionService.Call.admits] <;> cases ho
  | lifecycleFence k g close =>
      cases close <;> simp [Op.admissionCalls, AdmissionService.Call.admits]
  | commit => cases ho
  | _ => simp [Op.admissionCalls]

theorem Op.Plain.before {o : Op} (ho : o.Plain) {w : World} (hv : w.admission.Valid)
    {x : AdmissionHandle} (hx : Unclaimed (w.exec o).2 x) : Unclaimed w x :=
  hx.before hv (fun h => by rw [ho.handles]; exact h) (fun c hc => (ho.calls c hc).1)
    fun h hc => absurd rfl ((ho.calls _ hc).2 h)

theorem Op.Total.answers {o : Op} (ho : o.Total) (w : World) : ∃ a, (w.exec o).1 = .ok a := by
  cases o with
  | popToken | unsubscribe | leaseRelease | guardRelease | attachEvent | reportBackend
  | reapBackend => exact ⟨_, rfl⟩
  | _ => cases ho

section Learn

variable {w : World} {g : Custody}

/-- What a thread knows after an operation that moved it to `g'`. -/
structure Learned (w w' : World) (g g' : Custody) : Prop where
  facts : ∀ f ∈ g'.facts, f.Holds w'.admission
  hands : custody.Hands w w' g g'

/-- A thread that learns nothing, while no more is due. -/
theorem learned_nothing (hw : Linked w) (hknows : ∀ f ∈ g.facts, f.Holds w.admission) (o : Op)
    (hdue : ∀ x, Unclaimed (w.exec o).2 x → Unclaimed w x) : Learned w (w.exec o).2 g g :=
  ⟨fun f hf => (hknows f hf).exec hw.valid o, hands_before fun x hx => .inr ⟨hdue x hx, id⟩⟩

/-- A disposal or a reap confirmation makes nothing due. -/
theorem disposal_before (hw : Linked w) {c : AdmissionService.Call} (hc : c.Disposal)
    {x : AdmissionHandle} (hx : Unclaimed (w.exec (.admission c)).2 x) : Unclaimed w x := by
  refine hx.before hw.valid id (fun c' hc' => ?_) fun h hc' => ?_
  · obtain rfl := List.mem_singleton.mp hc'
    cases c' <;> simp [AdmissionService.Call.admits] <;> cases hc
  · obtain rfl := List.mem_singleton.mp hc'
    cases hc

/-- A disposal that leaves the handle gone. -/
theorem learned_settle (hw : Linked w) (hknows : ∀ f ∈ g.facts, f.Holds w.admission)
    {c : AdmissionService.Call} (hc : c.Disposal) {h : AdmissionHandle}
    (hgone : (Fact.gone h).Holds (w.admission.after c)) :
    Learned w (w.exec (.admission c)).2 g (g.settle h) := by
  refine ⟨knows_learn (fun f hf => (hknows f hf).exec hw.valid (.admission c)) hgone, ?_⟩
  exact hands_settle (w.exec_valid _ hw.valid) hgone fun x hx => disposal_before hw hc hx

/-- A disposal the thread does not answer for. -/
theorem learned_disposal (hw : Linked w) (hknows : ∀ f ∈ g.facts, f.Holds w.admission)
    {c : AdmissionService.Call} (hc : c.Disposal) : Learned w (w.exec (.admission c)).2 g g :=
  learned_nothing hw hknows _ fun _ hx => disposal_before hw hc hx

/-- A reap confirmation teaches that the handle is reaped, or gone. -/
theorem learned_confirmReaped (hw : Linked w) (hknows : ∀ f ∈ g.facts, f.Holds w.admission)
    {h : AdmissionHandle} (hfact : Fact.issued h ∈ g.facts)
    (hfence : w.admission.Registered h → w.admission.Closed h.targetKey)
    {Q : Except Raised Unit → Custody → Prop} (herror : ∀ e, Q (.error e) (g.settle h))
    (hok : Q (.ok ()) (g.learn (.reaped h))) :
    ∃ g', Learned w (w.exec (.admission (.confirmReaped h))).2 g g' ∧
      Q (w.exec (.admission (.confirmReaped h))).1 g' := by
  rcases AdmissionService.confirmReaped_outcome hw.valid (hknows _ hfact) hfence with
    ⟨e, heq, hgone⟩ | ⟨heq, hreaped⟩
  · refine ⟨g.settle h, learned_settle (c := .confirmReaped h) hw hknows trivial hgone, ?_⟩
    rw [World.exec, heq]
    exact herror _
  · refine ⟨g.learn (.reaped h), ⟨?_, ?_⟩, ?_⟩
    · exact knows_learn (fun f hf => (hknows f hf).exec hw.valid (.admission _)) hreaped
    · exact hands_before fun x hx => .inr ⟨disposal_before (c := .confirmReaped h) hw trivial hx, id⟩
    · rw [World.exec, heq]
      exact hok

/-- A thread answers for what it was admitted. -/
theorem learned_admitted (hw : Linked w) (hknows : ∀ f ∈ g.facts, f.Holds w.admission)
    {c : AdmissionService.Call} {k : TargetKey} {recovery : Bool} {h : AdmissionHandle}
    (hadmits : w.admission.Admits k recovery h (w.admission.registered h))
    (hop : h.op = .transportOpen) (hc : c.admits = some .transportOpen) :
    Learned w (w.withAdmission (w.admission.registered h)) g
      ((g.learn (.issued h)).owe h.handleId) := by
  have hchange : AdmissionService.Change c w.admission (w.admission.registered h) :=
    hadmits.change (hop ▸ hc)
  refine ⟨knows_learn (fun f hf => (hknows f hf).change hchange hw.valid)
    ⟨List.mem_append_right _ (List.mem_singleton_self h), hop, trivial⟩, ?_⟩
  refine hands_before fun x hx => ?_
  have hbound : x ∈ (w.admission.registered h).bindings x.targetKey := hx.bound
  by_cases hxh : x = h
  · exact .inl (hxh ▸ List.mem_cons_self ..)
  · refine .inr ⟨⟨?_, hx.opened, hx.entry⟩, fun howes => List.mem_cons_of_mem _ howes⟩
    rw [AdmissionService.registered_bindings] at hbound
    by_cases hk : x.targetKey = h.targetKey
    · rw [hk, Function.update_self, List.mem_append, List.mem_singleton] at hbound
      exact hk ▸ hbound.resolve_right hxh
    · rwa [Function.update_of_ne hk] at hbound

/-- The handles of the subscribers were issued. -/
theorem learned_subscribersOf (hw : Linked w) (hknows : ∀ f ∈ g.facts, f.Holds w.admission)
    (k : TargetKey) {Q : Except Raised (List SessionSubscriber) → Custody → Prop}
    (hQ : ∀ subscribers facts, (∀ s ∈ subscribers, ∃ h, s.For h ∧ Fact.issued h ∈ facts) →
      Q (.ok subscribers) { g with facts := facts ++ g.facts }) :
    ∃ g', Learned w (w.exec (.subscribersOf k)).2 g g' ∧ Q (w.exec (.subscribersOf k)).1 g' := by
  let facts := (w.subscribers k).filterMap fun s => s.state.admissionHandle.map Fact.issued
  refine ⟨{ g with facts := facts ++ g.facts }, ⟨fun f hf => ?_, ?_⟩, hQ _ facts fun s hs => ?_⟩
  · cases List.mem_append.mp hf with
    | inr hold => exact hknows f hold
    | inl hnew =>
        obtain ⟨s, hs, heq⟩ := List.mem_filterMap.mp hnew
        obtain ⟨h, hfor, hfact⟩ := hw.subscribers k s hs
        rw [hfor.1, Option.map_some, Option.some.injEq] at heq
        exact heq ▸ hfact
  · exact hands_before fun x hx => .inr ⟨hx, id⟩
  · obtain ⟨h, hfor, _⟩ := hw.subscribers k s hs
    exact ⟨h, hfor, List.mem_filterMap.mpr ⟨s, hs, by rw [hfor.1, Option.map_some]⟩⟩

/-- A commit that entered its handle leaves it claimed. -/
theorem hands_commit (hw : Linked w) {h : AdmissionHandle} {session : TransportSession}
    {state : OpenState} {dispatcher : Bool} {subscribe : Fault}
    (hissued : (Fact.issued h).Holds w.admission) (hid : session.sessionId = h.handleId)
    (hentered : (w.exec (.commit h session state dispatcher subscribe)).2.handles =
      Function.update w.handles session.sessionId (some h))
    {g' : Custody} (howes : ∀ id ∈ g.owes, id ≠ h.handleId → id ∈ g'.owes) :
    custody.Hands w (w.exec (.commit h session state dispatcher subscribe)).2 g g' := by
  refine hands_before fun x hx => .inr ?_
  have hne : x.handleId ≠ h.handleId := fun heq => by
    obtain rfl : x = h := (hissued.exec hw.valid _).eq (w.exec_valid _ hw.valid) hx.bound heq
    exact hx.entry (by rw [hentered, hid, Function.update_self])
  refine ⟨hx.before hw.valid (fun hentry => ?_) (fun c hc => ?_) fun h' hc => ?_, fun hmem =>
    howes _ hmem hne⟩
  · rwa [hentered, hid, Function.update_of_ne hne]
  · rw [List.mem_singleton.mp hc]
    simp [AdmissionService.Call.admits]
  · obtain rfl : h' = h := by simpa [Op.admissionCalls] using hc
    exact hne.symm

/-- A commit that promoted its handle entered it into the handle table. -/
theorem learned_commit (hw : Linked w) (hknows : ∀ f ∈ g.facts, f.Holds w.admission)
    {h : AdmissionHandle} {session : TransportSession} {state : OpenState} {dispatcher : Bool}
    {subscribe : Fault} (hfact : Fact.issued h ∈ g.facts) (hid : session.sessionId = h.handleId)
    {Q : Except Raised Unit → Custody → Prop} (herror : ∀ e, Q (.error e) g)
    (hok : Q (.ok ()) (g.release h.handleId)) :
    ∃ g', Learned w (w.exec (.commit h session state dispatcher subscribe)).2 g g' ∧
      Q (w.exec (.commit h session state dispatcher subscribe)).1 g' := by
  have hfacts : ∀ f ∈ g.facts,
      f.Holds (w.exec (.commit h session state dispatcher subscribe)).2.admission :=
    fun f hf => (hknows f hf).exec hw.valid _
  have hhands : ∀ {g' : Custody},
      (w.exec (.commit h session state dispatcher subscribe)).2.handles =
        Function.update w.handles session.sessionId (some h) →
      (∀ id ∈ g.owes, id ≠ h.handleId → id ∈ g'.owes) →
      custody.Hands w (w.exec (.commit h session state dispatcher subscribe)).2 g g' :=
    fun hentered howes => hands_commit hw (hknows _ hfact) hid hentered howes
  have hcommit := w.commit_cases h session state dispatcher subscribe
  simp only [World.exec] at hfacts hhands ⊢
  generalize w.commit h session state dispatcher subscribe = r at hcommit hfacts hhands ⊢
  have released : ∀ id ∈ g.owes, id ≠ h.handleId → id ∈ (g.release h.handleId).owes :=
    fun id hmem hne => List.mem_filter.mpr ⟨hmem, decide_eq_true hne⟩
  cases hcommit with
  | refused e =>
      exact ⟨g, ⟨hfacts, hands_before fun x hx => .inr ⟨hx, id⟩⟩, herror _⟩
  | entered r =>
      cases r with
      | error e => exact ⟨g, ⟨hfacts, hhands rfl fun _ hmem _ => hmem⟩, herror e⟩
      | ok u => exact ⟨g.release h.handleId, ⟨hfacts, hhands rfl released⟩, hok⟩
  | subscribed => exact ⟨g.release h.handleId, ⟨hfacts, hhands rfl released⟩, hok⟩

/-- An entry that leaves the handle table is unclaimed. -/
theorem removed_before (hw : Linked w) {o : Op} {sid : Nat} (hcalls : o.admissionCalls = [])
    (hremoved : (w.exec o).2.handles = Function.update w.handles sid none) {x : AdmissionHandle}
    (hx : Unclaimed (w.exec o).2 x) (hne : w.handles sid = some x → x.handleId ≠ sid) :
    Unclaimed w x := by
  refine hx.before hw.valid (fun hentry => ?_) (by simp [hcalls]) (by simp [hcalls])
  by_cases hid : x.handleId = sid
  · exact absurd hid (hne (hid ▸ hentry))
  · rwa [hremoved, Function.update_of_ne hid]

theorem learned_popHandle (hw : Linked w) (hknows : ∀ f ∈ g.facts, f.Holds w.admission)
    {sid : Nat} {Q : Except Raised (Option AdmissionHandle) → Custody → Prop}
    (hnone : Q (.ok none) g)
    (hsome : ∀ h, h.handleId = sid →
      Q (.ok (some h)) (((g.learn (.started h)).learn (.issued h)).owe sid)) :
    ∃ g', Learned w (w.exec (.popHandle sid)).2 g g' ∧ Q (w.exec (.popHandle sid)).1 g' := by
  cases hentry : w.handles sid with
  | none =>
      refine ⟨g, learned_nothing hw hknows _ fun x hx => ?_, ?_⟩
      · refine removed_before hw rfl rfl hx fun heq => ?_
        rw [hentry] at heq
        cases heq
      · rw [World.exec, hentry]
        exact hnone
  | some h =>
      obtain ⟨hid, hstarted⟩ := hw.entries sid h hentry
      refine ⟨((g.learn (.started h)).learn (.issued h)).owe sid, ⟨?_, ?_⟩, ?_⟩
      · refine knows_learn (knows_learn hknows hstarted) ⟨hstarted.issued, hstarted.opens, trivial⟩
      · refine hands_before fun x hx => ?_
        by_cases hx' : x.handleId = sid
        · exact .inl (hx' ▸ List.mem_cons_self ..)
        · exact .inr ⟨removed_before hw rfl rfl hx fun _ => hx', List.mem_cons_of_mem _⟩
      · rw [World.exec, hentry]
        exact hsome h hid

/-- Dropping an entry whose handle is gone, or was not registered. -/
theorem learned_dropHandle (hw : Linked w) (hknows : ∀ f ∈ g.facts, f.Holds w.admission)
    {sid : Nat} (hunbound : ∀ x ∈ w.handles sid, ¬ w.admission.Registered x) :
    Learned w (w.exec (.dropHandle sid)).2 g g := by
  refine learned_nothing hw hknows _ fun x hx => ?_
  refine removed_before hw rfl rfl hx fun hentry _ => ?_
  exact hunbound x hentry (AdmissionService.registered_of_mem hx.bound)

/-- Dropping an entry and answering for it. -/
theorem learned_dropHandle_owe (hw : Linked w) (hknows : ∀ f ∈ g.facts, f.Holds w.admission)
    (sid : Nat) : Learned w (w.exec (.dropHandle sid)).2 g (g.owe sid) := by
  refine ⟨fun f hf => (hknows f hf).exec hw.valid (.dropHandle sid), hands_before fun x hx => ?_⟩
  by_cases hid : x.handleId = sid
  · exact .inl (hid ▸ List.mem_cons_self ..)
  · exact .inr ⟨removed_before hw rfl rfl hx fun _ => hid, List.mem_cons_of_mem _⟩

end Learn

end Kdive

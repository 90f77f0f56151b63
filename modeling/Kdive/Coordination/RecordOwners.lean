import Kdive.Coordination.ThreadCalls
import Kdive.Coordination.WorldChange

/-!
# Who writes an ownership record

A target has one record file.  Its session is the open that wrote it first.  Halts,
resumes, breaks and closes write a record back that they read or were handed before,
and nothing tells them whether the session still owns the file.

*Owning writes.*  A write back is owning if the record of the same session stands at
the target.  When every write back is owning, a record that was deleted never
returns, and only the first write of a new open takes the place of another session.

*Drawn ids.*  The first write of an open is owning for another reason: the open has
drawn its session id, no other thread has that id, and no record ever had it.
-/

namespace Kdive

open Interleaving Program

/-! ## Records of a session -/

namespace World

/-- A record of the session is on disk. -/
def OnDisk (w : World) (sid : Nat) : Prop := ∃ r ∈ w.registry.records, r.sessionId = sid

instance (w : World) (sid : Nat) : Decidable (w.OnDisk sid) :=
  inferInstanceAs (Decidable (∃ r ∈ w.registry.records, r.sessionId = sid))

/-- The record that stands at the target is of the same session. -/
def Owning (w : World) (r : TransportSession) : Prop :=
  (w.registry.readRecord r.targetKey).map TransportSession.sessionId = some r.sessionId

instance (w : World) (r : TransportSession) : Decidable (w.Owning r) :=
  inferInstanceAs (Decidable (_ = _))

theorem Owning.exists {w : World} {r : TransportSession} (h : w.Owning r) :
    ∃ s ∈ w.registry.records, s.sessionId = r.sessionId ∧ s.targetKey = r.targetKey := by
  obtain ⟨s, hs, hsid⟩ := Option.map_eq_some_iff.mp h
  have hmem := SessionRegistry.mem_of_readRecord hs
  exact ⟨s, hmem.1, hsid, hmem.2⟩

theorem Owning.onDisk {w : World} {r : TransportSession} (h : w.Owning r) :
    w.OnDisk r.sessionId := by
  obtain ⟨s, hs, hsid, _⟩ := h.exists
  exact ⟨s, hs, hsid⟩

end World

/-- A file per target, ids that were drawn, and one target for each session. -/
structure OwnedDisk (w : World) : Prop where
  distinct : w.registry.Distinct
  drawn : ∀ r ∈ w.registry.records, r.sessionId < w.admission.nextId
  sole : ∀ r ∈ w.registry.records, ∀ s ∈ w.registry.records,
    r.sessionId = s.sessionId → r.targetKey = s.targetKey

/-- The disk stays in order when every write finds its session's record or is the first
of a new session. -/
theorem OwnedDisk.exec {w : World} {o : Op} (hdisk : OwnedDisk w)
    (hwrite : ∀ r, o = .writeRecord r none → w.Owning r ∨
      (r.sessionId < w.admission.nextId ∧ ¬ w.OnDisk r.sessionId)) : OwnedDisk (w.exec o).2 := by
  have hnext := (w.exec_evolves o).nextId
  have written : ∀ {r}, o = .writeRecord r none → r.sessionId < w.admission.nextId ∧
      ∀ s ∈ w.registry.records, s.sessionId = r.sessionId → s.targetKey = r.targetKey := by
    intro r ho
    cases hwrite r ho with
    | inl howning =>
        obtain ⟨s, hs, hsid, hkey⟩ := howning.exists
        exact ⟨hsid ▸ hdisk.drawn s hs, fun s' hs' hsid' =>
          (hdisk.sole s' hs' s hs (hsid'.trans hsid.symm)).trans hkey⟩
    | inr hnew => exact ⟨hnew.1, fun s hs hsid => absurd ⟨s, hs, hsid⟩ hnew.2⟩
  refine ⟨w.exec_distinct o hdisk.distinct, fun r hr => ?_, fun r hr s hs hsid => ?_⟩
  · cases World.mem_exec_records o w hr with
    | inl hold => exact (hdisk.drawn r hold).trans_le hnext
    | inr hnew => exact (written hnew).1.trans_le hnext
  · cases World.mem_exec_records o w hr with
    | inl hr =>
        cases World.mem_exec_records o w hs with
        | inl hs => exact hdisk.sole r hr s hs hsid
        | inr hnew => exact (written hnew).2 r hr hsid
    | inr hnew =>
        cases World.mem_exec_records o w hs with
        | inl hs => exact ((written hnew).2 s hs hsid.symm).symm
        | inr hnew' =>
            rw [hnew] at hnew'
            cases hnew'
            rfl

/-- The first write of an open, before its attach has reported a backend. -/
def FirstWrite : Activity → TransportSession → Prop
  | .openSession .., r => r.recordState = .opening ∧ r.backendPid = none
  | _, _ => False

instance (tag : Activity) (r : TransportSession) : Decidable (FirstWrite tag r) := by
  unfold FirstWrite
  split <;> infer_instance

/-- Every write back finds the record of its own session. -/
def WritesBackOwn : Activity → Op → World → Prop
  | tag, .writeRecord r none, w => FirstWrite tag r ∨ w.Owning r
  | _, _, _ => True

instance (tag : Activity) (o : Op) (w : World) : Decidable (WritesBackOwn tag o w) := by
  unfold WritesBackOwn
  split <;> infer_instance

theorem not_firstWrite_backend (tag : Activity) (r : TransportSession) (pid : Nat)
    (start : Option String) :
    ¬ FirstWrite tag { r with backendPid := some pid, backendStartTime := start } := by
  cases tag with
  | openSession => exact fun h => by cases h.2
  | _ => exact id

theorem not_firstWrite_of_state {tag : Activity} {r : TransportSession}
    (hstate : r.recordState ≠ .opening) : ¬ FirstWrite tag r := by
  cases tag with
  | openSession => exact fun h => hstate h.1
  | _ => exact id

/-! ## The discipline -/

/-- A thread that has drawn the id of a session writes its first record once. -/
def recordRule (tag : Activity) : Prog.Rule Op.Resp Raised (Option Nat)
  | .admission (.admitOpen ..), Q, g => (∀ e, Q (.error e) g) ∧ ∀ h, Q (.ok h) (some h.handleId)
  | .admission (.admitRecovery ..), Q, g =>
      (∀ e, Q (.error e) g) ∧ ∀ h, Q (.ok h) (some h.handleId)
  | .writeRecord r _, Q, g =>
      (¬ FirstWrite tag r ∧ ∀ a, Q a g) ∨ (g = some r.sessionId ∧ ∀ a, Q a none)
  | _, Q, g => ∀ a, Q a g

/-- The disk is in order, a drawn id is new, and the spent ids are not drawn again. -/
def recordOwners (spent : Nat → Prop) :
    Discipline Op.Resp Raised World Activity (Option Nat) Empty where
  rule := recordRule
  post := fun _ _ _ => True
  inv := fun w => OwnedDisk w ∧ ∀ s, spent s → s < w.admission.nextId
  knows := fun _ w g => ∀ s ∈ g, s < w.admission.nextId ∧ ¬ spent s ∧ ¬ w.OnDisk s
  start := fun _ => none
  due := fun _ x => x.elim
  owns := fun _ x => x.elim
  apart := fun g g' => ∀ s ∈ g, s ∉ g'

/-! ## The programs keep to it -/

section Programs

open Prog

variable {tag : Activity}

/-- The operations that are no first write. -/
def Op.WritesBack (tag : Activity) : Op → Prop
  | .writeRecord r _ => ¬ FirstWrite tag r
  | _ => True

/-- A program without a first write may do anything. -/
theorem record_writesBack {α : Type} {p : Proc α} (hp : p.Calls (Op.WritesBack tag))
    (g : Option Nat) : p.wp (recordRule tag) (fun _ _ => True) g := by
  refine hp.wp (K := fun _ => True) (fun o ho R g _ hR => ?_) (fun _ _ _ => trivial) trivial
  cases o with
  | admission c =>
      cases c with
      | admitOpen | admitRecovery => exact ⟨fun e => hR _ _ trivial, fun h => hR _ _ trivial⟩
      | _ => exact fun a => hR a g trivial
  | writeRecord r fault => exact .inl ⟨ho, fun a => hR a g trivial⟩
  | _ => exact fun a => hR a g trivial

/-- The operations of an open up to its first write. -/
def Op.Acquires : Op → Prop
  | .admission (.admitOpen ..) | .admission (.admitRecovery ..) | .writeRecord .. => False
  | _ => True

/-- They leave what the thread has drawn. -/
theorem record_step {α β : Type} {p : Proc α} {f : α → Proc β} {g : Option Nat}
    (hp : p.Calls Op.Acquires) (hf : ∀ a, (f a).wp (recordRule tag) (fun _ _ => True) g) :
    (p >>= f).wp (recordRule tag) (fun _ _ => True) g := by
  refine hp.wp_bind (K := (· = g)) (fun o ho R g' hg hR => ?_) (fun a _ hg => hg ▸ hf a)
    (fun _ _ _ => trivial) rfl
  cases o with
  | admission c =>
      cases c with
      | admitOpen | admitRecovery => exact ho.elim
      | _ => exact fun a => hR a _ hg
  | writeRecord => exact ho.elim
  | _ => exact fun a => hR a _ hg

theorem Op.OfUnwind.acquires {o : Op} (ho : o.OfUnwind) : o.Acquires := by
  cases o with
  | admission c => cases c with
    | admitOpen | admitRecovery => exact ho.elim
    | _ => trivial
  | writeRecord => exact ho.elim
  | _ => trivial

theorem Op.OfUnwind.writesBack {o : Op} (ho : o.OfUnwind) : o.WritesBack tag := by
  cases o with
  | writeRecord => exact ho.elim
  | _ => trivial

/-- The first write, and the unwind if it fails. -/
theorem record_first {env : OpenEnv} {request : OpenRequest} {handle : AdmissionHandle} {selection : Selection} {provider : String}
    {guardToken : GuardToken} {lease : Option Nat} {state : OpenState} {β : Type}
    {f : TransportSession × OpenState → Proc β}
    (hf : ∀ record state', (f (record, state')).Calls (Op.WritesBack tag)) :
    (orRollback env request.targetKey handle state
        (writeOpeningRecord env request handle selection provider guardToken lease state) >>=
      f).wp (recordRule tag) (fun _ _ => True) (some handle.handleId) := by
  have hcalls : ∀ e, (rollbackOpen env request.targetKey handle state >>= fun _ =>
      (.raise e : Proc (TransportSession × OpenState))).Calls (Op.WritesBack tag) := fun e =>
    .bind ((rollbackOpen_ofUnwind env _ handle state).mono fun _ ho => ho.writesBack) fun _ =>
      trivial
  have hunwind : ∀ (e : Raised) g, ((rollbackOpen env request.targetKey handle state >>= fun _ =>
      (.raise e : Proc (TransportSession × OpenState))) >>= f).wp (recordRule tag)
        (fun _ _ => True) g := fun e g => record_writesBack (.bind (hcalls e) fun a => hf a.1 a.2) g
  intro kept
  cases kept with
  | error e => exact hunwind e _
  | ok u =>
      refine .inr ⟨rfl, fun written => ?_⟩
      cases written with
      | error e => exact hunwind e _
      | ok u => exact record_writesBack (hf _ _) none

/-- What an open writes after its first record names a backend or is ready. -/
theorem openAdmitted_records (env : OpenEnv) (capability : TransportCapability)
    (request : OpenRequest) (recovery : Bool) (handle : AdmissionHandle) :
    (openAdmitted env capability request recovery handle).wp (recordRule tag) (fun _ _ => True)
      (some handle.handleId) := by
  have before : ∀ {α : Type} (state : OpenState) {step : Proc α}, step.Calls Op.Acquires →
      (orRollback env request.targetKey handle state step).Calls Op.Acquires := fun state _ h =>
    orRollback_calls (fun _ ho => ho.acquires) env _ handle state h
  have after : ∀ {α : Type} (state : OpenState) {step : Proc α}, step.Calls (Op.WritesBack tag) →
      (orRollback env request.targetKey handle state step).Calls (Op.WritesBack tag) :=
    fun state _ h => orRollback_calls (fun _ ho => ho.writesBack) env _ handle state h
  have console : (acquireConsole capability request.targetKey).Calls Op.Acquires := by
    unfold acquireConsole
    split
    · exact .bind (.call trivial) fun _ => trivial
    · trivial
  unfold openAdmitted
  refine record_step (before _ (calls_ofExcept _)) fun channel => ?_
  refine record_step (before _ (calls_ofExcept _)) fun selection => ?_
  refine record_step (before _ (calls_ofExcept _)) fun _ => ?_
  refine record_step (before _ (.call trivial)) fun guardToken => ?_
  refine record_step (before _ (calls_ofExcept _)) fun _ => ?_
  refine record_step (before _ console) fun leaseToken => ?_
  refine record_step (before _ (calls_ofExcept _)) fun _ => ?_
  refine record_step (before _ (calls_ofExcept _)) fun _ => ?_
  refine record_first fun record state => ?_
  refine .bind (after _ (calls_ofExcept _)) fun _ =>
    .bind (reportPartials_calls (fun _ ho => ho.writesBack) (fun _ _ => trivial)
      (fun _ _ => trivial) env _ handle _ ?_ env.partials state) fun state =>
    .bind (after _ (calls_ofExcept _)) fun attachment =>
    .bind (.forSome fun _ _ => .call trivial) fun _ =>
    .bind (after _ (calls_ofExcept _)) fun _ => .bind (after _ (.call ?_)) fun _ =>
    .bind (after _ (calls_ofExcept _)) fun _ => .bind (after _ ?_) fun _ => trivial
  · exact fun pid start fault => not_firstWrite_backend tag record pid start
  · exact not_firstWrite_of_state nofun
  · refine .bind (.call trivial) fun _ => .when fun _ => .bind ?_ fun _ => .call trivial
    exact .bind (.call trivial) fun _ => .forSome fun _ _ => .when fun _ => .call trivial

theorem openSession_records (env : OpenEnv) (request : OpenRequest) (recovery : Bool) :
    (openSession env request recovery).wp (recordRule tag) (fun _ _ => True) none := by
  refine record_step (calls_ofExcept _) fun capability => ?_
  refine record_step (calls_ofExcept _) fun _ => ?_
  rw [wp_bind, admitRequest]
  split
  · exact (wp_perform _).mpr ⟨fun _ => trivial, fun handle =>
      openAdmitted_records env capability request recovery handle⟩
  · exact (wp_perform _).mpr ⟨fun _ => trivial, fun handle =>
      openAdmitted_records env capability request recovery handle⟩

/-- Every thread starts with nothing drawn and keeps to the rule. -/
theorem activity_records (tag : Activity) :
    (activityBody tag).wp (recordRule tag) (fun _ _ => True) none := by
  have others : (∀ r, ¬ FirstWrite tag r) →
      (activityBody tag).wp (recordRule tag) (fun _ _ => True) none := fun hnever =>
    record_writesBack (.all (fun o => by
      cases o with
      | writeRecord r fault => exact hnever r
      | _ => trivial) _) none
  cases tag with
  | openSession env request recovery =>
      exact (wp_void _).mpr (openSession_records env request recovery)
  | _ => exact others fun _ => id

end Programs

/-! ## The discipline is sound -/

section Sound

variable {spent : Nat → Prop} {tag : Activity} {o : Op} {w : World} {g : Option Nat}
  {Q : Except Raised o.Resp → Option Nat → Prop}

/-- An allowed write finds the record of its session, or its thread has drawn the id. -/
theorem owning_or_drawn {r : TransportSession}
    {Q : Except Raised Unit → Option Nat → Prop}
    (h : (recordOwners spent).Allows coordination WritesBackOwn tag (.writeRecord r none) w g Q) :
    w.Owning r ∨ g = some r.sessionId := by
  have hrule := h.rule
  cases h.cond with
  | inl hfirst =>
      cases hrule with
      | inl hback => exact absurd hfirst hback.1
      | inr hdrawn => exact .inr hdrawn.1
  | inr howning => exact .inl howning

theorem ownedDisk_exec
    (h : (recordOwners spent).Allows coordination WritesBackOwn tag o w g Q) :
    OwnedDisk (w.exec o).2 := by
  refine h.inv.1.exec fun r ho => ?_
  subst ho
  refine (owning_or_drawn h).imp id fun hdrawn => ?_
  obtain ⟨hlt, _, hoff⟩ := h.knows r.sessionId hdrawn
  exact ⟨hlt, hoff⟩

/-- A session that is on disk after an allowed operation was there before, or its id was
the one the thread had drawn. -/
theorem onDisk_exec (h : (recordOwners spent).Allows coordination WritesBackOwn tag o w g Q)
    {s : Nat} (hs : (w.exec o).2.OnDisk s) : w.OnDisk s ∨ g = some s := by
  obtain ⟨r, hr, rfl⟩ := hs
  cases World.mem_exec_records o w hr with
  | inl hold => exact .inl ⟨r, hold, rfl⟩
  | inr hnew =>
      subst hnew
      exact (owning_or_drawn h).imp World.Owning.onDisk id

/-- A new id is not on disk, is not spent, and no other thread has it. -/
theorem knows_drawn {handle : AdmissionHandle} (hinv : (recordOwners spent).inv w)
    (hid : handle.handleId = w.admission.nextId) :
    (recordOwners spent).knows tag (w.withAdmission (w.admission.registered handle))
      (some handle.handleId) := by
  intro s hs
  cases hs
  refine ⟨by simp [World.withAdmission, hid], fun hspent => ?_, fun ⟨r, hr, hsid⟩ => ?_⟩
  · exact absurd (hinv.2 _ hspent) (by omega)
  · exact absurd (hinv.1.drawn r hr) (by omega)

theorem staysApart_drawn {handle : AdmissionHandle}
    (hid : handle.handleId = w.admission.nextId) :
    (recordOwners spent).StaysApart w g (some handle.handleId) := by
  intro tag other hknows _ s hs hother
  cases hs
  exact absurd (hknows _ hother).1 (by omega)

theorem recordOwners_sound : Sound coordination (recordOwners spent) WritesBackOwn where
  inv := fun {tag o w g Q} h =>
    ⟨ownedDisk_exec h, fun s hs => (h.inv.2 s hs).trans_le (w.exec_evolves o).nextId⟩
  frame := by
    intro tag o w g Q h tag' g' hknows hapart s hs
    obtain ⟨hlt, hspent, hoff⟩ := hknows s hs
    refine ⟨hlt.trans_le (w.exec_evolves o).nextId, hspent, fun hon => ?_⟩
    cases onDisk_exec h hon with
    | inl hold => exact hoff hold
    | inr hdrawn => exact hapart s hdrawn hs
  learn := by
    intro tag o w g Q h
    have hrule := h.rule
    -- what the thread keeps in hand stays true
    have kept : (∀ r, o = .writeRecord r none → w.Owning r) → Q (w.exec o).1 g →
        ∃ g', (recordOwners spent).knows tag (w.exec o).2 g' ∧ Q (w.exec o).1 g' ∧
          (recordOwners spent).Hands w (w.exec o).2 g g' ∧
          (recordOwners spent).StaysApart w g g' := by
      intro howning hQ
      refine ⟨g, fun s hs => ?_, hQ, fun x => x.elim, fun _ _ _ hapart => hapart⟩
      obtain ⟨hlt, hspent, hoff⟩ := h.knows s hs
      refine ⟨hlt.trans_le (w.exec_evolves o).nextId, hspent, fun hon => hoff ?_⟩
      obtain ⟨r, hr, rfl⟩ := hon
      cases World.mem_exec_records o w hr with
      | inl hold => exact ⟨r, hold, rfl⟩
      | inr hnew => exact (howning r hnew).onDisk
    cases o with
    | admission c =>
        cases c with
        | admitOpen k request now =>
            simp only [coordination, World.exec, World.withAdmission, AdmissionService.after]
            rcases w.admission.perform_admitOpen k request now with
              ⟨e, heq⟩ | ⟨handle, heq, hadmits, _⟩
            · rw [heq]
              exact ⟨g, h.knows, hrule.1 _, fun x => x.elim, fun _ _ _ hapart => hapart⟩
            · rw [heq]
              exact ⟨_, knows_drawn h.inv hadmits.id, hrule.2 handle, fun x => x.elim,
                staysApart_drawn hadmits.id⟩
        | admitRecovery k request now =>
            simp only [coordination, World.exec, World.withAdmission, AdmissionService.after]
            rcases w.admission.perform_admitRecovery k request now with
              ⟨e, heq⟩ | ⟨handle, heq, hadmits, _⟩
            · rw [heq]
              exact ⟨g, h.knows, hrule.1 _, fun x => x.elim, fun _ _ _ hapart => hapart⟩
            · rw [heq]
              exact ⟨_, knows_drawn h.inv hadmits.id, hrule.2 handle, fun x => x.elim,
                staysApart_drawn hadmits.id⟩
        | _ => exact kept (fun r ho => by cases ho) (hrule _)
    | writeRecord r fault =>
        cases hrule with
        | inl hback =>
            refine kept (fun r' ho => ?_) (hback.2 _)
            cases ho
            exact h.cond.resolve_left hback.1
        | inr hdrawn =>
            exact ⟨none, fun s hs => absurd hs (Option.not_mem_none s), hdrawn.2 _,
              fun x => x.elim, fun _ _ _ _ s hs => absurd hs (Option.not_mem_none s)⟩
    | _ => exact kept (fun r ho => by cases ho) (hrule _)
  spawn := by
    intro tag o w g Q h tag' htag'
    cases o with
    | startWorker worker =>
        obtain rfl := List.mem_singleton.mp htag'
        exact ⟨fun s hs => absurd hs (Option.not_mem_none s), activity_records _⟩
    | _ => cases htag'
  fresh := fun _ tag' _ => ⟨fun _ _ s hs => absurd hs (Option.not_mem_none s),
    fun s _ => Option.not_mem_none s, fun s hs => absurd hs (Option.not_mem_none s)⟩
  symm := fun g g' h s hs hs' => h s hs' hs

end Sound

/-! ## Sessions that had a record -/

/-- A write of a record of the session finds one. -/
def WritesOver (sid : Nat) : Op → World → Prop
  | .writeRecord r none, w => r.sessionId = sid → w.Owning r
  | _, _ => True

section Spent

variable {sid : Nat} {k : TargetKey} {P : Pool Op.Resp Raised World Activity}
  {schedule : List Nat} {o : Op} {w : World}

/-- Once a session is on disk, every thread may take its id for spent. -/
theorem sat_spent (hP : (recordOwners fun _ => False).Sat P) (hon : P.world.OnDisk sid) :
    (recordOwners (· = sid)).Sat P := by
  obtain ⟨⟨hdisk, _⟩, ghost, hghost⟩ := hP
  refine ⟨⟨hdisk, fun s hs => ?_⟩, ghost, fun i t hi => ⟨fun s hs => ?_, (hghost.keeps i t hi).wp⟩,
    fun x => x.elim, hghost.apart⟩
  · obtain ⟨r, hr, hsid⟩ := hon
    have hlt := hdisk.drawn r hr
    rwa [hsid, ← hs] at hlt
  · obtain ⟨hlt, _, hoff⟩ := (hghost.keeps i t hi).knows s hs
    exact ⟨hlt, fun heq => hoff (heq ▸ hon), hoff⟩

/-- From then on its records are only written over one another. -/
theorem writesOver_along (hP : (recordOwners fun _ => False).Sat P) (hon : P.world.OnDisk sid)
    (hown : coordination.Along WritesBackOwn schedule P) :
    coordination.Along (fun _ => WritesOver sid) schedule P := by
  refine recordOwners_sound.along (fun {tag o w g Q} h => ?_) (sat_spent hP hon) hown
  cases o with
  | writeRecord r fault =>
      cases fault with
      | some kind => trivial
      | none =>
          intro hsid
          cases owning_or_drawn h with
          | inl howning => exact howning
          | inr hdrawn => exact absurd hsid (h.knows _ hdrawn).2.1
  | _ => trivial

/-- The records of a session stand at one target.  Once they are gone they stay gone. -/
structure Held (sid : Nat) (k : TargetKey) (w : World) (gone : Bool) : Prop where
  distinct : w.registry.Distinct
  key : ∀ r ∈ w.registry.records, r.sessionId = sid → r.targetKey = k
  gone : gone = true → ¬ w.OnDisk sid

theorem Held.exec {gone : Bool} (h : Held sid k w gone) (hover : WritesOver sid o w) :
    Held sid k (w.exec o).2 gone := by
  have written : ∀ {r}, o = .writeRecord r none → r.sessionId = sid →
      ∃ s ∈ w.registry.records, s.sessionId = sid ∧ s.targetKey = r.targetKey := by
    intro r ho hsid
    subst ho
    exact hsid ▸ (hover hsid).exists
  refine ⟨w.exec_distinct o h.distinct, fun r hr hsid => ?_, fun hgone hon => ?_⟩
  · cases World.mem_exec_records o w hr with
    | inl hold => exact h.key r hold hsid
    | inr hnew =>
        obtain ⟨s, hs, hs', hkey⟩ := written hnew hsid
        exact hkey ▸ h.key s hs hs'
  · obtain ⟨r, hr, hsid⟩ := hon
    cases World.mem_exec_records o w hr with
    | inl hold => exact h.gone hgone ⟨r, hold, hsid⟩
    | inr hnew =>
        obtain ⟨s, hs, hs', _⟩ := written hnew hsid
        exact h.gone hgone ⟨s, hs, hs'⟩

theorem Held.run {gone : Bool} (h : Held sid k P.world gone)
    (hover : coordination.Along (fun _ => WritesOver sid) schedule P) :
    Held sid k (coordination.run schedule P).world gone :=
  coordination.run_inv (I := fun w => Held sid k w gone) (fun _ _ _ h hover => h.exec hover) h hover

/-- What stands at a target is all a session can have there. -/
theorem Held.of_readRecord (h : Held sid k w false)
    (hread : ∀ s, w.registry.readRecord k = some s → s.sessionId ≠ sid) : Held sid k w true := by
  refine ⟨h.distinct, h.key, fun _ ⟨r, hr, hsid⟩ => ?_⟩
  have hkey := h.key r hr hsid
  exact hread r (hkey ▸ h.distinct.readRecord hr) hsid

end Spent

/-! ## A close that returns -/

section Close

open Prog

variable {sid : Nat} {k : TargetKey} {gone : Bool}

/-- What a close knows of its session while others act. -/
abbrev heldRule (sid : Nat) (k : TargetKey) : Prog.Rule Op.Resp Raised Bool :=
  coordination.knowing (Held sid k)

/-- The operations that write no record. -/
def Op.WritesNoRecord : Op → Prop
  | .writeRecord .. => False
  | _ => True

theorem held_writesNoRecord {o : Op} (ho : o.WritesNoRecord)
    {Q : Except Raised o.Resp → Bool → Prop} (hQ : ∀ r, Q r gone) : heldRule sid k o Q gone := by
  intro w h
  refine ⟨gone, h.exec ?_, hQ _⟩
  cases o with
  | writeRecord => exact ho.elim
  | _ => trivial

theorem held_step {α β : Type} {p : Proc α} {f : α → Proc β}
    {Q : Except Raised β → Bool → Prop} (hp : p.Calls Op.WritesNoRecord)
    (hf : ∀ a, (f a).wp (heldRule sid k) Q gone) (herror : ∀ e, Q (.error e) gone) :
    (p >>= f).wp (heldRule sid k) Q gone :=
  hp.wp_bind (K := (· = gone))
    (fun _ ho _ _ hg hR => hg ▸ held_writesNoRecord ho fun r => hR r _ rfl)
    (fun a _ hg => hg ▸ hf a) (fun e _ hg => hg ▸ herror e) rfl

/-- An unlink that goes through leaves no record of the session, whatever it hits. -/
theorem unlink_gone (unlink : Fault) :
    heldRule sid k (.unlinkRecord k sid unlink) (fun r g => r = .ok () → g = true) gone := by
  intro w h
  cases unlink with
  | some kind => exact ⟨gone, h.exec trivial, nofun⟩
  | none =>
      refine ⟨true, ⟨(h.exec (o := .unlinkRecord k sid none) trivial).distinct,
        (h.exec (o := .unlinkRecord k sid none) trivial).key, fun _ ⟨r, hr, hsid⟩ => ?_⟩, fun _ => rfl⟩
      have hmem : r ∈ (w.registry.unlinkRecord k).records := hr
      have hkept := List.mem_filter.mp hmem
      simpa [h.key r hkept.1 hsid] using hkept.2

/-- A delete that returns leaves no record of the session. -/
theorem deleteRecord_gone (unlink : Fault) :
    (deleteRecord k sid unlink).wp (heldRule sid k) (fun r g => r = .ok () → g = true) gone := by
  rw [deleteRecord, wp_bind, wp_perform]
  intro w h
  have absent : ∀ {g : Bool}, (∀ s, w.registry.readRecord k = some s → s.sessionId ≠ sid) →
      Held sid k w g → Held sid k w true := fun hread h =>
    Held.of_readRecord ⟨h.distinct, h.key, nofun⟩ hread
  cases hread : w.registry.readRecord k with
  | none =>
      refine ⟨true, absent (fun s hs => ?_) h, ?_⟩
      · rw [hread] at hs
        cases hs
      · show (Prog.forSome (w.registry.readRecord k) _).wp _ _ _
        rw [hread]
        exact fun _ => rfl
  | some record =>
      by_cases hsid : record.sessionId = sid
      · refine ⟨gone, h, ?_⟩
        show (Prog.forSome (w.registry.readRecord k) _).wp _ _ _
        rw [hread]
        show (Prog.when (record.sessionId = sid) _).wp _ _ _
        refine wp_when.mpr ⟨fun _ => (wp_perform _).mpr ?_, fun hne => absurd hsid hne⟩
        exact unlink_gone unlink
      · refine ⟨true, absent (fun s hs => ?_) h, ?_⟩
        · rw [hread, Option.some.injEq] at hs
          exact hs ▸ hsid
        · show (Prog.forSome (w.registry.readRecord k) _).wp _ _ _
          rw [hread]
          exact wp_when.mpr ⟨fun heq => absurd heq hsid, fun _ _ => rfl⟩

theorem raiseCloseFailures_ok {closeError : Option Raised} {errors : List Raised}
    (h : raiseCloseFailures closeError errors = .ok ()) : errors = [] := by
  cases closeError <;> cases errors <;> first | rfl | cases h

/-- The end of a close, once the delete joined its error. -/
theorem closeTail_gone (sid : Nat) (k : TargetKey) (env : CloseEnv) (closeError : Option Raised)
    {errors : List Raised} (h : errors = [] → gone = true) :
    (do
      let errors ← cleanup errors (Prog.when env.dispatcher (call (.unsubscribe k sid)))
      .ofExcept (raiseCloseFailures closeError errors) : Proc Unit).wp (heldRule sid k)
      (fun r g => r = .ok () → g = true) gone := by
  have hcalls : (Prog.when env.dispatcher (call (.unsubscribe k sid))).Calls Op.WritesNoRecord :=
    .when fun _ => .call trivial
  rw [wp_bind, cleanup, wp_bind, wp_attempt]
  refine hcalls.wp (K := (· = gone)) (fun _ ho _ _ hg hR => hg ▸ held_writesNoRecord ho
    fun r => hR r _ rfl) (fun r g hg => ?_) rfl
  subst hg
  cases r with
  | ok u => exact (wp_ofExcept _).mpr fun hok => h (raiseCloseFailures_ok hok)
  | error e =>
      show (if e.isException then _ else _ : Proc (List Raised)).wp _ _ _
      split
      · exact (wp_ofExcept _).mpr fun hok => by simpa using raiseCloseFailures_ok hok
      · exact nofun

/-- A close that found the record of the session. -/
theorem closeRecord_gone {env : CloseEnv} {record : TransportSession} {force : Bool}
    {closeError : Option Raised} (hkey : record.targetKey = k) (hsid : record.sessionId = sid) :
    (closeRecord env record sid force closeError).wp (heldRule sid k)
      (fun r g => r = .ok () → g = true) gone := by
  have cleaned : ∀ (errors : List Raised) {step : Proc Unit}, step.Calls Op.WritesNoRecord →
      (cleanup errors step).Calls Op.WritesNoRecord := fun errors _ h => cleanup_calls errors h
  refine held_step (cleaned _ (.forSome fun _ _ => .void (.call trivial))) (fun _ => ?_) nofun
  refine held_step (.call trivial) (fun token => ?_) nofun
  refine held_step (cleaned _ (.forSome fun _ _ => .void (.call trivial))) (fun _ => ?_) nofun
  refine held_step (.call trivial) (fun handle => ?_) nofun
  refine held_step (cleaned _ (.forSome fun _ _ => .call trivial)) (fun _ => ?_) nofun
  refine held_step (cleaned _ (.when fun _ => .bind (.call trivial) fun _ => .call trivial))
    (fun errors => ?_) nofun
  rw [wp_bind, cleanup, wp_bind, wp_attempt, hkey, hsid]
  refine wp_mono (coordination.knowing_mono _) (fun r g hr => ?_) (deleteRecord_gone env.unlink)
  cases r with
  | ok u =>
      have htail := closeTail_gone sid k env closeError fun _ : errors = [] => hr rfl
      exact htail
  | error e =>
      show (if e.isException then _ else _ : Proc (List Raised)).wp _ _ _
      split
      · have hne : errors ++ [e] = [] → g = true := fun hnil => by simp at hnil
        have htail := closeTail_gone sid k env closeError hne
        exact htail
      · exact nofun

/-- A close that returns leaves no record of its session. -/
theorem closeSession_gone (env : CloseEnv) (force : Bool) :
    (closeSession env sid force).wp (heldRule sid k) (fun r g => r = .ok () → g = true) gone := by
  rw [closeSession_eq, wp_bind, recordBySessionId, wp_bind, wp_perform]
  intro w h
  cases hfound : w.registry.records.find? fun record => record.sessionId = sid with
  | none =>
      have hoff : ¬ w.OnDisk sid := by
        rintro ⟨r, hr, hsid⟩
        simpa [hsid] using List.find?_eq_none.mp hfound r hr
      refine ⟨true, ⟨h.distinct, h.key, fun _ => hoff⟩, ?_⟩
      show (Prog.forSome (w.registry.records.find? fun record => record.sessionId = sid) _).wp _ _ _
      rw [hfound]
      exact fun _ => rfl
  | some record =>
      have hsid : record.sessionId = sid := by simpa using List.find?_some hfound
      have hkey : record.targetKey = k := h.key record (List.mem_of_find?_eq_some hfound) hsid
      refine ⟨gone, h, ?_⟩
      show (Prog.forSome (w.registry.records.find? fun record => record.sessionId = sid) _).wp _ _ _
      rw [hfound]
      refine held_step (calls_ofExcept _) (fun _ => ?_) (by simp)
      rw [wp_bind, wp_perform]
      intro w h
      have hwritten : Held sid k (w.exec (.writeRecord { record with recordState := .closing }
          env.closingWrite)).2 false := by
        refine ⟨w.exec_distinct _ h.distinct, fun r hr hsid => ?_, by simp⟩
        cases World.mem_exec_records _ w hr with
        | inl hold => exact h.key r hold hsid
        | inr hnew =>
            rw [Op.writeRecord.injEq] at hnew
            exact hnew.1 ▸ hkey
      refine ⟨false, hwritten, ?_⟩
      generalize (coordination.exec (.writeRecord { record with recordState := .closing }
        env.closingWrite) w).1 = written
      cases written with
      | error e => simp
      | ok u =>
          refine held_step (.when fun _ => .call trivial) (fun _ => ?_) (by simp)
          refine held_step (calls_ofExcept _) (fun closeError => ?_) (by simp)
          exact closeRecord_gone hkey hsid

end Close

/-! ## Stale writes -/

/-- A thread has returned. -/
def Returned (P : Pool Op.Resp Raised World Activity) (i : Nat) : Prop :=
  match P.threads[i]? with
  | some ⟨_, .ret _⟩ => True
  | _ => False

instance (P : Pool Op.Resp Raised World Activity) (i : Nat) : Decidable (Returned P i) := by
  unfold Returned
  split <;> infer_instance

/-- Three moments of a run.  What was deleted by the second is not there at the third, a
close that starts at the first and has returned at the second left nothing, and no other
session's record has made way for the session's. -/
structure SpentForGood (sid : Nat) (P P' P'' : Pool Op.Resp Raised World Activity) : Prop where
  deleted : ¬ P'.world.OnDisk sid → ¬ P''.world.OnDisk sid
  closed : ∀ i env force, P.threads[i]? = some (coordination.start (.closeSession env sid force)) →
    Returned P' i → ¬ P''.world.OnDisk sid
  replaced : ∀ k old new, P'.world.registry.readRecord k = some old →
    P''.world.registry.readRecord k = some new → new.sessionId = sid → old.sessionId = sid

/-- In every run in which each write back finds the record of its own session, no
session whose record is gone has one again, and a record makes way only for that of a
session that had none before. -/
theorem stale_writes (w : World) (hdisk : OwnedDisk w) (tags : List Activity)
    (before during after : List Nat)
    (hown : coordination.Along WritesBackOwn (before ++ during ++ after)
      (coordination.pool w tags))
    (sid : Nat) (hon : (coordination.run before (coordination.pool w tags)).world.OnDisk sid) :
    SpentForGood sid (coordination.run before (coordination.pool w tags))
      (coordination.run (before ++ during) (coordination.pool w tags))
      (coordination.run (before ++ during ++ after) (coordination.pool w tags)) := by
  have hstart : (recordOwners fun _ => False).Sat (coordination.pool w tags) :=
    Discipline.sat_pool coordination ⟨hdisk, fun _ => False.elim⟩ (fun x => x.elim)
      (fun tag _ => ⟨fun s hs => absurd hs (Option.not_mem_none s), activity_records tag⟩)
      fun _ _ _ _ s hs => absurd hs (Option.not_mem_none s)
  rw [List.append_assoc, Machine.along_append] at hown
  obtain ⟨hbefore, hrest⟩ := hown
  have hsat := recordOwners_sound.sat_run hstart hbefore
  simp only [Machine.run_append]
  generalize coordination.run before (coordination.pool w tags) = P at *
  -- the session stands at one target, and its records are only written over one another
  obtain ⟨r, hr, hsid⟩ := hon
  have hover := writesOver_along hsat ⟨r, hr, hsid⟩ hrest
  obtain ⟨hoverDuring, hoverAfter⟩ := (coordination.along_append _ _ _).mp hover
  have hheld : Held sid r.targetKey P.world false :=
    ⟨hsat.1.1.distinct, fun s hs hs' => hsat.1.1.sole s hs r hr (hs'.trans hsid.symm), nofun⟩
  have hend : Held sid r.targetKey (coordination.run during P).world false :=
    hheld.run hoverDuring
  have gone : ¬ (coordination.run during P).world.OnDisk sid →
      ¬ (coordination.run after (coordination.run during P)).world.OnDisk sid := fun hoff =>
    (Held.run ⟨hend.distinct, hend.key, fun _ => hoff⟩ hoverAfter).gone rfl
  refine ⟨gone, fun i env force hi hreturned => gone ?_, fun k old new hold hnew hnew' => ?_⟩
  · have hothers : coordination.Along (fun _ o w => ∀ g, Held sid r.targetKey w g →
        Held sid r.targetKey (coordination.exec o w).2 g) during P :=
      hoverDuring.mono fun _ _ _ hover _ h => h.exec hover
    obtain ⟨rest, g, hi', hheld', hwp⟩ :=
      Machine.follow hothers hi hheld (closeSession_gone env force)
    rw [Returned, hi'] at hreturned
    cases rest with
    | ret u => exact hheld'.gone (hwp rfl)
    | raise e => exact hreturned.elim
    | call o next => exact hreturned.elim
  · -- another record at the session's target leaves it none there, and so none at all
    by_contra hne
    have hmem := SessionRegistry.mem_of_readRecord hnew
    refine gone (fun hon' => ?_) ⟨new, hmem.1, hnew'⟩
    obtain ⟨s, hs, hs'⟩ := hon'
    have hkey : k = r.targetKey := hmem.2 ▸ (hend.run hoverAfter).key new hmem.1 hnew'
    have hfound := hend.distinct.readRecord hs
    rw [hend.key s hs hs', ← hkey, hold, Option.some.injEq] at hfound
    exact hne (hfound ▸ hs')

/-- Boot and an open: session 0 owns the target. -/
def openedWorld : World :=
  (serve .empty
    [.admission (.publishSnapshot (localTarget "run") (bootReadySnapshot 1 gdbstubEndpoint true)),
      .openSession .calm (debugOpenRequest "run" gdbstubEndpoint 1 (bootPlatform true)) false]
    (0 :: .replicate 6 1)).world

theorem openedWorld_owned : OwnedDisk openedWorld where
  distinct := by decide +kernel
  drawn := by decide +kernel
  sole := by decide +kernel

/-- A break of session 0, a close of it, and the next open. -/
def breakAgainstClose (force : Bool) : List Activity :=
  [.injectBreak .calm "run" 0, .closeSession .calm 0 force,
    .openSession .calm (debugOpenRequest "run" gdbstubEndpoint 1 (bootPlatform true)) false]

/-- The session whose record stands at the target. -/
def ownerOf (P : Pool Op.Resp Raised World Activity) (k : TargetKey) : Option Nat :=
  (P.world.registry.readRecord k).map TransportSession.sessionId

/-- The break ends before the close starts. -/
theorem stale_writes_ordered :
    let moment := fun schedule => coordination.run schedule
      (coordination.pool openedWorld (breakAgainstClose true))
    SpentForGood 0 (moment (.replicate 4 0)) (moment (.replicate 4 0 ++ .replicate 9 1))
        (moment (.replicate 4 0 ++ .replicate 9 1 ++ .replicate 6 2)) ∧
      Returned (moment (.replicate 4 0 ++ .replicate 9 1)) 1 ∧
      ownerOf (moment (.replicate 4 0 ++ .replicate 9 1 ++ .replicate 6 2)) (localTarget "run") =
        some 1 :=
  ⟨stale_writes openedWorld openedWorld_owned (breakAgainstClose true) (.replicate 4 0)
    (.replicate 9 1) (.replicate 6 2) (by decide +kernel) 0 (by decide +kernel),
    by decide +kernel, by decide +kernel⟩

/-- The break looks session 0 up, the close ends, session 1 opens, and the break writes
the record of session 0 over the one of session 1. -/
theorem stale_writes_resurrect :
    let P := coordination.pool openedWorld (breakAgainstClose false)
    let P' := coordination.run (0 :: (.replicate 9 1 ++ .replicate 6 2)) P
    let P'' := coordination.run (0 :: (.replicate 9 1 ++ .replicate 6 2) ++ [0]) P
    Returned P' 1 ∧ ownerOf P' (localTarget "run") = some 1 ∧
      ownerOf P'' (localTarget "run") = some 0 ∧ ¬ SpentForGood 0 P P' P'' := by
  refine ⟨by decide +kernel, by decide +kernel, by decide +kernel, fun h => ?_⟩
  exact h.closed 1 .calm false rfl (by decide +kernel) (by decide +kernel)

end Kdive

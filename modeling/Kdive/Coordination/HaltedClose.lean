import Kdive.Coordination.RecoveryMarker

/-!
# Closing a session whose kernel is parked

`close` releases the guard of its session, disposes of its handle and only then
marks the target.  Until the mark an ordinary open is admitted, acquires the
guard and commits on a stopped kernel.  What gives the window away is the record
of the closing session, which stays on disk until the mark.

*Phases.*  A close starts with the guard held, has its closing record on disk when
it lets go of it, and is through with the window once the marker is in force.  An
open is outside until it acquires the guard.  If it does so only when no parked
record is on disk, it does so before the window or after it.
-/

namespace Kdive

open Checked Interleaving Program

/-! ## The window -/

/-- The marker of a record's target is in force. -/
def InForce (w : World) (record : TransportSession) : Prop :=
  w.admission.MarkedFrom record.targetKey record.generation

instance (w : World) (record : TransportSession) : Decidable (InForce w record) :=
  inferInstanceAs (Decidable (∃ m ∈ _, _))

/-- An open session whose recorded kernel is not running. -/
structure ParkedSession (w : World) (record : TransportSession) (token : GuardToken) : Prop where
  recorded : record ∈ w.registry.records
  alone : ∀ r ∈ w.registry.records, r.sessionId = record.sessionId → r = record
  parked : Parked record
  held : w.guard.holders record.targetKey = some token

/-- The session has lost the guard and the marker is not in force yet. -/
def InWindow (w : World) (record : TransportSession) (token : GuardToken) : Prop :=
  w.guard.holders record.targetKey ≠ some token ∧ ¬ InForce w record

/-- No ordinary open commits in the window. -/
def CommitsOutside (record : TransportSession) (token : GuardToken) (tag : Activity) (o : Op)
    (w : World) : Prop :=
  match tag, o with
  | .openSession _ _ false, .commit .. => ¬ InWindow w record token
  | _, _ => True

/-- An ordinary open that acquires the guard finds no parked record on disk whose
marker is not in force, and a close can write its tombstone. -/
def AcquiresUnparked (tag : Activity) (o : Op) (w : World) : Prop :=
  match tag, o with
  | .openSession _ _ false, .guardAcquire k =>
      w.guard.holders k = none → ∀ r ∈ w.registry.readRecord k, Parked r → InForce w r
  | .closeSession .., .writeTombstone _ fault => fault = none
  | _, _ => True

/-! ## Operations -/

/-- The operations that leave the records, the guard and the markers alone. -/
def Op.Quiet : Op → Prop
  | .writeRecord .. | .unlinkRecord .. | .guardAcquire _ | .guardRelease .. | .startWorker _
  | .commit .. => False
  | .admission c => ¬ c.Marks
  | _ => True

/-- The operations that take no marker away and start no thread. -/
def Op.KeepsMark : Op → Prop
  | .admission (.clearRecoveryRequired ..) | .startWorker _ => False
  | _ => True

theorem Op.OfOpen.keepsMark {o : Op} (ho : o.OfOpen) : o.KeepsMark := by
  cases o with
  | admission c => cases c with
    | rollback h => trivial
    | _ => exact ho.elim
  | startWorker => exact ho
  | _ => trivial

theorem Op.OfClose.keepsMark {o : Op} (ho : o.OfClose) : o.KeepsMark := by
  cases o with
  | admission c => cases c with
    | complete | markRecoveryRequired => trivial
    | _ => exact ho.elim
  | startWorker => exact ho
  | _ => trivial

section Operations

variable {w : World} {o : Op} {record : TransportSession}

theorem InForce.exec (h : InForce w record) (ho : o.KeepsMark) :
    InForce (w.exec o).2 record := by
  unfold InForce
  rw [World.exec_admission]
  cases o with
  | admission c =>
      refine AdmissionService.MarkedFrom.after h fun k g heq => ?_
      subst heq
      exact ho
  | lifecycleFence k g close =>
      cases close with
      | false => exact h
      | true => exact AdmissionService.MarkedFrom.after h fun _ _ heq => by cases heq
  | commit handle =>
      exact AdmissionService.MarkedFrom.after h fun _ _ heq => by cases heq
  | _ => exact h

theorem exec_quiet_guard (ho : o.Quiet) : (w.exec o).2.guard = w.guard := by
  cases o with
  | guardAcquire | guardRelease | commit => exact ho.elim
  | _ => rfl

theorem exec_quiet_records (ho : o.Quiet) :
    (w.exec o).2.registry.records = w.registry.records := by
  cases o with
  | writeRecord | unlinkRecord | commit => exact ho.elim
  | writeTombstone t fault => cases fault <;> rfl
  | unlinkTombstone k fault => cases fault <;> rfl
  | _ => rfl

theorem Op.Quiet.keepsMark (ho : o.Quiet) : o.KeepsMark := by
  cases o with
  | admission c => cases c with
    | clearRecoveryRequired => exact absurd trivial ho
    | _ => trivial
  | startWorker => exact ho
  | _ => trivial

end Operations

/-! ## Phases -/

/-- How far a thread is. -/
inductive ClosePhase where
  /-- An open that has not acquired the guard. -/
  | outside
  /-- A close that has not written its closing record. -/
  | start
  /-- A close that has, and has not marked the target. -/
  | closing
  /-- The marker is in force. -/
  | marked
deriving DecidableEq, Repr, Inhabited

/-- A record says what the record of the session says of its kernel. -/
structure SameKernel (record r : TransportSession) : Prop where
  key : r.targetKey = record.targetKey
  generation : r.generation = record.generation
  parked : Parked r

/-- The session or nobody holds the guard. -/
def HeldOrFree (w : World) (record : TransportSession) (token : GuardToken) : Prop :=
  w.guard.holders record.targetKey = some token ∨ w.guard.holders record.targetKey = none

/-- The record on disk says that the kernel is parked. -/
def ParkedOnDisk (w : World) (record : TransportSession) : Prop :=
  ∃ r, w.registry.readRecord record.targetKey = some r ∧ SameKernel record r

/-- What a thread in a phase knows. -/
def ClosePhase.Knows (record : TransportSession) (token : GuardToken) (w : World) :
    ClosePhase → Prop
  | .outside => True
  | .start => InForce w record ∨ HeldOrFree w record token ∧
      ∀ r ∈ w.registry.records, r.sessionId = record.sessionId → SameKernel record r
  | .closing => InForce w record ∨ HeldOrFree w record token ∧ ParkedOnDisk w record
  | .marked => InForce w record

/-- The session holds the guard, or its record stands, or the marker is in force. -/
def Guarded (record : TransportSession) (token : GuardToken) (w : World) : Prop :=
  InForce w record ∨ w.guard.holders record.targetKey = some token ∨
    w.guard.holders record.targetKey = none ∧ ParkedOnDisk w record

/-- What an operation of an open outside the window needs. -/
def outsideRule (record : TransportSession) (o : Op)
    (Q : Except Raised o.Resp → ClosePhase → Prop) : Prop :=
  match o with
  | .guardAcquire k =>
      k = record.targetKey ∧ (∀ e, Q (.error e) .outside) ∧ ∀ t, Q (.ok t) .marked
  | o => o.Quiet ∧ ∀ r, Q r .outside

/-- What an operation of a close needs until it writes its closing record. -/
def startRule (record : TransportSession) (o : Op)
    (Q : Except Raised o.Resp → ClosePhase → Prop) : Prop :=
  match o with
  | .listRecords =>
      (∀ records, (∀ r ∈ records, r.sessionId = record.sessionId → SameKernel record r) →
        Q (.ok records) .start) ∧ ∀ records, Q (.ok records) .marked
  | .writeRecord r _ => SameKernel record r ∧ (∀ e, Q (.error e) .start) ∧ Q (.ok ()) .closing
  | _ => False

/-- What an operation of a close needs until it marks the target. -/
def closingRule (record : TransportSession) (o : Op)
    (Q : Except Raised o.Resp → ClosePhase → Prop) : Prop :=
  match o with
  | .guardRelease k _ => k = record.targetKey ∧ ∀ r, Q r .closing
  | .writeTombstone _ fault => fault = none → Q (.ok ()) .closing
  | .admission (.markRecoveryRequired k g) =>
      (k = record.targetKey ∧ g = record.generation) ∧ ∀ r, Q r .marked
  | o => o.Quiet ∧ ∀ r, Q r .closing

/-- What an operation needs in a phase. -/
def closeRule (record : TransportSession) (tag : Activity) :
    Prog.Rule Op.Resp Raised ClosePhase := fun o Q phase =>
  match phase with
  | .outside => (∃ env request, tag = .openSession env request false) ∧ outsideRule record o Q
  | .start => startRule record o Q
  | .closing => (∃ env sid force, tag = .closeSession env sid force) ∧ closingRule record o Q
  | .marked => o.KeepsMark ∧ ∀ r, Q r .marked

/-- A close against any number of opens. -/
def haltedClose (record : TransportSession) (token : GuardToken) :
    Discipline Op.Resp Raised World Activity ClosePhase Empty where
  rule := closeRule record
  post := fun _ _ _ => True
  inv := Guarded record token
  knows := fun _ w phase => phase.Knows record token w
  start
    | .closeSession .. => .start
    | _ => .outside
  due := fun _ x => x.elim
  owns := fun _ x => x.elim

/-! ## What an operation keeps -/

/-- What the phases know stays true. -/
structure Steady (record : TransportSession) (token : GuardToken) (w w' : World) : Prop where
  force : InForce w record → InForce w' record
  free : HeldOrFree w record token → HeldOrFree w' record token
  mine : (∀ r ∈ w.registry.records, r.sessionId = record.sessionId → SameKernel record r) →
    ∀ r ∈ w'.registry.records, r.sessionId = record.sessionId → SameKernel record r
  disk : ParkedOnDisk w record → ParkedOnDisk w' record
  guarded : Guarded record token w → Guarded record token w'

section Keeps

variable {record : TransportSession} {token : GuardToken} {w w' : World} {o : Op}
  {phase : ClosePhase}

theorem Steady.knows (h : InForce w' record ∨ Steady record token w w')
    (hk : phase.Knows record token w) : phase.Knows record token w' := by
  cases h with
  | inl hforce =>
      cases phase with
      | outside => trivial
      | start | closing => exact .inl hforce
      | marked => exact hforce
  | inr hsteady =>
      cases phase with
      | outside => trivial
      | start => exact hk.imp hsteady.force fun hheld =>
          ⟨hsteady.free hheld.1, hsteady.mine hheld.2⟩
      | closing => exact hk.imp hsteady.force fun hheld =>
          ⟨hsteady.free hheld.1, hsteady.disk hheld.2⟩
      | marked => exact hsteady.force hk

theorem Steady.inv (h : InForce w' record ∨ Steady record token w w')
    (hw : Guarded record token w) : Guarded record token w' :=
  h.elim .inl fun hsteady => hsteady.guarded hw

/-- The guard and the records are the same. -/
theorem Steady.of_same (hguard : w'.guard = w.guard)
    (hrecords : w'.registry.records = w.registry.records)
    (hforce : InForce w record → InForce w' record) : Steady record token w w' := by
  have hfree : HeldOrFree w record token → HeldOrFree w' record token := by
    unfold HeldOrFree
    rw [hguard]
    exact id
  have hdisk : ParkedOnDisk w record → ParkedOnDisk w' record := by
    unfold ParkedOnDisk SessionRegistry.readRecord
    rw [hrecords]
    exact id
  refine ⟨hforce, hfree, ?_, hdisk, ?_⟩
  · rw [hrecords]
    exact id
  · intro hw
    refine hw.imp hforce (Or.imp ?_ ?_)
    · rw [hguard]
      exact id
    · rw [hguard]
      exact And.imp_right hdisk

theorem steady_quiet (ho : o.Quiet) : Steady record token w (w.exec o).2 :=
  .of_same (exec_quiet_guard ho) (exec_quiet_records ho) fun h => h.exec ho.keepsMark

/-- A guard is granted only to a target without a holder. -/
theorem guardAcquire_cases (w : World) (k : TargetKey) :
    (∃ e, w.exec (.guardAcquire k) = (.error e, w)) ∨
      w.guard.holders k = none ∧ ∃ t, (w.exec (.guardAcquire k)).1 = .ok t := by
  simp only [World.exec, StopCapableGuard.acquire]
  cases hk : w.guard.holders k with
  | some t => exact .inl ⟨.guard ⟨k⟩, rfl⟩
  | none => exact .inr ⟨rfl, _, rfl⟩

/-- In a guarded state an open that acquires the guard outside the window finds the
marker in force. -/
theorem inForce_of_acquired {env : OpenEnv} {request : OpenRequest}
    (hw : Guarded record token w)
    (hC : AcquiresUnparked (.openSession env request false) (.guardAcquire record.targetKey) w)
    (hfree : w.guard.holders record.targetKey = none) : InForce w record := by
  rcases hw with hforce | hheld | ⟨_, r, hread, hsame⟩
  · exact hforce
  · rw [hfree] at hheld
    cases hheld
  · have hr := hC hfree r hread hsame.parked
    unfold InForce at hr ⊢
    rwa [hsame.key, hsame.generation] at hr

/-- A closing record replaces the record of its session. -/
theorem steady_writeRecord {r : TransportSession} (hr : SameKernel record r) :
    Steady record token w (w.exec (.writeRecord r none)).2 := by
  have hread : ParkedOnDisk (w.exec (.writeRecord r none)).2 record :=
    ⟨r, hr.key ▸ SessionRegistry.readRecord_writeRecord_self .., hr⟩
  refine ⟨id, id, fun hmine r' hr' hid => ?_, fun _ => hread, ?_⟩
  · rcases List.mem_append.mp hr' with hold | hnew
    · exact hmine r' (List.mem_filter.mp hold).1 hid
    · obtain rfl := List.mem_singleton.mp hnew
      exact hr
  · exact fun hw => hw.imp_right (Or.imp_right fun hfree => ⟨hfree.1, hread⟩)

/-- The release of the guard in the window leaves the record. -/
theorem steady_guardRelease (t : GuardToken)
    (hdisk : HeldOrFree w record token → ParkedOnDisk w record) :
    Steady record token w (w.exec (.guardRelease record.targetKey t)).2 := by
  have hholders : (w.exec (.guardRelease record.targetKey t)).2.guard.holders record.targetKey =
      w.guard.holders record.targetKey ∨
      (w.exec (.guardRelease record.targetKey t)).2.guard.holders record.targetKey = none := by
    simp only [World.exec, StopCapableGuard.release]
    split
    · exact .inr (Function.update_self ..)
    · exact .inl rfl
  refine ⟨id, fun hfree => ?_, id, id, fun hw => ?_⟩
  · cases hholders with
    | inl hsame => exact hfree.imp hsame.trans hsame.trans
    | inr hnone => exact .inr hnone
  · refine hw.imp_right fun hheld => ?_
    cases hholders with
    | inl hsame => exact hheld.imp hsame.trans (And.imp_left hsame.trans)
    | inr hnone =>
        refine .inr ⟨hnone, hdisk (hheld.imp_right And.left)⟩

end Keeps

/-! ## The discipline is sound -/

section Sound

variable {record : TransportSession} {token : GuardToken} {tag : Activity} {w : World} {o : Op}
  {phase : ClosePhase} {Q : Except Raised o.Resp → ClosePhase → Prop}

/-- What an allowed operation leaves: the phases of the others, and a phase of its own. -/
def Advances (record : TransportSession) (token : GuardToken) (w : World) (o : Op)
    (Q : Except Raised o.Resp → ClosePhase → Prop) : Prop :=
  (InForce (w.exec o).2 record ∨ Steady record token w (w.exec o).2) ∧
    ∃ phase, phase.Knows record token (w.exec o).2 ∧ Q (w.exec o).1 phase

/-- An operation that touches nothing stays in its phase. -/
theorem advances_quiet (phase : ClosePhase) (ho : o.Quiet) (hknows : phase.Knows record token w)
    (hQ : ∀ r, Q r phase) : Advances record token w o Q :=
  ⟨.inr (steady_quiet ho), phase, Steady.knows (.inr (steady_quiet ho)) hknows, hQ _⟩

theorem advances_outside {env : OpenEnv} {request : OpenRequest}
    (hw : Guarded record token w) (hC : AcquiresUnparked (.openSession env request false) o w)
    (hrule : outsideRule record o Q) : Advances record token w o Q := by
  cases o with
  | guardAcquire k =>
      obtain ⟨rfl, herror, hok⟩ := hrule
      rcases guardAcquire_cases w record.targetKey with ⟨e, hrefused⟩ | ⟨hfree, t, hgranted⟩
      · rw [Advances, hrefused]
        exact ⟨.inr (.of_same rfl rfl id), .outside, trivial, herror e⟩
      · have hforce : InForce (w.exec (.guardAcquire record.targetKey)).2 record :=
          (inForce_of_acquired hw hC hfree).exec trivial
        rw [Advances, hgranted]
        exact ⟨.inl hforce, .marked, hforce, hok t⟩
  | _ => exact advances_quiet .outside hrule.1 trivial hrule.2

theorem advances_start (hknows : ClosePhase.start.Knows record token w)
    (hrule : startRule record o Q) : Advances record token w o Q := by
  cases o with
  | listRecords =>
      refine ⟨.inr (.of_same rfl rfl id), ?_⟩
      cases hknows with
      | inl hforce => exact ⟨.marked, hforce, hrule.2 _⟩
      | inr hheld => exact ⟨.start, .inr hheld, hrule.1 _ hheld.2⟩
  | writeRecord r fault =>
      obtain ⟨hr, herror, hok⟩ := hrule
      cases fault with
      | some kind => exact ⟨.inr (.of_same rfl rfl id), .start, hknows, herror _⟩
      | none =>
          have hsteady : Steady record token w (w.exec (.writeRecord r none)).2 :=
            steady_writeRecord hr
          refine ⟨.inr hsteady, .closing, ?_, hok⟩
          refine hknows.imp hsteady.force fun hheld => ⟨hheld.1, ?_⟩
          exact ⟨r, hr.key ▸ SessionRegistry.readRecord_writeRecord_self .., hr⟩
  | _ => exact hrule.elim

theorem advances_closing {env : CloseEnv} {sid : Nat} {force : Bool}
    (hC : AcquiresUnparked (.closeSession env sid force) o w)
    (hknows : ClosePhase.closing.Knows record token w) (hrule : closingRule record o Q) :
    Advances record token w o Q := by
  cases o with
  | guardRelease k t =>
      obtain ⟨rfl, hQ⟩ := hrule
      cases hknows with
      | inl hforce =>
          have hforce' := InForce.exec (o := .guardRelease record.targetKey t) hforce trivial
          exact ⟨.inl hforce', .closing, .inl hforce', hQ _⟩
      | inr hheld =>
          have hsteady : Steady record token w (w.exec (.guardRelease record.targetKey t)).2 :=
            steady_guardRelease t fun _ => hheld.2
          exact ⟨.inr hsteady, .closing, Steady.knows (.inr hsteady) (.inr hheld), hQ _⟩
  | writeTombstone t fault =>
      obtain rfl : fault = none := hC
      have hsteady : Steady record token w (w.exec (.writeTombstone t none)).2 :=
        steady_quiet (o := .writeTombstone t none) trivial
      exact ⟨.inr hsteady, .closing, Steady.knows (.inr hsteady) hknows, hrule rfl⟩
  | admission c => cases c with
    | markRecoveryRequired k g =>
        obtain ⟨⟨rfl, rfl⟩, hQ⟩ := hrule
        have hforce : InForce (w.exec (.admission
            (.markRecoveryRequired record.targetKey record.generation))).2 record :=
          AdmissionService.markedFrom_self ..
        exact ⟨.inl hforce, .marked, hforce, hQ _⟩
    | _ => exact advances_quiet .closing hrule.1 hknows hrule.2
  | _ => exact advances_quiet .closing hrule.1 hknows hrule.2

theorem advances_of_allows
    (h : (haltedClose record token).Allows coordination AcquiresUnparked tag o w phase Q) :
    Advances record token w o Q := by
  have hrule := h.rule
  cases phase with
  | outside =>
      obtain ⟨⟨env, request, rfl⟩, hrule⟩ := hrule
      exact advances_outside h.inv h.cond hrule
  | start => exact advances_start h.knows hrule
  | closing =>
      obtain ⟨⟨env, sid, force, rfl⟩, hrule⟩ := hrule
      exact advances_closing h.cond h.knows hrule
  | marked =>
      have hforce := InForce.exec h.knows hrule.1
      exact ⟨.inl hforce, .marked, hforce, hrule.2 _⟩

/-- No allowed operation starts a thread. -/
theorem not_startWorker_of_allows
    (h : (haltedClose record token).Allows coordination AcquiresUnparked tag o w phase Q)
    {worker : Worker} : o ≠ .startWorker worker := by
  rintro rfl
  have hrule := h.rule
  cases phase with
  | outside => exact hrule.2.1
  | start => exact hrule
  | closing => exact hrule.2.1
  | marked => exact hrule.1

theorem haltedClose_sound :
    Sound coordination (haltedClose record token) AcquiresUnparked where
  inv := fun h => Steady.inv (advances_of_allows h).1 h.inv
  learn := fun h => by
    obtain ⟨_, phase, hknows, hQ⟩ := advances_of_allows h
    exact ⟨phase, hknows, hQ, fun x => x.elim, fun _ _ _ _ => trivial⟩
  frame := fun h _ _ hknows _ => Steady.knows (advances_of_allows h).1 hknows
  spawn := fun {tag o w phase Q} h tag' htag' => by
    cases o with
    | startWorker worker => exact absurd rfl (not_startWorker_of_allows h)
    | _ => cases htag'
  fresh := fun {tag o w phase Q} h tag' htag' => by
    cases o with
    | startWorker worker => exact absurd rfl (not_startWorker_of_allows h)
    | _ => cases htag'
  symm := fun _ _ _ => trivial

end Sound

/-! ## The programs keep to it -/

section Programs

open Prog

variable {record : TransportSession} {tag : Activity}

theorem closeRule_mono : (closeRule record tag).Mono := by
  intro o Q Q' phase h hQ
  cases phase with
  | outside =>
      refine ⟨hQ.1, ?_⟩
      have hrule := hQ.2
      cases o with
      | guardAcquire k => exact ⟨hrule.1, fun e => h _ _ (hrule.2.1 e), fun t => h _ _ (hrule.2.2 t)⟩
      | _ => exact ⟨hrule.1, fun r => h _ _ (hrule.2 r)⟩
  | start =>
      cases o with
      | listRecords => exact ⟨fun rs hrs => h _ _ (hQ.1 rs hrs), fun rs => h _ _ (hQ.2 rs)⟩
      | writeRecord r fault => exact ⟨hQ.1, fun e => h _ _ (hQ.2.1 e), h _ _ hQ.2.2⟩
      | _ => exact hQ
  | closing =>
      refine ⟨hQ.1, ?_⟩
      have hrule := hQ.2
      cases o with
      | guardRelease k t => exact ⟨hrule.1, fun r => h _ _ (hrule.2 r)⟩
      | writeTombstone t fault => exact fun hfault => h _ _ (hrule hfault)
      | admission c => cases c with
        | markRecoveryRequired k g => exact ⟨hrule.1, fun r => h _ _ (hrule.2 r)⟩
        | _ => exact ⟨hrule.1, fun r => h _ _ (hrule.2 r)⟩
      | _ => exact ⟨hrule.1, fun r => h _ _ (hrule.2 r)⟩
  | marked => exact ⟨hQ.1, fun r => h _ _ (hQ.2 r)⟩

/-- Once the marker is in force a thread may do what keeps it. -/
theorem marked_keeps {α : Type} {p : Proc α} (hp : p.Calls Op.KeepsMark) :
    p.wp (closeRule record tag) (fun _ _ => True) .marked :=
  hp.wp (K := (· = .marked)) (fun _ ho _ _ hphase hR => hphase ▸ ⟨ho, fun r => hR r _ rfl⟩)
    (fun _ _ _ => trivial) rfl

/-- The operations a close may call before its mark, apart from the release. -/
def Op.Idle (o : Op) : Prop := o.Quiet ∧ ∀ t fault, o ≠ .writeTombstone t fault

theorem closing_idle {o : Op} (ho : o.Idle) {Q : Except Raised o.Resp → ClosePhase → Prop}
    (hQ : ∀ r, Q r .closing) : closingRule record o Q := by
  obtain ⟨hquiet, hne⟩ := ho
  cases o with
  | guardRelease => exact hquiet.elim
  | writeTombstone t fault => exact absurd rfl (hne t fault)
  | admission c => cases c with
    | markRecoveryRequired k g => exact absurd trivial hquiet
    | _ => exact ⟨hquiet, hQ⟩
  | _ => exact ⟨hquiet, hQ⟩

/-- A step of a close that stays in its phase. -/
theorem closing_step {env : CloseEnv} {sid : Nat} {force : Bool} {α β : Type} {p : Proc α}
    {f : α → Proc β} (hp : p.Calls Op.Idle)
    (hf : ∀ a, (f a).wp (closeRule record (.closeSession env sid force)) (fun _ _ => True)
      .closing) :
    (p >>= f).wp (closeRule record (.closeSession env sid force)) (fun _ _ => True) .closing :=
  hp.wp_bind (K := (· = .closing))
    (fun _ ho _ _ hphase hR => hphase ▸ ⟨⟨env, sid, force, rfl⟩,
      closing_idle ho fun r => hR r _ rfl⟩)
    (fun a _ hphase => hphase ▸ hf a) (fun _ _ _ => trivial) rfl

/-- A cleanup step ends as its step does. -/
theorem cleanup_wp {rule : Rule Op.Resp Raised ClosePhase} (hrule : rule.Mono)
    {errors : List Raised} {step : Proc Unit} {phase : ClosePhase} {β : Type}
    {f : List Raised → Proc β} (phase' : ClosePhase) (hstep : step.wp rule (fun _ phase'' => phase'' = phase') phase)
    (hf : ∀ errors, (f errors).wp rule (fun _ _ => True) phase') :
    (cleanup errors step >>= f).wp rule (fun _ _ => True) phase := by
  rw [wp_bind, cleanup, wp_bind, wp_attempt]
  refine wp_mono hrule (fun r phase'' hphase => ?_) hstep
  subst hphase
  cases r with
  | ok u => exact hf errors
  | error e =>
      show (if e.isException then pure (errors ++ [e]) else .raise e : Proc _).wp _ _ _
      split
      · exact hf _
      · trivial

theorem closeRecord_closing {env : CloseEnv} {sid : Nat} {r : TransportSession}
    (hr : SameKernel record r) (closeError : Option Raised) :
    (closeRecord env r sid false closeError).wp
      (closeRule record (.closeSession env sid false)) (fun _ _ => True) .closing := by
  have hidle : ∀ {o : Op}, o.Quiet → (∀ t fault, o ≠ .writeTombstone t fault) →
      (perform o : Proc o.Resp).Calls Op.Idle := fun hquiet hne => .call ⟨hquiet, hne⟩
  have cleaned : ∀ {errors : List Raised} {step : Proc Unit}, step.Calls Op.Idle →
      (cleanup errors step).Calls Op.Idle := fun h => cleanup_calls _ h
  have hrunning : r.executionState ≠ .executing := by
    intro hexec
    rcases hr.parked with h | h
    · rw [hexec] at h
      cases h
    · rw [hexec] at h
      cases h
  unfold closeRecord
  refine closing_step (cleaned (.forSome fun _ _ => .void (hidle trivial nofun))) fun _ => ?_
  refine closing_step (hidle trivial nofun) fun guardToken => ?_
  refine cleanup_wp closeRule_mono .closing ?_ fun errors => ?_
  · cases guardToken with
    | none => rfl
    | some t =>
        show (Prog.void (call (.guardRelease r.targetKey t))).wp _ _ _
        rw [wp_void, wp_perform]
        exact ⟨⟨env, sid, false, rfl⟩, hr.key, fun _ => rfl⟩
  refine closing_step (hidle trivial nofun) fun handle => ?_
  refine closing_step (cleaned (.forSome fun _ _ => hidle id nofun)) fun errors => ?_
  refine cleanup_wp closeRule_mono .marked ?_ fun errors => ?_
  · rw [wp_when]
    refine ⟨fun _ => ?_, fun hnot => absurd ⟨hrunning, rfl⟩ hnot⟩
    rw [markRecovery, wp_bind, wp_perform]
    refine ⟨⟨env, sid, false, rfl⟩, fun _ => ?_⟩
    exact (wp_perform _).mpr ⟨⟨env, sid, false, rfl⟩, ⟨hr.key, by rw [hr.generation]⟩, fun _ => rfl⟩
  · have hrest : (do
        let errors ← cleanup errors (deleteRecord r.targetKey r.sessionId env.unlink)
        let errors ← cleanup errors
          (Prog.when env.dispatcher (call (.unsubscribe r.targetKey sid)))
        .ofExcept (raiseCloseFailures closeError errors) : Proc Unit).Calls Op.OfClose :=
      .bind (cleanup_calls _ (deleteRecord_ofClose _ _ _)) fun _ =>
        .bind (cleanup_calls _ (.when fun _ => .call trivial)) fun _ => calls_ofExcept _
    exact marked_keeps (hrest.mono fun _ ho => ho.keepsMark)

theorem closeFound_start {env : CloseEnv} {sid : Nat} {r : TransportSession}
    (hr : SameKernel record r) :
    (closeFound env sid false r).wp (closeRule record (.closeSession env sid false))
      (fun _ _ => True) .start := by
  rw [closeFound, wp_bind, wp_ofExcept]
  cases require (env.transports r.provider) (Raised.unknownProvider r.provider) with
  | error e => trivial
  | ok capability =>
      show (call (.writeRecord { r with recordState := .closing } env.closingWrite) >>= _ :
        Proc Unit).wp _ _ _
      rw [wp_bind, wp_perform]
      refine ⟨⟨hr.key, hr.generation, hr.parked⟩, fun e => trivial, ?_⟩
      refine closing_step (.when fun _ => .call ⟨trivial, by simp⟩) fun _ => ?_
      rw [wp_bind, wp_ofExcept]
      cases closeTransport env.transportClose with
      | error e => trivial
      | ok closeError => exact closeRecord_closing hr closeError

theorem closeFound_ofClose (env : CloseEnv) (sid : Nat) (r : TransportSession) :
    (closeFound env sid false r).Calls Op.OfClose := by
  have cleaned : ∀ {errors : List Raised} {step : Proc Unit}, step.Calls Op.OfClose →
      (cleanup errors step).Calls Op.OfClose := fun h => cleanup_calls _ h
  refine .bind (calls_ofExcept _) fun _ => .bind (.call trivial) fun _ =>
    .bind (.when fun _ => .call trivial) fun _ => .bind (calls_ofExcept _) fun closeError => ?_
  exact .bind (cleaned (releaseLease_ofClose _ _)) fun _ => .bind (.call trivial) fun _ =>
    .bind (cleaned (releaseGuard_ofClose _ _)) fun _ => .bind (.call trivial) fun _ =>
    .bind (cleaned (.forSome fun _ _ => .call trivial)) fun _ =>
    .bind (cleaned (.when fun _ => markRecovery_ofClose _ _ _ _)) fun _ =>
    .bind (cleaned (deleteRecord_ofClose _ _ _)) fun _ =>
    .bind (cleaned (.when fun _ => .call trivial)) fun _ => calls_ofExcept _

theorem closeSession_start (env : CloseEnv) :
    (closeSession env record.sessionId false).wp
      (closeRule record (.closeSession env record.sessionId false)) (fun _ _ => True) .start := by
  rw [closeSession_eq, recordBySessionId, wp_bind, wp_bind, wp_perform]
  refine ⟨fun records hmine => ?_, fun records => ?_⟩
  · show (Prog.forSome (records.find? fun r => r.sessionId = record.sessionId)
      (closeFound env record.sessionId false)).wp _ _ _
    cases hfound : records.find? fun r => r.sessionId = record.sessionId with
    | none => trivial
    | some r =>
        have hsid : r.sessionId = record.sessionId := by simpa using List.find?_some hfound
        exact closeFound_start (hmine r (List.mem_of_find?_eq_some hfound) hsid)
  · refine marked_keeps (.forSome fun r _ => ?_)
    exact (closeFound_ofClose env record.sessionId r).mono fun _ ho => ho.keepsMark

/-- A step of an open that has not acquired the guard. -/
theorem outside_bind {env : OpenEnv} {request : OpenRequest} {α β : Type} {p : Proc α}
    {f : α → Proc β} {Q : Except Raised β → ClosePhase → Prop} (hp : p.Calls Op.Quiet)
    (hf : ∀ a, (f a).wp (closeRule record (.openSession env request false)) Q .outside)
    (herror : ∀ e, Q (.error e) .outside) :
    (p >>= f).wp (closeRule record (.openSession env request false)) Q .outside := by
  refine hp.wp_bind (K := (· = .outside)) (fun o ho R g hphase hR => ?_)
    (fun a _ hphase => hphase ▸ hf a) (fun e _ hphase => hphase ▸ herror e) rfl
  subst hphase
  refine ⟨⟨env, request, rfl⟩, ?_⟩
  cases o with
  | guardAcquire => exact ho.elim
  | _ => exact ⟨ho, fun r => hR r _ rfl⟩

theorem outside_step {env : OpenEnv} {request : OpenRequest} {α β : Type} {p : Proc α}
    {f : α → Proc β} (hp : p.Calls Op.Quiet)
    (hf : ∀ a, (f a).wp (closeRule record (.openSession env request false)) (fun _ _ => True)
      .outside) :
    (p >>= f).wp (closeRule record (.openSession env request false)) (fun _ _ => True) .outside :=
  outside_bind hp hf fun _ => trivial

/-- The unwind of an open that has acquired nothing. -/
theorem rollbackOpen_quiet (env : OpenEnv) (k : TargetKey) (h : AdmissionHandle) :
    (rollbackOpen env k h {}).Calls Op.Quiet :=
  .bind trivial fun _ => .bind trivial fun _ => .bind trivial fun _ => .suppress (.call id)

/-- The acquisition of the guard ends the outside. -/
theorem acquire_step {env : OpenEnv} {request : OpenRequest} {handle : AdmissionHandle} {β : Type}
    {f : GuardToken → Proc β} (hkey : request.targetKey = record.targetKey)
    (hf : ∀ t, (f t).wp (closeRule record (.openSession env request false)) (fun _ _ => True)
      .marked) :
    (orRollback env request.targetKey handle {} (call (.guardAcquire request.targetKey)) >>=
      f).wp (closeRule record (.openSession env request false)) (fun _ _ => True) .outside := by
  rw [wp_bind, orRollback, wp_rescue, wp_perform]
  refine ⟨⟨env, request, rfl⟩, hkey, fun e => ?_, hf⟩
  exact outside_bind (rollbackOpen_quiet env request.targetKey handle) (fun _ => trivial)
    fun _ => trivial

theorem openAdmitted_outside (env : OpenEnv) (capability : TransportCapability)
    (request : OpenRequest) (handle : AdmissionHandle) (hkey : request.targetKey = record.targetKey) :
    (openAdmitted env capability request false handle).wp
      (closeRule record (.openSession env request false)) (fun _ _ => True) .outside := by
  have checked : ∀ {α : Type} (r : Except Raised α),
      (orRollback env request.targetKey handle {} (.ofExcept r)).Calls Op.Quiet := fun r =>
    .rescue (calls_ofExcept r) fun _ => .bind (rollbackOpen_quiet env _ handle) fun _ =>
      calls_raise _
  have guarded : ∀ {α : Type} (state : OpenState) {step : Proc α}, step.Calls Op.KeepsMark →
      (orRollback env request.targetKey handle state step).Calls Op.KeepsMark :=
    fun state _ h => .rescue h fun _ => .bind
      ((rollbackOpen_ofOpen env _ handle state).mono fun _ ho => ho.keepsMark) fun _ => calls_raise _
  have opens : ∀ {α : Type} (state : OpenState) {step : Proc α}, step.Calls Op.OfOpen →
      (orRollback env request.targetKey handle state step).Calls Op.KeepsMark :=
    fun state _ h => guarded state (h.mono fun _ ho => ho.keepsMark)
  unfold openAdmitted
  refine outside_step (checked _) fun channel => ?_
  refine outside_step (checked _) fun selection => ?_
  refine outside_step (checked _) fun _ => ?_
  refine acquire_step hkey fun guardToken => ?_
  -- past the guard the marker is in force
  refine marked_keeps (.bind (opens _ (calls_ofExcept _)) fun _ =>
    .bind (opens _ (acquireConsole_ofOpen _ _)) fun leaseToken =>
    .bind (opens _ (calls_ofExcept _)) fun _ => .bind (opens _ (calls_ofExcept _)) fun _ =>
    .bind (opens _ (writeOpeningRecord_ofOpen ..)) fun opening =>
    .bind (opens _ (calls_ofExcept _)) fun _ =>
    .bind ((reportPartials_ofOpen ..).mono fun _ ho => ho.keepsMark) fun state =>
    .bind (opens _ (calls_ofExcept _)) fun attachment =>
    .bind (.forSome fun _ _ => .call trivial) fun _ =>
    .bind (opens _ (calls_ofExcept _)) fun _ => .bind (opens _ (.call trivial)) fun _ =>
    .bind (opens _ (calls_ofExcept _)) fun _ => .bind (guarded _ ?_) fun _ => trivial)
  exact .bind (.call trivial) fun _ => .when fun hrecovery => by cases hrecovery

theorem openSession_outside (env : OpenEnv) (request : OpenRequest)
    (hkey : request.targetKey = record.targetKey) :
    (openSession env request false).wp (closeRule record (.openSession env request false))
      (fun _ _ => True) .outside := by
  refine outside_step (calls_ofExcept _) fun capability => ?_
  refine outside_step (calls_ofExcept _) fun _ => ?_
  refine outside_step (.call id) fun handle => ?_
  exact openAdmitted_outside env capability request handle hkey

end Programs

instance (record : TransportSession) (token : GuardToken) (tag : Activity) (o : Op) (w : World) :
    Decidable (CommitsOutside record token tag o w) := by
  unfold CommitsOutside InWindow
  split <;> infer_instance

instance (tag : Activity) (o : Op) (w : World) : Decidable (AcquiresUnparked tag o w) := by
  unfold AcquiresUnparked
  split <;> infer_instance

/-! ## No window -/

/-- The threads of the claim: one close of the session, and ordinary opens on its target. -/
def closeAgainst (env : CloseEnv) (record : TransportSession)
    (opens : List (OpenEnv × OpenRequest)) : List Activity :=
  .closeSession env record.sessionId false :: opens.map fun o => .openSession o.1 o.2 false

/-- In every run of a close against ordinary opens in which no open acquires the guard
while an unmarked parked record is on disk, and the tombstone can be written, no open
commits between the release of the guard and the marker. -/
theorem halted_close (w : World) (record : TransportSession) (token : GuardToken)
    (hsession : ParkedSession w record token) (env : CloseEnv)
    (opens : List (OpenEnv × OpenRequest)) (hkey : ∀ o ∈ opens, o.2.targetKey = record.targetKey)
    (schedule : List Nat)
    (hacquire : coordination.Along AcquiresUnparked schedule
      (coordination.pool w (closeAgainst env record opens))) :
    coordination.Along (CommitsOutside record token) schedule
      (coordination.pool w (closeAgainst env record opens)) := by
  have hinv : (haltedClose record token).inv w := .inr (.inl hsession.held)
  have htags : ∀ tag ∈ closeAgainst env record opens,
      (haltedClose record token).Keeps w (coordination.start tag)
        ((haltedClose record token).start tag) := by
    intro tag htag
    rcases List.mem_cons.mp htag with rfl | hopen
    · refine ⟨.inr ⟨.inl hsession.held, fun r hr hsid => ?_⟩, closeSession_start env⟩
      rw [hsession.alone r hr hsid]
      exact ⟨rfl, rfl, hsession.parked⟩
    · obtain ⟨o, ho, rfl⟩ := List.mem_map.mp hopen
      refine ⟨trivial, ?_⟩
      show (Prog.void (openSession o.1 o.2 false)).wp _ _ _
      rw [Prog.wp_void]
      exact openSession_outside o.1 o.2 (hkey o ho)
  refine haltedClose_sound.along (fun {tag o w phase Q} h => ?_)
    (Discipline.sat_pool coordination hinv (fun x => x.elim) htags fun _ _ _ _ => trivial) hacquire
  cases tag with
  | openSession env request recovery => cases recovery with
    | true => trivial
    | false => cases o with
      | commit handle session state dispatcher subscribe =>
          have hrule := h.rule
          have hknows := h.knows
          cases phase with
          | outside => exact hrule.2.1.elim
          | start => exact hrule.elim
          | closing => exact hrule.2.1.elim
          | marked => exact fun hwindow => hwindow.2 hknows
      | _ => trivial
  | _ => trivial

/-- A debug session on generation 1 with its kernel halted. -/
def haltedWorld : World :=
  Runs.run ServerStep.perform (recoveredTarget.take 3) World.empty

/-- Its record. -/
def haltedRecord : TransportSession where
  sessionId := 0
  targetKey := localTarget "run"
  generation := 1
  provider := "qemu-gdbstub"
  channelId := "rsp0"
  consoleEndpoint := none
  rspEndpoint := some (.tcp "127.0.0.1" 1234)
  recordState := .ready
  consoleLeaseToken := none
  stopGuardToken := some 1
  attachEpoch := 0
  breakPlan := some ⟨.sysrqG, "rsp0", "sysrq-g over ssh"⟩
  executionState := .halted
  backendPid := none
  backendStartTime := none

theorem haltedSession :
    ParkedSession haltedWorld haltedRecord ⟨localTarget "run", 1, 1⟩ where
  recorded := by decide +kernel
  alone := by decide +kernel
  parked := .inl rfl
  held := by decide +kernel

/-- A close of the session against one ordinary open. -/
def haltedRace : List Activity :=
  closeAgainst .calm haltedRecord
    [(.calm, debugOpenRequest "run" gdbstubEndpoint 1 (bootPlatform true))]

/-- The open is admitted before the close and acquires the guard after it. -/
def afterClose : List Nat := 1 :: (List.replicate 11 0 ++ List.replicate 5 1)

/-- The open commits, with the marker in force. -/
theorem halted_close_after :
    ((coordination.run afterClose (coordination.pool haltedWorld haltedRace)).world.handles
        1).isSome = true ∧
      coordination.Along (CommitsOutside haltedRecord ⟨localTarget "run", 1, 1⟩) afterClose
        (coordination.pool haltedWorld haltedRace) :=
  ⟨by decide +kernel, halted_close haltedWorld haltedRecord _ haltedSession .calm _
    (by decide) afterClose (by decide +kernel)⟩

/-- The close lets go of the guard.  Then the open is admitted, acquires the guard and
commits. -/
theorem halted_close_window :
    ParkedSession haltedWorld haltedRecord ⟨localTarget "run", 1, 1⟩ ∧
      ¬ coordination.Along (CommitsOutside haltedRecord ⟨localTarget "run", 1, 1⟩)
        [0, 0, 0, 0, 1, 1, 1, 1, 1, 1] (coordination.pool haltedWorld haltedRace) :=
  ⟨haltedSession, by decide +kernel⟩

end Kdive

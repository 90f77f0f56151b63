import Kdive.Coordination.RecordOwners

/-!
# A running backend stays on record

The next start finds a backend that outlived its server by the ownership record that
names it.  A record names a backend from the write-through of a report on, and it
should go only after the backend was stopped.

*Who answers.*  An open that was admitted has drawn a session id.  From its first
record to its ready one it is the owner of the session: nobody else adds a backend to
the session's record, and the owner knows the last one.  Once the record has left
`opening` the session is settled.  It names one backend at most, and whoever has
stopped that one may delete the record.

*What goes wrong.*  A kill that failed counts as a kill, and the record goes.  The first
record of an open replaces whatever stands at the target, and so does a stale one.
-/

namespace Kdive

open Interleaving Program

/-! ## What the files say of a backend -/

namespace World

variable (w : World)

/-- The backend was stopped. -/
def Reaped (x : BackendIdentity) : Prop := x ∈ w.backends.reaped

/-- A record on disk names the backend. -/
def Names (x : BackendIdentity) : Prop := ∃ r ∈ w.registry.records, r.backend = some x

/-- A backend that was reported and runs is on record. -/
def OnRecord (x : BackendIdentity) : Prop :=
  x ∈ w.backends.reported → ¬ w.Reaped x → w.Names x

/-- The record names no backend that runs. -/
def Vacant (r : TransportSession) : Prop := ∀ x ∈ r.backend, w.Reaped x

/-- The record that stands where `r` belongs is of the same session. -/
def Replaces (r : TransportSession) (p : TransportSession → Prop) : Prop :=
  ∃ old ∈ w.registry.readRecord r.targetKey, old.sessionId = r.sessionId ∧ p old

instance (x : BackendIdentity) : Decidable (w.Reaped x) := inferInstanceAs (Decidable (_ ∈ _))

instance (x : BackendIdentity) : Decidable (w.Names x) :=
  inferInstanceAs (Decidable (∃ r ∈ w.registry.records, r.backend = some x))

instance (x : BackendIdentity) : Decidable (w.OnRecord x) := inferInstanceAs (Decidable (_ → _))

instance (r : TransportSession) : Decidable (w.Vacant r) :=
  inferInstanceAs (Decidable (∀ x ∈ r.backend, w.Reaped x))

instance (r : TransportSession) (p : TransportSession → Prop) [DecidablePred p] :
    Decidable (w.Replaces r p) :=
  inferInstanceAs (Decidable (∃ old ∈ w.registry.readRecord r.targetKey, _))

end World

/-! ## When the record stays -/

/-- The writes of a record. -/
inductive RecordWrite where
  /-- The first one of an open. -/
  | first
  /-- The write-through of a reported backend. -/
  | report
  /-- The ready one. -/
  | ready
  /-- A write back by another thread. -/
  | back
deriving DecidableEq, Repr

/-- Which of its writes a thread makes. -/
def recordWrite : Activity → TransportSession → RecordWrite
  | .openSession .., r =>
      if r.recordState = .opening then if r.backendPid = none then .first else .report
      else .ready
  | _, _ => .back

/-- The last backend an attach reports, if it starts with `last`. -/
def lastReported (last : Option BackendIdentity) : List AttachStep → Option BackendIdentity
  | [] => last
  | .event _ :: rest | .report none _ _ :: rest => lastReported last rest
  | .report (some backend) _ _ :: rest => lastReported (some backend) rest

/-- The attach of the thread returns what it reported last. -/
def Activity.ReturnsReported (x : BackendIdentity) : Activity → Prop
  | .openSession env _ _ => lastReported none env.partials = some x
  | _ => False

theorem returnsReported_iff (x : BackendIdentity) (tag : Activity) :
    (match tag with
      | .openSession env _ _ => decide (lastReported none env.partials = some x)
      | _ => false) = true ↔ tag.ReturnsReported x := by
  cases tag <;> simp [Activity.ReturnsReported]

instance (x : BackendIdentity) (tag : Activity) : Decidable (tag.ReturnsReported x) :=
  decidable_of_iff _ (returnsReported_iff x tag)

/-- A write takes nothing away.  The first record of an open finds the target free of
running backends.  Every other write finds its own session's record, a report goes
through and reports one backend at a time, and a write back names the backend that the
record names. -/
def WritesKeep (r : TransportSession) (fault : Fault) (w : World) : RecordWrite → Prop
  | .first => fault = none → ∀ old ∈ w.registry.readRecord r.targetKey, w.Vacant old
  | .report => fault = none ∧ w.Replaces r fun old =>
      old.recordState = .opening ∧ (old.backend = r.backend ∨ w.Vacant old)
  | .ready => fault = none → w.Replaces r fun old => old.recordState = .opening
  | .back => fault = none → w.Replaces r fun old =>
      old.backend = r.backend ∧ (r.recordState = .opening → old.recordState = .opening)

/-- The operations do what the threads rely on: writes take nothing away, an unlink hits
the record it read, a kill kills, and an attach returns what it reported. -/
def KeepsBackends : Activity → Op → World → Prop
  | tag, .writeRecord r fault, w => WritesKeep r fault w (recordWrite tag r)
  | _, .unlinkRecord k sid fault, w =>
      fault = none → ∀ old ∈ w.registry.readRecord k, old.sessionId = sid
  | _, .reapBackend x stops, w => stops = true ∨ w.Reaped x
  | _, .closeAttached r _ stops, w => w.Vacant r ∨ (stops = true ∧ r.backendPid ≠ some 0)
  | tag, .reportBackend x returned, _ => returned = true → tag.ReturnsReported x
  | _, _, _ => True

/-- A forced release drops the record that names the backend. -/
def ForceDrops (x : BackendIdentity) : Activity → Op → World → Prop
  | .forceRelease .., .unlinkRecord k _ none, w =>
      ∃ old ∈ w.registry.readRecord k, old.backend = some x
  | _, _, _ => False

instance (r : TransportSession) (fault : Fault) (w : World) (kind : RecordWrite) :
    Decidable (WritesKeep r fault w kind) := by
  unfold WritesKeep
  split <;> infer_instance

instance (tag : Activity) (o : Op) (w : World) : Decidable (KeepsBackends tag o w) := by
  unfold KeepsBackends
  split <;> infer_instance

theorem forceDrops_iff (x : BackendIdentity) (tag : Activity) (o : Op) (w : World) :
    (match tag, o with
      | .forceRelease .., .unlinkRecord k _ none =>
          decide (∃ old ∈ w.registry.readRecord k, old.backend = some x)
      | _, _ => false) = true ↔ ForceDrops x tag o w := by
  unfold ForceDrops
  split
  · exact decide_eq_true_iff
  · simp

instance (x : BackendIdentity) (tag : Activity) (o : Op) (w : World) :
    Decidable (ForceDrops x tag o w) :=
  decidable_of_iff _ (forceDrops_iff x tag o w)

/-! ## Settled sessions -/

namespace World

variable {x : BackendIdentity} {s : Nat} {b : Option BackendIdentity} {w : World} {o : Op}

/-- The records of a session name the backend only if `b` does. -/
def Covers (w : World) (x : BackendIdentity) (s : Nat) (b : Option BackendIdentity) : Prop :=
  b = some x ∨ w.Reaped x ∨ ∀ r ∈ w.registry.records, r.sessionId = s → r.backend ≠ some x

/-- The records of a session have left `opening`. -/
structure Settled (x : BackendIdentity) (s : Nat) (b : Option BackendIdentity) (w : World) :
    Prop where
  drawn : s < w.admission.nextId
  opened : ∀ r ∈ w.registry.records, r.sessionId = s → r.recordState ≠ .opening
  covers : w.Covers x s b

theorem Covers.stopped (h : w.Covers x s b) (hb : ∀ y ∈ b, w.Reaped y) : w.Covers x s none :=
  h.elim (fun hx => .inr (.inl (hb x hx))) .inr

/-- A record of a covered session that names the backend. -/
theorem Covers.of_mem (h : w.Covers x s b) {r : TransportSession}
    (hr : r ∈ w.registry.records) (hs : r.sessionId = s) (hx : r.backend = some x) :
    b = some x ∨ w.Reaped x :=
  h.imp id fun h => h.resolve_right fun hnone => hnone r hr hs hx

/-- A write back keeps a session covered. -/
theorem Covers.exec (h : w.Covers x s b)
    (hwrite : ∀ r, o = .writeRecord r none → r.sessionId = s →
      ∃ old ∈ w.registry.records, old.sessionId = s ∧ old.backend = r.backend) :
    (w.exec o).2.Covers x s b := by
  refine h.imp id fun h => h.imp (w.exec_reaped o) fun hnone r hr hs => ?_
  cases w.mem_exec_records o hr with
  | inl hold => exact hnone r hold hs
  | inr hnew =>
      obtain ⟨old, hold, hsid, hbackend⟩ := hwrite r hnew hs
      exact hbackend ▸ hnone old hold hsid

theorem Settled.stopped (h : Settled x s b w) (hb : ∀ y ∈ b, w.Reaped y) : Settled x s none w :=
  ⟨h.drawn, h.opened, h.covers.stopped hb⟩

end World

/-! ## The discipline -/

/-- What a thread has in hand. -/
inductive InHand where
  | nothing
  /-- It has drawn the id of a session. -/
  | drawn (s : Nat)
  /-- It opens the session, and reported `b` last. -/
  | owner (s : Nat) (b : Option BackendIdentity)
  /-- The session is settled with `b`. -/
  | closer (s : Nat) (b : Option BackendIdentity)
  /-- It emits to these subscribers. -/
  | emitter (subscribers : List SessionSubscriber)

namespace InHand

/-- It is about the session. -/
def Touches : InHand → Nat → Prop
  | .nothing, _ => False
  | .drawn s, s' | .owner s _, s' | .closer s _, s' => s = s'
  | .emitter subscribers, s' => ∃ sub ∈ subscribers, sub.session.sessionId = s'

/-- A drawn id is nobody else's, and a session has one owner. -/
structure Apart (g g' : InHand) : Prop where
  drawn : ∀ s, g = .drawn s → ¬ g'.Touches s
  drawn' : ∀ s, g' = .drawn s → ¬ g.Touches s
  owner : ∀ s b b', g = .owner s b → g' ≠ .owner s b'

/-- What is left of it once a backend is stopped. -/
def without (x : Option BackendIdentity) : InHand → InHand
  | .owner s b => .owner s (if b = x then none else b)
  | .closer s b => .closer s (if b = x then none else b)
  | g => g

/-- It answers for the session, which names no running backend but `b`. -/
def Answers (g : InHand) (s : Nat) (b : Option BackendIdentity) : Prop :=
  g = .owner s b ∨ g = .closer s b

theorem without_none (g : InHand) : g.without none = g := by
  cases g with
  | owner s b | closer s b => cases b <;> rfl
  | _ => rfl

theorem Apart.symm {g g' : InHand} (h : g.Apart g') : g'.Apart g :=
  ⟨h.drawn', h.drawn, fun s b b' hg' hg => h.owner s b' b hg hg'⟩

/-- A thread that goes on with a session it opens stays apart from the others. -/
theorem Apart.owner_of {g other : InHand} {s : Nat} (h : g.Apart other)
    (hg : g = .drawn s ∨ ∃ b, g = .owner s b) (b : Option BackendIdentity) :
    (InHand.owner s b).Apart other := by
  refine ⟨nofun, fun s' hs' hs => ?_, fun s' b₁ b₂ hs' hother => ?_⟩
  · subst hs
    cases hg with
    | inl hdrawn => exact h.drawn' _ hs' (hdrawn ▸ rfl)
    | inr howner =>
        obtain ⟨b', howner⟩ := howner
        exact h.drawn' _ hs' (howner ▸ rfl)
  · cases hs'
    cases hg with
    | inl hdrawn => exact h.drawn _ hdrawn (hother ▸ rfl)
    | inr howner =>
        obtain ⟨b', howner⟩ := howner
        exact h.owner _ b' b₂ howner hother

/-- A thread that opens no session is apart from all that have not drawn what it is about. -/
theorem apart_of_drawn {g other : InHand} (hg : ∀ s, g ≠ .drawn s) (hg' : ∀ s b, g ≠ .owner s b)
    (h : ∀ s, other = .drawn s → ¬ g.Touches s) : g.Apart other :=
  ⟨fun s hs => absurd hs (hg s), h, fun s b _ hs => absurd hs (hg' s b)⟩

theorem Apart.without {g other : InHand} (h : g.Apart other) (x : Option BackendIdentity) :
    (g.without x).Apart other := by
  cases g with
  | owner s b => exact h.owner_of (.inr ⟨b, rfl⟩) _
  | closer s b => exact apart_of_drawn (by simp [InHand.without]) (by simp [InHand.without]) h.drawn'
  | _ => exact h

theorem Answers.without {g : InHand} {s : Nat} {b : Option BackendIdentity}
    (h : g.Answers s b) : (g.without b).Answers s none := by
  cases h with
  | inl howner => exact .inl (by simp [howner, InHand.without])
  | inr hcloser => exact .inr (by simp [hcloser, InHand.without])

end InHand

/-- The thread may drop a record of a running backend. -/
def Activity.MayDrop : Activity → Prop
  | .forceRelease .. => True
  | _ => False

/-- What a thread needs for its operations and learns of the session it is about. -/
def backendRule (tag : Activity) : Prog.Rule Op.Resp Raised InHand
  | .admission (.admitOpen ..), Q, g => (∀ e, Q (.error e) g) ∧ ∀ h, Q (.ok h) (.drawn h.handleId)
  | .admission (.admitRecovery ..), Q, g =>
      (∀ e, Q (.error e) g) ∧ ∀ h, Q (.ok h) (.drawn h.handleId)
  | .writeRecord r _, Q, g =>
      match recordWrite tag r with
      | .first => g = .drawn r.sessionId ∧
          (∀ e, Q (.error e) .nothing) ∧ Q (.ok ()) (.owner r.sessionId none)
      | .report => (∃ b, g = .owner r.sessionId b) ∧ Q (.ok ()) (.owner r.sessionId r.backend)
      | .ready => g = .owner r.sessionId r.backend ∧
          (∀ e, Q (.error e) g) ∧ Q (.ok ()) (.closer r.sessionId r.backend)
      | .back => (∀ a, Q a g) ∨ r.recordState ≠ .opening ∧
          (∀ e, Q (.error e) g) ∧ Q (.ok ()) (.closer r.sessionId r.backend)
  | .unlinkRecord _ s _, Q, g => (tag.MayDrop ∨ g.Answers s none) ∧ ∀ a, Q a g
  | .reportBackend x returned, Q, g => (returned = true → tag.ReturnsReported x) →
      (∃ s, g = .owner s (some x)) ∧ Q (.ok ()) g
  | .reapBackend x _, Q, g => ∀ a, Q a (g.without (some x))
  | .closeAttached r _ _, Q, g => ∀ a, Q a (g.without r.backend)
  | .commit _ session state _ _, Q, g =>
      g = .closer session.sessionId state.backend ∧ ∀ a, Q a g
  | .setKilled s, Q, g => g = .closer s none ∧ ∀ a, Q a g
  | .killed s, Q, g => Q (.ok false) g ∧ Q (.ok true) (.closer s none)
  | .subscribersOf _, Q, _ => ∀ subscribers, Q (.ok subscribers) (.emitter subscribers)
  | .startWorker worker, Q, g =>
      (∃ subscribers, g = .emitter subscribers ∧ worker.subscriber ∈ subscribers) ∧ ∀ a, Q a g
  | _, Q, g => ∀ a, Q a g

/-- A drawn session is new. -/
structure Drawn (s : Nat) (w : World) : Prop where
  drawn : s < w.admission.nextId
  off : ¬ w.OnDisk s
  alive : w.killed s = false
  unsubscribed : ∀ k, ∀ sub ∈ w.subscribers k, sub.session.sessionId ≠ s

/-- A subscriber knows its backend. -/
abbrev SessionSubscriber.Settled (x : BackendIdentity) (w : World) (sub : SessionSubscriber) :
    Prop :=
  World.Settled x sub.session.sessionId sub.state.backend w

/-- What a thread knows of the world. -/
def Knows (x : BackendIdentity) (w : World) : InHand → Prop
  | .nothing => True
  | .drawn s => Drawn s w
  | .owner s b => s < w.admission.nextId ∧ w.Covers x s b ∧
      (b = some x → w.Reaped x ∨ w.Names x)
  | .closer s b => World.Settled x s b w
  | .emitter subscribers => ∀ sub ∈ subscribers, sub.Settled x w

/-- The backend is on record, subscribers know theirs, and a kill that resolved left
nothing. -/
structure BackendInv (x : BackendIdentity) (w : World) : Prop where
  disk : OwnedDisk w
  onRecord : w.OnRecord x
  subscribers : ∀ k, ∀ sub ∈ w.subscribers k, sub.Settled x w
  killed : ∀ s, w.killed s = true → World.Settled x s none w

/-- The threads keep a backend on record. -/
def backendRecord (x : BackendIdentity) :
    Discipline Op.Resp Raised World Activity InHand Empty where
  rule := backendRule
  post := fun _ _ _ => True
  inv := BackendInv x
  knows := fun _ => Knows x
  start := fun tag =>
    match tag with
    | .worker worker => .closer worker.subscriber.session.sessionId worker.subscriber.state.backend
    | _ => .nothing
  due := fun _ x => x.elim
  owns := fun _ x => x.elim
  apart := InHand.Apart

/-! ## The programs keep to it -/

section Programs

open Prog

variable {tag : Activity} {x : BackendIdentity}

theorem backendRule_mono (tag : Activity) : (backendRule tag).Mono := by
  intro o Q Q' g hQ h
  cases o with
  | admission c =>
      cases c with
      | admitOpen | admitRecovery => exact ⟨fun e => hQ _ _ (h.1 e), fun a => hQ _ _ (h.2 a)⟩
      | _ => exact fun a => hQ _ _ (h a)
  | writeRecord r fault =>
      simp only [backendRule] at h ⊢
      split at h
      · exact ⟨h.1, fun e => hQ _ _ (h.2.1 e), hQ _ _ h.2.2⟩
      · exact ⟨h.1, hQ _ _ h.2⟩
      · exact ⟨h.1, fun e => hQ _ _ (h.2.1 e), hQ _ _ h.2.2⟩
      · exact h.imp (fun h a => hQ _ _ (h a)) fun h =>
          ⟨h.1, fun e => hQ _ _ (h.2.1 e), hQ _ _ h.2.2⟩
  | reportBackend y returned => exact fun hr => ⟨(h hr).1, hQ _ _ (h hr).2⟩
  | unlinkRecord | commit | setKilled | startWorker => exact ⟨h.1, fun a => hQ _ _ (h.2 a)⟩
  | killed => exact ⟨hQ _ _ h.1, hQ _ _ h.2⟩
  | _ => exact fun a => hQ _ _ (h a)

/-- The operations the discipline says nothing about. -/
def Op.Unnoticed : Op → Prop
  | .admission (.admitOpen ..) | .admission (.admitRecovery ..) | .writeRecord ..
  | .unlinkRecord .. | .reportBackend .. | .reapBackend .. | .closeAttached .. | .commit ..
  | .setKilled _ | .killed _ | .subscribersOf _ | .startWorker _ => False
  | _ => True

/-- They leave what the thread has in hand. -/
theorem backendRule_unnoticed {o : Op} (ho : o.Unnoticed)
    {Q : Except Raised o.Resp → InHand → Prop} {g : InHand} (hQ : ∀ a, Q a g) :
    backendRule tag o Q g := by
  cases o with
  | admission c =>
      cases c with
      | admitOpen | admitRecovery => exact ho.elim
      | _ => exact hQ
  | writeRecord | unlinkRecord | reportBackend | reapBackend | closeAttached | commit | setKilled
  | killed | subscribersOf | startWorker => exact ho.elim
  | _ => exact hQ

/-- A step of unnoticed operations. -/
theorem backend_step {α β : Type} {p : Proc α} {f : α → Proc β} {g : InHand}
    {Q : Except Raised β → InHand → Prop} (hp : p.Calls Op.Unnoticed)
    (hf : ∀ a, (f a).wp (backendRule tag) Q g) (herror : ∀ e, Q (.error e) g) :
    (p >>= f).wp (backendRule tag) Q g :=
  hp.wp_bind (K := (· = g)) (fun _ ho _ _ hg hR => hg ▸ backendRule_unnoticed ho fun a => hR a _ rfl)
    (fun a _ hg => hg ▸ hf a) (fun e _ hg => hg ▸ herror e) rfl

/-- A program of unnoticed operations. -/
theorem backend_unnoticed {α : Type} {p : Proc α} (hp : p.Calls Op.Unnoticed) (g : InHand) :
    p.wp (backendRule tag) (fun _ _ => True) g :=
  hp.wp (K := fun _ => True)
    (fun _ ho _ g _ hR => backendRule_unnoticed ho fun a => hR a g trivial)
    (fun _ _ _ => trivial) trivial

/-- Whoever answers for a session without a running backend may delete its record. -/
theorem deleteRecord_backend {k : TargetKey} {s : Nat} {unlink : Fault} {g : InHand}
    (hg : tag.MayDrop ∨ g.Answers s none) {Q : Except Raised Unit → InHand → Prop}
    (hQ : ∀ a, Q a g) : (deleteRecord k s unlink).wp (backendRule tag) Q g := by
  refine backend_step (.call trivial) (fun existing => ?_) fun e => hQ _
  cases existing with
  | none => exact hQ _
  | some record =>
      refine wp_when.mpr ⟨fun _ => (wp_perform _).mpr ⟨hg, hQ⟩, fun _ => hQ _⟩

/-- What is left in hand once the backend an open knows was stopped. -/
theorem bestEffortReap_backend (state : OpenState) (stops : Bool) (g : InHand) :
    (bestEffortReap state stops).wp (backendRule tag) (fun _ g' => g' = g.without state.backend)
      g := by
  rw [bestEffortReap]
  cases hbackend : state.backend with
  | none => exact g.without_none.symm
  | some y => exact (wp_perform _).mpr fun _ => rfl

/-- The unwind stops the backend before it deletes the record. -/
theorem rollbackOpen_backend {env : OpenEnv} {k : TargetKey} {handle : AdmissionHandle}
    {state : OpenState} {g : InHand}
    (hg : ∀ s, state.sessionId = some s → g.Answers s state.backend) :
    (rollbackOpen env k handle state).wp (backendRule tag) (fun _ _ => True) g := by
  have lease : (releaseLease k state.leaseToken).Calls Op.Unnoticed :=
    .forSome fun _ _ => .void (.call trivial)
  have guard : (releaseGuard k state.guardToken).Calls Op.Unnoticed :=
    .forSome fun _ _ => .void (.call trivial)
  have rest : (do
      releaseLease k state.leaseToken
      releaseGuard k state.guardToken
      Prog.suppress (call (.admission (.rollback handle))) : Proc Unit).Calls Op.Unnoticed :=
    .bind lease fun _ => .bind guard fun _ => .suppress (.call trivial)
  rw [rollbackOpen, wp_bind]
  refine wp_mono (backendRule_mono tag) (fun r g' hg' => ?_) (bestEffortReap_backend state _ g)
  subst hg'
  cases r with
  | error e => trivial
  | ok u =>
      cases hsid : state.sessionId with
      | none => exact backend_unnoticed rest _
      | some s =>
          show (_ >>= fun _ => _ : Proc Unit).wp _ _ _
          rw [wp_bind]
          refine backend_step (.call trivial) (fun _ => ?_) fun _ => trivial
          refine backend_step (.call trivial) (fun _ => ?_) fun _ => trivial
          rw [wp_bind, wp_suppress]
          refine deleteRecord_backend (.inr (hg s hsid).without) fun a => ?_
          refine wp_mono (backendRule_mono tag) (fun r g _ => ?_)
            (backend_unnoticed (.when fun _ => .call trivial) _)
          cases r with
          | ok u => exact backend_unnoticed rest g
          | error e => trivial

/-! ### Opens -/

variable {env : OpenEnv} {k : TargetKey} {handle : AdmissionHandle} {state : OpenState}

/-- A guarded step, and the unwind if it raises. -/
theorem backend_guarded {α β : Type} {step : Proc α} {f : α → Proc β} {g : InHand}
    (h : step.wp (backendRule tag) (fun r g => match r with
      | .ok a => (f a).wp (backendRule tag) (fun _ _ => True) g
      | .error _ => ∀ s, state.sessionId = some s → g.Answers s state.backend) g) :
    (orRollback env k handle state step >>= f).wp (backendRule tag) (fun _ _ => True) g := by
  rw [wp_bind, orRollback, wp_rescue]
  refine wp_mono (backendRule_mono tag) (fun r g hr => ?_) h
  cases r with
  | ok a => exact hr
  | error e =>
      refine (wp_bind _ _).mpr (wp_mono (backendRule_mono tag) (fun r g _ => ?_)
        (rollbackOpen_backend hr))
      cases r with
      | ok u => trivial
      | error e => trivial

/-- A guarded step of unnoticed operations. -/
theorem backend_guarded_step {α β : Type} {step : Proc α} {f : α → Proc β} {g : InHand}
    (hstep : step.Calls Op.Unnoticed)
    (hg : ∀ s, state.sessionId = some s → g.Answers s state.backend)
    (hf : ∀ a, (f a).wp (backendRule tag) (fun _ _ => True) g) :
    (orRollback env k handle state step >>= f).wp (backendRule tag) (fun _ _ => True) g := by
  refine backend_guarded (hstep.wp (K := (· = g)) (fun _ ho _ _ hg hR => hg ▸
    backendRule_unnoticed ho fun a => hR a _ rfl) (fun r g' hg' => ?_) rfl)
  subst hg'
  cases r with
  | ok a => exact hf a
  | error e => exact hg

variable {request : OpenRequest} {recovery : Bool}

/-- The opening record names no backend, and its write makes the open the owner. -/
theorem writeOpeningRecord_backend (env' : OpenEnv) {selection : Selection} {provider : String}
    {token : GuardToken} {lease : Option Nat}
    {Q : Except Raised (TransportSession × OpenState) → InHand → Prop}
    (hok : ∀ record : TransportSession, record.sessionId = handle.handleId →
      record.recordState = .opening → Q (.ok (record, { state with
        sessionId := some handle.handleId })) (.owner handle.handleId none))
    (herror : ∀ e g, Q (.error e) g) :
    (writeOpeningRecord env request handle selection provider token lease state).wp
      (backendRule (.openSession env' request recovery)) Q (.drawn handle.handleId) := by
  rw [writeOpeningRecord, wp_bind, wp_perform]
  intro kept
  cases kept with
  | error e => exact herror e _
  | ok u =>
      refine (wp_bind _ _).mpr ((wp_perform _).mpr ⟨rfl, fun e => herror e _, ?_⟩)
      exact hok _ rfl rfl

/-- A report goes through and is on record. -/
theorem writeBackendPartial_backend (env' : OpenEnv) {record : TransportSession}
    (hopening : record.recordState = .opening) (backend : BackendIdentity) (write : Fault)
    (cleanup : List AttachEvent) (b : Option BackendIdentity) :
    (writeBackendPartial record backend write cleanup).wp
      (backendRule (.openSession env' request recovery))
      (fun r g => r = .ok () ∧ g = .owner record.sessionId (some backend))
      (.owner record.sessionId b) := by
  have hkind : recordWrite (.openSession env' request recovery)
      { record with backendPid := some backend.pid, backendStartTime := backend.startTime } =
        .report := by simp [recordWrite, hopening]
  rw [writeBackendPartial, wp_bind, wp_attempt, wp_perform]
  simp only [backendRule, hkind]
  exact ⟨⟨b, rfl⟩, fun _ => ⟨⟨_, rfl⟩, rfl, rfl⟩⟩

/-- At the end of its reports an attach owns the session with the last one. -/
theorem reportPartials_backend (env' : OpenEnv) {record : TransportSession} {s : Nat}
    (hsid : record.sessionId = s) (hopening : record.recordState = .opening)
    (partials : List AttachStep) (state : OpenState) :
    (reportPartials (orRollback env k handle) record partials state).wp
      (backendRule (.openSession env' request recovery))
      (fun r g => ∀ state', r = .ok state' → state'.sessionId = state.sessionId ∧
        state'.backend = lastReported state.backend partials ∧
        g = .owner s state'.backend)
      (.owner s state.backend) := by
  subst hsid
  induction partials generalizing state with
  | nil =>
      intro state' hstate
      cases hstate
      exact ⟨rfl, rfl, rfl⟩
  | cons reported rest ih =>
      cases reported with
      | event e =>
          refine (wp_bind _ _).mpr ((wp_perform _).mpr fun a => ?_)
          cases a with
          | ok u => exact ih state
          | error e => exact fun _ hstate => by cases hstate
      | report backend write cleanup =>
          cases backend with
          | none => exact ih state
          | some backend =>
              rw [reportPartials, wp_bind, orRollback, wp_rescue]
              refine wp_mono (backendRule_mono _) (fun r g hr => ?_)
                (writeBackendPartial_backend env' hopening backend write cleanup state.backend)
              obtain ⟨rfl, rfl⟩ := hr
              exact ih (state.withBackend backend)

/-- The ready record names the backend of the open, and settles the session. -/
theorem readyWrite_backend (env' : OpenEnv) {session : TransportSession} {s : Nat}
    (hsid : session.sessionId = s) (hready : session.recordState ≠ .opening)
    (hbackend : session.backend = state.backend) (hstate : state.sessionId = some s) (write : Fault)
    {f : Unit → Proc TransportSession}
    (hf : (f ()).wp (backendRule (.openSession env' request recovery)) (fun _ _ => True)
      (.closer s state.backend)) :
    (orRollback env k handle state (call (.writeRecord session write)) >>= f).wp
      (backendRule (.openSession env' request recovery)) (fun _ _ => True)
      (.owner s state.backend) := by
  subst hsid
  have hkind : recordWrite (.openSession env' request recovery) session = .ready := by
    simp [recordWrite, hready]
  refine backend_guarded ((wp_perform _).mpr ?_)
  simp only [backendRule, hkind]
  refine ⟨by rw [hbackend], fun e s hs => ?_, by rwa [hbackend]⟩
  rw [hstate, Option.some.injEq] at hs
  exact .inl (hs ▸ rfl)

/-- The commit of a settled session. -/
theorem commitOpenSession_backend {session : TransportSession} {s : Nat}
    (hsid : session.sessionId = s) (hstate : state.sessionId = some s) :
    (orRollback env k handle state (commitOpenSession env request handle session state recovery)
      >>= fun _ => pure session).wp (backendRule tag) (fun _ _ => True)
      (.closer s state.backend) := by
  subst hsid
  have hanswers : ∀ s, state.sessionId = some s →
      (InHand.closer session.sessionId state.backend).Answers s state.backend := fun s hs => by
    rw [hstate, Option.some.injEq] at hs
    exact .inr (hs ▸ rfl)
  refine backend_guarded ?_
  rw [commitOpenSession, wp_bind, wp_perform]
  refine ⟨rfl, fun a => ?_⟩
  cases a with
  | error e => exact hanswers
  | ok u =>
      have hclear : (Prog.when (recovery = true) do
          clearTombstone request.targetKey request.generation env.clearDurable
          call (.admission (.clearRecoveryRequired request.targetKey request.generation))).Calls
            Op.Unnoticed := .when fun _ => .bind (.bind (.call trivial) fun _ =>
              .forSome fun _ _ => .when fun _ => .call trivial) fun _ => .call trivial
      refine hclear.wp (K := (· = .closer session.sessionId state.backend)) (fun _ ho _ _ hg hR => hg ▸
        backendRule_unnoticed ho fun a => hR a _ rfl) (fun r g hg => ?_) rfl
      subst hg
      cases r with
      | ok u => trivial
      | error e => exact hanswers

/-- An open of an admitted request. -/
theorem openAdmitted_backend (capability : TransportCapability) :
    (openAdmitted env capability request recovery handle).wp
      (backendRule (.openSession env request recovery)) (fun _ _ => True)
      (.drawn handle.handleId) := by
  have before : ∀ {state : OpenState}, state.sessionId = none → ∀ s, state.sessionId = some s →
      (InHand.drawn handle.handleId).Answers s state.backend := fun h s hs => by
    rw [h] at hs
    cases hs
  have console : (acquireConsole capability request.targetKey).Calls Op.Unnoticed := by
    unfold acquireConsole
    split
    · exact .bind (.call trivial) fun _ => trivial
    · trivial
  unfold openAdmitted
  refine backend_guarded_step (calls_ofExcept _) (before rfl) fun channel => ?_
  refine backend_guarded_step (calls_ofExcept _) (before rfl) fun selection => ?_
  refine backend_guarded_step (calls_ofExcept _) (before rfl) fun _ => ?_
  refine backend_guarded_step (.call trivial) (before rfl) fun guardToken => ?_
  refine backend_guarded_step (calls_ofExcept _) (before rfl) fun _ => ?_
  refine backend_guarded_step console (before rfl) fun leaseToken => ?_
  refine backend_guarded_step (calls_ofExcept _) (before rfl) fun _ => ?_
  refine backend_guarded_step (calls_ofExcept _) (before rfl) fun _ => ?_
  refine backend_guarded (writeOpeningRecord_backend env (fun record hsid hopening => ?_)
    fun e g s hs => by cases hs)
  have owns : ∀ {state : OpenState}, state.sessionId = some handle.handleId →
      ∀ s, state.sessionId = some s →
        (InHand.owner handle.handleId state.backend).Answers s state.backend := fun h s hs => by
    rw [h, Option.some.injEq] at hs
    exact .inl (hs ▸ rfl)
  refine backend_guarded_step (calls_ofExcept _) (owns rfl) fun _ => ?_
  rw [wp_bind]
  refine wp_mono (backendRule_mono _) (fun r g hr => ?_)
    (reportPartials_backend env hsid hopening env.partials _)
  cases r with
  | error e => trivial
  | ok state =>
      obtain ⟨hstate, hlast, rfl⟩ := hr state rfl
      refine backend_guarded_step (calls_ofExcept _) (owns hstate) fun attachment => ?_
      -- what the attach returns is what it reported last
      have rest : ∀ state' : OpenState, state'.sessionId = some handle.handleId → ∀ session :
          TransportSession, session.sessionId = handle.handleId → session.recordState ≠ .opening →
          session.backend = state'.backend → (do
            orRollback env request.targetKey handle state' (call (.writeRecord session env.readyWrite))
            orRollback env request.targetKey handle state' (.ofExcept (crash env.crashAfter "ready"))
            orRollback env request.targetKey handle state'
              (commitOpenSession env request handle session state' recovery)
            pure session : Proc TransportSession).wp (backendRule (.openSession env request recovery))
            (fun _ _ => True) (.owner handle.handleId state'.backend) := by
        intro state' hstate session hsid hready hbackend
        refine readyWrite_backend env hsid hready hbackend hstate _ ?_
        refine backend_guarded_step (calls_ofExcept _) (fun s hs => ?_) fun _ =>
          commitOpenSession_backend hsid hstate
        rw [hstate, Option.some.injEq] at hs
        exact .inr (hs ▸ rfl)
      cases hattached : attachment.backend with
      | none =>
          refine backend_guarded_step (calls_ofExcept _) (owns hstate) fun _ => ?_
          exact rest state hstate _ hsid nofun rfl
      | some y =>
          refine (wp_bind _ _).mpr ((wp_perform _).mpr fun hreturns => ?_)
          have hy : state.backend = some y := hlast.trans (hreturns rfl)
          rw [hy]
          refine ⟨⟨_, rfl⟩, ?_⟩
          have howns : ∀ s, (state.withBackend y).sessionId = some s →
              (InHand.owner handle.handleId (state.withBackend y).backend).Answers s
                (state.withBackend y).backend := owns hstate
          refine backend_guarded_step (calls_ofExcept _) howns fun _ => ?_
          exact rest (state.withBackend y) hstate _ hsid nofun rfl

theorem openSession_backend :
    (openSession env request recovery).wp (backendRule (.openSession env request recovery))
      (fun _ _ => True) .nothing := by
  refine backend_step (calls_ofExcept _) (fun capability => ?_) fun _ => trivial
  refine backend_step (calls_ofExcept _) (fun _ => ?_) fun _ => trivial
  rw [wp_bind, admitRequest]
  split
  · exact (wp_perform _).mpr ⟨fun _ => trivial, fun handle => openAdmitted_backend capability⟩
  · exact (wp_perform _).mpr ⟨fun _ => trivial, fun handle => openAdmitted_backend capability⟩

/-! ### Teardowns -/

/-- A cleanup step goes on with what its step leaves. -/
theorem cleanup_backend {errors : List Raised} {step : Proc Unit} {β : Type}
    {f : List Raised → Proc β} {g g' : InHand}
    (h : ∀ Q : Except Raised Unit → InHand → Prop, (∀ a, Q a g') → step.wp (backendRule tag) Q g)
    (hf : ∀ errors, (f errors).wp (backendRule tag) (fun _ _ => True) g') :
    (cleanup errors step >>= f).wp (backendRule tag) (fun _ _ => True) g := by
  rw [wp_bind, cleanup, wp_bind, wp_attempt]
  refine h _ fun r => ?_
  cases r with
  | ok u => exact hf _
  | error e =>
      show (if e.isException then _ else _ : Proc (List Raised)).wp _ _ _
      split
      · exact hf _
      · trivial

/-- A cleanup step of unnoticed operations. -/
theorem cleanup_backend_step {errors : List Raised} {step : Proc Unit} {β : Type}
    {f : List Raised → Proc β} {g : InHand} (hstep : step.Calls Op.Unnoticed)
    (hf : ∀ errors, (f errors).wp (backendRule tag) (fun _ _ => True) g) :
    (cleanup errors step >>= f).wp (backendRule tag) (fun _ _ => True) g :=
  cleanup_backend (fun _ hQ => hstep.wp (K := (· = g)) (fun _ ho _ _ hg hR => hg ▸
    backendRule_unnoticed ho fun a => hR a _ rfl) (fun a _ hg => hg ▸ hQ a) rfl) hf

/-- A close that found its record. -/
theorem closeFound_backend {env : CloseEnv} {sid : Nat} {force : Bool} {record : TransportSession}
    (hback : ∀ r, recordWrite tag r = .back) (g : InHand) :
    (closeFound env sid force record).wp (backendRule tag) (fun _ _ => True) g := by
  have lease : (releaseLease record.targetKey record.consoleLeaseToken).Calls Op.Unnoticed :=
    .forSome fun _ _ => .void (.call trivial)
  have guard : ∀ token, (releaseGuard record.targetKey token).Calls Op.Unnoticed := fun _ =>
    .forSome fun _ _ => .void (.call trivial)
  have mark : (markRecovery record.targetKey record.generation "closed_while_halted"
      env.tombstoneWrite).Calls Op.Unnoticed := .bind (.call trivial) fun _ => .call trivial
  have tail : ∀ closeError, (closeRecord env record sid force closeError).wp (backendRule tag)
      (fun _ _ => True) (.closer record.sessionId none) := fun closeError => by
    refine cleanup_backend_step lease fun _ => ?_
    refine backend_step (.call trivial) (fun token => ?_) fun _ => trivial
    refine cleanup_backend_step (guard token) fun _ => ?_
    refine backend_step (.call trivial) (fun handle => ?_) fun _ => trivial
    refine cleanup_backend_step (.forSome fun _ _ => .call trivial) fun _ => ?_
    refine cleanup_backend_step (.when fun _ => mark) fun _ => ?_
    refine cleanup_backend (fun Q hQ => deleteRecord_backend (.inr (.inr rfl)) hQ) fun _ => ?_
    exact backend_unnoticed (.bind (cleanup_calls _ (.when fun _ => .call trivial)) fun _ =>
      calls_ofExcept _) _
  refine backend_step (calls_ofExcept _) (fun _ => ?_) fun _ => trivial
  refine (wp_bind _ _).mpr ((wp_perform _).mpr ?_)
  simp only [backendRule, hback]
  refine .inr ⟨by simp, fun _ => trivial, ?_⟩
  rw [wp_bind, wp_when]
  refine ⟨fun _ => (wp_perform _).mpr fun a => ?_, fun hoff => ?_⟩
  · cases a with
    | error e => trivial
    | ok u =>
        simp only [InHand.without, if_true]
        exact backend_step (calls_ofExcept _) tail fun _ => trivial
  · -- nothing attached: no backend either
    have hnone : record.backend = none := by
      cases hpid : record.backendPid with
      | none => rw [TransportSession.backend, hpid]; rfl
      | some pid => exact absurd (by simp [TransportSession.attached, hpid]) hoff
    show wp _ _ _ (InHand.closer record.sessionId record.backend)
    rw [hnone]
    exact backend_step (calls_ofExcept _) tail fun _ => trivial

theorem closeSession_backend {env : CloseEnv} {sid : Nat} {force : Bool}
    (hback : ∀ r, recordWrite tag r = .back) (g : InHand) :
    (closeSession env sid force).wp (backendRule tag) (fun _ _ => True) g := by
  rw [closeSession_eq]
  refine backend_step (.bind (.call trivial) fun _ => trivial) (fun found => ?_) fun _ => trivial
  cases found with
  | none => trivial
  | some record => exact closeFound_backend hback g

theorem reapAndAbandon_unnoticed (h : AdmissionHandle) :
    (reapAndAbandon h).Calls Op.Unnoticed :=
  .bind (.call trivial) fun _ => .call trivial

theorem forceDrop_backend {sub : SessionSubscriber} {unlink : Fault} {g : InHand}  :
    (sub.forceDrop unlink).wp (backendRule tag) (fun _ _ => True) g := by
  have lease : (releaseLease sub.session.targetKey sub.state.leaseToken).Calls Op.Unnoticed :=
    .forSome fun _ _ => .void (.call trivial)
  have guard : (releaseGuard sub.session.targetKey sub.state.guardToken).Calls Op.Unnoticed :=
    .forSome fun _ _ => .void (.call trivial)
  have abandon : (Prog.forSome sub.state.admissionHandle fun h =>
      Prog.suppress (reapAndAbandon h)).Calls Op.Unnoticed :=
    .forSome fun h _ => .suppress (reapAndAbandon_unnoticed h)
  have last : (call (.unsubscribe sub.session.targetKey sub.session.sessionId)).Calls
    Op.Unnoticed := .call trivial
  refine backend_step lease (fun _ => ?_) fun _ => trivial
  refine backend_step guard (fun _ => ?_) fun _ => trivial
  refine backend_step (.call trivial) (fun _ => ?_) fun _ => trivial
  refine backend_step abandon (fun _ => ?_) fun _ => trivial
  refine backend_step (.call trivial) (fun _ => ?_) fun _ => trivial
  refine (wp_bind _ _).mpr ((wp_perform _).mpr ⟨backend_unnoticed last _, ?_⟩)
  -- the kill has resolved, so the session has no backend that runs
  refine (wp_bind _ _).mpr (deleteRecord_backend (.inr (.inr rfl)) fun a => ?_)
  cases a with
  | error e => trivial
  | ok u => exact backend_unnoticed last _

theorem worker_backend (worker : Worker) :
    worker.run.wp (backendRule tag) (fun _ _ => True)
      (.closer worker.subscriber.session.sessionId worker.subscriber.state.backend) := by
  cases worker with
  | forceDrop sub unlink => exact forceDrop_backend
  | invalidate sub transports reaps unlink =>
      refine backend_step (calls_ofExcept _) (fun _ => ?_) fun _ => trivial
      rw [wp_bind]
      refine wp_mono (backendRule_mono tag) (fun r g hg => ?_)
        (bestEffortReap_backend sub.state reaps _)
      cases r with
      | error e => trivial
      | ok u =>
          refine (wp_bind _ _).mpr ((wp_perform _).mpr ⟨?_, fun a => ?_⟩)
          · simpa [InHand.without, Worker.subscriber] using hg
          · cases a with
            | error e => trivial
            | ok u => exact forceDrop_backend

theorem forceRelease_backend (env : CloseEnv) (sid : Nat) (hforces : tag.MayDrop) (g : InHand) :
    (forceRelease env sid).wp (backendRule tag) (fun _ _ => True) g := by
  refine backend_step (.bind (.call trivial) fun _ => trivial) (fun found => ?_) fun _ => trivial
  cases found with
  | none =>
      refine backend_step (.call trivial) (fun _ => ?_) fun _ => trivial
      exact (wp_perform _).mpr fun _ => trivial
  | some record =>
      have guard : ∀ token, (releaseGuard record.targetKey token).Calls Op.Unnoticed := fun _ =>
        .forSome fun _ _ => .void (.call trivial)
      have abandon : ∀ handle, (Prog.forSome handle fun h =>
          Prog.suppress (reapAndAbandon h)).Calls Op.Unnoticed := fun _ =>
        .forSome fun h _ => .suppress (reapAndAbandon_unnoticed h)
      refine backend_step (.forSome fun _ _ => .void (.call trivial)) (fun _ => ?_) fun _ => trivial
      refine backend_step (.call trivial) (fun token => ?_) fun _ => trivial
      refine backend_step (guard token) (fun _ => ?_) fun _ => trivial
      refine backend_step (.call trivial) (fun handle => ?_) fun _ => trivial
      refine backend_step (abandon handle) (fun _ => ?_) fun _ => trivial
      refine (wp_bind _ _).mpr (deleteRecord_backend (.inl hforces) fun a => ?_)
      cases a with
      | error e => trivial
      | ok u => exact backend_unnoticed (.when fun _ => .call trivial) g

/-- An emit starts workers for the subscribers it read. -/
theorem emit_backend (env : EmitEnv) (k : TargetKey) (g : InHand) :
    (emit env k).wp (backendRule tag) (fun _ _ => True) g := by
  refine backend_step (.call trivial) (fun _ => ?_) fun _ => trivial
  refine (wp_bind _ _).mpr ((wp_perform _).mpr fun subscribers => ?_)
  have workers : ∀ (some : List SessionSubscriber) (start : SessionSubscriber → Worker),
      (∀ sub ∈ some, sub ∈ subscribers) → (∀ sub, (start sub).subscriber = sub) →
      (Prog.forEach some fun sub => call (.startWorker (start sub))).wp (backendRule tag)
        (fun _ g => g = .emitter subscribers) (.emitter subscribers) := by
    intro some start hsome hstart
    refine wp_forEach (backendRule_mono tag) (J := (· = .emitter subscribers))
      (fun sub hsub g hg => ?_) (fun g hg => hg) rfl
    subst hg
    refine (wp_perform _).mpr ⟨⟨_, rfl, ?_⟩, fun a => by cases a <;> rfl⟩
    exact (hstart sub).symm ▸ hsome sub hsub
  refine (wp_bind _ _).mpr (wp_mono (backendRule_mono tag) (fun r g hg => ?_)
    (workers _ _ (fun sub hsub => (List.mem_filter.mp hsub).1) fun _ => rfl))
  subst hg
  cases r with
  | error e => trivial
  | ok u =>
      refine (wp_bind _ _).mpr (wp_mono (backendRule_mono tag) (fun r g hg => ?_)
        (workers _ _ (fun sub hsub => (List.mem_filter.mp (List.mem_filter.mp hsub).1).1)
          fun _ => rfl))
      cases r with
      | error e => trivial
      | ok u => exact (wp_perform _).mpr fun _ => trivial

/-! ### The other threads -/

/-- An unnoticed operation or a write. -/
def Op.Back (o : Op) : Prop := o.Unnoticed ∨ ∃ r fault, o = .writeRecord r fault

theorem Op.OfExecution.back {o : Op} (ho : o.OfExecution) : o.Back := by
  cases o with
  | admission c =>
      cases c with
      | currentSnapshot | currentExecutionEpoch | admitSshTier | noteExecutionTransition
      | cancelSshTier => exact .inl trivial
      | _ => exact ho.elim
  | readRecord | listRecords => exact .inl trivial
  | writeRecord r fault => exact .inr ⟨r, fault, rfl⟩
  | _ => exact ho.elim

/-- A program of writes back and unnoticed operations. -/
theorem backend_back {α : Type} {p : Proc α} (hback : ∀ r, recordWrite tag r = .back)
    (hp : p.Calls Op.Back) (g : InHand) :
    p.wp (backendRule tag) (fun _ _ => True) g := by
  refine hp.wp (K := fun _ => True) (fun o ho R g _ hR => ?_) (fun _ _ _ => trivial) trivial
  cases ho with
  | inl ho => exact backendRule_unnoticed ho fun a => hR a g trivial
  | inr hwrite =>
      obtain ⟨r, fault, rfl⟩ := hwrite
      simp only [backendRule, hback]
      exact .inl fun a => hR a g trivial

/-- Every thread keeps to the rule from its start. -/
theorem activity_backend (tag : Activity) :
    (activityBody tag).wp (backendRule tag) (fun _ _ => True)
      ((backendRecord x).start tag) := by
  cases tag with
  | openSession env request recovery => exact (wp_void _).mpr openSession_backend
  | closeSession env sid force => exact closeSession_backend (fun _ => rfl) _
  | forceRelease env sid =>
      have hforces : (Activity.forceRelease env sid).MayDrop := trivial
      exact forceRelease_backend env sid hforces _
  | invalidateLifecycle env k generation closeAdmission =>
      refine backend_step (.call trivial) (fun stale => ?_) fun _ => trivial
      exact wp_when.mpr ⟨fun _ => emit_backend env k _, fun _ => trivial⟩
  | worker worker => exact worker_backend worker
  | runTests | introspect | halt | resume | injectBreak =>
      refine backend_back (fun _ => rfl) ((activity_ofExecution ?_).mono fun _ ho => ho.back) _
      trivial
  | admission c =>
      refine (wp_void _).mpr ((wp_perform _).mpr ?_)
      cases c with
      | admitOpen | admitRecovery => exact ⟨fun _ => trivial, fun _ => trivial⟩
      | _ => exact fun _ => trivial

end Programs

end Kdive

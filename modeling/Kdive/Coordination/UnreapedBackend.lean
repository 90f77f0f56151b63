import Kdive.Coordination.BackendRecord
import Kdive.Transport.SerialLocal

/-!
# An unreaped backend stays on record

The discipline of `BackendRecord` is sound: what a thread knows of its session stays
true while others act, and no allowed operation takes a running backend off the
record.  So a crash at any point of such a run leaves a record to find it by.
-/

namespace Kdive

open Interleaving Program

/-! ## What an allowed operation does -/

/-- The operation does what the threads rely on, and no forced release drops the backend. -/
def KeepsBackend (x : BackendIdentity) (tag : Activity) (o : Op) (w : World) : Prop :=
  KeepsBackends tag o w ∧ ¬ ForceDrops x tag o w

namespace World

variable {w : World} {r : TransportSession} {p : TransportSession → Prop}

/-- A write back of what the record names. -/
abbrev BacksUp (w : World) (r : TransportSession) : Prop :=
  w.Replaces r fun old =>
    old.backend = r.backend ∧ (r.recordState = .opening → old.recordState = .opening)

theorem Replaces.owning (h : w.Replaces r p) : w.Owning r := by
  obtain ⟨old, hread, hsid, _⟩ := h
  rw [Owning, Option.mem_def.mp hread, Option.map_some, hsid]

theorem Replaces.exists (h : w.Replaces r p) :
    ∃ old ∈ w.registry.records, old.sessionId = r.sessionId ∧ p old := by
  obtain ⟨old, hread, hsid, hp⟩ := h
  exact ⟨old, (SessionRegistry.mem_of_readRecord hread).1, hsid, hp⟩

end World

/-- The thread that writes a record has drawn its session, owns it, or writes it back. -/
inductive WrittenBy (x : BackendIdentity) (w : World) (r : TransportSession) (g : InHand) : Prop
  | first (drawn : g = .drawn r.sessionId) (nothing : r.backend = none)
      (free : ∀ old ∈ w.registry.readRecord r.targetKey, w.Vacant old)
  | own (b : Option BackendIdentity) (owner : g = .owner r.sessionId b)
      (opening : w.Replaces r fun old => old.recordState = .opening)
      (keeps : w.Replaces r fun old => old.backend = some x → r.backend = some x ∨ w.Reaped x)
  | back (backs : w.BacksUp r)

section Sound

variable {x : BackendIdentity} {tag : Activity} {o : Op} {w : World} {g : InHand}
  {Q : Except Raised o.Resp → InHand → Prop}

theorem recordWrite_eq_first {r : TransportSession} (h : recordWrite tag r = .first) :
    r.backend = none := by
  cases tag with
  | openSession =>
      simp only [recordWrite] at h
      split at h
      · split at h
        · simp [TransportSession.backend, ‹r.backendPid = none›]
        · cases h
      · cases h
  | _ => cases h

theorem recordWrite_eq_ready {r : TransportSession} (h : recordWrite tag r = .ready) :
    r.recordState ≠ .opening := by
  intro hstate
  cases tag with
  | openSession =>
      simp only [recordWrite, hstate, if_true] at h
      split at h <;> cases h
  | _ => cases h

theorem writtenBy_of_allows {r : TransportSession} {Q : Except Raised Unit → InHand → Prop}
    (h : (backendRecord x).Allows coordination (KeepsBackend x) tag (.writeRecord r none) w g Q) :
    WrittenBy x w r g := by
  have hrule : backendRule tag (.writeRecord r none) Q g := h.rule
  have hcond : WritesKeep r none w (recordWrite tag r) := h.cond.1
  simp only [backendRule] at hrule
  cases hkind : recordWrite tag r with
  | first =>
      rw [hkind] at hrule hcond
      exact .first hrule.1 (recordWrite_eq_first hkind) (hcond rfl)
  | report =>
      rw [hkind] at hrule hcond
      obtain ⟨b, hg⟩ := hrule.1
      obtain ⟨old, hread, hsid, hopening, hold⟩ := hcond.2
      refine .own b hg ⟨old, hread, hsid, hopening⟩ ⟨old, hread, hsid, fun hx => ?_⟩
      cases hold with
      | inl heq => exact .inl (heq ▸ hx)
      | inr hvacant => exact .inr (hvacant x hx)
  | ready =>
      rw [hkind] at hrule hcond
      obtain ⟨old, hread, hsid, hopening⟩ := hcond rfl
      refine .own _ hrule.1 ⟨old, hread, hsid, hopening⟩ ⟨old, hread, hsid, fun hx => ?_⟩
      -- the owner knows what the record names
      have hknows : Knows x w (.owner r.sessionId r.backend) := hrule.1 ▸ h.knows
      exact hknows.2.1.of_mem (SessionRegistry.mem_of_readRecord hread).1 hsid hx
  | back =>
      rw [hkind] at hcond
      exact .back (hcond rfl)

theorem ownedDisk_backend
    (h : (backendRecord x).Allows coordination (KeepsBackend x) tag o w g Q) :
    OwnedDisk (w.exec o).2 := by
  refine h.inv.disk.exec fun r ho => ?_
  subst ho
  cases writtenBy_of_allows h with
  | first drawn =>
      have hdrawn : Knows x w (.drawn r.sessionId) := drawn ▸ h.knows
      exact .inr ⟨hdrawn.drawn, hdrawn.off⟩
  | own b owner opening => exact .inl opening.owning
  | back backs => exact .inl backs.owning

/-- A backend that is on record stays on record until it is stopped. -/
theorem names_exec (h : (backendRecord x).Allows coordination (KeepsBackend x) tag o w g Q)
    (hnames : w.Names x) : (w.exec o).2.Names x ∨ (w.exec o).2.Reaped x := by
  obtain ⟨n, hn, hx⟩ := hnames
  have reaped : w.Reaped x → (w.exec o).2.Names x ∨ (w.exec o).2.Reaped x := fun hx =>
    .inr (w.exec_reaped o hx)
  obtain heq | ⟨r, rfl, heq⟩ | ⟨k, sid, rfl, heq⟩ := w.exec_records o
  · exact .inl ⟨n, heq ▸ hn, hx⟩
  · by_cases hkey : n.targetKey = r.targetKey
    · -- the write takes the place of the record
      have hread : w.registry.readRecord r.targetKey = some n :=
        hkey ▸ h.inv.disk.distinct.readRecord hn
      have named : r.backend = some x → (w.exec (.writeRecord r none)).2.Names x := fun hr =>
        ⟨r, by rw [heq]; exact List.mem_append_right _ List.mem_cons_self, hr⟩
      cases writtenBy_of_allows h with
      | first drawn nothing free => exact reaped (free n hread x hx)
      | own b owner opening keeps =>
          obtain ⟨old, hold, _, hkeeps⟩ := keeps
          rw [hread, Option.mem_some_iff] at hold
          exact (hkeeps (hold ▸ hx)).elim (fun hr => .inl (named hr)) reaped
      | back backs =>
          obtain ⟨old, hold, _, hbackend, _⟩ := backs
          rw [hread, Option.mem_some_iff] at hold
          exact .inl (named (hbackend ▸ hold ▸ hx))
    · refine .inl ⟨n, ?_, hx⟩
      rw [heq]
      exact List.mem_append_left _ (List.mem_filter.mpr ⟨hn, by simpa using hkey⟩)
  · by_cases hkey : n.targetKey = k
    · -- the unlink takes the record away
      have hread : w.registry.readRecord k = some n := hkey ▸ h.inv.disk.distinct.readRecord hn
      have hsid : n.sessionId = sid := h.cond.1 rfl n hread
      have hrule : backendRule tag (.unlinkRecord k sid none) Q g := h.rule
      have answered : ∀ b, w.Covers x sid b → b = none → w.Reaped x := fun b hcovers hb =>
        (hcovers.of_mem hn hsid hx).resolve_left fun heq => by rw [hb] at heq; cases heq
      cases hrule.1 with
      | inl hforces =>
          cases tag with
          | forceRelease env s => exact absurd ⟨n, hread, hx⟩ h.cond.2
          | _ => exact hforces.elim
      | inr hanswers =>
          cases hanswers with
          | inl howner =>
              have hknows : Knows x w (.owner sid none) := howner ▸ h.knows
              exact reaped (answered _ hknows.2.1 rfl)
          | inr hcloser =>
              have hknows : Knows x w (.closer sid none) := hcloser ▸ h.knows
              exact reaped (answered _ hknows.covers rfl)
    · refine .inl ⟨n, ?_, hx⟩
      rw [heq]
      exact List.mem_filter.mpr ⟨hn, by simpa using hkey⟩

theorem onRecord_exec (h : (backendRecord x).Allows coordination (KeepsBackend x) tag o w g Q) :
    (w.exec o).2.OnRecord x := by
  intro hreported hrunning
  have named : w.Reaped x ∨ w.Names x → (w.exec o).2.Names x := fun hor =>
    hor.elim (fun hx => absurd (w.exec_reaped o hx) hrunning)
      fun hnames => (names_exec h hnames).resolve_right hrunning
  cases w.exec_reported o hreported with
  | inl hold => exact named ((em _).imp_right (h.inv.onRecord hold))
  | inr hnew =>
      obtain ⟨returned, rfl⟩ := hnew
      have hrule : backendRule tag (.reportBackend x returned) Q g := h.rule
      obtain ⟨s, hg⟩ := (hrule h.cond.1).1
      have hknows : Knows x w (.owner s (some x)) := hg ▸ h.knows
      exact named (hknows.2.2 rfl)

/-! ### What threads know -/

theorem Settled.exec {s : Nat} {b : Option BackendIdentity} (hs : World.Settled x s b w)
    (hwrite : ∀ r, o = .writeRecord r none → r.sessionId = s →
      w.BacksUp r ∨ w.Replaces r fun old => old.recordState = .opening) :
    World.Settled x s b (w.exec o).2 := by
  -- no record of the session is `opening`, so a write of one is a write back
  have back : ∀ r, o = .writeRecord r none → r.sessionId = s → ∃ old ∈ w.registry.records,
      old.sessionId = s ∧ old.backend = r.backend ∧ r.recordState ≠ .opening := by
    intro r ho hsid
    cases hwrite r ho hsid with
    | inl hback =>
        obtain ⟨old, hold, hsid', hbackend, hopening⟩ := hback.exists
        exact ⟨old, hold, hsid'.trans hsid, hbackend, fun hr =>
          hs.opened old hold (hsid'.trans hsid) (hopening hr)⟩
    | inr hopening =>
        obtain ⟨old, hold, hsid', hstate⟩ := hopening.exists
        exact absurd hstate (hs.opened old hold (hsid'.trans hsid))
  refine ⟨hs.drawn.trans_le (w.exec_evolves o).nextId, fun r hr hsid => ?_, hs.covers.exec ?_⟩
  · cases w.mem_exec_records o hr with
    | inl hold => exact hs.opened r hold hsid
    | inr hnew =>
        obtain ⟨_, _, _, _, hstate⟩ := back r hnew hsid
        exact hstate
  · intro r ho hsid
    obtain ⟨old, hold, hsid', hbackend, _⟩ := back r ho hsid
    exact ⟨old, hold, hsid', hbackend⟩

theorem Drawn.exec {s : Nat} (hs : Drawn s w)
    (hwrite : ∀ r, o = .writeRecord r none → r.sessionId ≠ s) (hkill : o ≠ .setKilled s)
    (hcommit : ∀ h session state dispatcher subscribe,
      o = .commit h session state dispatcher subscribe → session.sessionId ≠ s) :
    Drawn s (w.exec o).2 := by
  refine ⟨hs.drawn.trans_le (w.exec_evolves o).nextId, fun ⟨r, hr, hsid⟩ => ?_, ?_,
    fun k sub hsub => ?_⟩
  · cases w.mem_exec_records o hr with
    | inl hold => exact hs.off ⟨r, hold, hsid⟩
    | inr hnew => exact hwrite r hnew hsid
  · rw [← Bool.not_eq_true]
    intro hk
    obtain hold | hset | ⟨h, session, state, dispatcher, subscribe, ho, hsid, _⟩ :=
      w.exec_killed o hk
    · exact absurd hold (by simp [hs.alive])
    · exact hkill hset
    · exact hcommit _ _ _ _ _ ho hsid
  · cases w.exec_subscribers o hsub with
    | inl hold => exact hs.unsubscribed k sub hold
    | inr hnew =>
        obtain ⟨h, session, state, dispatcher, subscribe, _, ho, _, _, rfl⟩ := hnew
        exact hcommit _ _ _ _ _ ho

/-- The session is still being opened, as far as the thread has it in hand. -/
def InHand.Opens (g : InHand) (s : Nat) : Prop := g = .drawn s ∨ ∃ b, g = .owner s b

/-- An operation leaves what a thread knows, if it writes no record of a session the
thread opens, except back. -/
theorem knows_exec (h : (backendRecord x).Allows coordination (KeepsBackend x) tag o w g Q)
    {g' : InHand} (hk : Knows x w g')
    (hwrite : ∀ r, o = .writeRecord r none → w.BacksUp r ∨ ¬ g'.Touches r.sessionId ∨
      (w.Replaces r fun old => old.recordState = .opening) ∧ ¬ g'.Opens r.sessionId)
    (hother : ∀ s, g' = .drawn s → o ≠ .setKilled s ∧
      ∀ h session state dispatcher subscribe,
        o = .commit h session state dispatcher subscribe → session.sessionId ≠ s) :
    Knows x (w.exec o).2 g' := by
  have settled : ∀ {s b}, g'.Touches s → World.Settled x s b w →
      World.Settled x s b (w.exec o).2 := by
    intro s b htouch hs
    refine Settled.exec hs fun r ho hsid => ?_
    obtain hback | hnot | hopening := hwrite r ho
    · exact .inl hback
    · exact absurd (hsid ▸ htouch) hnot
    · exact .inr hopening.1
  cases g' with
  | nothing => trivial
  | drawn s =>
      refine Drawn.exec hk (fun r ho hsid => ?_) (hother s rfl).1 (hother s rfl).2
      obtain hback | hnot | hopening := hwrite r ho
      · obtain ⟨old, hold, hsid', _⟩ := hback.exists
        exact hk.off ⟨old, hold, hsid'.trans hsid⟩
      · exact hnot hsid.symm
      · exact hopening.2 (.inl (hsid ▸ rfl))
  | owner s b =>
      obtain ⟨hdrawn, hcovers, hnames⟩ := hk
      refine ⟨hdrawn.trans_le (w.exec_evolves o).nextId, hcovers.exec fun r ho hsid => ?_,
        fun hx => ?_⟩
      · obtain hback | hnot | hopening := hwrite r ho
        · obtain ⟨old, hold, hsid', hbackend, _⟩ := hback.exists
          exact ⟨old, hold, hsid'.trans hsid, hbackend⟩
        · exact absurd hsid.symm hnot
        · exact absurd (.inr ⟨b, hsid ▸ rfl⟩) hopening.2
      · exact (hnames hx).elim (fun h => .inl (w.exec_reaped o h)) fun hn => (names_exec h hn).symm
  | closer s b => exact settled rfl hk
  | emitter subscribers => exact fun sub hsub => settled ⟨sub, hsub, rfl⟩ (hk sub hsub)

/-- What an operation leaves to the other threads. -/
theorem knows_frame (h : (backendRecord x).Allows coordination (KeepsBackend x) tag o w g Q)
    {g' : InHand} (hk : Knows x w g') (hapart : g.Apart g') : Knows x (w.exec o).2 g' := by
  refine knows_exec h hk (fun r ho => ?_) fun s hg' => ⟨fun ho => ?_, ?_⟩
  · subst ho
    cases writtenBy_of_allows h with
    | first drawn => exact .inr (.inl (hapart.drawn _ drawn))
    | own b owner opening =>
        refine .inr (.inr ⟨opening, fun hopens => ?_⟩)
        obtain hdrawn | ⟨b', howner⟩ := hopens
        · exact hapart.drawn' _ hdrawn (owner ▸ rfl)
        · exact hapart.owner _ b b' owner howner
    | back backs => exact .inl backs
  · subst ho
    have hrule : backendRule tag (.setKilled s) Q g := h.rule
    exact hapart.drawn' s hg' (hrule.1 ▸ rfl)
  · rintro handle session state dispatcher subscribe rfl hsid
    have hrule : backendRule tag (.commit handle session state dispatcher subscribe) Q g := h.rule
    exact hapart.drawn' s hg' (hrule.1 ▸ hsid)

/-- An id a thread has in hand was drawn before. -/
theorem Knows.lt {s : Nat} (hk : Knows x w g) (hs : g.Touches s) : s < w.admission.nextId := by
  cases g with
  | nothing => exact hs.elim
  | drawn s' => exact hs ▸ hk.drawn
  | owner s' b => exact hs ▸ hk.1
  | closer s' b => exact hs ▸ hk.drawn
  | emitter subscribers =>
      obtain ⟨sub, hsub, rfl⟩ := hs
      exact (hk sub hsub).drawn

theorem World.Replaces.not_drawn {r : TransportSession} {p : TransportSession → Prop}
    (h : w.Replaces r p) : ¬ Drawn r.sessionId w := fun hdrawn => hdrawn.off h.owning.onDisk

/-- A written record is all its session has. -/
theorem written_only (h : OwnedDisk (w.exec o).2) {r s : TransportSession}
    (ho : o = .writeRecord r none) (hs : s ∈ (w.exec o).2.registry.records)
    (hsid : s.sessionId = r.sessionId) : s = r := by
  subst ho
  have hr : r ∈ (w.exec (.writeRecord r none)).2.registry.records :=
    List.mem_append_right _ List.mem_cons_self
  have hreads := h.distinct.readRecord hs
  rw [h.sole s hs r hr hsid, h.distinct.readRecord hr, Option.some.injEq] at hreads
  exact hreads.symm

theorem written_covers (h : OwnedDisk (w.exec o).2) {r : TransportSession}
    (ho : o = .writeRecord r none) : (w.exec o).2.Covers x r.sessionId r.backend := by
  by_cases hx : r.backend = some x
  · exact .inl hx
  · exact .inr (.inr fun s hs hsid => by rwa [written_only h ho hs hsid])

/-- A written record that has left `opening` settles its session. -/
theorem written_settled (h : OwnedDisk (w.exec o).2) {r : TransportSession}
    (ho : o = .writeRecord r none) (hstate : r.recordState ≠ .opening) :
    World.Settled x r.sessionId r.backend (w.exec o).2 := by
  have hr : r ∈ (w.exec o).2.registry.records := by
    subst ho
    exact List.mem_append_right _ List.mem_cons_self
  exact ⟨h.drawn r hr, fun s hs hsid => by rwa [written_only h ho hs hsid], written_covers h ho⟩

theorem Knows.without {b : Option BackendIdentity} (hk : Knows x w g) (hb : ∀ y ∈ b, w.Reaped y) :
    Knows x w (g.without b) := by
  cases g with
  | owner s b' =>
      by_cases heq : b' = b
      · simp only [InHand.without, heq, if_true]
        exact ⟨hk.1, hk.2.1.stopped (heq ▸ hb), by simp⟩
      · simpa [InHand.without, heq] using hk
  | closer s b' =>
      by_cases heq : b' = b
      · simp only [InHand.without, heq, if_true]
        exact World.Settled.stopped hk (heq ▸ hb)
      · simpa [InHand.without, heq] using hk
  | _ => exact hk

/-- A new id is not on disk and nobody knows it. -/
theorem knows_newDrawn {handle : AdmissionHandle} (hinv : BackendInv x w)
    (hid : handle.handleId = w.admission.nextId) :
    Drawn handle.handleId (w.withAdmission (w.admission.registered handle)) where
  drawn := by simp [World.withAdmission, hid]
  off := fun ⟨r, hr, hsid⟩ => absurd (hinv.disk.drawn r hr) (by omega)
  alive := by
    rw [← Bool.not_eq_true]
    exact fun hk => absurd (hinv.killed _ hk).drawn (by omega)
  unsubscribed := fun k sub hsub hsid => absurd (hinv.subscribers k sub hsub).drawn (by omega)

theorem staysApart_newDrawn {handle : AdmissionHandle}
    (hid : handle.handleId = w.admission.nextId) :
    (backendRecord x).StaysApart w g (.drawn handle.handleId) := by
  intro tag other hknows _
  have hlt : ∀ s, other.Touches s → s < w.admission.nextId := fun s => Knows.lt hknows
  refine ⟨fun s hs htouch => ?_, fun s hs htouch => ?_, nofun⟩
  · cases hs
    exact absurd (hlt _ htouch) (by omega)
  · subst hs
    have hs : handle.handleId = s := htouch
    exact absurd (hlt s rfl) (by omega)

/-- A settled session that nobody has drawn. -/
theorem staysApart_closer {s : Nat} {b : Option BackendIdentity} (hs : ¬ Drawn s w) :
    (backendRecord x).StaysApart w g (.closer s b) := by
  intro tag other hknows _
  refine InHand.apart_of_drawn nofun nofun fun s' hother htouch => ?_
  subst hother
  have heq : s = s' := htouch
  exact hs (heq ▸ hknows)

/-- The operations that change nothing a thread opens. -/
def Op.Still : Op → Prop
  | .writeRecord _ none | .commit .. | .setKilled _ => False
  | _ => True

theorem knows_quiet (h : (backendRecord x).Allows coordination (KeepsBackend x) tag o w g Q)
    (ho : o.Still) : Knows x (w.exec o).2 g := by
  refine knows_exec h h.knows (fun r hr => ?_) fun s _ => ⟨fun hs => ?_, ?_⟩
  · subst hr
    exact ho.elim
  · subst hs
    exact ho.elim
  · rintro handle session state dispatcher subscribe rfl
    exact ho.elim

/-- A write back leaves what its thread knows. -/
theorem knows_back {r : TransportSession} {Q : Except Raised Unit → InHand → Prop}
    (h : (backendRecord x).Allows coordination (KeepsBackend x) tag (.writeRecord r none) w g Q)
    (hback : w.BacksUp r) : Knows x (w.exec (.writeRecord r none)).2 g := by
  refine knows_exec h h.knows (fun r' ho => ?_) fun s _ => ⟨fun ho => (by cases ho), ?_⟩
  · rw [Op.writeRecord.injEq] at ho
    exact .inl (ho.1 ▸ hback)
  · intro handle session state dispatcher subscribe ho
    cases ho

/-- What a write does for the thread that makes it. -/
theorem learn_write {r : TransportSession} {fault : Fault}
    {Q : Except Raised Unit → InHand → Prop}
    (h : (backendRecord x).Allows coordination (KeepsBackend x) tag (.writeRecord r fault) w g Q) :
    ∃ g', Knows x (w.exec (.writeRecord r fault)).2 g' ∧
      Q (w.exec (.writeRecord r fault)).1 g' ∧ (backendRecord x).StaysApart w g g' := by
  have hrule : backendRule tag (.writeRecord r fault) Q g := h.rule
  have hcond : WritesKeep r fault w (recordWrite tag r) := h.cond.1
  simp only [backendRule] at hrule
  have same : (backendRecord x).StaysApart w g g := fun _ _ _ hapart => hapart
  cases fault with
  | some kind =>
      have hk := knows_quiet h trivial
      cases hkind : recordWrite tag r with
      | first =>
          rw [hkind] at hrule
          exact ⟨.nothing, trivial, hrule.2.1 _, fun _ _ _ _ =>
            InHand.apart_of_drawn (by simp) (by simp) fun _ _ => id⟩
      | report =>
          rw [hkind] at hcond
          cases hcond.1
      | ready =>
          rw [hkind] at hrule
          exact ⟨g, hk, hrule.2.1 _, same⟩
      | back =>
          rw [hkind] at hrule
          cases hrule with
          | inl hback => exact ⟨g, hk, hback _, same⟩
          | inr hclose => exact ⟨g, hk, hclose.2.1 _, same⟩
  | none =>
      have hdisk := ownedDisk_backend h
      have hcovers := written_covers (x := x) hdisk rfl
      have hr : r ∈ (w.exec (.writeRecord r none)).2.registry.records :=
        List.mem_append_right _ List.mem_cons_self
      cases hkind : recordWrite tag r with
      | first =>
          rw [hkind] at hrule
          rw [recordWrite_eq_first hkind] at hcovers
          exact ⟨.owner r.sessionId none, ⟨hdisk.drawn r hr, hcovers, by simp⟩, hrule.2.2,
            fun _ _ _ hapart => hapart.owner_of (.inl hrule.1) _⟩
      | report =>
          rw [hkind] at hrule
          exact ⟨.owner r.sessionId r.backend, ⟨hdisk.drawn r hr, hcovers, fun hx =>
            .inr ⟨r, hr, hx⟩⟩, hrule.2, fun _ _ _ hapart => hapart.owner_of (.inr hrule.1) _⟩
      | ready =>
          rw [hkind] at hrule
          rw [hkind] at hcond
          exact ⟨.closer r.sessionId r.backend,
            written_settled hdisk rfl (recordWrite_eq_ready hkind), hrule.2.2,
            staysApart_closer (hcond rfl).not_drawn⟩
      | back =>
          rw [hkind] at hrule hcond
          cases hrule with
          | inl hback =>
              exact ⟨g, knows_back h (hcond rfl), hback _, same⟩
          | inr hclose =>
              exact ⟨.closer r.sessionId r.backend, written_settled hdisk rfl hclose.1, hclose.2.2,
                staysApart_closer (hcond rfl).not_drawn⟩

theorem backendInv_exec
    (h : (backendRecord x).Allows coordination (KeepsBackend x) tag o w g Q) :
    BackendInv x (w.exec o).2 := by
  -- a thread that has drawn a session writes no other, and its own is not settled
  have settled : ∀ {s b}, g ≠ .drawn s → World.Settled x s b w →
      World.Settled x s b (w.exec o).2 := by
    intro s b hg hs
    refine Settled.exec hs fun r ho hsid => ?_
    subst ho
    cases writtenBy_of_allows h with
    | first drawn => exact absurd (hsid ▸ drawn) hg
    | own b owner opening => exact .inr opening
    | back backs => exact .inl backs
  have drawn : ∀ {s}, g = .drawn s → Drawn s w := fun {s} hg => by
    have hknows : Knows x w (.drawn s) := hg ▸ h.knows
    exact hknows
  refine ⟨ownedDisk_backend h, onRecord_exec h, fun k sub hsub => ?_, fun s hs => ?_⟩
  · cases w.exec_subscribers o hsub with
    | inl hold =>
        exact settled (fun hg => (drawn hg).unsubscribed k sub hold rfl) (h.inv.subscribers k sub hold)
    | inr hnew =>
        obtain ⟨handle, session, state, dispatcher, subscribe, _, rfl, _, _, rfl⟩ := hnew
        have hrule : backendRule tag (.commit handle session state dispatcher subscribe) Q g :=
          h.rule
        have hknows : Knows x w (.closer session.sessionId state.backend) := hrule.1 ▸ h.knows
        exact settled (hrule.1 ▸ nofun) hknows
  · obtain hold | rfl | ⟨handle, session, state, dispatcher, subscribe, rfl, hsid, hpid⟩ :=
      w.exec_killed o hs
    · refine settled (fun hg => ?_) (h.inv.killed s hold)
      have halive := (drawn hg).alive
      rw [hold] at halive
      cases halive
    · have hrule : backendRule tag (.setKilled s) Q g := h.rule
      have hknows : Knows x w (.closer s none) := hrule.1 ▸ h.knows
      exact settled (hrule.1 ▸ nofun) hknows
    · have hrule : backendRule tag (.commit handle session state dispatcher subscribe) Q g :=
        h.rule
      have hnone : state.backend = none := by rw [OpenState.backend, hpid]; rfl
      have hg : g = .closer s none := by rw [hrule.1, hnone, hsid]
      have hknows : Knows x w (.closer s none) := hg ▸ h.knows
      exact settled (hg ▸ nofun) hknows

theorem backendRecord_sound :
    Sound coordination (backendRecord x) (KeepsBackend x) where
  inv := backendInv_exec
  frame := fun h _ _ hk hapart => knows_frame h hk hapart
  learn := by
    intro tag o w g Q h
    have hrule : backendRule tag o Q g := h.rule
    have same : (backendRecord x).StaysApart w g g := fun _ _ _ hapart => hapart
    have kept : o.Still → Q (w.exec o).1 g → ∃ g', Knows x (w.exec o).2 g' ∧ Q (w.exec o).1 g' ∧
        (backendRecord x).Hands w (w.exec o).2 g g' ∧ (backendRecord x).StaysApart w g g' :=
      fun ho hQ => ⟨g, knows_quiet h ho, hQ, fun x => x.elim, same⟩
    -- a thread whose backend was stopped
    have stopped : ∀ b, o.Still → (∀ y ∈ b, (w.exec o).2.Reaped y) →
        Q (w.exec o).1 (g.without b) → ∃ g', Knows x (w.exec o).2 g' ∧ Q (w.exec o).1 g' ∧
        (backendRecord x).Hands w (w.exec o).2 g g' ∧ (backendRecord x).StaysApart w g g' :=
      fun b ho hb hQ => ⟨_, (knows_quiet h ho).without hb, hQ, fun x => x.elim,
        fun _ _ _ hapart => hapart.without b⟩
    cases o with
    | admission c =>
        cases c with
        | admitOpen k request now =>
            simp only [coordination, World.exec, World.withAdmission, AdmissionService.after]
            rcases w.admission.perform_admitOpen k request now with
              ⟨e, heq⟩ | ⟨handle, heq, hadmits, _⟩
            · rw [heq]
              exact ⟨g, h.knows, hrule.1 _, fun x => x.elim, same⟩
            · rw [heq]
              exact ⟨.drawn handle.handleId, knows_newDrawn h.inv hadmits.id, hrule.2 handle,
                fun x => x.elim,
                staysApart_newDrawn hadmits.id⟩
        | admitRecovery k request now =>
            simp only [coordination, World.exec, World.withAdmission, AdmissionService.after]
            rcases w.admission.perform_admitRecovery k request now with
              ⟨e, heq⟩ | ⟨handle, heq, hadmits, _⟩
            · rw [heq]
              exact ⟨g, h.knows, hrule.1 _, fun x => x.elim, same⟩
            · rw [heq]
              exact ⟨.drawn handle.handleId, knows_newDrawn h.inv hadmits.id, hrule.2 handle,
                fun x => x.elim,
                staysApart_newDrawn hadmits.id⟩
        | _ => exact kept trivial (hrule _)
    | writeRecord r fault =>
        obtain ⟨g', hk, hQ, hapart⟩ := learn_write h
        exact ⟨g', hk, hQ, fun x => x.elim, hapart⟩
    | unlinkRecord k sid fault => exact kept trivial (hrule.2 _)
    | reportBackend y returned => exact kept trivial (hrule h.cond.1).2
    | reapBackend y stops =>
        refine stopped (some y) trivial (fun z hz => ?_) (hrule _)
        cases hz
        cases stops with
        | true => exact Backends.mem_reap.mpr (.inr rfl)
        | false => exact h.cond.1.resolve_left (by simp)
    | closeAttached r raises stops =>
        refine stopped r.backend trivial (fun y hy => ?_) (hrule _)
        cases h.cond.1 with
        | inl hvacant => exact w.exec_reaped _ (hvacant y hy)
        | inr hstops =>
            obtain ⟨rfl, hpid⟩ := hstops
            exact Backends.close_stops hy hpid raises
    | commit handle session state dispatcher subscribe =>
        refine ⟨g, knows_exec h h.knows (fun r ho => by cases ho) (fun s hs => ?_), hrule.2 _,
          fun x => x.elim, same⟩
        rw [hrule.1] at hs
        cases hs
    | setKilled s =>
        refine ⟨g, knows_exec h h.knows (fun r ho => by cases ho) (fun s hs => ?_), hrule.2 _,
          fun x => x.elim, same⟩
        rw [hrule.1] at hs
        cases hs
    | killed s =>
        cases hkilled : w.killed s with
        | false =>
            refine kept trivial ?_
            simpa [World.exec, hkilled] using hrule.1
        | true =>
            refine ⟨.closer s none, h.inv.killed s hkilled, ?_, fun x => x.elim,
              staysApart_closer fun hdrawn => ?_⟩
            · simpa [coordination, World.exec, hkilled] using hrule.2
            · exact absurd hkilled (by simp [hdrawn.alive])
    | subscribersOf k =>
        refine ⟨.emitter (w.subscribers k), h.inv.subscribers k, hrule _, fun x => x.elim,
          fun _ other hknows _ => InHand.apart_of_drawn (by simp) (by simp) fun s' hs' htouch => ?_⟩
        subst hs'
        obtain ⟨sub, hsub, hsid⟩ := htouch
        exact hknows.unsubscribed k sub hsub hsid
    | startWorker worker => exact kept trivial (hrule.2 _)
    | _ => exact kept trivial (hrule _)
  spawn := by
    intro tag o w g Q h tag' htag'
    cases o with
    | startWorker worker =>
        obtain rfl := List.mem_singleton.mp htag'
        have hrule : backendRule tag (.startWorker worker) Q g := h.rule
        obtain ⟨subscribers, hg, hmem⟩ := hrule.1
        have hknows : Knows x w (.emitter subscribers) := hg ▸ h.knows
        exact ⟨hknows _ hmem, activity_backend (.worker worker)⟩
    | _ => cases htag'
  fresh := by
    intro tag o w g Q h tag' htag'
    cases o with
    | startWorker worker =>
        obtain rfl := List.mem_singleton.mp htag'
        have hrule : backendRule tag (.startWorker worker) Q g := h.rule
        obtain ⟨subscribers, rfl, hmem⟩ := hrule.1
        have hknows : Knows x w (.emitter subscribers) := h.knows
        have hdrawn : ∀ s, (backendRecord x).start (.worker worker) ≠ .drawn s := by
          intro s h
          cases h
        have howner : ∀ s b, (backendRecord x).start (.worker worker) ≠ .owner s b := by
          intro s b h
          cases h
        refine ⟨fun other hapart => ?_, ?_, hknows _ hmem⟩
        · exact InHand.apart_of_drawn hdrawn howner fun s hs htouch =>
            hapart.drawn' s hs ⟨_, hmem, htouch⟩
        · exact InHand.apart_of_drawn (by simp) (by simp) fun s hs _ => absurd hs (hdrawn s)
    | _ => cases htag'
  symm := fun _ _ h => h.symm

end Sound

/-! ## Unreaped backends -/

/-- A server that starts on a disk in order. -/
theorem backendInv_restart {x : BackendIdentity} {w : World} (hdisk : OwnedDisk w)
    (hon : w.OnRecord x) : BackendInv x w.restart where
  disk := ⟨hdisk.distinct, hdisk.drawn, hdisk.sole⟩
  onRecord := hon
  subscribers := fun _ _ h => absurd h List.not_mem_nil
  killed := fun _ h => by cases h

/-- In every run in which writes take nothing away, kills kill and unlinks hit what they
read, a backend that was reported and runs is on record, unless a forced release dropped
its record. -/
theorem unreaped_on_record (w : World) (hdisk : OwnedDisk w) (tags : List Activity)
    (hentry : ∀ worker, .worker worker ∉ tags) (schedule : List Nat)
    (hkeeps : coordination.Along KeepsBackends schedule (coordination.pool w.restart tags))
    (x : BackendIdentity) (hon : w.OnRecord x)
    (hforce : coordination.Along (fun tag o w => ¬ ForceDrops x tag o w) schedule
      (coordination.pool w.restart tags)) :
    (serve w tags schedule).world.OnRecord x := by
  have start : ∀ tag ∈ tags, (backendRecord x).start tag = .nothing := fun tag htag => by
    cases tag with
    | worker worker => exact absurd htag (hentry worker)
    | _ => rfl
  have hpool : (backendRecord x).Sat (coordination.pool w.restart tags) :=
    have : Inhabited InHand := ⟨.nothing⟩
    Discipline.sat_pool coordination (backendInv_restart hdisk hon) (fun x => x.elim)
      (fun tag htag => ⟨by rw [start tag htag]; trivial, activity_backend tag⟩)
      fun tag htag tag' htag' => by
        rw [start tag htag, start tag' htag']
        exact InHand.apart_of_drawn nofun nofun fun _ _ => id
  exact (backendRecord_sound.sat_run hpool (hkeeps.and hforce)).1.onRecord

/-- The proxy of the runs below. -/
def proxyChild : BackendIdentity := ⟨4242, some "77"⟩

/-- Boot, an open that starts the proxy, an invalidation that exceeds its deadline, and
the next open. -/
def wedged : List Activity :=
  [.admission (.publishSnapshot (localTarget "run") (serialSnapshot 1 .rsp)),
    .openSession (.serial (.calm proxyChild) .rsp) (serialRequest "run" .rsp 1) false,
    .invalidateLifecycle { EmitEnv.serial with overdue := [0] } (localTarget "run") 1 false,
    .openSession (.serial (.calm ⟨4243, some "99"⟩) .rsp) (serialRequest "run" .rsp 1) false]

/-- The kill hangs, and a forced drop leaves the record. -/
theorem unreaped_on_record_wedged :
    let P := serve .empty wedged (0 :: .replicate 13 1 ++ .replicate 6 2 ++ .replicate 12 5)
    P.world.OnRecord proxyChild ∧ proxyChild ∈ P.world.backends.reported ∧
      ¬ P.world.Reaped proxyChild :=
  ⟨unreaped_on_record .empty ⟨by decide +kernel, by decide +kernel, by decide +kernel⟩
    wedged (fun _ h => by simp [wedged] at h) _ (by decide +kernel) proxyChild
    (by decide +kernel) (by decide +kernel), by decide +kernel, by decide +kernel⟩

/-- Boot, an open that starts the proxy, and a close whose stop of the proxy fails. -/
def failedStop : List Activity :=
  [.admission (.publishSnapshot (localTarget "run") (serialSnapshot 1 .rsp)),
    .openSession (.serial (.calm proxyChild) .rsp) (serialRequest "run" .rsp 1) false,
    .closeSession { CloseEnv.serial with
      transportClose := some .exception, transportStops := false } 0 false]

/-- The close deletes the record of a proxy that runs.  So does the next open, after an
invalidation whose kill hangs. -/
theorem unreaped_off_record :
    ¬ (serve .empty failedStop (0 :: .replicate 13 1 ++ .replicate 12 2)).world.OnRecord
        proxyChild ∧
      ¬ (serve .empty wedged (0 :: .replicate 13 1 ++ .replicate 6 2 ++ .replicate 12 5 ++
        .replicate 5 3)).world.OnRecord proxyChild := by
  decide +kernel

end Kdive

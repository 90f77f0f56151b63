import Mathlib.Data.List.Induction
import Mathlib.Data.List.Nodup
import Kdive.Coordination.AdmissionChange

/-!
# The admission table

The table of a target and the states of the handles say the same thing twice:
a handle stands in the table as long as its state is pending or promoted.
`Valid` is the invariant that keeps the two together.  It also says that a
closed target has only cancelled bindings, which is what stops new sessions
from slipping past a lifecycle transition.

`Change.valid` preserves the invariant along each change.  Two of the eleven
changes take work: a registration adds a handle whose identity must be new, and
a disposal removes the one entry whose state turns terminal.

*Closure.*  The generation a target is closed at is fixed by the close that
found it open.  `FirstClose` finds that close in the run, and
`closedAt_firstClose` says it always stands there.
-/

namespace Kdive

open Checked

namespace AdmissionService

/-! ## The invariant -/

/-- The table, the states and the flags agree. -/
structure Valid (s : AdmissionService) : Prop where
  /-- Two handles never share an identity. -/
  ids : (s.issued.map AdmissionHandle.handleId).Nodup
  /-- Identities are drawn below the next one. -/
  below : ∀ h ∈ s.issued, h.handleId < s.nextId
  /-- An identity not drawn yet has blank flags. -/
  blank : ∀ id, s.nextId ≤ id → s.flags id = {}
  /-- The table holds exactly the live handles of its target. -/
  table : ∀ k h, h ∈ s.bindings k ↔ h ∈ s.issued ∧ h.targetKey = k ∧ (s.stateOf h).Live
  /-- It holds each of them once. -/
  once : ∀ k, (s.bindings k).Nodup
  /-- While a target is closed its bindings are cancelled. -/
  closed : ∀ k, s.Closed k → ∀ h ∈ s.bindings k, s.Cancelled h

theorem Valid.fresh (ttl : Int) (nextId : Nat) : (AdmissionService.fresh ttl nextId).Valid where
  ids := List.nodup_nil
  below := by simp [AdmissionService.fresh]
  blank := fun _ _ => rfl
  table := by simp [AdmissionService.fresh]
  once := fun _ => List.nodup_nil
  closed := by simp [AdmissionService.fresh, Closed]

/-- Two issued handles of one identity are one handle. -/
theorem Valid.eq_of_id {s : AdmissionService} (hv : s.Valid) {h h' : AdmissionHandle}
    (hi : h ∈ s.issued) (hi' : h' ∈ s.issued) (hid : h.handleId = h'.handleId) : h = h' :=
  List.inj_on_of_nodup_map hv.ids hi hi' hid

theorem Valid.issued_of_mem {s : AdmissionService} (hv : s.Valid) {k : TargetKey}
    {h : AdmissionHandle} (hm : h ∈ s.bindings k) : h ∈ s.issued :=
  ((hv.table k h).mp hm).1

theorem Valid.key_of_mem {s : AdmissionService} (hv : s.Valid) {k : TargetKey}
    {h : AdmissionHandle} (hm : h ∈ s.bindings k) : h.targetKey = k :=
  ((hv.table k h).mp hm).2.1

theorem Valid.live_of_mem {s : AdmissionService} (hv : s.Valid) {k : TargetKey}
    {h : AdmissionHandle} (hm : h ∈ s.bindings k) : (s.stateOf h).Live :=
  ((hv.table k h).mp hm).2.2

/-- A registered handle of which the service made a record stands in the table
itself. -/
theorem Valid.mem_of_registered {s : AdmissionService} (hv : s.Valid) {h : AdmissionHandle}
    (hi : h ∈ s.issued) (hr : s.Registered h) : h ∈ s.bindings h.targetKey := by
  obtain ⟨h', hm, hid⟩ := List.mem_map.mp hr
  obtain rfl := hv.eq_of_id (hv.issued_of_mem hm) hi hid
  exact hm

theorem registered_of_mem {s : AdmissionService} {h : AdmissionHandle}
    (hm : h ∈ s.bindings h.targetKey) : s.Registered h :=
  List.mem_map.mpr ⟨h, hm, rfl⟩

/-- Erasing an identity from a list that has it at most once leaves the entries
of other identities. -/
theorem mem_eraseP_id {hs : List AdmissionHandle} {id : Nat} {h : AdmissionHandle}
    (hnodup : (hs.map AdmissionHandle.handleId).Nodup) :
    h ∈ hs.eraseP (fun h' => h'.handleId = id) ↔ h ∈ hs ∧ h.handleId ≠ id := by
  induction hs with
  | nil => simp
  | cons a hs ih =>
      rw [List.map_cons, List.nodup_cons] at hnodup
      by_cases ha : a.handleId = id
      · have hrest : ∀ b ∈ hs, b.handleId ≠ id := by
          rintro b hb rfl
          exact hnodup.1 (ha ▸ List.mem_map_of_mem hb)
        rw [List.eraseP_cons_of_pos (by simpa using ha), List.mem_cons]
        constructor
        · exact fun hm => ⟨.inr hm, hrest h hm⟩
        · rintro ⟨rfl | hm, hne⟩
          · exact absurd ha hne
          · exact hm
      · rw [List.eraseP_cons_of_neg (by simpa using ha), List.mem_cons, List.mem_cons,
          ih hnodup.2]
        constructor
        · rintro (rfl | ⟨hm, hne⟩)
          · exact ⟨.inl rfl, ha⟩
          · exact ⟨.inr hm, hne⟩
        · rintro ⟨rfl | hm, hne⟩
          · exact .inl rfl
          · exact .inr ⟨hm, hne⟩

theorem Valid.bindings_ids {s : AdmissionService} (hv : s.Valid) (k : TargetKey) :
    ((s.bindings k).map AdmissionHandle.handleId).Nodup :=
  (hv.once k).map_on fun _ hm _ hm' hid =>
    hv.eq_of_id (hv.issued_of_mem hm) (hv.issued_of_mem hm') hid

/-! ## Each change keeps it -/

/-- A change that leaves handles, table and states alone keeps the invariant, if
a target it closes has only cancelled bindings. -/
theorem Valid.of_same {s s' : AdmissionService} (hv : s.Valid) (hissued : s'.issued = s.issued)
    (hnext : s'.nextId = s.nextId) (hbindings : s'.bindings = s.bindings)
    (hstate : ∀ h ∈ s.issued, (s'.stateOf h).Live ↔ (s.stateOf h).Live)
    (hblank : ∀ id, s.nextId ≤ id → s'.flags id = {})
    (hclosed : ∀ k, s'.Closed k → ∀ h ∈ s.bindings k, s'.Cancelled h) : s'.Valid where
  ids := by rw [hissued]; exact hv.ids
  below := by rw [hissued, hnext]; exact hv.below
  blank := by rw [hnext]; exact hblank
  table := fun k h => by
    rw [hbindings, hv.table, hissued]
    constructor
    · rintro ⟨hi, hk, hl⟩
      exact ⟨hi, hk, (hstate h hi).mpr hl⟩
    · rintro ⟨hi, hk, hl⟩
      exact ⟨hi, hk, (hstate h hi).mp hl⟩
  once := by rw [hbindings]; exact hv.once
  closed := by rw [hbindings]; exact hclosed

/-- A registered identity has been drawn. -/
theorem Valid.registered_lt {s : AdmissionService} (hv : s.Valid) {h : AdmissionHandle}
    (hr : s.Registered h) : h.handleId < s.nextId := by
  obtain ⟨h', hm, hid⟩ := List.mem_map.mp hr
  exact hid ▸ hv.below h' (hv.issued_of_mem hm)

/-- Setting flags of a registered handle that keep it live keeps the invariant. -/
theorem Valid.setFlags {s : AdmissionService} (hv : s.Valid) {h : AdmissionHandle}
    {f : HandleFlags} (hr : s.Registered h) (hlive : f.state.Live ↔ (s.stateOf h).Live)
    (hcancelled : s.Cancelled h → f.cancelled = true) : (s.setFlags h f).Valid := by
  have hlt := hv.registered_lt hr
  refine hv.of_same rfl rfl rfl (fun h' _ => ?_) (fun id hid => ?_) fun k hk h' hm => ?_
  · by_cases hid : h'.handleId = h.handleId
    · simp only [stateOf, setFlags_flags, hid, Function.update_self]
      exact hlive
    · simp only [stateOf, setFlags_flags, ne_eq, hid, not_false_eq_true, Function.update_of_ne]
  · have hne : id ≠ h.handleId := by omega
    rw [setFlags_flags, Function.update_of_ne hne]
    exact hv.blank id hid
  · have hc := hv.closed k hk h' hm
    by_cases hid : h'.handleId = h.handleId
    · simp only [Cancelled, hid] at hc ⊢
      simpa using hcancelled hc
    · simpa [Cancelled, hid] using hc

theorem Valid.registered {s : AdmissionService} (hv : s.Valid) {h : AdmissionHandle}
    (hid : h.handleId = s.nextId) (hopen : ¬ s.Closed h.targetKey) :
    (s.registered h).Valid := by
  have hlive : (s.stateOf h).Live := by
    rw [stateOf, hid, hv.blank _ le_rfl]
    exact trivial
  have hnew : h ∉ s.issued := fun hi => absurd (hv.below h hi) (by omega)
  constructor
  case ids =>
    rw [registered_issued, List.map_append, List.nodup_append]
    refine ⟨hv.ids, by simp, ?_⟩
    simp only [List.mem_map, List.map_cons, List.map_nil, List.mem_singleton]
    rintro _ ⟨h', hi', rfl⟩ _ rfl heq
    have := hv.below h' hi'
    omega
  case below =>
    simp only [registered_issued, registered_nextId, List.mem_append, List.mem_singleton]
    rintro h' (hi' | rfl)
    · exact Nat.lt_succ_of_lt (hv.below h' hi')
    · omega
  case blank => exact fun id hle => hv.blank id (Nat.le_of_succ_le hle)
  case table =>
    intro k h'
    have hold := hv.table k h'
    simp only [registered_issued, registered_bindings, List.mem_append, List.mem_singleton]
    by_cases hk : k = h.targetKey
    · subst hk
      rw [Function.update_self, List.mem_append, List.mem_singleton, hold]
      constructor
      · rintro (⟨hi, hk', hl⟩ | rfl)
        · exact ⟨.inl hi, hk', hl⟩
        · exact ⟨.inr rfl, rfl, hlive⟩
      · rintro ⟨hi | rfl, hk', hl⟩
        · exact .inl ⟨hi, hk', hl⟩
        · exact .inr rfl
    · rw [Function.update_of_ne hk, hold]
      constructor
      · rintro ⟨hi, hk', hl⟩
        exact ⟨.inl hi, hk', hl⟩
      · rintro ⟨hi | rfl, hk', hl⟩
        · exact ⟨hi, hk', hl⟩
        · exact absurd hk'.symm hk
  case once =>
    intro k
    rw [registered_bindings]
    by_cases hk : k = h.targetKey
    · subst hk
      rw [Function.update_self, List.nodup_append]
      refine ⟨hv.once _, List.nodup_singleton h, ?_⟩
      rintro h' hm _ (hm' : _ ∈ [h]) rfl
      rw [List.mem_singleton] at hm'
      exact hnew (hm' ▸ hv.issued_of_mem hm)
    · rw [Function.update_of_ne hk]
      exact hv.once k
  case closed =>
    intro k hk h' hm
    have hne : k ≠ h.targetKey := fun heq => hopen (heq ▸ hk)
    rw [registered_bindings, Function.update_of_ne hne] at hm
    exact hv.closed k hk h' hm

/-- What a disposal leaves in the table. -/
theorem Valid.mem_disposed {s : AdmissionService} (hv : s.Valid) {h h' : AdmissionHandle}
    {t : AdmissionState} (hr : s.Registered h) (k : TargetKey) :
    h' ∈ (s.disposed h t).bindings k ↔ h' ∈ s.bindings k ∧ h'.handleId ≠ h.handleId := by
  rw [disposed_bindings]
  by_cases hk : k = h.targetKey
  · subst hk
    rw [Function.update_self, mem_eraseP_id (hv.bindings_ids _)]
  · rw [Function.update_of_ne hk]
    refine ⟨fun hm => ⟨hm, fun hid => hk ?_⟩, And.left⟩
    -- the entry of that identity stands in the table of `h.targetKey`
    obtain ⟨h'', hm'', hid''⟩ := List.mem_map.mp hr
    have heq := hv.eq_of_id (hv.issued_of_mem hm) (hv.issued_of_mem hm'') (hid.trans hid''.symm)
    rw [← hv.key_of_mem hm, heq, hv.key_of_mem hm'']

theorem Valid.disposed {s : AdmissionService} (hv : s.Valid) {h : AdmissionHandle}
    {t : AdmissionState} (ht : ¬ t.Live) (hr : s.Registered h) : (s.disposed h t).Valid := by
  have hlt := hv.registered_lt hr
  constructor
  case ids => exact hv.ids
  case below => exact hv.below
  case blank =>
    intro id hle
    have hne : id ≠ h.handleId := by rw [disposed_nextId] at hle; omega
    rw [disposed_flags, Function.update_of_ne hne]
    exact hv.blank id hle
  case table =>
    intro k h'
    rw [hv.mem_disposed hr, hv.table, disposed_issued]
    by_cases hid : h'.handleId = h.handleId
    · have hdead : ¬ ((s.disposed h t).stateOf h').Live := by simpa [stateOf, hid] using ht
      exact ⟨fun hm => absurd hid hm.2, fun hm => absurd hm.2.2 hdead⟩
    · have hsame : (s.disposed h t).stateOf h' = s.stateOf h' := by simp [stateOf, hid]
      rw [hsame]
      exact ⟨And.left, fun hm => ⟨hm, hid⟩⟩
  case once =>
    intro k
    rw [disposed_bindings]
    by_cases hk : k = h.targetKey
    · subst hk
      rw [Function.update_self]
      exact (hv.once _).sublist List.eraseP_sublist
    · rw [Function.update_of_ne hk]
      exact hv.once k
  case closed =>
    intro k hk h' hm
    obtain ⟨hm, hid⟩ := (hv.mem_disposed hr k).mp hm
    have hc := hv.closed k hk h' hm
    simpa [Cancelled, hid] using hc

theorem Valid.cancelAll {s : AdmissionService} (hv : s.Valid) (hs : List AdmissionHandle)
    (hissued : ∀ h ∈ hs, h.handleId < s.nextId) : (s.cancelAll hs).Valid := by
  refine hv.of_same rfl rfl rfl (fun h _ => ?_) (fun id hle => ?_) fun k hk h hm => ?_
  · rw [stateOf, cancelAll_state]; rfl
  · rw [cancelAll_flags, if_neg]
    · exact hv.blank id hle
    · rintro hid
      obtain ⟨h, hm, rfl⟩ := List.mem_map.mp hid
      have := hissued h hm
      omega
  · exact (cancelAll_cancelled s hs _).mpr (.inr (hv.closed k hk h hm))

theorem Change.valid {c : Call} {s s' : AdmissionService} (hc : Change c s s')
    (hv : s.Valid) : s'.Valid := by
  cases hc with
  | refl => exact hv
  | publish k snapshot newer =>
      exact hv.of_same rfl rfl rfl (fun _ _ => Iff.rfl) hv.blank hv.closed
  | register h snapshot admits id opened => exact hv.registered id opened
  | note k => exact hv.of_same rfl rfl rfl (fun _ _ => Iff.rfl) hv.blank hv.closed
  | cancel k hs listed =>
      exact hv.cancelAll hs fun h hm => hv.below h (hv.issued_of_mem (listed h hm))
  | promote h registered pending uncancelled =>
      refine hv.setFlags registered ?_ fun hcancel => hcancel
      rw [pending]
      exact Iff.rfl
  | dispose h t terminal registered => exact hv.disposed terminal registered
  | reap h registered => exact hv.setFlags registered Iff.rfl fun hcancel => hcancel
  | close k g opened =>
      have hall := hv.cancelAll (s.bindings k) fun h hm => hv.below h (hv.issued_of_mem hm)
      refine hv.of_same rfl rfl rfl (fun h _ => ?_) hall.blank fun k' hk' h hm => ?_
      · rw [stateOf, cancelAll_state]; rfl
      · by_cases hk : k' = k
        · subst hk
          exact (cancelAll_cancelled s _ _).mpr (.inl ⟨h, hm, rfl⟩)
        · have hold : s.Closed k' := by simpa [Closed, hk] using hk'
          exact hall.closed k' hold h hm
  | reopen k =>
      refine hv.of_same rfl rfl rfl (fun _ _ => Iff.rfl) hv.blank fun k' hk' => ?_
      by_cases hk : k' = k
      · subst hk
        simp [Closed] at hk'
      · exact hv.closed k' (by simpa [Closed, hk] using hk')
  | recovery => exact hv.of_same rfl rfl rfl (fun _ _ => Iff.rfl) hv.blank hv.closed

theorem Valid.after {s : AdmissionService} (hv : s.Valid) (c : Call) : (s.after c).Valid :=
  (perform_change c s).valid hv

/-- The invariant holds along every run from a fresh service. -/
theorem valid_of_run (ttl : Int) (nextId : Nat) (cs : List Call) :
    (Runs.run after cs (AdmissionService.fresh ttl nextId)).Valid :=
  Runs.run_inv' (fun c _ hv => hv.after c) cs (.fresh ttl nextId)

/-! ## The table of a closed target -/

/-- Nothing joins the table of a closed target. -/
theorem Change.closed_mem {c : Call} {s s' : AdmissionService} (hc : Change c s s')
    {k : TargetKey} (hk : s.Closed k) {h : AdmissionHandle} (hm : h ∈ s'.bindings k) :
    h ∈ s.bindings k := by
  cases hc with
  | register h' snapshot admits id opened =>
      have hne : k ≠ h'.targetKey := fun heq => opened (heq ▸ hk)
      simpa [hne] using hm
  | dispose h' t =>
      by_cases hne : k = h'.targetKey
      · subst hne
        rw [disposed_bindings, Function.update_self] at hm
        exact List.mem_of_mem_eraseP hm
      · simpa [hne] using hm
  | refl | publish | note | cancel | promote | reap | close | reopen | recovery => exact hm

/-- A promoted handle leaves the table of a closed target once it is reaped. -/
theorem Change.closed_left {c : Call} {s s' : AdmissionService} (hc : Change c s s')
    (hv : s.Valid) {k : TargetKey} (hk : s.Closed k) {h : AdmissionHandle}
    (hm : h ∈ s.bindings k) (hleft : h ∉ s'.bindings k) (hpromoted : s.stateOf h = .promoted) :
    (s.flags h.handleId).reaped = true := by
  cases hc with
  | register h' snapshot admits id opened =>
      have hne : k ≠ h'.targetKey := fun heq => opened (heq ▸ hk)
      rw [registered_bindings, Function.update_of_ne hne] at hleft
      exact absurd hm hleft
  | dispose h' t terminal registered live reaped =>
      rw [hv.mem_disposed registered, not_and_not_right] at hleft
      have hid := hleft hm
      -- the disposed handle is `h`, so its guard speaks of `h`
      obtain ⟨h'', hm'', hid''⟩ := List.mem_map.mp registered
      have heq := hv.eq_of_id (hv.issued_of_mem hm) (hv.issued_of_mem hm'') (hid.trans hid''.symm)
      have hkey : h'.targetKey = k := by
        rw [← hv.key_of_mem hm, heq, hv.key_of_mem hm'']
      have hcancelled : s.Cancelled h' := by
        simpa [Cancelled, hid] using hv.closed k hk h hm
      rw [hid]
      refine reaped hcancelled ?_ (hkey ▸ hk)
      simpa [stateOf, hid] using hpromoted
  | refl | publish | note | cancel | promote | reap | close | reopen | recovery =>
      exact absurd hm hleft

/-! ## What a change does to a binding -/

/-- A binding after a change was there before, and is promoted only if it was or
the change promotes it, or it is new and pending. -/
theorem Change.binding {c : Call} {s s' : AdmissionService} (hc : Change c s s') (hv : s.Valid)
    {k : TargetKey} {x : AdmissionHandle} (hx : x ∈ s'.bindings k) :
    (x ∈ s.bindings k ∧ (s'.stateOf x = .promoted →
      s.stateOf x = .promoted ∨ ∃ h, c = .promote h ∧ h.handleId = x.handleId)) ∨
      c.admits = some x.op ∧ s'.stateOf x = .pending ∧ s' = s.registered x := by
  cases hc with
  | register h snapshot admits id =>
      by_cases hk : k = h.targetKey
      · subst hk
        rw [registered_bindings, Function.update_self, List.mem_append, List.mem_singleton] at hx
        cases hx with
        | inl hold => exact .inl ⟨hold, .inl⟩
        | inr heq =>
            subst heq
            refine .inr ⟨admits, ?_, rfl⟩
            rw [stateOf, registered_flags, id, hv.blank _ le_rfl]
      · exact .inl ⟨by simpa [hk] using hx, .inl⟩
  | promote h registered =>
      refine .inl ⟨hx, fun hpromoted => ?_⟩
      by_cases hid : h.handleId = x.handleId
      · exact .inr ⟨h, rfl, hid⟩
      · rw [stateOf, setFlags_flags, Function.update_of_ne (Ne.symm hid)] at hpromoted
        exact .inl hpromoted
  | dispose h t terminal registered =>
      obtain ⟨hold, hne⟩ := (hv.mem_disposed registered k).mp hx
      refine .inl ⟨hold, fun hpromoted => .inl ?_⟩
      rwa [stateOf, disposed_flags, Function.update_of_ne hne] at hpromoted
  | reap h =>
      refine .inl ⟨hx, fun hpromoted => .inl ?_⟩
      by_cases hid : x.handleId = h.handleId
      · simpa [stateOf, hid] using hpromoted
      · simpa [stateOf, hid] using hpromoted
  | cancel k' hs =>
      exact .inl ⟨hx, fun hpromoted => .inl (by simpa [stateOf] using hpromoted)⟩
  | close k' g =>
      refine .inl ⟨hx, fun hpromoted => .inl ?_⟩
      rwa [stateOf, cancelAll_state] at hpromoted
  | refl | publish | note | reopen | recovery => exact .inl ⟨hx, .inl⟩

/-- A handle that left the table does not come back. -/
theorem Change.gone {c : Call} {s s' : AdmissionService} (hc : Change c s s') (hv : s.Valid)
    {k : TargetKey} {h : AdmissionHandle} (hi : h ∈ s.issued) (hgone : h ∉ s.bindings k) :
    h ∉ s'.bindings k := by
  intro hm
  rcases hc.binding hv hm with ⟨hold, _⟩ | ⟨_, _, heq⟩
  · exact hgone hold
  · have hids := (hc.valid hv).ids
    rw [heq, registered_issued, List.map_append, List.nodup_append] at hids
    exact hids.2.2 _ (List.mem_map_of_mem hi) _ (by simp) rfl

/-- A handle that left `PENDING` does not return to it. -/
theorem Change.started {c : Call} {s s' : AdmissionService} (hc : Change c s s') {id : Nat}
    (hstarted : (s.flags id).state ≠ .pending) : (s'.flags id).state ≠ .pending := by
  cases hc with
  | promote h =>
      by_cases hid : id = h.handleId
      · simp [hid]
      · simpa [hid] using hstarted
  | dispose h t terminal =>
      by_cases hid : id = h.handleId
      · subst hid
        simp only [disposed_flags, Function.update_self]
        rintro rfl
        exact terminal trivial
      · simpa [hid] using hstarted
  | reap h =>
      by_cases hid : id = h.handleId
      · subst hid
        simpa using hstarted
      · simpa [hid] using hstarted
  | cancel k hs => simpa using hstarted
  | close k g =>
      rw [cancelAll_state]
      exact hstarted
  | refl | publish | register | note | reopen | recovery => exact hstarted

/-- A target with a binding stays closed. -/
theorem Change.stays_closed {c : Call} {s s' : AdmissionService} (hc : Change c s s')
    {k : TargetKey} (hclosed : s.Closed k) {h : AdmissionHandle} (hm : h ∈ s.bindings k) :
    s'.Closed k := by
  cases hc with
  | close k' g =>
      by_cases hk : k = k'
      · simp [Closed, hk]
      · simpa [Closed, hk] using hclosed
  | reopen k' g closed newer empty =>
      by_cases hk : k = k'
      · subst hk
        rw [empty] at hm
        cases hm
      · simpa [Closed, hk] using hclosed
  | refl | publish | register | note | cancel | promote | dispose | reap | recovery =>
      exact hclosed

/-! ## The generation a target is closed at -/

/-- What a change does to the closure of a target. -/
theorem Change.closedAt {c : Call} {s s' : AdmissionService} (hc : Change c s s')
    (k : TargetKey) :
    s'.closedAt k = s.closedAt k ∨
      (¬ s.Closed k ∧ ∃ g, c = .closeAdmission k g ∧ s'.closedAt k = some g) ∨
      (s.Closed k ∧ c = .reopen k ∧ s'.closedAt k = none) := by
  cases hc with
  | close k' g opened =>
      by_cases hk : k = k'
      · subst hk
        exact .inr (.inl ⟨opened, g, rfl, by simp⟩)
      · exact .inl (by simp [hk])
  | reopen k' g closed =>
      by_cases hk : k = k'
      · subst hk
        exact .inr (.inr ⟨by simp [Closed, closed], rfl, by simp⟩)
      · exact .inl (by simp [hk])
  | refl | publish | register | note | cancel | promote | dispose | reap | recovery =>
      exact .inl rfl

/-- The run closed the target with generation `g` when it was open, and the
target has been closed ever since. -/
def FirstClose (cs : List Call) (s : AdmissionService) (k : TargetKey) (g : Int) : Prop :=
  ∃ before since, cs = before ++ .closeAdmission k g :: since ∧
    ¬ (Runs.run after before s).Closed k ∧
    ∀ n, (Runs.run after (before ++ .closeAdmission k g :: since.take n) s).Closed k

/-- The generation a target is closed at is the one its first close gave. -/
theorem closedAt_firstClose {s : AdmissionService} {k : TargetKey} (hopen : ¬ s.Closed k)
    (cs : List Call) {g : Int} (hg : (Runs.run after cs s).closedAt k = some g) :
    FirstClose cs s k g := by
  induction cs using List.reverseRecOn generalizing g with
  | nil => exact absurd (by simp [Closed, show s.closedAt k = some g from hg]) hopen
  | append_singleton cs c ih =>
      have hclosed : (Runs.run after (cs ++ [c]) s).Closed k := by simp [Closed, hg]
      rw [Runs.run_append, Runs.run_cons, Runs.run_nil] at hg
      rcases (perform_change c (Runs.run after cs s)).closedAt k with
        hsame | ⟨hnot, g', rfl, hg'⟩ | ⟨_, _, hnone⟩
      · obtain ⟨before, since, rfl, hbefore, hsince⟩ := ih (hsame ▸ hg)
        refine ⟨before, since ++ [c], by simp, hbefore, fun n => ?_⟩
        rcases le_or_gt n since.length with hn | hn
        · rw [List.take_append_of_le_length hn]
          exact hsince n
        · rw [List.take_of_length_le (by simp; omega)]
          simpa using hclosed
      · obtain rfl : g' = g := Option.some.inj (hg'.symm.trans hg)
        refine ⟨cs, [], rfl, hnot, fun n => ?_⟩
        simpa using hclosed
      · exact absurd (hg.symm.trans hnone) (by simp)

/-- A reopen of a closed target found an empty table and a newer snapshot. -/
theorem reopen_closed {s : AdmissionService} {k : TargetKey} {g : Int} {u : Unit}
    (hclosed : s.closedAt k = some g) (hok : (s.perform (.reopen k)).1 = .ok u) :
    s.bindings k = [] ∧ ∃ snapshot ∈ s.store k, g < snapshot.generation := by
  obtain ⟨s', hok, _⟩ := settle_fst_eq_ok.mp hok
  rcases reopen_eq_ok.mp hok with ⟨hnone, _⟩ | ⟨g', hg', hnewer, hempty, _⟩
  · exact absurd (hnone.symm.trans hclosed) (by simp)
  · obtain rfl : g' = g := Option.some.inj (hg'.symm.trans hclosed)
    exact ⟨hempty, hnewer⟩

/-! ## The table in every reachable state -/

/-- In every state a run of calls reaches, the table holds exactly the live
handles, terminal states and flags are final, a closed target keeps its table
fenced, and it reopens only empty and on a newer generation than its first
close. -/
theorem table_invariant (ttl : Int) (nextId : Nat) (cs : List Call) :
    let s := Runs.run after cs (AdmissionService.fresh ttl nextId)
    (∀ k, (s.bindings k).Nodup ∧
      ∀ h, h ∈ s.bindings k ↔ h ∈ s.issued ∧ h.targetKey = k ∧
        (s.stateOf h = .pending ∨ s.stateOf h = .promoted)) ∧
    (∀ cs' id, let s' := Runs.run after cs' s
      ((s.flags id).state ≠ .pending → (s.flags id).state ≠ .promoted →
        (s'.flags id).state = (s.flags id).state) ∧
      ((s.flags id).cancelled = true → (s'.flags id).cancelled = true) ∧
      ((s.flags id).reaped = true → (s'.flags id).reaped = true)) ∧
    (∀ k, s.Closed k →
      (∀ h ∈ s.bindings k, s.Cancelled h) ∧
      ∀ c, (∀ h ∈ (s.after c).bindings k, h ∈ s.bindings k) ∧
        ∀ h ∈ s.bindings k, h ∉ (s.after c).bindings k → s.stateOf h = .promoted →
          (s.flags h.handleId).reaped = true) ∧
    (∀ k g, s.closedAt k = some g →
      FirstClose cs (AdmissionService.fresh ttl nextId) k g ∧
      ((s.perform (.reopen k)).1 = .ok () →
        s.bindings k = [] ∧ ∃ snapshot ∈ s.store k, g < snapshot.generation)) := by
  intro s
  have hv : s.Valid := valid_of_run ttl nextId cs
  refine ⟨fun k => ⟨hv.once k, fun h => ?_⟩, fun cs' id => ?_, fun k hk => ⟨hv.closed k hk, ?_⟩,
    fun k g hg => ⟨closedAt_firstClose (by simp [Closed, AdmissionService.fresh]) cs hg, ?_⟩⟩
  · rw [hv.table, AdmissionState.live_iff]
  · have he := run_evolves cs' s
    refine ⟨fun hpending hpromoted => he.terminal id ?_, he.cancelled id, he.reaped id⟩
    rw [AdmissionState.live_iff]
    exact not_or.mpr ⟨hpending, hpromoted⟩
  · intro c
    have hc := perform_change c s
    exact ⟨fun h hm => hc.closed_mem hk hm, fun h hm hleft => hc.closed_left hv hk hm hleft⟩
  · exact reopen_closed hg

end AdmissionService

end Kdive

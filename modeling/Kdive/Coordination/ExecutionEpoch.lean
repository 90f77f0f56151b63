import Kdive.Coordination.AdmissionTable

/-!
# The execution-epoch fence

The execution epoch of a target counts the transitions its controller noted at
the published generation.  A handle carries the epoch it was admitted at, and so
does the cancellation a halt raises, which makes every late event comparable
with the work it may touch.

*Completion.*  An ssh handle completes at the epoch it was admitted at.  The
epoch never decreases and every current transition raises it, so none was noted
in between (`complete_uninterrupted`).

*Cancellation.*  A halt cancels the ssh work of its generation up to its epoch.
Work admitted after a later transition carries a larger epoch and is out of
reach (`admitted_after_note`).

*Stale events.*  An event of an earlier generation changes nothing.  For a close
of a target that is closed already this uses the table invariant: its bindings
are cancelled, so cancelling them again is the identity.
-/

namespace Kdive

open Checked

namespace AdmissionService

/-! ## The epoch along a run -/

/-- A current transition raises the epoch by one. -/
theorem note_current {s : AdmissionService} {k : TargetKey} {g : Int}
    (hcurrent : s.GenerationCurrent k g) :
    (s.after (.noteExecutionTransition k g)).execEpoch k = s.execEpoch k + 1 := by
  simp [after, perform, noteExecutionTransition, hcurrent]

/-- A transition replies with the epoch it leaves. -/
theorem note_reply (s : AdmissionService) (k : TargetKey) (g : Int) :
    (s.perform (.noteExecutionTransition k g)).1 =
      .ok ((s.after (.noteExecutionTransition k g)).execEpoch k) := by
  change Except.ok (s.noteExecutionTransition k g).1 =
    .ok ((s.noteExecutionTransition k g).2.execEpoch k)
  unfold noteExecutionTransition
  split
  · simp
  · rfl

theorem run_epoch_le (cs : List Call) (s : AdmissionService) (k : TargetKey) :
    s.execEpoch k ≤ (Runs.run after cs s).execEpoch k :=
  (run_evolves cs s).epoch k

/-- A current transition inside a run leaves a larger epoch at its end. -/
theorem epoch_lt_of_note {s : AdmissionService} {k : TargetKey} {g : Int}
    {before : List Call} (since : List Call)
    (hcurrent : (Runs.run after before s).GenerationCurrent k g) :
    s.execEpoch k <
      (Runs.run after (before ++ .noteExecutionTransition k g :: since) s).execEpoch k := by
  rw [Runs.run_append, Runs.run_cons]
  calc s.execEpoch k
      ≤ (Runs.run after before s).execEpoch k := run_epoch_le before s k
    _ < ((Runs.run after before s).after (.noteExecutionTransition k g)).execEpoch k := by
        rw [note_current hcurrent]; exact Nat.lt_succ_self _
    _ ≤ _ := run_epoch_le since _ k

/-! ## Completion -/

/-- An ssh handle that completes carries the current epoch and is not
cancelled. -/
theorem complete_ssh {s : AdmissionService} {h : AdmissionHandle} (hop : h.op = .sshTier)
    {u : Unit} (hok : (s.perform (.complete h)).1 = .ok u) :
    h.admitEpoch = s.execEpoch h.targetKey ∧ ¬ s.Cancelled h := by
  obtain ⟨s', hok, _⟩ := settle_fst_eq_ok.mp hok
  obtain ⟨hcancel, hstale, _⟩ := complete_eq_ok.mp hok
  exact ⟨not_ne_iff.mp fun hne => hstale ⟨hop, hne⟩, hcancel⟩

/-- What the reply of an ssh admission says. -/
theorem admitSshTier_reply {s : AdmissionService} {k : TargetKey} {g : Int}
    {platform : PlatformMetadata} {lease : Option LeaseInfo} {ttl : Option Int}
    {proof : Option ExecutionProof} {now : Instant} {h : AdmissionHandle}
    (hok : (s.perform (.admitSshTier k g platform lease ttl proof now)).1 = .ok h) :
    s.Admits k false h (s.after (.admitSshTier k g platform lease ttl proof now)) ∧
      h.op = .sshTier ∧ g = h.generation ∧
      ∃ snapshot, s.store k = some snapshot ∧ snapshot.generation = g ∧
        (snapshot.state ≠ .ready → proof = some ⟨g, s.execEpoch k, .known .executing⟩) := by
  obtain ⟨s', hok, hafter⟩ := settle_fst_eq_ok.mp hok
  rw [after, perform, hafter]
  exact admitSshTier_eq_ok hok

/-- Between the admission of an ssh handle and its completion no current
transition was noted. -/
theorem complete_uninterrupted {s s' : AdmissionService} {h : AdmissionHandle}
    (hop : h.op = .sshTier) (hepoch : h.admitEpoch = s.execEpoch h.targetKey)
    (heq : s'.execEpoch = s.execEpoch) {cs : List Call} {u : Unit}
    (hok : ((Runs.run after cs s').perform (.complete h)).1 = .ok u) {g : Int}
    {before since : List Call}
    (hcs : cs = before ++ .noteExecutionTransition h.targetKey g :: since) :
    ¬ (Runs.run after before s').GenerationCurrent h.targetKey g := by
  intro hcurrent
  have hlt := epoch_lt_of_note since hcurrent
  have hnow := (complete_ssh hop hok).1
  rw [← hcs, heq] at hlt
  omega

/-! ## Cancellation -/

theorem mem_haltCancels {s : AdmissionService} {k : TargetKey} {g e : Int}
    {h : AdmissionHandle} :
    h ∈ s.haltCancels k g e ↔
      h ∈ s.bindings k ∧ h.op = .sshTier ∧ h.generation = g ∧ (h.admitEpoch : Int) ≤ e := by
  simp [haltCancels]

/-- A current cancellation replies with the bindings it cancels. -/
theorem cancelSshTier_current {s : AdmissionService} {k : TargetKey} {g : Int}
    (hcurrent : s.GenerationCurrent k g) (e : Int) :
    s.perform (.cancelSshTier k g e) =
      (.ok (s.haltCancels k g e), s.cancelAll (s.haltCancels k g e)) := by
  simp [perform, cancelSshTier, hcurrent]

/-- The handles a list cancels are the handles of the list. -/
theorem Valid.cancelled_cancelAll {s : AdmissionService} (hv : s.Valid)
    {hs : List AdmissionHandle} (hissued : ∀ h ∈ hs, h ∈ s.issued) {h : AdmissionHandle}
    (hi : h ∈ s.issued) : (s.cancelAll hs).Cancelled h ↔ h ∈ hs ∨ s.Cancelled h := by
  rw [Cancelled, cancelAll_cancelled]
  refine or_congr ⟨?_, fun hm => ⟨h, hm, rfl⟩⟩ Iff.rfl
  rintro ⟨h', hm, hid⟩
  rwa [← hv.eq_of_id (hissued h' hm) hi hid]

/-- Every handle carries an epoch its target has reached. -/
def EpochsReached (s : AdmissionService) : Prop :=
  ∀ h ∈ s.issued, h.admitEpoch ≤ s.execEpoch h.targetKey

/-- A handle admitted after a point of a run carries at least the epoch of that
point. -/
theorem admitEpoch_of_new {s : AdmissionService} (hv : s.Valid) (cs : List Call)
    {h : AdmissionHandle} (hi : h ∈ (Runs.run after cs s).issued) (hnew : h ∉ s.issued) :
    s.execEpoch h.targetKey ≤ h.admitEpoch := by
  induction cs generalizing s with
  | nil => exact absurd hi hnew
  | cons c cs ih =>
      by_cases hc : h ∈ (s.after c).issued
      · have hchange := perform_change c s
        generalize s.after c = s' at hc hchange
        cases hchange with
        | register h' snapshot admits id opened published generation epoch =>
            rw [registered_issued, List.mem_append, List.mem_singleton] at hc
            obtain rfl := hc.resolve_left hnew
            exact epoch.ge
        | refl | publish | note | cancel | promote | dispose | reap | close | reopen | recovery =>
            exact absurd hc hnew
      · exact ((after_evolves c s).epoch _).trans (ih (hv.after c) hi hc)

/-- Work admitted after a later transition is out of a halt's reach. -/
theorem admitted_after_note {s : AdmissionService} (hv : s.Valid) {k : TargetKey} {g g' : Int}
    {e : Nat} (hhalt : (s.perform (.noteExecutionTransition k g)).1 = .ok e)
    {between : List Call} (since : List Call)
    (hresume : (Runs.run after between (s.after (.noteExecutionTransition k g))).GenerationCurrent
      k g') {h : AdmissionHandle} (hk : h.targetKey = k)
    (hnew : h ∉ (Runs.run after (.noteExecutionTransition k g :: between) s).issued)
    (hi : h ∈ (Runs.run after (.noteExecutionTransition k g :: between ++
      .noteExecutionTransition k g' :: since) s).issued) :
    e < h.admitEpoch := by
  rw [note_reply, Except.ok.injEq] at hhalt
  set s₁ := Runs.run after (.noteExecutionTransition k g :: between) s with hs₁
  have hv₁ : s₁.Valid := Runs.run_inv' (fun c _ hv => hv.after c) _ hv
  have hbetween : e ≤ s₁.execEpoch k := by
    rw [← hhalt]
    exact run_epoch_le between _ k
  have hrun : Runs.run after (.noteExecutionTransition k g :: between ++
      .noteExecutionTransition k g' :: since) s =
        Runs.run after since (s₁.after (.noteExecutionTransition k g')) := by
    rw [List.cons_append, Runs.run_cons, Runs.run_append, Runs.run_cons]
    rfl
  have hraised := note_current (s := s₁) (k := k) (g := g') hresume
  rw [hrun] at hi
  have hnew' : h ∉ (s₁.after (.noteExecutionTransition k g')).issued := by
    have hissued : (s₁.after (.noteExecutionTransition k g')).issued = s₁.issued := by
      simp [after, perform, noteExecutionTransition, show s₁.GenerationCurrent k g' from hresume]
    rwa [hissued]
  have hadmit := admitEpoch_of_new (hv₁.after _) since hi hnew'
  rw [hk, hraised] at hadmit
  omega

/-! ## Stale events -/

theorem note_stale {s : AdmissionService} {k : TargetKey} {g : Int}
    (hstale : ¬ s.GenerationCurrent k g) : s.after (.noteExecutionTransition k g) = s := by
  simp [after, perform, noteExecutionTransition, hstale]

theorem cancelSshTier_stale {s : AdmissionService} {k : TargetKey} {g : Int}
    (hstale : ¬ s.GenerationCurrent k g) (e : Int) :
    s.perform (.cancelSshTier k g e) = (.ok [], s) := by
  simp [perform, cancelSshTier, hstale]

/-- Cancelling what is cancelled changes nothing. -/
theorem cancelAll_self {s : AdmissionService} {hs : List AdmissionHandle}
    (hcancelled : ∀ h ∈ hs, s.Cancelled h) : s.cancelAll hs = s := by
  have hflags : (s.cancelAll hs).flags = s.flags := by
    funext id
    rw [cancelAll_flags]
    split
    · rename_i hid
      obtain ⟨h, hm, rfl⟩ := List.mem_map.mp hid
      have hset : (s.flags h.handleId).cancelled = true := hcancelled h hm
      rw [← hset]
    · rfl
  rw [cancelAll] at hflags ⊢
  exact congrArg (fun flags => { s with flags := flags }) hflags

/-- A close for a generation the target left behind changes nothing. -/
theorem Valid.close_stale {s : AdmissionService} (hv : s.Valid) {k : TargetKey} {g : Int}
    (hstale : ∃ snapshot ∈ s.store k, g < snapshot.generation) :
    s.after (.closeAdmission k g) = s := by
  change (s.closeAdmission k g).2 = s
  unfold closeAdmission closedAtFirst
  by_cases hclosed : s.Closed k
  · rw [if_neg fun h => h.1 hclosed, if_pos hclosed]
    exact cancelAll_self (hv.closed k hclosed)
  · rw [if_pos ⟨hclosed, hstale⟩]

/-! ## Registration -/

/-- A handle is added by the call that admits its kind of work. -/
theorem admits_of_new {s : AdmissionService} {c : Call} {h : AdmissionHandle}
    (hi : h ∈ (s.after c).issued) (hnew : h ∉ s.issued) : c.admits = some h.op := by
  have hchange := perform_change c s
  generalize s.after c = s' at hi hchange
  cases hchange with
  | register h' snapshot admits =>
      rw [registered_issued, List.mem_append, List.mem_singleton] at hi
      obtain rfl := hi.resolve_left hnew
      exact admits
  | refl | publish | note | cancel | promote | dispose | reap | close | reopen | recovery =>
      exact absurd hi hnew

/-- On a target under debug an ssh handle is registered with a proof that is
executing and current in both fences. -/
theorem ssh_registered_executing {s : AdmissionService} {c : Call} {h : AdmissionHandle}
    {snapshot : TargetSnapshot} (hi : h ∈ (s.after c).issued) (hnew : h ∉ s.issued)
    (hop : h.op = .sshTier) (hsnap : s.store h.targetKey = some snapshot)
    (hstate : snapshot.state = .debugging) :
    ∃ platform lease ttl now,
      c = .admitSshTier h.targetKey snapshot.generation platform lease ttl
        (some ⟨snapshot.generation, s.execEpoch h.targetKey, .known .executing⟩) now := by
  have hadmits := admits_of_new hi hnew
  rw [hop] at hadmits
  cases c with
  | admitSshTier k g platform lease ttl proof now =>
      cases hok : s.admitSshTier k g platform lease ttl proof now with
      | error e =>
          rw [after, perform, hok, settle_error] at hi
          exact absurd hi hnew
      | ok r =>
          obtain ⟨h', s'⟩ := r
          obtain ⟨ha, _, _, snapshot', hsnap', hgen, hproof⟩ := admitSshTier_eq_ok hok
          rw [after, perform, hok, settle_ok, ha.after, registered_issued, List.mem_append,
            List.mem_singleton] at hi
          obtain rfl := hi.resolve_left hnew
          obtain rfl := ha.key
          obtain rfl : snapshot' = snapshot := Option.some.inj (hsnap'.symm.trans hsnap)
          obtain rfl := hgen
          obtain rfl := hproof (by rw [hstate]; simp)
          exact ⟨platform, lease, ttl, now, rfl⟩
  | _ => simp [Call.admits] at hadmits

/-! ## The fence in every reachable state -/

/-- In every state a run of calls reaches: an ssh handle completes only if no
current transition was noted since its admission and it is not cancelled, a halt
cancels exactly the ssh work of its generation up to its epoch and never work
admitted after a later transition, a stale event changes nothing, and on a target
under debug ssh work is registered only with a current executing proof. -/
theorem execution_epoch_fence (ttl : Int) (nextId : Nat) (cs : List Call) :
    let s := Runs.run after cs (AdmissionService.fresh ttl nextId)
    (∀ k g platform lease ttl proof now h,
      (s.perform (.admitSshTier k g platform lease ttl proof now)).1 = .ok h →
      ∀ cs', let admitted := s.after (.admitSshTier k g platform lease ttl proof now)
        let s' := Runs.run after cs' admitted
        (s'.perform (.complete h)).1 = .ok () →
          ¬ s'.Cancelled h ∧
          ∀ before since g', cs' = before ++ .noteExecutionTransition h.targetKey g' :: since →
            ¬ (Runs.run after before admitted).GenerationCurrent h.targetKey g') ∧
    (∀ k g e, s.GenerationCurrent k g →
      ∃ hs, (s.perform (.cancelSshTier k g e)).1 = .ok hs ∧ hs.Nodup ∧
        (∀ h, h ∈ hs ↔ h ∈ s.bindings k ∧ h.op = .sshTier ∧ h.generation = g ∧
          (h.admitEpoch : Int) ≤ e) ∧
        ∀ h ∈ s.issued, (s.after (.cancelSshTier k g e)).Cancelled h ↔ h ∈ hs ∨ s.Cancelled h) ∧
    (∀ k g g' e between since h,
      (s.perform (.noteExecutionTransition k g)).1 = .ok e →
      (Runs.run after (.noteExecutionTransition k g :: between) s).GenerationCurrent k g' →
      h ∉ (Runs.run after (.noteExecutionTransition k g :: between) s).issued →
      ∀ g'' hs, ((Runs.run after (.noteExecutionTransition k g :: between ++
          .noteExecutionTransition k g' :: since) s).perform (.cancelSshTier k g'' e)).1 = .ok hs →
        h ∉ hs) ∧
    (∀ k g, ¬ s.GenerationCurrent k g →
      s.after (.noteExecutionTransition k g) = s ∧
      ∀ e, s.perform (.cancelSshTier k g e) = (.ok [], s)) ∧
    (∀ k g, (∃ snapshot ∈ s.store k, g < snapshot.generation) →
      s.after (.closeAdmission k g) = s) ∧
    (∀ c h snapshot, h ∈ (s.after c).issued → h ∉ s.issued → h.op = .sshTier →
      s.store h.targetKey = some snapshot → snapshot.state = .debugging →
      ∃ platform lease ttl now,
        c = .admitSshTier h.targetKey snapshot.generation platform lease ttl
          (some ⟨snapshot.generation, s.execEpoch h.targetKey, .known .executing⟩) now) := by
  intro s
  have hv : s.Valid := valid_of_run ttl nextId cs
  refine ⟨?_, ?_, ?_, fun k g hstale => ⟨note_stale hstale, cancelSshTier_stale hstale⟩,
    fun k g hstale => hv.close_stale hstale,
    fun c h snapshot hi hnew hop hsnap hstate => ssh_registered_executing hi hnew hop hsnap hstate⟩
  · intro k g platform lease ttl' proof now h hreply cs' admitted s' hcomplete
    obtain ⟨ha, hop, _⟩ := admitSshTier_reply hreply
    refine ⟨(complete_ssh hop hcomplete).2, fun before since g' hcs' => ?_⟩
    have hepoch : h.admitEpoch = s.execEpoch h.targetKey := by rw [ha.key]; exact ha.epoch
    have hsame : admitted.execEpoch = s.execEpoch := by
      rw [show admitted = s.registered h from ha.after, registered_execEpoch]
    exact complete_uninterrupted hop hepoch hsame hcomplete hcs'
  · intro k g e hcurrent
    have hlisted : ∀ h ∈ s.haltCancels k g e, h ∈ s.issued :=
      fun h hm => hv.issued_of_mem (mem_haltCancels.mp hm).1
    refine ⟨s.haltCancels k g e, by rw [cancelSshTier_current hcurrent],
      (hv.once k).filter _, fun h => mem_haltCancels, fun h hi => ?_⟩
    rw [after, cancelSshTier_current hcurrent]
    exact hv.cancelled_cancelAll hlisted hi
  · intro k g g' e between since h hhalt hresume hnew g'' hs hreply hm
    set s' := Runs.run after (.noteExecutionTransition k g :: between ++
      .noteExecutionTransition k g' :: since) s
    have hv' : s'.Valid := Runs.run_inv' (fun c _ hv => hv.after c) _ hv
    by_cases hcurrent : s'.GenerationCurrent k g''
    · rw [cancelSshTier_current hcurrent, Except.ok.injEq] at hreply
      obtain ⟨hmem, _, _, hle⟩ := mem_haltCancels.mp (hreply ▸ hm)
      have hlt := admitted_after_note hv hhalt since hresume (hv'.key_of_mem hmem) hnew
        (hv'.issued_of_mem hmem)
      omega
    · rw [cancelSshTier_stale hcurrent, Except.ok.injEq] at hreply
      rw [← hreply] at hm
      exact absurd hm List.not_mem_nil

end AdmissionService

end Kdive

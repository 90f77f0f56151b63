import Mathlib.Data.List.Induction
import Kdive.Coordination.AdmissionTable
import Kdive.Target.Boot

/-!
# Bindings and published generations

A binding carries the generation that was published when it was admitted.
Publication is the only call that changes the store, so the binding stays
current until a snapshot of a larger generation is published.

A forced reboot publishes one while older bindings are in force.  Boot calls
nothing but the publication, and the closing of a target is left to lifecycle
events.
-/

namespace Kdive

namespace AdmissionService

/-! ## Changes of the store and of the handles -/

/-- What a change does to the published snapshot of a target. -/
theorem Change.store {c : Call} {s s' : AdmissionService} (hc : Change c s s') (k : TargetKey) :
    s'.store k = s.store k ∨
      ∃ snapshot, c = .publishSnapshot k snapshot ∧ s'.store k = some snapshot ∧
        ∀ current ∈ s.store k, current.generation ≤ snapshot.generation := by
  cases hc with
  | publish k' snapshot newer =>
      rcases eq_or_ne k k' with rfl | hne
      · exact .inr ⟨snapshot, rfl, Function.update_self .., newer⟩
      · exact .inl (Function.update_of_ne hne ..)
  | refl | register | note | cancel | promote | dispose | reap | close | reopen | recovery =>
      exact .inl rfl

/-- A call admitted a handle: it put it into the table at the published generation. -/
structure Admitted (s : AdmissionService) (c : Call) (h : AdmissionHandle) : Prop where
  admits : c.admits = some h.op
  current : s.GenerationCurrent h.targetKey h.generation
  after : s.after c = s.registered h

theorem issued_after (c : Call) (s : AdmissionService) {h : AdmissionHandle}
    (hm : h ∈ (s.after c).issued) : h ∈ s.issued ∨ s.Admitted c h := by
  have hc := perform_change c s
  revert hc hm
  generalize hs : s.after c = s'
  intro hm hc
  cases hc with
  | register h' snapshot admits id opened published generation =>
      rw [registered_issued, List.mem_append, List.mem_singleton] at hm
      rcases hm with hold | rfl
      · exact .inl hold
      · refine .inr ⟨admits, ?_, hs⟩
        rw [GenerationCurrent, published, generation]
        rfl
  | refl | publish | note | cancel | promote | dispose | reap | close | reopen | recovery =>
      exact .inl hm

/-- Every handle of a run was admitted by one of its calls. -/
theorem issued_admitted (ttl : Int) (nextId : Nat) (cs : List Call) {h : AdmissionHandle}
    (hm : h ∈ (Runs.run after cs (fresh ttl nextId)).issued) :
    ∃ before c since, cs = before ++ c :: since ∧
      (Runs.run after before (fresh ttl nextId)).Admitted c h := by
  induction cs using List.reverseRecOn with
  | nil => cases hm
  | append_singleton cs c ih =>
      rw [Runs.run_append, Runs.run_cons, Runs.run_nil] at hm
      cases issued_after c _ hm with
      | inl hold =>
          obtain ⟨before, c', since, rfl, hadmitted⟩ := ih hold
          exact ⟨before, c', since ++ [c], by simp, hadmitted⟩
      | inr hadmitted => exact ⟨cs, c, [], rfl, hadmitted⟩

/-! ## The published generation along a run -/

/-- A call of the run published a snapshot of the target above a generation. -/
def RaisedPast (cs : List Call) (s : AdmissionService) (k : TargetKey) (g : Int) : Prop :=
  ∃ before snapshot since, cs = before ++ .publishSnapshot k snapshot :: since ∧
    (Runs.run after (before ++ [.publishSnapshot k snapshot]) s).store k = some snapshot ∧
    g < snapshot.generation

theorem not_raisedPast_nil {s : AdmissionService} {k : TargetKey} {g : Int} :
    ¬ RaisedPast [] s k g := by
  rintro ⟨before, snapshot, since, heq, _⟩
  exact absurd heq.symm (by simp)

theorem raisedPast_append {cs : List Call} {c : Call} {s : AdmissionService} {k : TargetKey}
    {g : Int} :
    RaisedPast (cs ++ [c]) s k g ↔ RaisedPast cs s k g ∨
      ∃ snapshot, c = .publishSnapshot k snapshot ∧
        (Runs.run after (cs ++ [c]) s).store k = some snapshot ∧ g < snapshot.generation := by
  constructor
  · rintro ⟨before, snapshot, since, heq, hstore, hlt⟩
    rcases List.eq_nil_or_concat since with rfl | ⟨since, c', rfl⟩
    · obtain ⟨rfl, hc⟩ := List.append_inj' heq rfl
      obtain rfl : c = .publishSnapshot k snapshot := (List.cons.inj hc).1
      exact .inr ⟨snapshot, rfl, hstore, hlt⟩
    · rw [List.concat_eq_append, ← List.cons_append, ← List.append_assoc] at heq
      obtain ⟨rfl, _⟩ := List.append_inj' heq rfl
      exact .inl ⟨before, snapshot, since, rfl, hstore, hlt⟩
  · rintro (⟨before, snapshot, since, rfl, hstore, hlt⟩ | ⟨snapshot, rfl, hstore, hlt⟩)
    · exact ⟨before, snapshot, since ++ [c], by simp, hstore, hlt⟩
    · exact ⟨cs, snapshot, [], rfl, hstore, hlt⟩

/-- A generation that was current is still published, or the run raised it. -/
theorem published_since {s : AdmissionService} {k : TargetKey} {g : Int}
    (hg : s.GenerationCurrent k g) (cs : List Call) :
    ∃ snapshot, (Runs.run after cs s).store k = some snapshot ∧ g ≤ snapshot.generation ∧
      (g < snapshot.generation ↔ RaisedPast cs s k g) := by
  induction cs using List.reverseRecOn with
  | nil =>
      obtain ⟨snapshot, hs, rfl⟩ := Option.map_eq_some_iff.mp hg
      exact ⟨snapshot, hs, le_rfl, by simp [not_raisedPast_nil]⟩
  | append_singleton cs c ih =>
      obtain ⟨snapshot, hs, hle, hraised⟩ := ih
      have hrun : Runs.run after (cs ++ [c]) s = (Runs.run after cs s).after c := by
        rw [Runs.run_append, Runs.run_cons, Runs.run_nil]
      rw [raisedPast_append, ← hraised, hrun]
      rcases (perform_change c (Runs.run after cs s)).store k with
        hsame | ⟨published, rfl, hstore, hnewer⟩
      · refine ⟨snapshot, hsame.trans hs, hle, .inl, ?_⟩
        rintro (hlt | ⟨snapshot', _, hstore', hlt⟩)
        · exact hlt
        · obtain rfl : snapshot = snapshot' :=
            Option.some.inj ((hsame.trans hs).symm.trans hstore')
          exact hlt
      · have hmono := hnewer snapshot hs
        refine ⟨published, hstore, hle.trans hmono, fun hlt => .inr ⟨published, rfl, hstore, hlt⟩, ?_⟩
        rintro (hlt | ⟨snapshot', _, hstore', hlt⟩)
        · exact hlt.trans_le hmono
        · obtain rfl : published = snapshot' := Option.some.inj (hstore.symm.trans hstore')
          exact hlt

end AdmissionService

/-! ## Bindings and boots -/

section Reboot

open AdmissionService

/-- The calls of a run that boots, opens a debug session and reboots. -/
def rebootCalls : List Call :=
  let env := BootEnv.calm (some ⟨"127.0.0.1", 1234⟩) ⟨none⟩
  let booted := targetBoot env ⟨"run", false, false⟩ .unbooted .unbooted
  let rebooted := targetBoot env ⟨"run", true, false⟩ booted.manifest booted.manifest
  booted.calls "run" ++
    [.admitOpen (localTarget "run")
      (debugOpenRequest "run" gdbstubEndpoint 1 (bootPlatform false)) 0] ++
    rebooted.calls "run"

end Reboot

end Kdive

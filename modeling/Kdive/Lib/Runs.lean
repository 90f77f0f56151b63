import Mathlib.Order.Defs.Unbundled

/-!
# Runs of a step function

A system is a function `step` from a label and a state to the next state.  A
label says everything the environment decides: which operation is called with
which arguments, or which party moves next.  So a run is a list of labels and
its final state is `run step ls s`.

*Conditions.*  `Along step C ls s` says every step of the run meets the
condition `C`, read at the state before the step.  It is how a result that
holds of some runs only names those runs.

*Rules.*  `run_inv` carries an invariant along a run whose steps meet a
condition.  `along_of_inv` derives one condition from another under an
invariant.  `run_rel` carries a reflexive and transitive relation between the
two ends of a run.
-/

namespace Runs

variable {L S : Type*} {step : L → S → S} {C D : L → S → Prop} {I : S → Prop}

/-- The state a run ends in. -/
def run (step : L → S → S) : List L → S → S
  | [], s => s
  | l :: ls, s => run step ls (step l s)

@[simp] theorem run_nil (s : S) : run step [] s = s := rfl

@[simp] theorem run_cons (l : L) (ls : List L) (s : S) :
    run step (l :: ls) s = run step ls (step l s) := rfl

theorem run_append (ls₁ ls₂ : List L) (s : S) :
    run step (ls₁ ++ ls₂) s = run step ls₂ (run step ls₁ s) := by
  induction ls₁ generalizing s with
  | nil => rfl
  | cons l ls₁ ih => exact ih (step l s)

/-- Every step of the run meets the condition at the state before it. -/
def Along (step : L → S → S) (C : L → S → Prop) : List L → S → Prop
  | [], _ => True
  | l :: ls, s => C l s ∧ Along step C ls (step l s)

@[simp] theorem along_nil (s : S) : Along step C [] s := trivial

@[simp] theorem along_cons (l : L) (ls : List L) (s : S) :
    Along step C (l :: ls) s ↔ C l s ∧ Along step C ls (step l s) := Iff.rfl

instance decidableAlong [∀ l s, Decidable (C l s)] :
    (ls : List L) → (s : S) → Decidable (Along step C ls s)
  | [], _ => .isTrue trivial
  | l :: ls, s =>
      have : Decidable (Along step C ls (step l s)) := decidableAlong ls (step l s)
      inferInstanceAs (Decidable (C l s ∧ Along step C ls (step l s)))

theorem along_append (ls₁ ls₂ : List L) (s : S) :
    Along step C (ls₁ ++ ls₂) s ↔
      Along step C ls₁ s ∧ Along step C ls₂ (run step ls₁ s) := by
  induction ls₁ generalizing s with
  | nil => simp
  | cons l ls₁ ih => simp [ih, and_assoc]

/-- A condition that the labels of a run meet in every state is met along it. -/
theorem along_of_mem {ls : List L} (h : ∀ l ∈ ls, ∀ s, C l s) (s : S) : Along step C ls s := by
  induction ls generalizing s with
  | nil => trivial
  | cons l ls ih =>
      exact ⟨h l List.mem_cons_self s, ih (fun l hl => h l (List.mem_cons_of_mem _ hl)) _⟩

/-- A condition every step meets is met along every run. -/
theorem along_of_forall (h : ∀ l s, C l s) (ls : List L) (s : S) : Along step C ls s :=
  along_of_mem (fun l _ => h l) s

theorem Along.mono (hCD : ∀ l s, C l s → D l s) {ls : List L} {s : S}
    (h : Along step C ls s) : Along step D ls s := by
  induction ls generalizing s with
  | nil => trivial
  | cons l ls ih => exact ⟨hCD l s h.1, ih h.2⟩

theorem Along.and {ls : List L} {s : S} (hC : Along step C ls s) (hD : Along step D ls s) :
    Along step (fun l s => C l s ∧ D l s) ls s := by
  induction ls generalizing s with
  | nil => trivial
  | cons l ls ih => exact ⟨⟨hC.1, hD.1⟩, ih hC.2 hD.2⟩

/-- What holds at every point of a run holds before each of its steps. -/
theorem along_of_firsts {P : S → Prop} {ls : List L} {s : S}
    (h : ∀ before, before <+: ls → P (run step before s)) : Along step (fun _ s => P s) ls s := by
  induction ls generalizing s with
  | nil => trivial
  | cons l ls ih =>
      exact ⟨h [] List.nil_prefix, ih fun before hbefore =>
        h (l :: before) (List.cons_prefix_cons.mpr ⟨rfl, hbefore⟩)⟩

/-- An invariant of the steps that meet a condition holds at the end of a run
whose steps meet it. -/
theorem run_inv (hstep : ∀ l s, I s → C l s → I (step l s)) {ls : List L} {s : S}
    (hs : I s) (hC : Along step C ls s) : I (run step ls s) := by
  induction ls generalizing s with
  | nil => exact hs
  | cons l ls ih => exact ih (hstep l s hs hC.1) hC.2

/-- An invariant of every step holds at the end of every run. -/
theorem run_inv' (hstep : ∀ l s, I s → I (step l s)) (ls : List L) {s : S} (hs : I s) :
    I (run step ls s) :=
  run_inv (C := fun _ _ => True) (fun l s h _ => hstep l s h) hs
    (along_of_forall (fun _ _ => trivial) ls s)

/-- Under an invariant, one condition on the steps of a run gives another. -/
theorem along_of_inv (hstep : ∀ l s, I s → C l s → I (step l s))
    (hCD : ∀ l s, I s → C l s → D l s) {ls : List L} {s : S} (hs : I s)
    (hC : Along step C ls s) : Along step D ls s := by
  induction ls generalizing s with
  | nil => trivial
  | cons l ls ih => exact ⟨hCD l s hs hC.1, ih (hstep l s hs hC.1) hC.2⟩

/-- When a step keeps an invariant exactly if it meets a condition, the invariant holds after
every step of a run exactly if every step meets the condition. -/
theorem along_iff (hstep : ∀ l s, I s → (I (step l s) ↔ C l s)) {ls : List L} {s : S}
    (hs : I s) : Along step C ls s ↔ ∀ before, before <+: ls → I (run step before s) := by
  induction ls generalizing s with
  | nil =>
      refine iff_of_true trivial fun before hprefix => ?_
      rw [List.prefix_nil.mp hprefix]
      exact hs
  | cons l ls ih =>
      constructor
      · rintro ⟨hl, hrest⟩ before hprefix
        cases before with
        | nil => exact hs
        | cons l' before =>
            obtain ⟨rfl, hbefore⟩ := List.cons_prefix_cons.mp hprefix
            exact (ih ((hstep l' s hs).mpr hl)).mp hrest before hbefore
      · intro hall
        have hnext : I (step l s) := hall [l] (List.cons_prefix_cons.mpr ⟨rfl, List.nil_prefix⟩)
        refine ⟨(hstep l s hs).mp hnext, (ih hnext).mpr fun before hprefix => ?_⟩
        exact hall (l :: before) (List.cons_prefix_cons.mpr ⟨rfl, hprefix⟩)

/-- A preorder that relates the two ends of every step relates the two ends of
every run. -/
theorem run_rel {R : S → S → Prop} [IsPreorder S R] (hstep : ∀ l s, R s (step l s))
    (ls : List L) (s : S) : R s (run step ls s) := by
  induction ls generalizing s with
  | nil => exact refl s
  | cons l ls ih => exact IsTrans.trans _ _ _ (hstep l s) (ih (step l s))

end Runs

import Mathlib.Logic.Basic

/-!
# Checks that raise

Code that validates before it acts is a sequence of checks, each of which raises
or falls through.  Such code is written in `Except ε` with `refuse`, and these
lemmas turn the equation `f x = .ok y` of such a function into the conjunction
of the negated checks.
-/

namespace Checked

universe u v

variable {ε : Type u} {α β : Type v}

/-- Raise `e` when `p` holds. -/
def refuse (p : Prop) [Decidable p] (e : ε) : Except ε Unit :=
  if p then .error e else .ok ()

@[simp] theorem refuse_eq_ok {p : Prop} [Decidable p] {e : ε} {u : Unit} :
    refuse p e = .ok u ↔ ¬p := by
  unfold refuse
  split <;> simp_all

@[simp] theorem refuse_eq_error {p : Prop} [Decidable p] {e e' : ε} :
    refuse p e = .error e' ↔ p ∧ e = e' := by
  unfold refuse
  split <;> simp_all

theorem refuse_of {p : Prop} [Decidable p] {e : ε} (h : p) : refuse p e = .error e := by
  simp [h]

theorem refuse_of_not {p : Prop} [Decidable p] {e : ε} (h : ¬p) : refuse p e = .ok () := by
  simp [h]

/-- A sequence succeeds when both parts do. -/
@[simp] theorem bind_eq_ok {x : Except ε α} {f : α → Except ε β} {b : β} :
    (x >>= f) = .ok b ↔ ∃ a, x = .ok a ∧ f a = .ok b := by
  cases x with
  | error e => simp [Bind.bind, Except.bind]
  | ok a => simp [Bind.bind, Except.bind]

@[simp] theorem map_eq_ok {x : Except ε α} {f : α → β} {b : β} :
    f <$> x = .ok b ↔ ∃ a, x = .ok a ∧ f a = b := by
  cases x with
  | error e => simp [Functor.map, Except.map]
  | ok a => simp [Functor.map, Except.map]

@[simp] theorem pure_eq_ok {a b : α} : (pure a : Except ε α) = .ok b ↔ a = b := by
  simp [Pure.pure, Except.pure]

@[simp] theorem throw_eq_ok {e : ε} {b : α} : (throw e : Except ε α) = .ok b ↔ False := by
  simp [throw, throwThe, MonadExceptOf.throw]

/-- A value that must be there. -/
def require (x : Option α) (e : ε) : Except ε α :=
  match x with
  | none => .error e
  | some a => .ok a

@[simp] theorem require_eq_ok {x : Option α} {e : ε} {a : α} :
    require x e = .ok a ↔ x = some a := by
  cases x <;> simp [require]

/-- What a function that may refuse does to the state: a refusal leaves it as it
is. -/
def settle {σ : Type*} (s : σ) : Except ε (α × σ) → Except ε α × σ
  | .error e => (.error e, s)
  | .ok (a, s') => (.ok a, s')

@[simp] theorem settle_error {σ : Type*} (s : σ) (e : ε) :
    settle s (.error e : Except ε (α × σ)) = (.error e, s) := rfl

@[simp] theorem settle_ok {σ : Type*} (s s' : σ) (a : α) :
    settle s (.ok (a, s') : Except ε (α × σ)) = (.ok a, s') := rfl

/-- A property of the state survives when every success keeps it. -/
theorem settle_inv {σ : Type*} {s : σ} {r : Except ε (α × σ)} {P : σ → Prop} (hs : P s)
    (h : ∀ a s', r = .ok (a, s') → P s') : P (settle s r).2 := by
  cases r with
  | error e => exact hs
  | ok p => exact h p.1 p.2 rfl

/-- The reply of a settled call is a success exactly when the function succeeds. -/
theorem settle_fst_eq_ok {σ : Type*} {s : σ} {r : Except ε (α × σ)} {a : α} :
    (settle s r).1 = .ok a ↔ ∃ s', r = .ok (a, s') ∧ (settle s r).2 = s' := by
  rcases r with e | ⟨b, s'⟩ <;> simp

end Checked

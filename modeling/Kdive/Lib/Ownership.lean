import Mathlib.Logic.Function.Basic
import Kdive.Lib.Runs

/-!
# Single owners

An authority hands out keys to owners.  `acquire` grants a free key and returns a
token with a stamp, `release` frees a key for its holder's token, and `revoke`
frees it without one.  Tokens may be kept and used at any later time.

*Tables.*  `Table` is the abstract state: who holds each key, which tokens were
drawn, and a bound on the stamps handed out.  `Table.Step` says what each reply
means for it.

*Refinement.*  An `Authority` refines the table if each of its calls is a step of
the table it stands for.  `Refines.singleOwner` then gives every run of it what
a single owner promises: a grant goes to a free key, stamps increase, a token
that was let go of never holds anything again, and another token frees nothing.
-/

namespace Ownership

variable {Key Owner Token S : Type}

/-- A call of an authority. -/
inductive Call (Key Owner Token : Type) where
  | acquire (key : Key) (owner : Owner)
  | release (key : Key) (token : Token)
  | revoke (key : Key)

/-- The key a call is about. -/
def Call.key : Call Key Owner Token → Key
  | .acquire k _ | .release k _ | .revoke k => k

/-- What a call answers. -/
inductive Reply (Token : Type) where
  | granted (token : Token) (stamp : Nat)
  | refused
  | released (freed : Bool)
  | revoked

/-! ## The table -/

/-- Who holds what. -/
structure Table (Key Token : Type) where
  holder : Key → Option Token
  drawn : Token → Prop
  stamp : Key → Nat

/-- What a reply means for the table. -/
inductive Table.Step [DecidableEq Key] :
    Call Key Owner Token → Reply Token → Table Key Token → Table Key Token → Prop
  | granted {T T' : Table Key Token} (k : Key) (owner : Owner) (t : Token) (n : Nat)
      (free : T.holder k = none) (fresh : ¬ T.drawn t) (newer : T.stamp k < n)
      (holder : T'.holder = Function.update T.holder k (some t))
      (drawn : ∀ x, x = t ∨ T.drawn x → T'.drawn x) (below : n ≤ T'.stamp k)
      (stamp : ∀ k', T.stamp k' ≤ T'.stamp k') :
      Step (.acquire k owner) (.granted t n) T T'
  | refused {T : Table Key Token} (k : Key) (owner : Owner) :
      Step (.acquire k owner) .refused T T
  | freed {T T' : Table Key Token} (k : Key) (t : Token) (held : T.holder k = some t)
      (holder : T'.holder = Function.update T.holder k none) (drawn : ∀ x, T.drawn x → T'.drawn x)
      (stamp : ∀ k', T.stamp k' ≤ T'.stamp k') : Step (.release k t) (.released true) T T'
  | ignored {T : Table Key Token} (k : Key) (t : Token) (foreign : T.holder k ≠ some t) :
      Step (.release k t) (.released false) T T
  | revoked {T T' : Table Key Token} (k : Key)
      (holder : T'.holder = Function.update T.holder k none) (drawn : ∀ x, T.drawn x → T'.drawn x)
      (stamp : ∀ k', T.stamp k' ≤ T'.stamp k') : Step (.revoke k) .revoked T T'

namespace Table

variable [DecidableEq Key] {c : Call Key Owner Token} {r : Reply Token} {T T' : Table Key Token}

/-- Held tokens were drawn, and no token holds two keys. -/
structure Valid (T : Table Key Token) : Prop where
  drawn : ∀ k t, T.holder k = some t → T.drawn t
  unique : ∀ k k' t, T.holder k = some t → T.holder k' = some t → k = k'

theorem Step.drawn_le (h : Step c r T T') {t : Token} (ht : T.drawn t) : T'.drawn t := by
  cases h with
  | granted k owner t' n _ _ _ _ drawn => exact drawn t (.inr ht)
  | freed k t' _ _ drawn => exact drawn t ht
  | revoked k _ drawn => exact drawn t ht
  | refused | ignored => exact ht

theorem Step.stamp_le (h : Step c r T T') (k : Key) : T.stamp k ≤ T'.stamp k := by
  cases h with
  | granted _ _ _ _ _ _ _ _ _ _ stamp => exact stamp k
  | freed _ _ _ _ _ stamp => exact stamp k
  | revoked _ _ _ stamp => exact stamp k
  | refused | ignored => exact Nat.le_refl _

/-- A holder after a step held its key before, or its token was just drawn. -/
theorem Step.holder (h : Step c r T T') {k : Key} {t : Token} (hk : T'.holder k = some t) :
    T.holder k = some t ∨ ¬ T.drawn t ∧ T'.drawn t ∧ k = c.key ∧
      ∀ k' t', T'.holder k' = some t' → k' = k ∨ T.holder k' = some t' := by
  cases h with
  | granted k₀ owner t₀ n free fresh newer holder drawn =>
      rw [holder] at hk
      by_cases heq : k = k₀
      · subst heq
        rw [Function.update_self, Option.some.injEq] at hk
        subst hk
        refine .inr ⟨fresh, drawn _ (.inl rfl), rfl, fun k' t' hk' => ?_⟩
        by_cases hne : k' = k
        · exact .inl hne
        · rw [holder, Function.update_of_ne hne] at hk'
          exact .inr hk'
      · rw [Function.update_of_ne heq] at hk
        exact .inl hk
  | freed k₀ t₀ held holder =>
      rw [holder] at hk
      by_cases heq : k = k₀
      · simp [heq] at hk
      · exact .inl (by simpa [heq] using hk)
  | revoked k₀ holder =>
      rw [holder] at hk
      by_cases heq : k = k₀
      · simp [heq] at hk
      · exact .inl (by simpa [heq] using hk)
  | refused | ignored => exact .inl hk

theorem Step.valid (h : Step c r T T') (hT : T.Valid) : T'.Valid := by
  constructor
  case drawn =>
    intro k t hk
    cases h.holder hk with
    | inl hold => exact h.drawn_le (hT.drawn k t hold)
    | inr hnew => exact hnew.2.1
  case unique =>
    intro k k' t hk hk'
    cases h.holder hk with
    | inr hnew =>
        obtain ⟨hfresh, _, _, hothers⟩ := hnew
        cases hothers k' t hk' with
        | inl heq => exact heq.symm
        | inr hold' => exact absurd (hT.drawn k' t hold') hfresh
    | inl hold =>
        cases h.holder hk' with
        | inr hnew => exact absurd (hT.drawn k t hold) hnew.1
        | inl hold' => exact hT.unique k k' t hold hold'

/-- A call leaves the other keys alone. -/
theorem Step.frame (h : Step c r T T') {k : Key} (hne : k ≠ c.key) : T'.holder k = T.holder k := by
  cases h with
  | granted k₀ _ _ _ _ _ _ holder =>
      rw [holder]
      exact Function.update_of_ne hne _ _
  | freed k₀ _ _ holder =>
      rw [holder]
      exact Function.update_of_ne hne _ _
  | revoked k₀ holder =>
      rw [holder]
      exact Function.update_of_ne hne _ _
  | refused | ignored => rfl

/-- A drawn token that holds nothing will not hold anything. -/
theorem Step.spent (h : Step c r T T') {t : Token} (hdrawn : T.drawn t)
    (hspent : ∀ k, T.holder k ≠ some t) : ∀ k, T'.holder k ≠ some t := by
  intro k hk
  cases h.holder hk with
  | inl hold => exact hspent k hold
  | inr hnew => exact hnew.1 hdrawn

end Table

/-! ## Authorities -/

/-- An implementation: its calls, and what it keeps for a key. -/
structure Authority (S Key Owner Token V : Type) where
  step : Call Key Owner Token → S → Reply Token × S
  view : S → Key → V
  holder : V → Option Token

namespace Authority

variable {V : Type} (A : Authority S Key Owner Token V)

/-- The state after a call. -/
def next (c : Call Key Owner Token) (s : S) : S := (A.step c s).2

/-- The state after a run of calls. -/
def after (cs : List (Call Key Owner Token)) (s : S) : S := Runs.run A.next cs s

/-- The token that holds a key. -/
def holds (s : S) (k : Key) : Option Token := A.holder (A.view s k)

/-- Each call is a step of the table, and what is kept for other keys stays. -/
structure Refines [DecidableEq Key] (Inv : S → Prop) (abs : S → Table Key Token) : Prop where
  keeps : ∀ {s} c, Inv s → Inv (A.next c s)
  step : ∀ {s} c, Inv s → Table.Step c (A.step c s).1 (abs s) (abs (A.next c s))
  holder : ∀ s, (abs s).holder = A.holds s
  frame : ∀ {s} c k, k ≠ c.key → A.view (A.next c s) k = A.view s k
  ignored : ∀ {s} c, (A.step c s).1 = .refused ∨ (A.step c s).1 = .released false → A.next c s = s

/-- What a single owner promises in a state. -/
structure SingleOwner (s : S) : Prop where
  /-- A token holds one key. -/
  unique : ∀ k k' t, A.holds s k = some t → A.holds s k' = some t → k = k'
  /-- A grant goes to a free key and makes its token the holder. -/
  granted : ∀ k owner t n, (A.step (.acquire k owner) s).1 = .granted t n →
    A.holds s k = none ∧ A.holds (A.next (.acquire k owner) s) k = some t
  /-- A later grant of the key has a larger stamp. -/
  newer : ∀ k owner t n cs owner' t' n', (A.step (.acquire k owner) s).1 = .granted t n →
    (A.step (.acquire k owner') (A.after cs (A.next (.acquire k owner) s))).1 = .granted t' n' →
    n < n'
  /-- A token that does not hold the key frees nothing. -/
  foreign : ∀ k t, A.holds s k ≠ some t → A.step (.release k t) s = (.released false, s)
  /-- The holder's own token frees its key. -/
  freed : ∀ k t, A.holds s k = some t → (A.step (.release k t) s).1 = .released true ∧
    A.holds (A.next (.release k t) s) k = none
  /-- A token that lost its key never holds any key again. -/
  spent : ∀ k t cs, A.holds s k = some t → A.holds (A.after cs s) k ≠ some t →
    ∀ cs' k', A.holds (A.after cs' (A.after cs s)) k' ≠ some t
  /-- A call leaves what is kept for other keys alone. -/
  frame : ∀ c k, k ≠ c.key → A.view (A.next c s) k = A.view s k

section Refines

variable [DecidableEq Key] {A} {Inv : S → Prop} {abs : S → Table Key Token}
  (hA : A.Refines Inv abs)
include hA

theorem Refines.run (cs : List (Call Key Owner Token)) {s : S} (hs : Inv s)
    (hv : (abs s).Valid) : Inv (A.after cs s) ∧ (abs (A.after cs s)).Valid :=
  Runs.run_inv' (I := fun s => Inv s ∧ (abs s).Valid)
    (fun c _ h => ⟨hA.keeps c h.1, (hA.step c h.1).valid h.2⟩) cs ⟨hs, hv⟩

theorem Refines.stamp_le (cs : List (Call Key Owner Token)) {s : S} (hs : Inv s) (k : Key) :
    (abs s).stamp k ≤ (abs (A.after cs s)).stamp k := by
  induction cs generalizing s with
  | nil => exact Nat.le_refl _
  | cons c cs ih => exact Nat.le_trans ((hA.step c hs).stamp_le k) (ih (hA.keeps c hs))

theorem Refines.spent (cs : List (Call Key Owner Token)) {s : S} (hs : Inv s) {t : Token}
    (hdrawn : (abs s).drawn t) (hspent : ∀ k, A.holds s k ≠ some t) :
    ∀ k, A.holds (A.after cs s) k ≠ some t := by
  induction cs generalizing s with
  | nil => exact hspent
  | cons c cs ih =>
      have hstep := hA.step c hs
      refine ih (hA.keeps c hs) (hstep.drawn_le hdrawn) fun k => ?_
      rw [← hA.holder]
      exact hstep.spent hdrawn (fun k' => by rw [hA.holder]; exact hspent k') k

/-- The holder of a key loses it for good, or keeps it. -/
theorem Refines.lost (cs : List (Call Key Owner Token)) {s : S} (hs : Inv s)
    (hv : (abs s).Valid) {k : Key} {t : Token} (hk : A.holds s k = some t)
    (hlost : A.holds (A.after cs s) k ≠ some t) : ∀ k', A.holds (A.after cs s) k' ≠ some t := by
  induction cs generalizing s with
  | nil => exact absurd hk hlost
  | cons c cs ih =>
      have hstep := hA.step c hs
      have hdrawn : (abs s).drawn t := hv.drawn k t (by rw [hA.holder]; exact hk)
      by_cases hkept : A.holds (A.next c s) k = some t
      · exact ih (hA.keeps c hs) (hstep.valid hv) hkept hlost
      · -- only its own key could hold it, and that key does not
        refine hA.spent cs (hA.keeps c hs) (hstep.drawn_le hdrawn) fun k' hk' => ?_
        rw [← hA.holder] at hk'
        cases hstep.holder hk' with
        | inr hnew => exact hnew.1 hdrawn
        | inl hold =>
            have heq := hv.unique k' k t hold (by rw [hA.holder]; exact hk)
            rw [heq, hA.holder] at hk'
            exact hkept hk'

/-- A refinement keeps the promises of a single owner in every state of every run. -/
theorem Refines.singleOwner (cs : List (Call Key Owner Token)) {s₀ : S} (hs₀ : Inv s₀)
    (hv₀ : (abs s₀).Valid) : A.SingleOwner (A.after cs s₀) := by
  obtain ⟨hs, hv⟩ := hA.run cs hs₀ hv₀
  generalize A.after cs s₀ = s at hs hv
  have acquired : ∀ {s : S} {k owner t n}, Inv s → (A.step (.acquire k owner) s).1 = .granted t n →
      A.holds s k = none ∧ A.holds (A.next (.acquire k owner) s) k = some t ∧
        (abs s).stamp k < n ∧ n ≤ (abs (A.next (.acquire k owner) s)).stamp k := by
    intro s k owner t n hs hreply
    have hstep := hA.step (.acquire k owner) hs
    rw [hreply] at hstep
    rw [← hA.holder, ← hA.holder]
    cases hstep with
    | granted _ _ _ _ free fresh newer holder drawn below =>
        exact ⟨free, by rw [holder, Function.update_self], newer, below⟩
  constructor
  case unique =>
    intro k k' t hk hk'
    exact hv.unique k k' t (by rw [hA.holder]; exact hk) (by rw [hA.holder]; exact hk')
  case granted =>
    intro k owner t n hreply
    obtain ⟨hfree, hheld, _⟩ := acquired hs hreply
    exact ⟨hfree, hheld⟩
  case newer =>
    intro k owner t n cs' owner' t' n' hreply hreply'
    have hs' := hA.keeps (.acquire k owner) hs
    have hv' := (hA.step (.acquire k owner) hs).valid hv
    have hlast := (acquired (hA.run cs' hs' hv').1 hreply').2.2.1
    calc n ≤ (abs (A.next (.acquire k owner) s)).stamp k := (acquired hs hreply).2.2.2
      _ ≤ (abs (A.after cs' (A.next (.acquire k owner) s))).stamp k := hA.stamp_le cs' hs' k
      _ < n' := hlast
  case foreign =>
    intro k t hforeign
    have hstep := hA.step (.release k t) hs
    have hreply : (A.step (.release k t) s).1 = .released false := by
      generalize (A.step (.release k t) s).1 = r at hstep ⊢
      rw [← hA.holder] at hforeign
      generalize abs s = T at hstep hforeign
      generalize abs (A.next (.release k t) s) = T' at hstep
      cases hstep with
      | freed _ _ held => exact absurd held hforeign
      | ignored => rfl
    exact Prod.ext hreply (hA.ignored _ (.inr hreply))
  case freed =>
    intro k t hheld
    have hstep := hA.step (.release k t) hs
    rw [← hA.holder] at hheld
    rw [← hA.holder (A.next (.release k t) s)]
    generalize (A.step (.release k t) s).1 = r at hstep ⊢
    generalize abs s = T at hstep hheld
    generalize abs (A.next (.release k t) s) = T' at hstep ⊢
    cases hstep with
    | freed _ _ _ holder => exact ⟨rfl, by rw [holder, Function.update_self]⟩
    | ignored _ _ foreign => exact absurd hheld foreign
  case spent =>
    intro k t cs' hk hlost cs'' k'
    have hdrawn : (abs s).drawn t := hv.drawn k t (by rw [hA.holder]; exact hk)
    obtain ⟨hs', _⟩ := hA.run cs' hs hv
    have hdrawn' : (abs (A.after cs' s)).drawn t :=
      (Runs.run_inv' (I := fun s => Inv s ∧ (abs s).drawn t)
        (fun c _ h => ⟨hA.keeps c h.1, (hA.step c h.1).drawn_le h.2⟩) cs' ⟨hs, hdrawn⟩).2
    exact hA.spent cs'' hs' hdrawn' (hA.lost cs' hs hv hk hlost) k'
  case frame => exact fun c k hne => hA.frame c k hne

end Refines

end Authority

end Ownership

import Mathlib.Logic.Basic

/-!
# Programs over atomic operations

A program calls atomic operations one after the other and continues with each
response.  `Prog Resp ε α` is the tree of its calls.  An operation `o` responds
with a value of `Resp o` or raises, and so does the program.

*Control.*  `attempt` turns a raise into a value, which is what a `try` block
does.  `rescue` is `try/except`, `suppress` drops the raise.  `expand` carries each
operation out by a program of its own.

*Execution.*  `run` executes a program alone against a handler, and `Reaches` says
where it may be cut.

*Calls.*  `Calls P` bounds the operations a program may call, whatever the
responses.

*Predicate transformers.*  A `Rule` says for each operation what must hold
before it for a statement about its response to hold after it.  `wp` folds a rule
over a program.  The statements read a ghost state, so a rule can carry what the
program has learned so far.  Since programs are trees, `wp` is a recursion, and
its equations (`wp_bind`, `wp_attempt` and the others) take a program apart along
its text.
-/

namespace Program

/-- A program that may raise `ε` and returns `α`. -/
inductive Prog {Op : Type} (Resp : Op → Type) (ε : Type) (α : Type) : Type
  /-- Return. -/
  | ret (a : α)
  /-- Raise. -/
  | raise (e : ε)
  /-- Call an operation and continue with its response. -/
  | call (o : Op) (next : Except ε (Resp o) → Prog Resp ε α)

variable {Op : Type} {Resp : Op → Type} {ε α β : Type}

namespace Prog

/-! ## Control -/

/-- Run one program and continue with its result. -/
def bind (p : Prog Resp ε α) (f : α → Prog Resp ε β) : Prog Resp ε β :=
  match p with
  | .ret a => f a
  | .raise e => .raise e
  | .call o next => .call o fun r => (next r).bind f

instance : Monad (Prog Resp ε) where
  pure := .ret
  bind := Prog.bind

@[simp] theorem pure_eq (a : α) : (pure a : Prog Resp ε α) = .ret a := rfl

@[simp] theorem ret_bind (a : α) (f : α → Prog Resp ε β) : (.ret a >>= f) = f a := rfl

@[simp] theorem raise_bind (e : ε) (f : α → Prog Resp ε β) :
    ((.raise e : Prog Resp ε α) >>= f) = .raise e := rfl

@[simp] theorem call_bind (o : Op) (next : Except ε (Resp o) → Prog Resp ε α)
    (f : α → Prog Resp ε β) : (.call o next >>= f) = .call o fun r => next r >>= f := rfl

/-- The result of a program, a raise included, as a value. -/
def attempt : Prog Resp ε α → Prog Resp ε (Except ε α)
  | .ret a => .ret (.ok a)
  | .raise e => .ret (.error e)
  | .call o next => .call o fun r => (next r).attempt

/-- A program that returns or raises what it is given. -/
def ofExcept : Except ε α → Prog Resp ε α
  | .ok a => .ret a
  | .error e => .raise e

@[simp] theorem ofExcept_ok (a : α) : (ofExcept (.ok a) : Prog Resp ε α) = .ret a := rfl

@[simp] theorem ofExcept_error (e : ε) : (ofExcept (.error e) : Prog Resp ε α) = .raise e := rfl

/-- Call one operation. -/
def perform (o : Op) : Prog Resp ε (Resp o) := .call o ofExcept

/-- Call one operation and look at its response. -/
@[simp] theorem perform_attempt_bind (o : Op) (f : Except ε (Resp o) → Prog Resp ε β) :
    ((perform o : Prog Resp ε (Resp o)).attempt >>= f) = .call o f := by
  show Prog.call o _ = _
  congr 1
  funext r
  cases r <;> rfl

/-- `try: p except: handler`. -/
def rescue (p : Prog Resp ε α) (handler : ε → Prog Resp ε α) : Prog Resp ε α := do
  match ← p.attempt with
  | .ok a => pure a
  | .error e => handler e

/-- `with suppress: p`. -/
def suppress (p : Prog Resp ε α) : Prog Resp ε Unit := do
  let _ ← p.attempt
  pure ()

/-- A program whose value nobody reads. -/
def void (p : Prog Resp ε α) : Prog Resp ε Unit := do
  let _ ← p
  pure ()

/-- Run a program if a condition holds. -/
def when (c : Prop) [Decidable c] (p : Prog Resp ε Unit) : Prog Resp ε Unit :=
  if c then p else pure ()

/-- Run a program on a value if there is one. -/
def forSome {ι : Type} (item : Option ι) (body : ι → Prog Resp ε Unit) : Prog Resp ε Unit :=
  match item with
  | none => pure ()
  | some item => body item

/-- Do one thing for each item of a list, in order. -/
def forEach {ι : Type} (items : List ι) (body : ι → Prog Resp ε Unit) : Prog Resp ε Unit :=
  match items with
  | [] => pure ()
  | item :: items => do
      body item
      forEach items body

/-- Each operation carried out by a program of its own. -/
def expand {Op' : Type} {Resp' : Op' → Type} (body : (o : Op) → Prog Resp' ε (Resp o)) :
    Prog Resp ε α → Prog Resp' ε α
  | .ret a => .ret a
  | .raise e => .raise e
  | .call o next => (body o).attempt >>= fun r => (next r).expand body

/-! ## Execution -/

variable {W : Type}

/-- Execute a program alone. -/
def run (exec : (o : Op) → W → Except ε (Resp o) × W) : Prog Resp ε α → W → Except ε α × W
  | .ret a, w => (.ok a, w)
  | .raise e, w => (.error e, w)
  | .call o next, w => (next (exec o w).1).run exec (exec o w).2

variable {exec : (o : Op) → W → Except ε (Resp o) × W}

@[simp] theorem run_ret (a : α) (w : W) :
    (.ret a : Prog Resp ε α).run exec w = (.ok a, w) := rfl

@[simp] theorem run_raise (e : ε) (w : W) :
    (.raise e : Prog Resp ε α).run exec w = (.error e, w) := rfl

@[simp] theorem run_call (o : Op) (next : Except ε (Resp o) → Prog Resp ε α) (w : W) :
    (Prog.call o next).run exec w = (next (exec o w).1).run exec (exec o w).2 := rfl

@[simp] theorem run_ofExcept (r : Except ε α) (w : W) :
    (ofExcept r : Prog Resp ε α).run exec w = (r, w) := by
  cases r <;> rfl

@[simp] theorem run_perform (o : Op) (w : W) :
    (perform o : Prog Resp ε (Resp o)).run exec w = exec o w := by
  rw [perform, run_call, run_ofExcept]

/-- A sequence runs its second part from where the first one ends. -/
theorem run_bind (p : Prog Resp ε α) (f : α → Prog Resp ε β) (w : W) :
    (p >>= f).run exec w =
      match p.run exec w with
      | (.ok a, w') => (f a).run exec w'
      | (.error e, w') => (.error e, w') := by
  induction p generalizing w with
  | ret a => rfl
  | raise e => rfl
  | call o next ih => exact ih _ _

theorem run_attempt (p : Prog Resp ε α) (w : W) :
    p.attempt.run exec w = (.ok (p.run exec w).1, (p.run exec w).2) := by
  induction p generalizing w with
  | ret a => rfl
  | raise e => rfl
  | call o next ih => exact ih _ _

theorem run_rescue (p : Prog Resp ε α) (handler : ε → Prog Resp ε α) (w : W) :
    (p.rescue handler).run exec w =
      match p.run exec w with
      | (.ok a, w') => (.ok a, w')
      | (.error e, w') => (handler e).run exec w' := by
  rw [rescue, run_bind, run_attempt]
  rcases p.run exec w with ⟨_ | _, w'⟩ <;> rfl

@[simp] theorem run_suppress (p : Prog Resp ε α) (w : W) :
    p.suppress.run exec w = (.ok (), (p.run exec w).2) := by
  rw [suppress, run_bind, run_attempt]
  rfl

/-! ## Where an execution may be cut -/

/-- The program was cut in `w'`: it has made some of its calls and no more. -/
def Reaches (exec : (o : Op) → W → Except ε (Resp o) × W) : Prog Resp ε α → W → W → Prop
  | .ret _, w, w' | .raise _, w, w' => w' = w
  | .call o next, w, w' => w' = w ∨ (next (exec o w).1).Reaches exec (exec o w).2 w'

@[simp] theorem reaches_ret (a : α) (w w' : W) :
    (.ret a : Prog Resp ε α).Reaches exec w w' ↔ w' = w := Iff.rfl

@[simp] theorem reaches_raise (e : ε) (w w' : W) :
    (.raise e : Prog Resp ε α).Reaches exec w w' ↔ w' = w := Iff.rfl

@[simp] theorem reaches_call (o : Op) (next : Except ε (Resp o) → Prog Resp ε α) (w w' : W) :
    (Prog.call o next).Reaches exec w w' ↔
      w' = w ∨ (next (exec o w).1).Reaches exec (exec o w).2 w' := Iff.rfl

@[simp] theorem reaches_ofExcept (r : Except ε α) (w w' : W) :
    (ofExcept r : Prog Resp ε α).Reaches exec w w' ↔ w' = w := by
  cases r <;> rfl

@[simp] theorem reaches_perform (o : Op) (w w' : W) :
    (perform o : Prog Resp ε (Resp o)).Reaches exec w w' ↔ w' = w ∨ w' = (exec o w).2 := by
  rw [perform, reaches_call, reaches_ofExcept]

/-- It may be cut before its first call. -/
theorem reaches_refl (p : Prog Resp ε α) (w : W) : p.Reaches exec w w := by
  cases p with
  | ret a => rfl
  | raise e => rfl
  | call o next => exact .inl rfl

/-- It may be cut after its last one. -/
theorem reaches_run (p : Prog Resp ε α) (w : W) : p.Reaches exec w (p.run exec w).2 := by
  induction p generalizing w with
  | ret a => rfl
  | raise e => rfl
  | call o next ih => exact .inr (ih _ _)

/-- A sequence is cut in its first part, or in its second after the first returned. -/
theorem reaches_bind (p : Prog Resp ε α) (f : α → Prog Resp ε β) (w w' : W) :
    (p >>= f).Reaches exec w w' ↔
      p.Reaches exec w w' ∨
        ∃ a w'', p.run exec w = (.ok a, w'') ∧ (f a).Reaches exec w'' w' := by
  induction p generalizing w with
  | ret a =>
      constructor
      · exact fun h => .inr ⟨a, w, rfl, h⟩
      · rintro (rfl | ⟨a', w'', heq, h⟩)
        · exact reaches_refl _ _
        · cases heq
          exact h
  | raise e =>
      constructor
      · exact .inl
      · rintro (h | ⟨_, _, heq, _⟩)
        · exact h
        · cases heq
  | call o next ih =>
      rw [call_bind, reaches_call, reaches_call, run_call, ih, or_assoc]

@[simp] theorem reaches_attempt (p : Prog Resp ε α) (w w' : W) :
    p.attempt.Reaches exec w w' ↔ p.Reaches exec w w' := by
  induction p generalizing w with
  | ret a => rfl
  | raise e => rfl
  | call o next ih => exact or_congr Iff.rfl (ih _ _)

/-- The world after so many of its calls. -/
def cut (exec : (o : Op) → W → Except ε (Resp o) × W) : Nat → Prog Resp ε α → W → W
  | n + 1, .call o next, w => (next (exec o w).1).cut exec n (exec o w).2
  | _, _, w => w

theorem reaches_cut (n : Nat) (p : Prog Resp ε α) (w : W) :
    p.Reaches exec w (p.cut exec n w) := by
  induction n generalizing p w with
  | zero => exact reaches_refl p w
  | succ n ih =>
      cases p with
      | ret a => rfl
      | raise e => rfl
      | call o next => exact .inr (ih _ _)

/-! ## What an execution asks for -/

/-- Every operation that this execution calls is in `P`. -/
def Asks (P : Op → Prop) (exec : (o : Op) → W → Except ε (Resp o) × W) : Prog Resp ε α → W → Prop
  | .ret _, _ | .raise _, _ => True
  | .call o next, w => P o ∧ (next (exec o w).1).Asks P exec (exec o w).2

section Asks

variable {P : Op → Prop}

@[simp] theorem asks_ret (a : α) (w : W) : (.ret a : Prog Resp ε α).Asks P exec w := trivial

@[simp] theorem asks_raise (e : ε) (w : W) : (.raise e : Prog Resp ε α).Asks P exec w := trivial

@[simp] theorem asks_pure (a : α) (w : W) : (pure a : Prog Resp ε α).Asks P exec w := trivial

@[simp] theorem asks_perform (o : Op) (w : W) :
    (perform o : Prog Resp ε (Resp o)).Asks P exec w ↔ P o := by
  rw [perform, Asks]
  cases (exec o w).1 <;> simp

/-- A sequence asks for what its first part asks for, and for more if that returned. -/
theorem asks_bind (p : Prog Resp ε α) (f : α → Prog Resp ε β) (w : W) :
    (p >>= f).Asks P exec w ↔
      p.Asks P exec w ∧
        match p.run exec w with
        | (.ok a, w') => (f a).Asks P exec w'
        | (.error _, _) => True := by
  induction p generalizing w with
  | ret a => simp [Asks]
  | raise e => simp [Asks]
  | call o next ih => rw [call_bind, Asks, Asks, run_call, ih, and_assoc]

theorem asks_attempt (p : Prog Resp ε α) (w : W) :
    p.attempt.Asks P exec w ↔ p.Asks P exec w := by
  induction p generalizing w with
  | ret a => rfl
  | raise e => rfl
  | call o next ih => exact and_congr Iff.rfl (ih _ _)

theorem asks_rescue (p : Prog Resp ε α) (handler : ε → Prog Resp ε α) (w : W) :
    (p.rescue handler).Asks P exec w ↔
      p.Asks P exec w ∧
        match p.run exec w with
        | (.ok _, _) => True
        | (.error e, w') => (handler e).Asks P exec w' := by
  rw [rescue, asks_bind, asks_attempt, run_attempt]
  rcases p.run exec w with ⟨_ | _, w'⟩ <;> rfl

end Asks

/-! ## The operations a program calls -/

/-- Whatever the responses, every operation the program calls is in `P`. -/
def Calls (P : Op → Prop) : Prog Resp ε α → Prop
  | .ret _ | .raise _ => True
  | .call o next => P o ∧ ∀ r, (next r).Calls P

section Calls

variable {P P' : Op → Prop}

@[simp] theorem calls_ret (a : α) : (.ret a : Prog Resp ε α).Calls P := trivial

@[simp] theorem calls_raise (e : ε) : (.raise e : Prog Resp ε α).Calls P := trivial

@[simp] theorem calls_pure (a : α) : (pure a : Prog Resp ε α).Calls P := trivial

@[simp] theorem calls_ofExcept (r : Except ε α) : (ofExcept r : Prog Resp ε α).Calls P := by
  cases r <;> trivial

@[simp] theorem calls_perform (o : Op) : (perform o : Prog Resp ε (Resp o)).Calls P ↔ P o := by
  simp [perform, Calls]

theorem Calls.call {o : Op} (h : P o) : (perform o : Prog Resp ε (Resp o)).Calls P :=
  (calls_perform o).mpr h

theorem Calls.when {c : Prop} [Decidable c] {p : Prog Resp ε Unit} (hp : c → p.Calls P) :
    (when c p).Calls P := by
  unfold Prog.when
  split
  · exact hp ‹c›
  · trivial

theorem Calls.forSome {ι : Type} {item : Option ι} {body : ι → Prog Resp ε Unit}
    (hbody : ∀ i ∈ item, (body i).Calls P) : (forSome item body).Calls P := by
  cases item with
  | none => trivial
  | some i => exact hbody i rfl

theorem Calls.bind {p : Prog Resp ε α} {f : α → Prog Resp ε β} (hp : p.Calls P)
    (hf : ∀ a, (f a).Calls P) : (p >>= f).Calls P := by
  induction p with
  | ret a => exact hf a
  | raise e => trivial
  | call o next ih => exact ⟨hp.1, fun r => ih r (hp.2 r)⟩

@[simp] theorem calls_attempt {p : Prog Resp ε α} : p.attempt.Calls P ↔ p.Calls P := by
  induction p with
  | ret a => rfl
  | raise e => rfl
  | call o next ih => exact and_congr Iff.rfl (forall_congr' fun r => ih r)

theorem Calls.rescue {p : Prog Resp ε α} {handler : ε → Prog Resp ε α} (hp : p.Calls P)
    (hh : ∀ e, (handler e).Calls P) : (p.rescue handler).Calls P := by
  refine .bind (calls_attempt.mpr hp) fun r => ?_
  cases r with
  | ok a => trivial
  | error e => exact hh e

theorem Calls.suppress {p : Prog Resp ε α} (hp : p.Calls P) : p.suppress.Calls P :=
  .bind (calls_attempt.mpr hp) fun _ => trivial

theorem Calls.void {p : Prog Resp ε α} (hp : p.Calls P) : p.void.Calls P :=
  .bind hp fun _ => trivial

theorem Calls.forEach {ι : Type} {items : List ι} {body : ι → Prog Resp ε Unit}
    (hbody : ∀ item ∈ items, (body item).Calls P) : (forEach items body).Calls P := by
  induction items with
  | nil => trivial
  | cons item items ih =>
      exact .bind (hbody item (List.mem_cons_self ..)) fun _ =>
        ih fun i hi => hbody i (List.mem_cons_of_mem _ hi)

theorem Calls.mono (hP : ∀ o, P o → P' o) {p : Prog Resp ε α} (hp : p.Calls P) :
    p.Calls P' := by
  induction p with
  | ret a => trivial
  | raise e => trivial
  | call o next ih => exact ⟨hP o hp.1, fun r => ih r (hp.2 r)⟩

theorem Calls.all (hP : ∀ o, P o) (p : Prog Resp ε α) : p.Calls P := by
  induction p with
  | ret a => trivial
  | raise e => trivial
  | call o next ih => exact ⟨hP o, ih⟩

end Calls

/-! ## Predicate transformers -/

variable {G : Type}

/-- For each operation, what must hold of the ghost state before it for a
statement about its response and the ghost state after it. -/
def Rule (Resp : Op → Type) (ε G : Type) : Type :=
  (o : Op) → (Except ε (Resp o) → G → Prop) → G → Prop

/-- A rule that follows implications. -/
def Rule.Mono (rule : Rule Resp ε G) : Prop :=
  ∀ o Q Q' g, (∀ r g', Q r g' → Q' r g') → rule o Q g → rule o Q' g

/-- The weakest precondition of a program under a rule. -/
def wp (rule : Rule Resp ε G) : Prog Resp ε α → (Except ε α → G → Prop) → G → Prop
  | .ret a, Q, g => Q (.ok a) g
  | .raise e, Q, g => Q (.error e) g
  | .call o next, Q, g => rule o (fun r g' => (next r).wp rule Q g') g

variable {rule : Rule Resp ε G} {Q Q' : Except ε α → G → Prop} {g : G}

@[simp] theorem wp_ret (a : α) : (.ret a : Prog Resp ε α).wp rule Q g ↔ Q (.ok a) g := Iff.rfl

@[simp] theorem wp_raise (e : ε) : (.raise e : Prog Resp ε α).wp rule Q g ↔ Q (.error e) g :=
  Iff.rfl

@[simp] theorem wp_call (o : Op) (next : Except ε (Resp o) → Prog Resp ε α) :
    (Prog.call o next).wp rule Q g ↔ rule o (fun r g' => (next r).wp rule Q g') g := Iff.rfl

@[simp] theorem wp_pure (a : α) : (pure a : Prog Resp ε α).wp rule Q g ↔ Q (.ok a) g := Iff.rfl

@[simp] theorem wp_ofExcept (r : Except ε α) :
    (ofExcept r : Prog Resp ε α).wp rule Q g ↔ Q r g := by
  cases r <;> rfl

@[simp] theorem wp_perform (o : Op) {Q : Except ε (Resp o) → G → Prop} :
    (perform o : Prog Resp ε (Resp o)).wp rule Q g ↔ rule o Q g := by
  simp [perform]

/-- What a sequence needs: the first part, up to what the second part needs. -/
@[simp] theorem wp_bind (p : Prog Resp ε α) (f : α → Prog Resp ε β)
    {Q : Except ε β → G → Prop} :
    (p >>= f).wp rule Q g ↔
      p.wp rule (fun r g' => match r with
        | .ok a => (f a).wp rule Q g'
        | .error e => Q (.error e) g') g := by
  induction p generalizing g with
  | ret a => rfl
  | raise e => rfl
  | call o next ih => simp only [call_bind, wp_call, ih]

@[simp] theorem wp_attempt (p : Prog Resp ε α) {Q : Except ε (Except ε α) → G → Prop} :
    p.attempt.wp rule Q g ↔ p.wp rule (fun r g' => Q (.ok r) g') g := by
  induction p generalizing g with
  | ret a => rfl
  | raise e => rfl
  | call o next ih => simp only [attempt, wp_call, ih]

@[simp] theorem wp_rescue (p : Prog Resp ε α) (handler : ε → Prog Resp ε α) :
    (p.rescue handler).wp rule Q g ↔
      p.wp rule (fun r g' => match r with
        | .ok a => Q (.ok a) g'
        | .error e => (handler e).wp rule Q g') g := by
  rw [rescue, wp_bind, wp_attempt]
  apply Iff.of_eq
  congr 1
  funext r g'
  cases r <;> rfl

@[simp] theorem wp_suppress (p : Prog Resp ε α) {Q : Except ε Unit → G → Prop} :
    p.suppress.wp rule Q g ↔ p.wp rule (fun _ g' => Q (.ok ()) g') g := by
  simp [suppress]

@[simp] theorem wp_void (p : Prog Resp ε α) {Q : Except ε Unit → G → Prop} :
    p.void.wp rule Q g ↔ p.wp rule (fun r g' => Q (r.map fun _ => ()) g') g := by
  rw [void, wp_bind]
  apply Iff.of_eq
  congr 1
  funext r g'
  cases r <;> rfl

theorem wp_when {c : Prop} [Decidable c] {p : Prog Resp ε Unit}
    {Q : Except ε Unit → G → Prop} :
    (when c p).wp rule Q g ↔ (c → p.wp rule Q g) ∧ (¬ c → Q (.ok ()) g) := by
  unfold when
  split <;> simp_all

/-- The rule of operations that are carried out by programs. -/
def Rule.expand {Op' : Type} {Resp' : Op' → Type} (rule : Rule Resp' ε G)
    (body : (o : Op) → Prog Resp' ε (Resp o)) : Rule Resp ε G :=
  fun o R g => (body o).wp rule R g

/-- What a program needs whose operations are carried out by programs. -/
theorem wp_expand {Op' : Type} {Resp' : Op' → Type} {rule : Rule Resp' ε G}
    (body : (o : Op) → Prog Resp' ε (Resp o)) (p : Prog Resp ε α) :
    (p.expand body).wp rule Q g ↔ p.wp (rule.expand body) Q g := by
  induction p generalizing g with
  | ret a => rfl
  | raise e => rfl
  | call o next ih =>
      simp only [expand, wp_bind, wp_attempt, ih]
      rfl

theorem wp_mono (hrule : rule.Mono) (hQ : ∀ r g', Q r g' → Q' r g') {p : Prog Resp ε α}
    (h : p.wp rule Q g) : p.wp rule Q' g := by
  induction p generalizing g with
  | ret a => exact hQ _ _ h
  | raise e => exact hQ _ _ h
  | call o next ih => exact hrule o _ _ g (fun r g' => ih r) h

/-- A program that calls operations of a kind each of which keeps a statement
keeps it. -/
theorem Calls.wp {P : Op → Prop} {p : Prog Resp ε α} (hp : p.Calls P) {K : G → Prop}
    (hrule : ∀ o, P o → ∀ R g, K g → (∀ r g', K g' → R r g') → rule o R g)
    (hQ : ∀ r g', K g' → Q r g') (hg : K g) : p.wp rule Q g := by
  induction p generalizing g with
  | ret a => exact hQ _ g hg
  | raise e => exact hQ _ g hg
  | call o next ih => exact hrule o hp.1 _ g hg fun r g' hg' => ih r (hp.2 r) hg'

/-- What a loop needs: a statement each pass keeps. -/
theorem wp_forEach (hrule : rule.Mono) {ι : Type} {items : List ι}
    {body : ι → Prog Resp ε Unit} {J : G → Prop} {Q : Except ε Unit → G → Prop}
    (hbody : ∀ item ∈ items, ∀ g, J g → (body item).wp rule (fun r g' => match r with
      | .ok _ => J g'
      | .error e => Q (.error e) g') g)
    (hQ : ∀ g, J g → Q (.ok ()) g) (hg : J g) : (forEach items body).wp rule Q g := by
  induction items generalizing g with
  | nil => exact hQ g hg
  | cons item items ih =>
      rw [forEach, wp_bind]
      refine wp_mono hrule (fun r g' hr => ?_) (hbody item (List.mem_cons_self ..) g hg)
      cases r with
      | error e => exact hr
      | ok u => exact ih (fun i hi => hbody i (List.mem_cons_of_mem _ hi)) hr

/-! ## Programs that run alone -/

/-- The rule of a handler: a program that runs alone is executed by it. -/
def Rule.ofExec (exec : (o : Op) → G → Except ε (Resp o) × G) : Rule Resp ε G :=
  fun o Q g => Q (exec o g).1 (exec o g).2

theorem Rule.ofExec_mono (exec : (o : Op) → G → Except ε (Resp o) × G) :
    (Rule.ofExec exec).Mono := fun _ _ _ _ h hQ => h _ _ hQ

/-- What holds at the end of a run. -/
theorem wp_ofExec {exec : (o : Op) → G → Except ε (Resp o) × G} {p : Prog Resp ε α} :
    p.wp (Rule.ofExec exec) Q g ↔ Q (p.run exec g).1 (p.run exec g).2 := by
  induction p generalizing g with
  | ret a => rfl
  | raise e => rfl
  | call o next ih => exact ih _

/-- A sequence whose first part keeps a statement that its second part starts from. -/
theorem Calls.wp_bind {P : Op → Prop} {p : Prog Resp ε α} {f : α → Prog Resp ε β}
    {Q : Except ε β → G → Prop} (hp : p.Calls P) {K : G → Prop}
    (hrule : ∀ o, P o → ∀ R g, K g → (∀ r g', K g' → R r g') → rule o R g)
    (hf : ∀ a g', K g' → (f a).wp rule Q g') (herror : ∀ e g', K g' → Q (.error e) g')
    (hg : K g) : (p >>= f).wp rule Q g := by
  rw [Prog.wp_bind]
  refine hp.wp hrule (fun r g' hg' => ?_) hg
  cases r with
  | ok a => exact hf a g' hg'
  | error e => exact herror e g' hg'

end Prog

end Program

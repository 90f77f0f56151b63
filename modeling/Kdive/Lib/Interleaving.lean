import Mathlib.Data.List.Basic
import Kdive.Lib.Program
import Kdive.Lib.Runs

/-!
# Interleavings of programs

A pool is a world and a list of threads.  Each thread has a tag, which says what
it was started for, and the program it has left to run.  A step picks a thread
and performs its next operation as one atomic action on the world.  So a schedule
is a list of thread indices, and the runs of a pool are the runs of
`Runs.run` over it.

A `Machine` says how an operation acts, when it can act (a lock is held or not),
which program a tag stands for, and which threads an operation starts.

*Rule.*  A `Discipline` collects what a proof by program transformers needs: an
invariant of the world, a rule for the operations of a thread, what a thread
knows of the world, and what holds at its end.  `Sound` says that the operations
which meet a condition keep to the discipline, and `Sound.sat_run` and
`Sound.along` carry it along every schedule whose steps meet the condition.

*Apartness.*  What only one thread may have at a time, such as a name it has drawn,
is a relation `apart` on ghost states.  It holds between any two threads of a pool.

*Duties.*  Some facts about the world hold up to what a thread has yet to do.
`due` says what is missing and `owns` which thread answers for it.  While a
thread answers for every duty that is due, a pool whose threads own nothing at
their end leaves nothing due (`Discipline.Sat.settled`).
-/

namespace Interleaving

open Program

variable {Op : Type} {Resp : Op → Type} {ε W Tag G X : Type}

/-- How the operations of a pool act. -/
structure Machine {Op : Type} (Resp : Op → Type) (ε W Tag : Type) where
  /-- The action of an operation. -/
  exec : (o : Op) → W → Except ε (Resp o) × W
  /-- The operation can act now. -/
  ready : Op → W → Bool
  /-- The program a tag stands for. -/
  body : Tag → Prog Resp ε Unit
  /-- The threads an operation starts. -/
  spawns : (o : Op) → Except ε (Resp o) → List Tag

/-- A thread. -/
structure Thread {Op : Type} (Resp : Op → Type) (ε Tag : Type) where
  /-- What it was started for. -/
  tag : Tag
  /-- What it has left to run. -/
  rest : Prog Resp ε Unit

/-- A thread that has returned or raised. -/
def Thread.Done (t : Thread Resp ε Tag) : Prop :=
  match t.rest with
  | .ret _ | .raise _ => True
  | .call .. => False

instance decidableDone : (t : Thread Resp ε Tag) → Decidable t.Done
  | ⟨_, .ret _⟩ => .isTrue trivial
  | ⟨_, .raise _⟩ => .isTrue trivial
  | ⟨_, .call ..⟩ => .isFalse id

/-- A world and the threads that act on it. -/
structure Pool {Op : Type} (Resp : Op → Type) (ε W Tag : Type) where
  /-- The world. -/
  world : W
  /-- The threads, oldest first. -/
  threads : List (Thread Resp ε Tag)

namespace Machine

variable (M : Machine Resp ε W Tag)

/-- A thread at its start. -/
def start (tag : Tag) : Thread Resp ε Tag := ⟨tag, M.body tag⟩

/-- A pool at its start. -/
def pool (w : W) (tags : List Tag) : Pool Resp ε W Tag := ⟨w, tags.map M.start⟩

/-- What a thread would perform next. -/
def next? (P : Pool Resp ε W Tag) (i : Nat) : Option (Tag × Op) :=
  match P.threads[i]? with
  | some ⟨tag, .call o _⟩ => if M.ready o P.world then some (tag, o) else none
  | _ => none

/-- Thread `i` performs its next operation, if it has one that can act. -/
def step (i : Nat) (P : Pool Resp ε W Tag) : Pool Resp ε W Tag :=
  match P.threads[i]? with
  | some ⟨tag, .call o next⟩ =>
      if M.ready o P.world then
        { world := (M.exec o P.world).2
          threads := P.threads.set i ⟨tag, next (M.exec o P.world).1⟩ ++
            (M.spawns o (M.exec o P.world).1).map M.start }
      else P
  | _ => P

/-- Run a schedule. -/
def run (schedule : List Nat) (P : Pool Resp ε W Tag) : Pool Resp ε W Tag :=
  Runs.run M.step schedule P

/-- Every step of the schedule meets a condition on the thread, the operation and
the world before it. -/
def Along (C : Tag → Op → W → Prop) (schedule : List Nat) (P : Pool Resp ε W Tag) : Prop :=
  Runs.Along M.step (fun i P => ∀ tag o, M.next? P i = some (tag, o) → C tag o P.world) schedule P

/-- A condition that can be checked at one step can be checked along a schedule. -/
instance decidableAlong {C : Tag → Op → W → Prop} [∀ tag o w, Decidable (C tag o w)]
    (schedule : List Nat) (P : Pool Resp ε W Tag) : Decidable (M.Along C schedule P) :=
  have : ∀ i P, Decidable (∀ tag o, M.next? P i = some (tag, o) → C tag o P.world) := fun i P =>
    match h : M.next? P i with
    | none => .isTrue fun _ _ heq => by cases heq
    | some (tag, o) => decidable_of_iff (C tag o P.world)
        ⟨fun hC _ _ heq => by cases heq; exact hC, fun hC => hC tag o rfl⟩
  Runs.decidableAlong schedule P

theorem Along.mono {M : Machine Resp ε W Tag} {C D : Tag → Op → W → Prop}
    (hCD : ∀ tag o w, C tag o w → D tag o w) {schedule : List Nat} {P : Pool Resp ε W Tag}
    (h : M.Along C schedule P) : M.Along D schedule P :=
  Runs.Along.mono (fun _ _ hC tag o hnext => hCD tag o _ (hC tag o hnext)) h

theorem Along.and {M : Machine Resp ε W Tag} {C D : Tag → Op → W → Prop} {schedule : List Nat}
    {P : Pool Resp ε W Tag} (hC : M.Along C schedule P) (hD : M.Along D schedule P) :
    M.Along (fun tag o w => C tag o w ∧ D tag o w) schedule P :=
  Runs.Along.mono (fun _ _ h tag o hnext => ⟨h.1 tag o hnext, h.2 tag o hnext⟩)
    (Runs.Along.and hC hD)

theorem run_append (s₁ s₂ : List Nat) (P : Pool Resp ε W Tag) :
    M.run (s₁ ++ s₂) P = M.run s₂ (M.run s₁ P) := Runs.run_append s₁ s₂ P

theorem along_append {C : Tag → Op → W → Prop} (s₁ s₂ : List Nat) (P : Pool Resp ε W Tag) :
    M.Along C (s₁ ++ s₂) P ↔ M.Along C s₁ P ∧ M.Along C s₂ (M.run s₁ P) :=
  Runs.along_append s₁ s₂ P

/-- A step either does nothing or performs the operation of one thread. -/
theorem step_cases (i : Nat) (P : Pool Resp ε W Tag) :
    (M.next? P i = none ∧ M.step i P = P) ∨
      ∃ tag o next, P.threads[i]? = some ⟨tag, .call o next⟩ ∧ M.ready o P.world = true ∧
        M.next? P i = some (tag, o) ∧
        M.step i P =
          { world := (M.exec o P.world).2
            threads := P.threads.set i ⟨tag, next (M.exec o P.world).1⟩ ++
              (M.spawns o (M.exec o P.world).1).map M.start } := by
  unfold next? step
  rcases P.threads[i]? with _ | ⟨tag, _ | _ | ⟨o, next⟩⟩
  · exact .inl ⟨rfl, rfl⟩
  · exact .inl ⟨rfl, rfl⟩
  · exact .inl ⟨rfl, rfl⟩
  · by_cases hready : M.ready o P.world = true
    · exact .inr ⟨tag, o, next, rfl, hready, by simp [hready], by simp [hready]⟩
    · exact .inl ⟨by simp [hready], by simp [hready]⟩

/-- A step of one thread leaves the others where they are. -/
theorem step_other {i j : Nat} {P : Pool Resp ε W Tag} {t : Thread Resp ε Tag} (hne : j ≠ i)
    (hi : P.threads[i]? = some t) : (M.step j P).threads[i]? = some t := by
  cases M.step_cases j P with
  | inl hidle => rw [hidle.2]; exact hi
  | inr hmoved =>
      obtain ⟨tag, o, next, _, _, _, hstep⟩ := hmoved
      have hlt : i < P.threads.length := (List.getElem?_eq_some_iff.mp hi).1
      rw [hstep, List.getElem?_append_left (by simpa using hlt), List.getElem?_set_ne hne]
      exact hi

/-- What each operation that meets a condition keeps of the world, a schedule keeps. -/
theorem run_inv {I : W → Prop} {C : Tag → Op → W → Prop}
    (hexec : ∀ tag o w, I w → C tag o w → I (M.exec o w).2) {schedule : List Nat}
    {P : Pool Resp ε W Tag} (hI : I P.world) (hC : M.Along C schedule P) :
    I (M.run schedule P).world := by
  refine Runs.run_inv (I := fun P => I P.world) (fun i P hI hC => ?_) hI hC
  cases M.step_cases i P with
  | inl hidle => rw [hidle.2]; exact hI
  | inr hmoved =>
      obtain ⟨tag, o, next, _, _, hnext, hstep⟩ := hmoved
      rw [hstep]
      exact hexec tag o _ hI (hC tag o hnext)

/-- A thread after a step is one of the others, the one that moved, or new. -/
theorem mem_step {P : Pool Resp ε W Tag} {i : Nat} {tag : Tag} {o : Op}
    {r : Except ε (Resp o)} {p : Prog Resp ε Unit} {t : Thread Resp ε Tag}
    (ht : t ∈ P.threads.set i ⟨tag, p⟩ ++ (M.spawns o r).map M.start) :
    t ∈ P.threads ∨ t = ⟨tag, p⟩ ∨ ∃ tag' ∈ M.spawns o r, t = M.start tag' := by
  rcases List.mem_append.mp ht with ht | ht
  · rcases List.mem_or_eq_of_mem_set ht with ht | rfl
    · exact .inl ht
    · exact .inr (.inl rfl)
  · obtain ⟨tag', htag', rfl⟩ := List.mem_map.mp ht
    exact .inr (.inr ⟨tag', htag', rfl⟩)

end Machine

/-! ## Following one thread -/

namespace Machine

variable {M : Machine Resp ε W Tag}

/-- The rule of a thread that knows `K` of a world in which others act: it may use what
`K` says of the world it finds, and says what it leaves. -/
def knowing (M : Machine Resp ε W Tag) (K : W → G → Prop) : Prog.Rule Resp ε G :=
  fun o Q g => ∀ w, K w g → ∃ g', K (M.exec o w).2 g' ∧ Q (M.exec o w).1 g'

theorem knowing_mono (K : W → G → Prop) : (M.knowing K).Mono := by
  intro o Q Q' g hQ h w hw
  obtain ⟨g', hk, hq⟩ := h w hw
  exact ⟨g', hk, hQ _ _ hq⟩

/-- A thread keeps to its rule along a schedule whose steps keep what it knows. -/
theorem follow {K : W → G → Prop} {post : Except ε Unit → G → Prop} {i : Nat}
    {schedule : List Nat} {P : Pool Resp ε W Tag} {t : Thread Resp ε Tag} {g : G}
    (hothers : M.Along (fun _ o w => ∀ g, K w g → K (M.exec o w).2 g) schedule P)
    (hi : P.threads[i]? = some t) (hk : K P.world g) (hwp : t.rest.wp (M.knowing K) post g) :
    ∃ rest g', (M.run schedule P).threads[i]? = some ⟨t.tag, rest⟩ ∧
      K (M.run schedule P).world g' ∧ rest.wp (M.knowing K) post g' := by
  induction schedule generalizing P t g with
  | nil => exact ⟨t.rest, g, hi, hk, hwp⟩
  | cons j schedule ih =>
      obtain ⟨hstep, hrest⟩ := hothers
      cases M.step_cases j P with
      | inl hidle =>
          rw [hidle.2] at hrest
          obtain ⟨rest, g', hend⟩ := ih hrest hi hk hwp
          refine ⟨rest, g', ?_⟩
          rwa [run, Runs.run_cons, hidle.2]
      | inr hmoved =>
          obtain ⟨tag, o, next, hj, _, hnext, heq⟩ := hmoved
          by_cases hji : j = i
          · -- its own step
            subst hji
            rw [hi, Option.some.injEq] at hj
            subst hj
            obtain ⟨g₁, hk₁, hwp₁⟩ := hwp P.world hk
            have hlt : j < P.threads.length := (List.getElem?_eq_some_iff.mp hi).1
            have hi₁ : (M.step j P).threads[j]? =
                some ⟨tag, next (M.exec o P.world).1⟩ := by
              rw [heq, List.getElem?_append_left (by simpa using hlt),
                List.getElem?_set_self hlt]
            have hk' : K (M.step j P).world g₁ := by rwa [heq]
            have hend := ih hrest hi₁ hk' hwp₁
            exact hend
          · have hk' : K (M.step j P).world g := by
              rw [heq]
              exact hstep tag o hnext g hk
            exact ih hrest (M.step_other hji hi) hk' hwp

end Machine

/-! ## Proofs by program transformers -/

/-- What a proof says about the threads of a pool. -/
structure Discipline {Op : Type} (Resp : Op → Type) (ε W Tag G X : Type) where
  /-- What an operation of a thread needs and teaches. -/
  rule : Tag → Prog.Rule Resp ε G
  /-- What holds at the end of a thread. -/
  post : Tag → Except ε Unit → G → Prop
  /-- What holds of the world. -/
  inv : W → Prop
  /-- The ghost state of a thread is true of the world. -/
  knows : Tag → W → G → Prop
  /-- The ghost state a thread starts with. -/
  start : Tag → G
  /-- What the world has open. -/
  due : W → X → Prop
  /-- A thread in this ghost state answers for it. -/
  owns : G → X → Prop
  /-- Two threads can be in these ghost states at once. -/
  apart : G → G → Prop := fun _ _ => True

namespace Discipline

variable (D : Discipline Resp ε W Tag G X)

/-- The ghost state of a thread is true and its remaining program keeps to its
rule. -/
structure Keeps (w : W) (t : Thread Resp ε Tag) (g : G) : Prop where
  knows : D.knows t.tag w g
  wp : t.rest.wp (D.rule t.tag) (D.post t.tag) g

/-- With these ghost states every thread keeps to its rule, some thread answers for
each duty, and the threads are apart. -/
structure Ghosts (P : Pool Resp ε W Tag) (ghost : Nat → G) : Prop where
  keeps : ∀ i t, P.threads[i]? = some t → D.Keeps P.world t (ghost i)
  owned : ∀ x, D.due P.world x → ∃ i t, P.threads[i]? = some t ∧ D.owns (ghost i) x
  apart : ∀ i j, i < P.threads.length → j < P.threads.length → i ≠ j →
    D.apart (ghost i) (ghost j)

/-- The world keeps the invariant and the threads keep to their rules. -/
def Sat (P : Pool Resp ε W Tag) : Prop := D.inv P.world ∧ ∃ ghost, D.Ghosts P ghost

/-- A thread whose rule allows its next operation performs it in a world that
meets the invariant and the condition. -/
structure Allows (M : Machine Resp ε W Tag) (C : Tag → Op → W → Prop) (tag : Tag) (o : Op)
    (w : W) (g : G) (Q : Except ε (Resp o) → G → Prop) : Prop where
  inv : D.inv w
  cond : C tag o w
  ready : M.ready o w = true
  knows : D.knows tag w g
  rule : D.rule tag o Q g

/-- What is due after a step that takes a thread from `g` to `g'` is owned by the
thread, or was due before and the thread does not let go of it. -/
def Hands (w w' : W) (g g' : G) : Prop :=
  ∀ x, D.due w' x → D.owns g' x ∨ D.due w x ∧ ¬ D.owns g x

/-- A thread that goes from `g` to `g'` in `w` stays apart from the others. -/
def StaysApart (w : W) (g g' : G) : Prop :=
  ∀ tag other, D.knows tag w other → D.apart g other → D.apart g' other

end Discipline

/-- What carries a discipline along a step: an allowed operation keeps the
invariant, teaches the thread that performs it what its rule says, and leaves
what the other threads know true. -/
structure Sound (M : Machine Resp ε W Tag) (D : Discipline Resp ε W Tag G X)
    (C : Tag → Op → W → Prop) : Prop where
  /-- The invariant is kept. -/
  inv : ∀ {tag o w g Q}, D.Allows M C tag o w g Q → D.inv (M.exec o w).2
  /-- The thread goes on. -/
  learn : ∀ {tag o w g Q}, D.Allows M C tag o w g Q →
    ∃ g', D.knows tag (M.exec o w).2 g' ∧ Q (M.exec o w).1 g' ∧ D.Hands w (M.exec o w).2 g g' ∧
      D.StaysApart w g g'
  /-- The other threads still know what they knew. -/
  frame : ∀ {tag o w g Q}, D.Allows M C tag o w g Q →
    ∀ {tag' g'}, D.knows tag' w g' → D.apart g g' → D.knows tag' (M.exec o w).2 g'
  /-- A new thread keeps to its rule. -/
  spawn : ∀ {tag o w g Q}, D.Allows M C tag o w g Q →
    ∀ tag' ∈ M.spawns o (M.exec o w).1, D.Keeps (M.exec o w).2 (M.start tag') (D.start tag')
  /-- A new thread is apart from the one that starts it and from all that one is apart
  from, and what it starts with is true already. -/
  fresh : ∀ {tag o w g Q}, D.Allows M C tag o w g Q → ∀ tag' ∈ M.spawns o (M.exec o w).1,
    (∀ other, D.apart g other → D.apart (D.start tag') other) ∧ D.apart g (D.start tag') ∧
      D.knows tag' w (D.start tag')
  symm : ∀ g g', D.apart g g' → D.apart g' g

namespace Sound

variable {M : Machine Resp ε W Tag} {D : Discipline Resp ε W Tag G X} {C : Tag → Op → W → Prop}

theorem sat_step (hM : Sound M D C) (i : Nat) {P : Pool Resp ε W Tag} (hP : D.Sat P)
    (hC : ∀ tag o, M.next? P i = some (tag, o) → C tag o P.world) : D.Sat (M.step i P) := by
  cases M.step_cases i P with
  | inl hidle =>
      rw [hidle.2]
      exact hP
  | inr hmoved =>
      obtain ⟨tag, o, next, hi, hready, hnext, hstep⟩ := hmoved
      obtain ⟨hinv, ghost, hghost⟩ := hP
      have hkeeps := hghost.keeps i _ hi
      have hallows : D.Allows M C tag o P.world (ghost i) _ :=
        ⟨hinv, hC tag o hnext, hready, hkeeps.knows, hkeeps.wp⟩
      obtain ⟨g', hknows', hwp', hhands, hapart⟩ := hM.learn hallows
      have hlt : i < P.threads.length := (List.getElem?_eq_some_iff.mp hi).1
      rw [hstep]
      refine ⟨hM.inv hallows, fun j =>
        if j = i then g' else if j < P.threads.length then ghost j
        else ((M.spawns o (M.exec o P.world).1)[j - P.threads.length]?).elim g' D.start, ?_, ?_, ?_⟩
      · intro j t hj
        rw [List.getElem?_append, List.length_set] at hj
        by_cases hji : j = i
        · -- the thread that moved
          subst hji
          rw [if_pos hlt, List.getElem?_set_self hlt, Option.some.injEq] at hj
          subst hj
          rw [if_pos rfl]
          exact ⟨hknows', hwp'⟩
        · rw [if_neg hji]
          by_cases hjn : j < P.threads.length
          · -- a thread that did not move
            rw [if_pos hjn, List.getElem?_set_ne (Ne.symm hji)] at hj
            rw [if_pos hjn]
            have hold := hghost.keeps j t hj
            exact ⟨hM.frame hallows hold.knows (hghost.apart i j hlt hjn (Ne.symm hji)), hold.wp⟩
          · -- a new thread
            rw [if_neg hjn, List.getElem?_map] at hj
            rw [if_neg hjn]
            obtain ⟨tag', htag', rfl⟩ := Option.map_eq_some_iff.mp hj
            rw [htag']
            exact hM.spawn hallows tag' (List.mem_of_getElem? htag')
      · intro x hx
        cases hhands x hx with
        | inl howns =>
            refine ⟨i, ⟨tag, next (M.exec o P.world).1⟩, ?_, by rwa [if_pos rfl]⟩
            rw [List.getElem?_append_left (by simpa using hlt), List.getElem?_set_self hlt]
        | inr hkept =>
            obtain ⟨j, t, hj, howns⟩ := hghost.owned x hkept.1
            have hji : j ≠ i := fun heq => hkept.2 (heq ▸ howns)
            have hjn : j < P.threads.length := (List.getElem?_eq_some_iff.mp hj).1
            refine ⟨j, t, ?_, by rwa [if_neg hji, if_pos hjn]⟩
            rwa [List.getElem?_append_left (by simpa using hjn), List.getElem?_set_ne (Ne.symm hji)]
      · -- an old thread stays apart from the one that moved, a new one is from all
        have moved : ∀ j, j < P.threads.length → j ≠ i → D.apart g' (ghost j) := fun j hjn hji =>
          hapart _ _ (hghost.keeps j _ (List.getElem?_eq_getElem hjn)).knows
            (hghost.apart i j hlt hjn (Ne.symm hji))
        have new : ∀ j, ¬ j < P.threads.length →
            j < (P.threads.set i ⟨tag, next (M.exec o P.world).1⟩ ++
              (M.spawns o (M.exec o P.world).1).map M.start).length →
            ∃ tag' ∈ M.spawns o (M.exec o P.world).1,
              (M.spawns o (M.exec o P.world).1)[j - P.threads.length]? = some tag' := by
          intro j hjn hj
          rw [List.length_append, List.length_set, List.length_map] at hj
          have hlt : j - P.threads.length < (M.spawns o (M.exec o P.world).1).length := by omega
          exact ⟨_, List.getElem_mem hlt, List.getElem?_eq_getElem hlt⟩
        intro j l hj hl hjl
        by_cases hjn : j < P.threads.length
        · by_cases hln : l < P.threads.length
          · by_cases hji : j = i
            · have hli : l ≠ i := fun heq => hjl (hji.trans heq.symm)
              simpa [hji, hli, hln] using moved l hln hli
            · by_cases hli : l = i
              · simpa [hji, hli, hjn] using hM.symm _ _ (moved j hjn hji)
              · simpa [hji, hli, hjn, hln] using hghost.apart j l hjn hln hjl
          · obtain ⟨tag', htag', hl'⟩ := new l hln hl
            have hfresh := hM.fresh hallows tag' htag'
            have hli : l ≠ i := fun heq => hln (heq ▸ hlt)
            by_cases hji : j = i
            · simpa [hji, hli, hln, hl'] using hapart _ _ hfresh.2.2 hfresh.2.1
            · simpa [hji, hli, hjn, hln, hl'] using
                hM.symm _ _ (hfresh.1 _ (hghost.apart i j hlt hjn (Ne.symm hji)))
        · obtain ⟨tag', htag', hj'⟩ := new j hjn hj
          have hfresh := hM.fresh hallows tag' htag'
          have hji : j ≠ i := fun heq => hjn (heq ▸ hlt)
          by_cases hln : l < P.threads.length
          · by_cases hli : l = i
            · simpa [hji, hli, hjn, hj'] using hM.symm _ _ (hapart _ _ hfresh.2.2 hfresh.2.1)
            · simpa [hji, hli, hjn, hln, hj'] using
                hfresh.1 _ (hghost.apart i l hlt hln (Ne.symm hli))
          · obtain ⟨tag'', htag'', hl'⟩ := new l hln hl
            have hli : l ≠ i := fun heq => hln (heq ▸ hlt)
            simpa [hji, hli, hjn, hln, hj', hl'] using
              hfresh.1 _ (hM.fresh hallows tag'' htag'').2.1

theorem sat_run (hM : Sound M D C) {schedule : List Nat} {P : Pool Resp ε W Tag}
    (hP : D.Sat P) (hC : M.Along C schedule P) : D.Sat (M.run schedule P) :=
  Runs.run_inv (fun i _ h hC => hM.sat_step i h hC) hP hC

/-- What every allowed operation implies holds at every step of the schedule. -/
theorem along (hM : Sound M D C) {E : Tag → Op → W → Prop}
    (hE : ∀ {tag o w g Q}, D.Allows M C tag o w g Q → E tag o w)
    {schedule : List Nat} {P : Pool Resp ε W Tag} (hP : D.Sat P)
    (hC : M.Along C schedule P) : M.Along E schedule P := by
  refine Runs.along_of_inv (fun i _ h hC => hM.sat_step i h hC) (fun i P hP hC tag o hnext => ?_)
    hP hC
  cases M.step_cases i P with
  | inl hidle =>
      rw [hidle.1] at hnext
      cases hnext
  | inr hmoved =>
      obtain ⟨tag', o', next, hi, hready, hnext', _⟩ := hmoved
      rw [hnext', Option.some.injEq, Prod.mk.injEq] at hnext
      obtain ⟨rfl, rfl⟩ := hnext
      obtain ⟨hinv, ghost, hghost⟩ := hP
      have hkeeps := hghost.keeps i _ hi
      exact hE ⟨hinv, hC tag' o' hnext', hready, hkeeps.knows, hkeeps.wp⟩

end Sound

namespace Discipline

variable {D : Discipline Resp ε W Tag G X}

/-- A pool at its start, with nothing due and every tag's program keeping to its
rule. -/
theorem sat_pool [Inhabited G] (M : Machine Resp ε W Tag) {w : W} {tags : List Tag} (hinv : D.inv w)
    (hdue : ∀ x, ¬ D.due w x) (htags : ∀ tag ∈ tags, D.Keeps w (M.start tag) (D.start tag))
    (hfresh : ∀ tag ∈ tags, ∀ tag' ∈ tags, D.apart (D.start tag) (D.start tag')) :
    D.Sat (M.pool w tags) := by
  refine ⟨hinv, fun i => (tags[i]?).elim default D.start, fun i t hi => ?_,
    fun x hx => absurd hx (hdue x), fun i j hi hj _ => ?_⟩
  · rw [Machine.pool, List.getElem?_map] at hi
    obtain ⟨tag, htag, rfl⟩ := Option.map_eq_some_iff.mp hi
    rw [htag]
    exact htags tag (List.mem_of_getElem? htag)
  · rw [Machine.pool, List.length_map] at hi hj
    rw [List.getElem?_eq_getElem hi, List.getElem?_eq_getElem hj]
    exact hfresh _ (List.getElem_mem hi) _ (List.getElem_mem hj)

/-- Nothing is due once every thread is done, if a done thread owns nothing. -/
theorem Sat.settled {P : Pool Resp ε W Tag} (hP : D.Sat P) (hdone : ∀ t ∈ P.threads, t.Done)
    (hpost : ∀ tag r g x, D.post tag r g → ¬ D.owns g x) : ∀ x, ¬ D.due P.world x := by
  intro x hx
  obtain ⟨_, ghost, hghost⟩ := hP
  obtain ⟨i, t, hi, howns⟩ := hghost.owned x hx
  have hwp := (hghost.keeps i t hi).wp
  have hend := hdone t (List.mem_of_getElem? hi)
  obtain ⟨tag, rest⟩ := t
  cases rest with
  | ret a => exact hpost _ _ _ x hwp howns
  | raise e => exact hpost _ _ _ x hwp howns
  | call o next => exact hend

end Discipline

end Interleaving

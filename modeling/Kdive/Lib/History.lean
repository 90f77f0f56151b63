import Kdive.Lib.Interleaving

/-!
# What one thread did

Along a schedule a thread performs some of its operations, and between them the others
act.  Its moves are these operations, each with the world it found.

*Rule.*  `tracing` follows a program through its moves whatever the worlds are: before
each operation a condition on the moves so far must hold, and what is shown at the end
is about all of them.  `follow_moves` carries it along a schedule.

*Worlds.*  `exists_of_mem_moves` says at which step of the schedule a move was made, so
an invariant of the pool can be used of the world in it.
-/

namespace Interleaving

open Program

variable {Op : Type} {Resp : Op → Type} {ε W Tag α : Type}

/-- An operation that was performed. -/
structure Move (Op W : Type) where
  op : Op
  /-- The world before it. -/
  world : W

/-- A thread must meet a condition on its moves before each of its operations. -/
def tracing (exec : (o : Op) → W → Except ε (Resp o) × W) (C : Op → List (Move Op W) → Prop) :
    Prog.Rule Resp ε (List (Move Op W)) :=
  fun o Q g => C o g ∧ ∀ w, Q (exec o w).1 (g ++ [⟨o, w⟩])

theorem tracing_mono {exec : (o : Op) → W → Except ε (Resp o) × W}
    {C : Op → List (Move Op W) → Prop} : (tracing exec C).Mono :=
  fun _ _ _ _ hQ h => ⟨h.1, fun w => hQ _ _ (h.2 w)⟩

namespace Machine

variable (M : Machine Resp ε W Tag)

/-- What the next step of a thread adds to its moves. -/
def moved (P : Pool Resp ε W Tag) (i : Nat) : List (Move Op W) :=
  (M.next? P i).toList.map fun next => ⟨next.2, P.world⟩

/-- The moves of a thread along a schedule. -/
def moves (i : Nat) : List Nat → Pool Resp ε W Tag → List (Move Op W)
  | [], _ => []
  | j :: schedule, P => (if j = i then M.moved P i else []) ++ moves i schedule (M.step j P)

variable {M} {C : Op → List (Move Op W) → Prop} {post : Except ε Unit → List (Move Op W) → Prop}

/-- A move was made at a step of the schedule. -/
theorem exists_of_mem_moves {i : Nat} {schedule : List Nat} {P : Pool Resp ε W Tag}
    {m : Move Op W} (hm : m ∈ M.moves i schedule P) :
    ∃ before since tag, schedule = before ++ i :: since ∧
      M.next? (M.run before P) i = some (tag, m.op) ∧ (M.run before P).world = m.world := by
  induction schedule generalizing P with
  | nil => cases hm
  | cons j schedule ih =>
      rcases List.mem_append.mp hm with hm | hm
      · split at hm
        · next hji =>
            obtain ⟨⟨tag, o⟩, hnext, rfl⟩ := List.mem_map.mp hm
            exact ⟨[], schedule, tag, by rw [hji]; rfl, Option.mem_toList.mp hnext, rfl⟩
        · cases hm
      · obtain ⟨before, since, tag, rfl, hnext, hworld⟩ := ih hm
        exact ⟨j :: before, since, tag, rfl, hnext, hworld⟩

/-- Along a schedule a thread keeps to its program, and its moves are what it did. -/
theorem follow_moves {i : Nat} (schedule : List Nat) {P : Pool Resp ε W Tag}
    {t : Thread Resp ε Tag} {g : List (Move Op W)} (hi : P.threads[i]? = some t)
    (hwp : t.rest.wp (tracing M.exec C) post g) :
    ∃ rest, (M.run schedule P).threads[i]? = some ⟨t.tag, rest⟩ ∧
      rest.wp (tracing M.exec C) post (g ++ M.moves i schedule P) := by
  induction schedule generalizing P t g with
  | nil => exact ⟨t.rest, hi, by simpa [moves] using hwp⟩
  | cons j schedule ih =>
      rw [moves]
      cases M.step_cases j P with
      | inl hidle =>
          have hnone : (if j = i then M.moved P i else []) = [] := by
            split
            · next hji => simp [moved, ← hji, hidle.1]
            · rfl
          have hi' : (M.step j P).threads[i]? = some t := by rwa [hidle.2]
          rw [hnone]
          exact ih hi' hwp
      | inr hmoved =>
          obtain ⟨tag, o, next, hj, _, hnext, heq⟩ := hmoved
          by_cases hji : j = i
          · -- its own step
            subst hji
            rw [hi, Option.some.injEq] at hj
            subst hj
            have hlt : j < P.threads.length := (List.getElem?_eq_some_iff.mp hi).1
            have hi₁ : (M.step j P).threads[j]? = some ⟨tag, next (M.exec o P.world).1⟩ := by
              rw [heq, List.getElem?_append_left (by simpa using hlt),
                List.getElem?_set_self hlt]
            have hmove : M.moved P j = [⟨o, P.world⟩] := by simp [moved, hnext]
            obtain ⟨rest, hrest, hend⟩ := ih hi₁ (hwp.2 P.world)
            rw [if_pos rfl, hmove, ← List.append_assoc]
            exact ⟨rest, hrest, hend⟩
          · rw [if_neg hji]
            exact ih (M.step_other hji hi) hwp

section Start

variable {w : W} {tags : List Tag} {schedule : List Nat} {i : Nat} {tag : Tag}

/-- A thread is at the start of its program before it moves. -/
theorem pool_threads (htag : tags[i]? = some tag) :
    (M.pool w tags).threads[i]? = some (M.start tag) := by
  rw [pool, List.getElem?_map, htag, Option.map_some]

/-- What a thread that returned has done. -/
theorem moves_done {a : Unit} (htag : tags[i]? = some tag)
    (hwp : (M.body tag).wp (tracing M.exec C) post [])
    (hdone : (M.run schedule (M.pool w tags)).threads[i]? = some ⟨tag, .ret a⟩) :
    post (.ok a) (M.moves i schedule (M.pool w tags)) := by
  obtain ⟨rest, hrest, hend⟩ := follow_moves schedule (pool_threads htag) hwp
  rw [hdone, Option.some.injEq, Thread.mk.injEq] at hrest
  rw [← hrest.2] at hend
  exact hend

/-- What a thread has done before its next operation. -/
theorem moves_next {tag' : Tag} {o : Op} (htag : tags[i]? = some tag)
    (hwp : (M.body tag).wp (tracing M.exec C) post [])
    (hnext : M.next? (M.run schedule (M.pool w tags)) i = some (tag', o)) :
    C o (M.moves i schedule (M.pool w tags)) := by
  obtain ⟨rest, hrest, hend⟩ := follow_moves schedule (pool_threads htag) hwp
  cases M.step_cases i (M.run schedule (M.pool w tags)) with
  | inl hidle =>
      rw [hidle.1] at hnext
      cases hnext
  | inr hmoved =>
      obtain ⟨tag₁, o₁, next, hi, _, hnext₁, _⟩ := hmoved
      rw [hnext₁, Option.some.injEq, Prod.mk.injEq] at hnext
      obtain ⟨rfl, rfl⟩ := hnext
      rw [hi, Option.some.injEq, Thread.mk.injEq] at hrest
      rw [← hrest.2] at hend
      exact hend.1

end Start

end Machine

end Interleaving

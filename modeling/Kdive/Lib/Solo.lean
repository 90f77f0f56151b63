import Kdive.Lib.Interleaving

/-!
# Threads that do not meet

The threads of a pool act on different parts of the world.  Then each of them goes the way it
would go alone: `solo` says that at any time it has come as far as its program comes by itself,
and that its part of the world is as it would be then.

*Parts.*  `Same tag w v` says that two worlds have the part of `tag` in common.  The operations
of the thread itself act alike on both, and those of the others leave the part.
-/

namespace Interleaving

open Program

variable {Op : Type} {Resp : Op → Type} {ε α W Tag : Type}

/-! ## How far a program has come -/

/-- Some calls later the program has this left to run, in this world. -/
inductive Comes (exec : (o : Op) → W → Except ε (Resp o) × W) :
    Prog Resp ε α → W → Prog Resp ε α → W → Prop
  | here (p : Prog Resp ε α) (w : W) : Comes exec p w p w
  | step {o : Op} {next : Except ε (Resp o) → Prog Resp ε α} {w w' : W} {rest : Prog Resp ε α}
      (h : Comes exec (next (exec o w).1) (exec o w).2 rest w') :
      Comes exec (.call o next) w rest w'

section Comes

variable {exec : (o : Op) → W → Except ε (Resp o) × W} {p rest : Prog Resp ε α} {w w' : W}

/-- One call more. -/
theorem Comes.call {o : Op} {next : Except ε (Resp o) → Prog Resp ε α}
    (h : Comes exec p w (.call o next) w') :
    Comes exec p w (next (exec o w').1) (exec o w').2 := by
  generalize hrest : Prog.call o next = rest at h
  induction h with
  | here p w =>
      subst hrest
      exact .step (.here _ _)
  | step h ih => exact .step (ih hrest)

theorem Comes.reaches (h : Comes exec p w rest w') : p.Reaches exec w w' := by
  induction h with
  | here p w => exact Prog.reaches_refl p w
  | step h ih => exact .inr ih

/-- The rest ends as the program does. -/
theorem Comes.run (h : Comes exec p w rest w') : p.run exec w = rest.run exec w' := by
  induction h with
  | here p w => rfl
  | step h ih => exact ih

end Comes

/-! ## Pools -/

/-- The threads of these tags act on different parts of the world. -/
structure Parts (M : Machine Resp ε W Tag) (Same : Tag → W → W → Prop) (Mine : Tag → Op → Prop)
    (tags : List Tag) : Prop where
  refl : ∀ tag w, Same tag w w
  /-- A thread calls operations of its own. -/
  calls : ∀ tag ∈ tags, (M.body tag).Calls (Mine tag)
  /-- They see and change its part alone. -/
  own : ∀ tag ∈ tags, ∀ o, Mine tag o → ∀ w v, Same tag w v →
    (M.exec o w).1 = (M.exec o v).1 ∧ Same tag (M.exec o w).2 (M.exec o v).2
  /-- Those of the others leave it. -/
  others : tags.Pairwise fun tag tag' => ∀ w v,
    (∀ o, Mine tag o → Same tag' w v → Same tag' (M.exec o w).2 v) ∧
      ∀ o, Mine tag' o → Same tag w v → Same tag (M.exec o w).2 v
  spawns : ∀ o r, M.spawns o r = []

variable {M : Machine Resp ε W Tag} {Same : Tag → W → W → Prop} {Mine : Tag → Op → Prop}
  {tags : List Tag}

theorem Parts.other (h : Parts M Same Mine tags) {i j : Nat} {tag tag' : Tag} (hne : i ≠ j)
    (hi : tags[i]? = some tag) (hj : tags[j]? = some tag') {o : Op} (ho : Mine tag o) {w v : W}
    (hsame : Same tag' w v) : Same tag' (M.exec o w).2 v := by
  obtain ⟨hilt, rfl⟩ := List.getElem?_eq_some_iff.mp hi
  obtain ⟨hjlt, rfl⟩ := List.getElem?_eq_some_iff.mp hj
  have hpairs := List.pairwise_iff_getElem.mp h.others
  rcases Nat.lt_or_gt_of_ne hne with hlt | hlt
  · exact (hpairs i j hilt hjlt hlt w v).1 o ho hsame
  · exact (hpairs j i hjlt hilt hlt w v).2 o ho hsame

/-- Every thread of a pool has come as far as its program by itself. -/
structure Solo (M : Machine Resp ε W Tag) (Same : Tag → W → W → Prop) (Mine : Tag → Op → Prop)
    (tags : List Tag) (w : W) (P : Pool Resp ε W Tag) : Prop where
  threads : P.threads.length = tags.length
  comes : ∀ (i : Nat) (tag : Tag), tags[i]? = some tag → ∃ rest v, P.threads[i]? = some (Thread.mk tag rest) ∧
    rest.Calls (Mine tag) ∧ Comes M.exec (M.body tag) w rest v ∧ Same tag P.world v

theorem solo_pool (h : Parts M Same Mine tags) (w : W) : Solo M Same Mine tags w (M.pool w tags) := by
  refine ⟨List.length_map _, fun i tag hi => ⟨M.body tag, w, ?_, ?_, .here _ _, h.refl tag w⟩⟩
  · rw [Machine.pool, List.getElem?_map, hi]
    rfl
  · exact h.calls tag (List.mem_of_getElem? hi)

theorem solo_step (h : Parts M Same Mine tags) {w : W} {P : Pool Resp ε W Tag}
    (hP : Solo M Same Mine tags w P) (i : Nat) : Solo M Same Mine tags w (M.step i P) := by
  rcases M.step_cases i P with ⟨-, hidle⟩ | ⟨tag, o, next, hi, -, -, hstep⟩
  · rw [hidle]
    exact hP
  · have hlt : i < P.threads.length := (List.getElem?_eq_some_iff.mp hi).1
    obtain ⟨tag', htag'⟩ : ∃ tag', tags[i]? = some tag' :=
      ⟨_, List.getElem?_eq_getElem (hP.threads ▸ hlt)⟩
    obtain ⟨rest, v, hrest, hcalls, hcomes, hsame⟩ := hP.comes i tag' htag'
    rw [hi] at hrest
    cases hrest
    rw [hstep, h.spawns, List.map_nil, List.append_nil]
    refine ⟨(List.length_set ..).trans hP.threads, fun j other hj => ?_⟩
    by_cases hji : j = i
    · -- the thread that moved
      subst hji
      rw [htag'] at hj
      cases hj
      obtain ⟨hresp, hafter⟩ :=
        h.own tag (List.mem_of_getElem? htag') o hcalls.1 P.world v hsame
      refine ⟨next (M.exec o P.world).1, (M.exec o v).2, List.getElem?_set_self hlt,
        hcalls.2 _, ?_, hafter⟩
      rw [hresp]
      exact hcomes.call
    · obtain ⟨rest', v', hrest', hcalls', hcomes', hsame'⟩ := hP.comes j other hj
      exact ⟨rest', v', by rw [List.getElem?_set_ne (Ne.symm hji)]; exact hrest', hcalls', hcomes',
        h.other (Ne.symm hji) htag' hj hcalls.1 hsame'⟩

/-- Along every schedule each thread goes the way it would go alone. -/
theorem solo (h : Parts M Same Mine tags) (w : W) (schedule : List Nat) :
    Solo M Same Mine tags w (M.run schedule (M.pool w tags)) :=
  Runs.run_inv' (I := Solo M Same Mine tags w) (fun i _ hP => solo_step h hP i) schedule
    (solo_pool h w)

/-- What the operations of all threads keep, a schedule keeps. -/
theorem solo_keeps (h : Parts M Same Mine tags) {K : W → Prop}
    (hK : ∀ tag ∈ tags, ∀ o, Mine tag o → ∀ w, K w → K (M.exec o w).2) {w : W} (hw : K w)
    (schedule : List Nat) : K (M.run schedule (M.pool w tags)).world := by
  have hboth : ∀ i P, Solo M Same Mine tags w P ∧ K P.world →
      Solo M Same Mine tags w (M.step i P) ∧ K (M.step i P).world := by
    rintro i P ⟨hP, hworld⟩
    refine ⟨solo_step h hP i, ?_⟩
    rcases M.step_cases i P with ⟨-, hidle⟩ | ⟨tag, o, next, hi, -, -, hstep⟩
    · rwa [hidle]
    · have hlt : i < P.threads.length := (List.getElem?_eq_some_iff.mp hi).1
      obtain ⟨tag', htag'⟩ : ∃ tag', tags[i]? = some tag' :=
        ⟨_, List.getElem?_eq_getElem (hP.threads ▸ hlt)⟩
      obtain ⟨rest, v, hrest, hcalls, -⟩ := hP.comes i tag' htag'
      rw [hi] at hrest
      cases hrest
      rw [hstep]
      exact hK tag (List.mem_of_getElem? htag') o hcalls.1 _ hworld
  exact (Runs.run_inv' (I := fun P => Solo M Same Mine tags w P ∧ K P.world) hboth schedule
    ⟨solo_pool h w, hw⟩).2

end Interleaving

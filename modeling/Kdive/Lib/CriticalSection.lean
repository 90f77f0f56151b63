import Kdive.Lib.Interleaving

/-!
# Critical sections

Threads of a pool that do nothing before they take a lock and nothing after they
let go of it run one after the other, in the order in which they took it.

*Lock.*  A `Lock` names the operations that take a lock and those that free it.
Taking fails while it is held, and then changes nothing.

*Sections.*  `Waits` says of a program that it takes the lock before it does
anything, and that it raises if it is refused.  `Inside` says of what is left of it
that it acts, frees the lock and ends.  It may also end without freeing the lock,
which then is held for ever.

*Serial order.*  `entries` lists the threads in the order in which they took the
lock, and `serve` executes their programs alone in this order.  `Served` says that
a pool looks as if that is what had happened, up to the thread that is inside.
-/

namespace CriticalSection

open Program Interleaving

variable {Op : Type} {Resp : Op → Type} {ε α β W Tag G : Type}

/-! ## Positions of a program -/

/-- Executed alone, the program gets to where `q` is left. -/
def Leads (exec : (o : Op) → W → Except ε (Resp o) × W) (p : Prog Resp ε α) (w : W)
    (q : Prog Resp ε α) (w' : W) : Prop :=
  (q = p ∧ w' = w) ∨
    match p with
    | .call o next => Leads exec (next (exec o w).1) (exec o w).2 q w'
    | _ => False

section Leads

variable {exec : (o : Op) → W → Except ε (Resp o) × W} {p q : Prog Resp ε α} {w w' : W}

theorem Leads.refl (p : Prog Resp ε α) (w : W) : Leads exec p w p w := by
  cases p <;> exact .inl ⟨rfl, rfl⟩

/-- One more operation. -/
theorem Leads.next {o : Op} {next : Except ε (Resp o) → Prog Resp ε α}
    (h : Leads exec p w (.call o next) w') :
    Leads exec p w (next (exec o w').1) (exec o w').2 := by
  induction p generalizing w with
  | ret a =>
      rcases h with ⟨heq, _⟩ | h
      · cases heq
      · exact h.elim
  | raise e =>
      rcases h with ⟨heq, _⟩ | h
      · cases heq
      · exact h.elim
  | call o₁ next₁ ih =>
      refine .inr ?_
      rcases h with ⟨heq, hw⟩ | h
      · cases heq
        subst hw
        exact Leads.refl ..
      · exact ih _ h

/-- The rest of the program ends as the whole does. -/
theorem Leads.run (h : Leads exec p w q w') : q.run exec w' = p.run exec w := by
  induction p generalizing w with
  | ret a =>
      rcases h with ⟨rfl, rfl⟩ | h
      · rfl
      · exact h.elim
  | raise e =>
      rcases h with ⟨rfl, rfl⟩ | h
      · rfl
      · exact h.elim
  | call o next ih =>
      rcases h with ⟨rfl, rfl⟩ | h
      · rfl
      · exact ih _ h

/-- The program may be cut there. -/
theorem Leads.reaches (h : Leads exec p w q w') : p.Reaches exec w w' := by
  induction p generalizing w with
  | ret a =>
      rcases h with ⟨_, rfl⟩ | h
      · rfl
      · exact h.elim
  | raise e =>
      rcases h with ⟨_, rfl⟩ | h
      · rfl
      · exact h.elim
  | call o next ih =>
      rcases h with ⟨_, rfl⟩ | h
      · exact .inl rfl
      · exact .inr (ih _ h)

/-- The rule of a program that runs alone and whose operations all meet a condition. -/
def watching (exec : (o : Op) → W → Except ε (Resp o) × W) (C : Op → W → Prop) :
    Prog.Rule Resp ε W :=
  fun o Q w => C o w ∧ Q (exec o w).1 (exec o w).2

theorem watching_mono (C : Op → W → Prop) : (watching exec C).Mono :=
  fun _ _ _ _ hQ h => ⟨h.1, hQ _ _ h.2⟩

/-- What holds at the end of a program that runs alone. -/
theorem watching_run {C : Op → W → Prop} {Q : Except ε α → W → Prop}
    (hp : p.wp (watching exec C) Q w) : Q (p.run exec w).1 (p.run exec w).2 := by
  induction p generalizing w with
  | ret a => exact hp
  | raise e => exact hp
  | call o next ih => exact ih _ hp.2

/-- What the condition keeps holds wherever the program is cut. -/
theorem watching_reaches {C : Op → W → Prop} {I : W → Prop} {Q : Except ε α → W → Prop}
    (hI : ∀ o w, C o w → I w → I (exec o w).2) (hp : p.wp (watching exec C) Q w) (hw : I w)
    (h : p.Reaches exec w w') : I w' := by
  induction p generalizing w with
  | ret a => exact h ▸ hw
  | raise e => exact h ▸ hw
  | call o next ih =>
      rcases h with rfl | h
      · exact hw
      · exact ih _ hp.2 (hI o w hp.1 hw) h

theorem watching_weaken {C D : Op → W → Prop} {Q : Except ε α → W → Prop}
    (hCD : ∀ o w, C o w → D o w) (hp : p.wp (watching exec C) Q w) :
    p.wp (watching exec D) Q w := by
  induction p generalizing w with
  | ret a => exact hp
  | raise e => exact hp
  | call o next ih => exact ⟨hCD o w hp.1, ih _ hp.2⟩

/-- The rest of the program keeps to the condition. -/
theorem Leads.wp {C : Op → W → Prop} {Q : Except ε α → W → Prop} (h : Leads exec p w q w')
    (hp : p.wp (watching exec C) Q w) : q.wp (watching exec C) Q w' := by
  induction p generalizing w with
  | ret a =>
      rcases h with ⟨rfl, rfl⟩ | h
      · exact hp
      · exact h.elim
  | raise e =>
      rcases h with ⟨rfl, rfl⟩ | h
      · exact hp
      · exact h.elim
  | call o next ih =>
      rcases h with ⟨rfl, rfl⟩ | h
      · exact hp
      · exact ih _ h hp.2

end Leads

/-! ## Locks and sections -/

/-- A lock of a world. -/
structure Lock (exec : (o : Op) → W → Except ε (Resp o) × W) where
  /-- It is held. -/
  held : W → Bool
  /-- The operation takes it. -/
  takes : Op → Bool
  /-- The operation frees it. -/
  frees : Op → Bool
  taken : ∀ o w r, takes o = true → (exec o w).1 = .ok r →
    held w = false ∧ held (exec o w).2 = true
  refused : ∀ o w e, takes o = true → (exec o w).1 = .error e → (exec o w).2 = w
  freed : ∀ o w r, frees o = true → (exec o w).1 = .ok r → held (exec o w).2 = false
  kept : ∀ o w, takes o = false → (∀ r, frees o = true → (exec o w).1 ≠ .ok r) →
    held w = true → held (exec o w).2 = true

variable {exec : (o : Op) → W → Except ε (Resp o) × W}

namespace Lock

variable (L : Lock exec)

/-- A program that has ended. -/
def Ended : Prog Resp ε α → Prop
  | .ret _ | .raise _ => True
  | .call .. => False

/-- What is left of a program that holds the lock. -/
def Inside : Prog Resp ε α → Prop
  | .ret _ | .raise _ => True
  | .call o next => L.takes o = false ∧ ∀ r,
      if L.frees o = true ∧ r.toBool = true then Ended (next r) else Inside (next r)

/-- A program that does nothing before it takes the lock, and raises if it cannot. -/
def Waits : Prog Resp ε α → Prop
  | .ret _ => False
  | .raise _ => True
  | .call o next => L.takes o = true ∧ (∀ e, ∃ e', next (.error e) = .raise e') ∧
      ∀ r, L.Inside (next (.ok r))

variable {L}

theorem Inside.of_ended {p : Prog Resp ε α} (h : Ended p) : L.Inside p := by
  cases p with
  | ret a => trivial
  | raise e => trivial
  | call o next => exact h.elim

theorem Inside.ofExcept (r : Except ε α) : L.Inside (Prog.ofExcept r : Prog Resp ε α) := by
  cases r <;> trivial

/-- Inside, a program acts before it goes on. -/
theorem Inside.bind {p : Prog Resp ε α} {f : α → Prog Resp ε β}
    (hp : p.Calls fun o => L.takes o = false ∧ L.frees o = false) (hf : ∀ a, L.Inside (f a)) :
    L.Inside (p >>= f) := by
  induction p with
  | ret a => exact hf a
  | raise e => trivial
  | call o next ih =>
      refine ⟨hp.1.1, fun r => ?_⟩
      rw [if_neg (by simp [hp.1.2])]
      exact ih r (hp.2 r)

theorem Ended.bind {p : Prog Resp ε α} {f : α → Prog Resp ε β} (hp : Ended p)
    (hf : ∀ a, Ended (f a)) : Ended (p >>= f) := by
  cases p with
  | ret a => exact hf a
  | raise e => trivial
  | call o next => exact hp.elim

/-- A program that goes on with no operation is inside as long. -/
theorem Inside.andThen {p : Prog Resp ε α} {f : α → Prog Resp ε β} (hp : L.Inside p)
    (hf : ∀ a, Ended (f a)) : L.Inside (p >>= f) := by
  induction p with
  | ret a => exact .of_ended (hf a)
  | raise e => trivial
  | call o next ih =>
      refine ⟨hp.1, fun r => ?_⟩
      have hr := hp.2 r
      split at hr
      · next hfreed =>
          rw [if_pos hfreed]
          exact hr.bind hf
      · next hstays =>
          rw [if_neg hstays]
          exact ih r hr

end Lock

/-! ## The order of the sections -/

namespace Lock

variable {M : Machine Resp ε W Tag} (L : Lock M.exec)

/-- The step is one that takes the lock. -/
def Enters (i : Nat) (P : Pool Resp ε W Tag) : Bool :=
  match M.next? P i with
  | some (_, o) => L.takes o && (M.exec o P.world).1.toBool
  | none => false

/-- The threads that take the lock, in this order. -/
def entries : List Nat → Pool Resp ε W Tag → List Nat
  | [], _ => []
  | i :: schedule, P => (if L.Enters i P = true then [i] else []) ++ entries schedule (M.step i P)

theorem entries_append (s₁ s₂ : List Nat) (P : Pool Resp ε W Tag) :
    L.entries (s₁ ++ s₂) P = L.entries s₁ P ++ L.entries s₂ (M.run s₁ P) := by
  induction s₁ generalizing P with
  | nil => rfl
  | cons i s₁ ih =>
      rw [List.cons_append, entries, entries, ih, List.append_assoc]
      rfl

end Lock

/-- The programs of the threads `order`, executed alone in this order. -/
def serve (M : Machine Resp ε W Tag) (tags : List Tag) (order : List Nat) (w : W) : W :=
  order.foldl (fun w i => (tags[i]?).elim w fun tag => ((M.body tag).run M.exec w).2) w

theorem serve_append (M : Machine Resp ε W Tag) (tags : List Tag) (s₁ s₂ : List Nat) (w : W) :
    serve M tags (s₁ ++ s₂) w = serve M tags s₂ (serve M tags s₁ w) := List.foldl_append

theorem serve_concat {M : Machine Resp ε W Tag} {tags : List Tag} {i : Nat} {tag : Tag}
    (htag : tags[i]? = some tag) (before : List Nat) (w : W) :
    serve M tags (before ++ [i]) w = ((M.body tag).run M.exec (serve M tags before w)).2 := by
  rw [serve_append]
  simp [serve, htag]

/-! ## Serial executions -/

namespace Lock

variable {M : Machine Resp ε W Tag} (L : Lock M.exec)

/-- A thread inside: its program was executed alone from `w` up to what is left of it. -/
structure Serving (tags : List Tag) (w : W) (P : Pool Resp ε W Tag) (i : Nat) : Prop where
  held : L.held P.world = true
  rest : ∃ tag rest, tags[i]? = some tag ∧ P.threads[i]? = some ⟨tag, rest⟩ ∧
    Leads M.exec (M.body tag) w rest P.world ∧ L.Inside rest

/-- The threads `past` were executed alone one after the other, and `current` is inside. -/
structure Served (tags : List Tag) (w : W) (past : List Nat) (current : Option Nat)
    (P : Pool Resp ε W Tag) : Prop where
  /-- A thread that did not enter is at its start or was refused. -/
  out : ∀ i tag, tags[i]? = some tag → i ∉ past → current ≠ some i →
    ∃ rest, P.threads[i]? = some ⟨tag, rest⟩ ∧ (rest = M.body tag ∨ ∃ e, rest = .raise e)
  /-- A thread that left ended as if it had been alone. -/
  left : ∀ before i after, past = before ++ i :: after → ∃ tag, tags[i]? = some tag ∧
    P.threads[i]? = some ⟨tag, Prog.ofExcept ((M.body tag).run M.exec (serve M tags before w)).1⟩
  /-- Nobody is inside. -/
  free : current = none →
    P.world = serve M tags past w ∧ (L.held P.world = true → past = [])
  /-- One thread is. -/
  inside : ∀ i, current = some i → L.Serving tags (serve M tags past w) P i
  /-- There are no other threads. -/
  size : P.threads.length = tags.length

variable {L}

theorem Served.start (tags : List Tag) (w : W) : L.Served tags w [] none (M.pool w tags) where
  out := by
    intro i tag htag _ _
    exact ⟨M.body tag, by simp [Machine.pool, htag, Machine.start], .inl rfl⟩
  left := by
    intro before i after h
    cases before <;> cases h
  free := fun _ => ⟨rfl, fun _ => rfl⟩
  inside := by
    intro i h
    cases h
  size := by simp [Machine.pool]

variable (exec) in
/-- A program that ended is its result. -/
theorem Ended.eq_ofExcept {p : Prog Resp ε α} (h : Ended p) (w : W) :
    p = Prog.ofExcept (p.run exec w).1 ∧ (p.run exec w).2 = w := by
  cases p with
  | ret a => exact ⟨rfl, rfl⟩
  | raise e => exact ⟨rfl, rfl⟩
  | call o next => exact h.elim

theorem ended_ofExcept (r : Except ε α) : Ended (Prog.ofExcept r : Prog Resp ε α) := by
  cases r <;> trivial

section Step

variable {tags : List Tag} {w : W} {past : List Nat} {current : Option Nat}
  {P : Pool Resp ε W Tag} {i : Nat} {tag : Tag} {o : Op}
  {next : Except ε (Resp o) → Prog Resp ε Unit}

/-- A thread that can go on did not leave. -/
theorem Served.not_left (h : L.Served tags w past current P)
    (hi : P.threads[i]? = some ⟨tag, .call o next⟩) : i ∉ past := by
  intro hmem
  obtain ⟨before, since, heq⟩ := List.append_of_mem hmem
  obtain ⟨tag', _, hend⟩ := h.left before i since heq
  rw [hi, Option.some.injEq, Thread.mk.injEq] at hend
  have hended : Ended (Prog.ofExcept ((M.body tag').run M.exec (serve M tags before w)).1 :
      Prog Resp ε Unit) := ended_ofExcept _
  rw [← hend.2] at hended
  exact hended

/-- A thread is the one its index says. -/
theorem Served.tag_eq (h : L.Served tags w past current P)
    (hi : P.threads[i]? = some ⟨tag, .call o next⟩) : tags[i]? = some tag := by
  by_cases hcur : current = some i
  · obtain ⟨_, tag', rest, htag, hrest, _⟩ := h.inside i hcur
    rw [hi, Option.some.injEq, Thread.mk.injEq] at hrest
    rw [htag, hrest.1]
  · have hlt : i < tags.length := h.size ▸ (List.getElem?_eq_some_iff.mp hi).1
    obtain ⟨rest, hrest, _⟩ :=
      h.out i tags[i] (List.getElem?_eq_getElem hlt) (h.not_left hi) hcur
    rw [hi, Option.some.injEq, Thread.mk.injEq] at hrest
    rw [List.getElem?_eq_getElem hlt, hrest.1]

/-- A thread that can go on and is not inside is at its start. -/
theorem Served.at_start (h : L.Served tags w past current P)
    (hi : P.threads[i]? = some ⟨tag, .call o next⟩) (hne : current ≠ some i) :
    tags[i]? = some tag ∧ M.body tag = .call o next := by
  have htag := h.tag_eq hi
  obtain ⟨rest, hrest, hstart⟩ := h.out i tag htag (h.not_left hi) hne
  rw [hi, Option.some.injEq, Thread.mk.injEq] at hrest
  refine ⟨htag, ?_⟩
  rcases hstart with hstart | ⟨e, hstart⟩
  · rw [← hstart, ← hrest.2]
  · cases hrest.2.trans hstart

variable (M) in
/-- The pool after thread `i` performed `o`. -/
def after (P : Pool Resp ε W Tag) (i : Nat) (tag : Tag) (o : Op)
    (next : Except ε (Resp o) → Prog Resp ε Unit) : Pool Resp ε W Tag where
  world := (M.exec o P.world).2
  threads := P.threads.set i ⟨tag, next (M.exec o P.world).1⟩

/-- The threads that did not move are where they were. -/
theorem after_other {j : Nat} (hne : j ≠ i) :
    (after M P i tag o next).threads[j]? = P.threads[j]? :=
  List.getElem?_set_ne (Ne.symm hne)

theorem after_self (hi : P.threads[i]? = some ⟨tag, .call o next⟩) :
    (after M P i tag o next).threads[i]? = some ⟨tag, next (M.exec o P.world).1⟩ :=
  List.getElem?_set_self (List.getElem?_eq_some_iff.mp hi).1

/-- A move of a thread that can go on leaves what is said of those that left. -/
theorem Served.left_after (h : L.Served tags w past current P)
    (hi : P.threads[i]? = some ⟨tag, .call o next⟩) {before since : List Nat} {j : Nat}
    (heq : past = before ++ j :: since) : ∃ tag', tags[j]? = some tag' ∧
      (after M P i tag o next).threads[j]? =
        some ⟨tag', Prog.ofExcept ((M.body tag').run M.exec (serve M tags before w)).1⟩ := by
  have hji : j ≠ i := by
    rintro rfl
    exact h.not_left hi (heq ▸ List.mem_append_right before List.mem_cons_self)
  rw [after_other hji]
  exact h.left before j since heq

/-- A thread is refused the lock. -/
theorem Served.refuse (h : L.Served tags w past current P)
    (hi : P.threads[i]? = some ⟨tag, .call o next⟩) (hne : current ≠ some i)
    (hwaits : L.Waits (M.body tag)) {e : ε} (herr : (M.exec o P.world).1 = .error e) :
    L.Served tags w past current (after M P i tag o next) := by
  obtain ⟨_, hbody⟩ := h.at_start hi hne
  rw [hbody] at hwaits
  obtain ⟨htakes, hraise, _⟩ := hwaits
  have hworld : (after M P i tag o next).world = P.world := L.refused o P.world e htakes herr
  refine ⟨fun j tag' htag' hj hcur => ?_, fun before j since heq => ?_, fun hnone => ?_,
    fun j hcur => ?_, ?_⟩
  · by_cases hji : j = i
    · subst hji
      obtain ⟨rest, hrest, _⟩ := h.out j tag' htag' hj hcur
      rw [hi, Option.some.injEq, Thread.mk.injEq] at hrest
      refine ⟨_, (after_self hi).trans (by rw [hrest.1]), .inr ?_⟩
      rw [herr]
      exact hraise e
    · rw [after_other hji]
      exact h.out j tag' htag' hj hcur
  · exact h.left_after hi heq
  · rw [hworld]
    exact h.free hnone
  · have hji : j ≠ i := by
      rintro rfl
      exact hne hcur
    obtain ⟨hheld, tag', rest, htag', hj, hleads, hinside⟩ := h.inside j hcur
    refine ⟨hworld ▸ hheld, tag', rest, htag', (after_other hji).trans hj, ?_, hinside⟩
    rw [hworld]
    exact hleads
  · exact (List.length_set ..).trans h.size

/-- A thread takes the lock. -/
theorem Served.enter (h : L.Served tags w past current P)
    (hi : P.threads[i]? = some ⟨tag, .call o next⟩) (hne : current ≠ some i)
    (hwaits : L.Waits (M.body tag)) {r : Resp o} (hok : (M.exec o P.world).1 = .ok r) :
    current = none ∧ L.Served tags w past (some i) (after M P i tag o next) := by
  obtain ⟨htag, hbody⟩ := h.at_start hi hne
  have hwaits' := hwaits
  rw [hbody] at hwaits'
  obtain ⟨htakes, _, hinside⟩ := hwaits'
  obtain ⟨hfree, htaken⟩ := L.taken o P.world r htakes hok
  have hnone : current = none := by
    cases hcur : current with
    | none => rfl
    | some j =>
        have hheld := (h.inside j hcur).held
        rw [hfree] at hheld
        cases hheld
  refine ⟨hnone, fun j tag' htag' hj hcur => ?_, fun before j since heq => ?_, nofun,
    fun j hcur => ?_, ?_⟩
  · have hji : j ≠ i := fun heq => hcur (heq ▸ rfl)
    rw [after_other hji]
    exact h.out j tag' htag' hj (by rw [hnone]; nofun)
  · exact h.left_after hi heq
  · cases hcur
    refine ⟨htaken, tag, _, htag, after_self hi, ?_, ?_⟩
    · rw [← (h.free hnone).1]
      have hstart : Leads M.exec (M.body tag) P.world (.call o next) P.world :=
        hbody ▸ Leads.refl ..
      exact hstart.next
    · rw [hok]
      exact hinside r
  · exact (List.length_set ..).trans h.size

/-- The thread inside acts. -/
theorem Served.act (h : L.Served tags w past (some i) P)
    (hi : P.threads[i]? = some ⟨tag, .call o next⟩)
    (hstays : ∀ r, L.frees o = true → (M.exec o P.world).1 ≠ .ok r) :
    L.Served tags w past (some i) (after M P i tag o next) := by
  obtain ⟨hheld, tag', rest, htag, hrest, hleads, hinside⟩ := h.inside i rfl
  rw [hi, Option.some.injEq, Thread.mk.injEq] at hrest
  obtain ⟨rfl, rfl⟩ := hrest
  obtain ⟨htakes, hnext⟩ := hinside
  refine ⟨fun j tag' htag' hj hcur => ?_, fun before j since heq => ?_, nofun,
    fun j hcur => ?_, ?_⟩
  · have hji : j ≠ i := fun heq => hcur (heq ▸ rfl)
    rw [after_other hji]
    exact h.out j tag' htag' hj hcur
  · exact h.left_after hi heq
  · cases hcur
    refine ⟨L.kept o P.world htakes hstays hheld, tag, _, htag, after_self hi, hleads.next, ?_⟩
    have hr := hnext (M.exec o P.world).1
    rw [if_neg] at hr
    · exact hr
    · rintro ⟨hfrees, hok⟩
      cases hresult : (M.exec o P.world).1 with
      | error e =>
          rw [hresult] at hok
          cases hok
      | ok r => exact hstays r hfrees hresult
  · exact (List.length_set ..).trans h.size

/-- The thread inside lets go of the lock. -/
theorem Served.leave (h : L.Served tags w past (some i) P)
    (hi : P.threads[i]? = some ⟨tag, .call o next⟩) (hfrees : L.frees o = true) {r : Resp o}
    (hok : (M.exec o P.world).1 = .ok r) :
    L.Served tags w (past ++ [i]) none (after M P i tag o next) := by
  obtain ⟨hheld, tag', rest, htag, hrest, hleads, hinside⟩ := h.inside i rfl
  rw [hi, Option.some.injEq, Thread.mk.injEq] at hrest
  obtain ⟨rfl, rfl⟩ := hrest
  have hended : Ended (next (M.exec o P.world).1) := by
    have hr := hinside.2 (M.exec o P.world).1
    rw [if_pos ⟨hfrees, by rw [hok]; rfl⟩] at hr
    exact hr
  have hrun := hleads.next.run
  obtain ⟨hresult, hworld⟩ := Ended.eq_ofExcept M.exec hended (M.exec o P.world).2
  refine ⟨fun j tag' htag' hj hcur => ?_, fun before j since heq => ?_, fun _ => ⟨?_, ?_⟩,
    nofun, ?_⟩
  · rw [List.mem_append, not_or, List.mem_singleton] at hj
    rw [after_other hj.2]
    exact h.out j tag' htag' hj.1 fun heq => hj.2 (Option.some.inj heq).symm
  · rcases List.eq_nil_or_concat since with rfl | ⟨since', k, rfl⟩
    · -- the one that leaves
      obtain ⟨rfl, hij⟩ := List.append_inj' heq rfl
      obtain rfl := (List.cons.inj hij).1
      refine ⟨tag, htag, (after_self hi).trans ?_⟩
      rw [← hrun, ← hresult]
    · rw [List.concat_eq_append, ← List.cons_append, ← List.append_assoc] at heq
      exact h.left_after hi (List.append_inj' heq rfl).1
  · rw [serve_concat htag, ← hrun]
    exact hworld.symm
  · intro hstill
    rw [after, L.freed o P.world r hfrees hok] at hstill
    cases hstill
  · exact (List.length_set ..).trans h.size

end Step

/-- A step of a pool whose sections were executed one after the other. -/
theorem Served.step (hspawns : ∀ o r, M.spawns o r = []) {tags : List Tag} {w : W}
    (hwaits : ∀ tag ∈ tags, L.Waits (M.body tag)) {past : List Nat} {current : Option Nat}
    {P : Pool Resp ε W Tag} (h : L.Served tags w past current P) (i : Nat) :
    ∃ past' current', past' ++ current'.toList =
        past ++ current.toList ++ (if L.Enters i P = true then [i] else []) ∧
      L.Served tags w past' current' (M.step i P) := by
  cases M.step_cases i P with
  | inl hidle =>
      refine ⟨past, current, ?_, by rwa [hidle.2]⟩
      simp [Enters, hidle.1]
  | inr hmoved =>
      obtain ⟨tag, o, next, hi, _, hnext, hstep⟩ := hmoved
      rw [hspawns, List.map_nil, List.append_nil] at hstep
      have hafter : M.step i P = after M P i tag o next := hstep
      have henters : L.Enters i P = (L.takes o && (M.exec o P.world).1.toBool) := by
        simp [Enters, hnext]
      rw [hafter, henters]
      by_cases hcur : current = some i
      · subst hcur
        obtain ⟨_, tag', rest, _, hrest, _, hinside⟩ := h.inside i rfl
        rw [hi, Option.some.injEq, Thread.mk.injEq] at hrest
        obtain ⟨-, rfl⟩ := hrest
        rw [hinside.1]
        by_cases hfrees : L.frees o = true ∧ ∃ r, (M.exec o P.world).1 = .ok r
        · obtain ⟨hfrees, r, hok⟩ := hfrees
          exact ⟨past ++ [i], none, by simp, h.leave hi hfrees hok⟩
        · exact ⟨past, some i, by simp, h.act hi fun r hf hok => hfrees ⟨hf, r, hok⟩⟩
      · obtain ⟨htag, hbody⟩ := h.at_start hi hcur
        have hwaits' := hwaits tag (List.mem_of_getElem? htag)
        have htakes : L.takes o = true := by
          rw [hbody] at hwaits'
          exact hwaits'.1
        rw [htakes]
        cases hresult : (M.exec o P.world).1 with
        | error e =>
            refine ⟨past, current, by simp [Except.toBool], ?_⟩
            exact h.refuse hi hcur hwaits' hresult
        | ok r =>
            obtain ⟨rfl, hentered⟩ := h.enter hi hcur hwaits' hresult
            exact ⟨past, some i, by simp [Except.toBool], hentered⟩

/-- However the threads are scheduled, their sections are executed one after the other, in
the order in which they took the lock. -/
theorem served (L : Lock M.exec) (hspawns : ∀ o r, M.spawns o r = []) (tags : List Tag)
    (hwaits : ∀ tag ∈ tags, L.Waits (M.body tag)) (w : W) (schedule : List Nat) :
    ∃ past current, past ++ current.toList = L.entries schedule (M.pool w tags) ∧
      L.Served tags w past current (M.run schedule (M.pool w tags)) := by
  have hrun : ∀ (P : Pool Resp ε W Tag) past current, L.Served tags w past current P →
      ∃ past' current', past' ++ current'.toList =
          past ++ current.toList ++ L.entries schedule P ∧
        L.Served tags w past' current' (M.run schedule P) := by
    induction schedule with
    | nil =>
        intro P past current h
        exact ⟨past, current, by simp [entries], h⟩
    | cons i schedule ih =>
        intro P past current h
        obtain ⟨past₁, current₁, heq₁, h₁⟩ := h.step hspawns hwaits i
        obtain ⟨past₂, current₂, heq₂, h₂⟩ := ih (M.step i P) past₁ current₁ h₁
        refine ⟨past₂, current₂, ?_, h₂⟩
        simp only [heq₂, heq₁, entries, List.append_assoc]
  obtain ⟨past, current, heq, h⟩ := hrun _ [] none (Served.start tags w)
  exact ⟨past, current, by simpa using heq, h⟩

/-- What every operation of a program meets when it runs alone, it meets at every step of
every schedule. -/
theorem meets (L : Lock M.exec) (hspawns : ∀ o r, M.spawns o r = []) (tags : List Tag)
    (hwaits : ∀ tag ∈ tags, L.Waits (M.body tag)) {C : Tag → Op → W → Prop}
    (hC : ∀ tag ∈ tags, ∀ w', (M.body tag).wp (watching M.exec (C tag)) (fun _ _ => True) w')
    (w : W) (schedule : List Nat) {i : Nat} {tag : Tag} {o : Op}
    (hnext : M.next? (M.run schedule (M.pool w tags)) i = some (tag, o)) :
    tags[i]? = some tag ∧ C tag o (M.run schedule (M.pool w tags)).world := by
  obtain ⟨past, current, _, h⟩ := L.served hspawns tags hwaits w schedule
  cases M.step_cases i (M.run schedule (M.pool w tags)) with
  | inl hidle =>
      rw [hidle.1] at hnext
      cases hnext
  | inr hmoved =>
      obtain ⟨tag', o', next, hi, _, hnext', _⟩ := hmoved
      rw [hnext', Option.some.injEq, Prod.mk.injEq] at hnext
      obtain ⟨rfl, rfl⟩ := hnext
      have htag := h.tag_eq hi
      refine ⟨htag, ?_⟩
      by_cases hcur : current = some i
      · obtain ⟨_, tag, rest, htag', hrest, hleads, _⟩ := h.inside i hcur
        rw [hi, Option.some.injEq, Thread.mk.injEq] at hrest
        obtain ⟨rfl, rfl⟩ := hrest
        exact (hleads.wp (hC tag' (List.mem_of_getElem? htag) _)).1
      · obtain ⟨_, hbody⟩ := h.at_start hi hcur
        have hstart := hC tag' (List.mem_of_getElem? htag)
          (M.run schedule (M.pool w tags)).world
        rw [hbody] at hstart
        exact hstart.1

end Lock

end CriticalSection

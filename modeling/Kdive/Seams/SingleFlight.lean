import Kdive.Seams.Lifecycle

/-!
# One worker for each subscriber

Of the invalidate workers of one subscriber at most one is running, whatever the calls
and the schedule are.

*The emit lock.*  An emit takes the lock of its target before it looks at the
subscribers and holds it until it returns, so the workers it has started and not yet
recorded are its own business.

*Duty.*  A running invalidate worker that is not in `_overdue` is due, and an emit that
holds the lock answers for it.  What an emit has started is not in `_overdue` before it
is recorded there, so two running workers of one subscriber are both recorded, or both
started by one emit, and so they are one.
-/

namespace Kdive.Lifecycle

open Program Interleaving Dictionary

/-- The worker runs `invalidate` of a subscriber, and is not done. -/
def World.Invalidates (w : World) (who : Instance) (worker : Nat) : Prop :=
  ∃ a, w.workers[worker]? = some a ∧ a.call = .invalidate ∧ a.who = who ∧ a.running = true

/-- Some worker runs `invalidate` of a subscriber. -/
def World.Busy (w : World) (who : Instance) : Prop := ∃ worker, w.Invalidates who worker

/-- The worker was started to run `invalidate` of a subscriber. -/
def World.Started (w : World) (who : Instance) (worker : Nat) : Prop :=
  ∃ a, w.workers[worker]? = some a ∧ a.call = .invalidate ∧ a.who = who

/-- The worker was started, and is done. -/
def World.Finished (w : World) (worker : Nat) : Prop :=
  ∃ a, w.workers[worker]? = some a ∧ a.running = false

theorem World.Started.invalidates {w : World} {who : Instance} {worker : Nat}
    (h : w.Started who worker) (halive : w.isAlive worker = true) : w.Invalidates who worker := by
  obtain ⟨a, ha, hcall, hwho⟩ := h
  rw [World.isAlive, ha] at halive
  exact ⟨a, ha, hcall, hwho, halive⟩

theorem World.Invalidates.started {w : World} {who : Instance} {worker : Nat}
    (h : w.Invalidates who worker) : w.Started who worker :=
  h.imp fun _ ha => ⟨ha.1, ha.2.1, ha.2.2.1⟩

theorem World.Invalidates.alive {w : World} {who : Instance} {worker : Nat}
    (h : w.Invalidates who worker) : w.isAlive worker = true := by
  obtain ⟨a, ha, _, _, hrunning⟩ := h
  rw [World.isAlive, ha]
  exact hrunning

theorem World.Invalidates.not_finished {w : World} {who : Instance} {worker : Nat}
    (h : w.Invalidates who worker) : ¬ w.Finished worker := by
  rintro ⟨a, ha, hdone⟩
  obtain ⟨b, hb, _, _, hrunning⟩ := h
  rw [ha, Option.some.injEq] at hb
  rw [hb, hrunning] at hdone
  cases hdone

/-- A worker is started for one subscriber. -/
theorem World.Started.unique {w : World} {who who' : Instance} {worker : Nat}
    (h : w.Started who worker) (h' : w.Started who' worker) : who = who' := by
  obtain ⟨a, ha, _, hwho⟩ := h
  obtain ⟨b, hb, _, hwho'⟩ := h'
  rw [ha, Option.some.injEq] at hb
  rw [← hwho, ← hwho', hb]

/-! ## What the operations change -/

/-- The workers of `w'` are those of `w`, some of them done, and maybe new ones. -/
structure Later (w w' : World) : Prop where
  started : ∀ {who worker}, w.Started who worker → w'.Started who worker
  finished : ∀ {worker}, w.Finished worker → w'.Finished worker

/-- The workers stay, or end. -/
structure NoNewer (w w' : World) : Prop extends Later w w' where
  invalidates : ∀ {who worker}, w'.Invalidates who worker → w.Invalidates who worker
  alive : ∀ {worker}, w'.isAlive worker = true → w.isAlive worker = true

theorem NoNewer.of_workers {w w' : World} (h : w'.workers = w.workers) : NoNewer w w' where
  started := by
    rintro who worker ⟨a, ha, hrest⟩
    exact ⟨a, h ▸ ha, hrest⟩
  finished := by
    rintro worker ⟨a, ha, hrest⟩
    exact ⟨a, h ▸ ha, hrest⟩
  invalidates := by
    rintro who worker ⟨a, ha, hrest⟩
    exact ⟨a, h ▸ ha, hrest⟩
  alive := by
    intro worker halive
    rwa [World.isAlive, h] at halive

/-- A worker after one of them ended. -/
theorem finish_workers (w : World) (worker other : Nat) :
    (w.finish worker).workers[other]? =
      if worker = other then
        (w.workers[other]?).map fun a => { a with running := false, error := w.raises worker }
      else w.workers[other]? := by
  rw [World.finish, List.getElem?_modify]
  split <;> simp

theorem noNewer_finish (w : World) (worker : Nat) : NoNewer w (w.finish worker) where
  started := by
    rintro who other ⟨a, ha, hcall, hwho⟩
    by_cases heq : worker = other
    · exact ⟨{ a with running := false, error := w.raises worker },
        by rw [finish_workers, if_pos heq, ha, Option.map_some], hcall, hwho⟩
    · exact ⟨a, by rw [finish_workers, if_neg heq, ha], hcall, hwho⟩
  finished := by
    rintro other ⟨a, ha, hdone⟩
    by_cases heq : worker = other
    · exact ⟨{ a with running := false, error := w.raises worker },
        by rw [finish_workers, if_pos heq, ha, Option.map_some], rfl⟩
    · exact ⟨a, by rw [finish_workers, if_neg heq, ha], hdone⟩
  invalidates := by
    rintro who other ⟨a, ha, hcall, hwho, hrunning⟩
    rw [finish_workers] at ha
    split at ha
    · obtain ⟨b, _, rfl⟩ := Option.map_eq_some_iff.mp ha
      cases hrunning
    · exact ⟨a, ha, hcall, hwho, hrunning⟩
  alive := by
    intro other halive
    rw [World.isAlive, finish_workers] at halive
    by_cases heq : worker = other
    · rw [if_pos heq] at halive
      cases hother : w.workers[other]? with
      | none => simp [hother] at halive
      | some a => simp [hother] at halive
    · rwa [if_neg heq] at halive

theorem later_addWorker (w : World) (call : Teardown) (who : Instance) :
    Later w (w.addWorker call who) where
  started := by
    rintro who' worker ⟨a, ha, hrest⟩
    refine ⟨a, ?_, hrest⟩
    rw [World.addWorker, List.getElem?_append_left (List.getElem?_eq_some_iff.mp ha).1, ha]
  finished := by
    rintro worker ⟨a, ha, hrest⟩
    refine ⟨a, ?_, hrest⟩
    rw [World.addWorker, List.getElem?_append_left (List.getElem?_eq_some_iff.mp ha).1, ha]

/-- A worker after one was started is the new one or an old one. -/
theorem workers_addWorker {w : World} {call : Teardown} {who : Instance} {worker : Nat}
    {a : Worker} (h : (w.addWorker call who).workers[worker]? = some a) :
    worker = w.workers.length ∧ a = ⟨call, who, true, none⟩ ∨ w.workers[worker]? = some a := by
  rw [World.addWorker, List.getElem?_append] at h
  split at h
  · exact .inr h
  · next hge =>
      obtain ⟨hlt, ha⟩ := List.getElem?_eq_some_iff.mp h
      have hzero : worker - w.workers.length = 0 := by simpa using hlt
      refine .inl ⟨by omega, ?_⟩
      rw [← ha]
      simp [hzero]

theorem isAlive_addWorker {w : World} {call : Teardown} {who who' : Instance} {worker : Nat}
    (hstarted : w.Started who' worker) : (w.addWorker call who).isAlive worker = w.isAlive worker := by
  obtain ⟨a, ha, _⟩ := hstarted
  rw [World.isAlive, World.isAlive, World.addWorker,
    List.getElem?_append_left (List.getElem?_eq_some_iff.mp ha).1]

/-- An operation adds at most new workers. -/
theorem exec_later (o : Op) (w : World) : Later w (exec o w).2 := by
  have hsame : ∀ {w' : World}, w'.workers = w.workers → Later w w' :=
    fun h => (NoNewer.of_workers h).toLater
  cases o with
  | start call who => exact later_addWorker w call who
  | finish worker => exact (noNewer_finish w worker).toLater
  | emitLock key =>
      rw [exec]
      split <;> exact hsame rfl
  | _ => exact hsame rfl

/-- The lock of a target stays its lock. -/
theorem exec_emitLocks (o : Op) {w : World} {key : TargetKey} {lock : Nat}
    (h : w.emitLocks key = some lock) : (exec o w).2.emitLocks key = some lock := by
  cases o with
  | emitLock key' =>
      rw [exec]
      split
      · exact h
      · next hnone =>
          have hne : key ≠ key' := by
            rintro rfl
            rw [h] at hnone
            cases hnone
          exact (Function.update_of_ne hne _ _).trans h
  | _ => exact h

/-- A held lock is held until it is released. -/
theorem exec_held {o : Op} {w : World} {lock : Nat} (hheld : w.held[lock]? = some true)
    (hkept : o ≠ .release lock) : (exec o w).2.held[lock]? = some true := by
  have hlt : lock < w.held.length := (List.getElem?_eq_some_iff.mp hheld).1
  cases o with
  | emitLock key =>
      rw [exec]
      split
      · exact hheld
      · rw [World.addLock, List.getElem?_append_left hlt, hheld]
  | acquire lock' =>
      by_cases heq : lock' = lock
      · rw [exec, World.setHeld, heq, List.getElem?_set_self hlt]
      · rw [exec, World.setHeld, List.getElem?_set_ne heq, hheld]
  | release lock' =>
      have hne : lock' ≠ lock := fun heq => hkept (heq ▸ rfl)
      rw [exec, World.setHeld, List.getElem?_set_ne hne, hheld]
  | _ => exact hheld

/-- A pruned entry was there, and its worker is alive. -/
theorem prune_overdue {w : World} {who : Instance} {worker : Nat} :
    w.prune.overdue.get? who = some worker ↔
      w.overdue.get? who = some worker ∧ w.isAlive worker = true :=
  Dict.get?_filter

theorem prune_vacant {w : World} {who : Instance} (h : w.overdue.get? who = none) :
    w.prune.overdue.get? who = none := by
  refine Option.eq_none_iff_forall_not_mem.mpr fun worker hworker => ?_
  rw [Option.mem_def, prune_overdue, h] at hworker
  cases hworker.1

/-- The instances an operation records. -/
def Op.recorded : Op → List Instance
  | .recordOverdue late => late.map Prod.fst
  | _ => []

/-- A runnable subscriber has no entry in `_overdue`. -/
theorem split_vacant {w : World} {key : TargetKey} {e : String × Nat}
    (he : e ∈ (w.split key).runnable.entries) : w.overdue.get? ⟨key, e.1, e.2⟩ = none := by
  obtain ⟨hmem, hnot⟩ := List.mem_filter.mp he
  cases hentry : w.overdue.get? ⟨key, e.1, e.2⟩ with
  | none => rfl
  | some worker =>
      refine absurd (List.mem_map.mpr ⟨e, List.mem_filter.mpr ⟨hmem, ?_⟩, rfl⟩)
        (of_decide_eq_true hnot)
      rw [hentry]
      rfl

/-- What is not recorded does not appear in `_overdue`. -/
theorem exec_vacant {o : Op} {w : World} {who : Instance} (h : w.overdue.get? who = none)
    (hnew : who ∉ o.recorded) : (exec o w).2.overdue.get? who = none := by
  cases o with
  | split key => exact prune_vacant h
  | overdueSubscribers => exact prune_vacant h
  | outstandingOverdue => exact prune_vacant h
  | recordOverdue late => exact (Dict.get?_setAll_of_notMem hnew).trans h
  | emitLock key =>
      rw [exec]
      split <;> exact h
  | _ => exact h

/-! ## The table of overdue workers -/

/-- `_overdue` has the recorded workers that are running, and no others. -/
structure Ledger (w : World) : Prop where
  lock_lt : ∀ key lock, w.emitLocks key = some lock → lock < w.held.length
  lock_inj : ∀ key key' lock, w.emitLocks key = some lock → w.emitLocks key' = some lock → key = key'
  listed : ∀ who worker, w.overdue.get? who = some worker → (who, worker) ∈ w.lates
  kept : ∀ who worker, (who, worker) ∈ w.lates → w.isAlive worker = true →
    w.overdue.get? who = some worker
  started : ∀ who worker, (who, worker) ∈ w.lates → w.Started who worker

/-- A world whose locks and tables are the same, and in which workers may have ended. -/
theorem Ledger.of_noNewer {w w' : World} (hw : Ledger w) (hlater : NoNewer w w')
    (hlocks : w'.emitLocks = w.emitLocks) (hheld : w'.held.length = w.held.length)
    (hoverdue : w'.overdue = w.overdue) (hlates : w'.lates = w.lates) : Ledger w' where
  lock_lt := by
    rw [hlocks, hheld]
    exact hw.lock_lt
  lock_inj := by
    rw [hlocks]
    exact hw.lock_inj
  listed := by
    rw [hoverdue, hlates]
    exact hw.listed
  kept := by
    rw [hoverdue, hlates]
    exact fun who worker hlate halive => hw.kept who worker hlate (hlater.alive halive)
  started := by
    rw [hlates]
    exact fun who worker hlate => hlater.started (hw.started who worker hlate)

theorem Ledger.prune {w : World} (hw : Ledger w) : Ledger w.prune where
  lock_lt := hw.lock_lt
  lock_inj := hw.lock_inj
  listed := fun who worker h => hw.listed who worker (prune_overdue.mp h).1
  kept := fun who worker hlate halive => prune_overdue.mpr ⟨hw.kept who worker hlate halive, halive⟩
  started := hw.started

theorem Ledger.addWorker {w : World} (hw : Ledger w) (call : Teardown) (who : Instance) :
    Ledger (w.addWorker call who) where
  lock_lt := hw.lock_lt
  lock_inj := hw.lock_inj
  listed := hw.listed
  kept := by
    intro who' worker hlate halive
    rw [isAlive_addWorker (hw.started who' worker hlate)] at halive
    exact hw.kept who' worker hlate halive
  started := fun who' worker hlate =>
    (later_addWorker w call who).started (hw.started who' worker hlate)

theorem Ledger.addLock {w : World} (hw : Ledger w) (key : TargetKey) : Ledger (w.addLock key) where
  lock_lt := by
    intro key' lock h
    rw [World.addLock, List.length_append]
    by_cases hkey : key' = key
    · subst hkey
      simp only [World.addLock, Function.update_self, Option.some.injEq] at h
      exact h ▸ Nat.lt_succ_self _
    · simp only [World.addLock, Function.update_of_ne hkey] at h
      exact Nat.lt_succ_of_lt (hw.lock_lt key' lock h)
  lock_inj := by
    -- the new lock is no other's
    have hnew : ∀ key', w.emitLocks key' ≠ some w.held.length :=
      fun key' h => Nat.lt_irrefl _ (hw.lock_lt key' _ h)
    intro key₁ key₂ lock h₁ h₂
    simp only [World.addLock, Function.update_apply] at h₁ h₂
    split at h₁
    · next heq₁ =>
        split at h₂
        · next heq₂ => exact heq₁.trans heq₂.symm
        · exact absurd (h₂.trans h₁.symm) (hnew key₂)
    · split at h₂
      · exact absurd (h₁.trans h₂.symm) (hnew key₁)
      · exact hw.lock_inj key₁ key₂ lock h₁ h₂
  listed := hw.listed
  kept := hw.kept
  started := hw.started

/-- Workers are recorded whose subscribers had no entry. -/
theorem Ledger.recordOverdue {w : World} (hw : Ledger w) {late : List (Instance × Nat)}
    (hnodup : (late.map Prod.fst).Nodup)
    (hlate : ∀ p ∈ late, w.overdue.get? p.1 = none ∧ w.Started p.1 p.2) :
    Ledger (w.recordOverdue late) where
  lock_lt := hw.lock_lt
  lock_inj := hw.lock_inj
  listed := by
    intro who worker h
    by_cases hwho : who ∈ late.map Prod.fst
    · obtain ⟨p, hp, rfl⟩ := List.mem_map.mp hwho
      have hentry : (w.recordOverdue late).overdue.get? p.1 = some p.2 :=
        Dict.get?_setAll_of_mem hnodup hp
      rw [hentry, Option.some.injEq] at h
      exact List.mem_append_left _ (h ▸ hp)
    · have hold : (w.recordOverdue late).overdue.get? who = w.overdue.get? who :=
        Dict.get?_setAll_of_notMem hwho
      exact List.mem_append_right _ (hw.listed who worker (hold ▸ h))
  kept := by
    intro who worker hmem halive
    rcases List.mem_append.mp hmem with hnew | hold
    · exact Dict.get?_setAll_of_mem hnodup hnew
    · have hentry : w.overdue.get? who = some worker := hw.kept who worker hold halive
      have hwho : who ∉ late.map Prod.fst := by
        intro hwho
        obtain ⟨p, hp, rfl⟩ := List.mem_map.mp hwho
        rw [(hlate p hp).1] at hentry
        cases hentry
      exact (Dict.get?_setAll_of_notMem hwho).trans hentry
  started := by
    intro who worker hmem
    rcases List.mem_append.mp hmem with hnew | hold
    · exact (hlate _ hnew).2
    · exact hw.started who worker hold

theorem ledger_fresh (raises : Nat → Option String) : Ledger (.fresh raises) where
  lock_lt := nofun
  lock_inj := nofun
  listed := nofun
  kept := nofun
  started := nofun

/-! ## What an emit knows -/

/-- What an emit that holds its lock knows. -/
structure Holding where
  key : TargetKey
  lock : Nat
  /-- The subscribers it may invoke. -/
  runnable : List Instance
  /-- The workers it has started and not recorded. -/
  launched : List (Instance × Nat)
  /-- The workers it has found done. -/
  ended : List Nat

/-- It is true of the world. -/
structure Holding.Holds (h : Holding) (w : World) : Prop where
  located : w.emitLocks h.key = some h.lock
  held : w.held[h.lock]? = some true
  runnable : ∀ who ∈ h.runnable, who.targetKey = h.key ∧ w.overdue.get? who = none
  nodup : (h.launched.map Prod.fst).Nodup
  launched : ∀ p ∈ h.launched,
    p.1.targetKey = h.key ∧ w.overdue.get? p.1 = none ∧ w.Started p.1 p.2
  ended : ∀ worker ∈ h.ended, w.Finished worker

/-- Where a call is. -/
inductive Ghost where
  | out
  /-- It knows its lock. -/
  | located (key : TargetKey) (lock : Nat)
  | holding (h : Holding)

def Ghost.Holds (w : World) : Ghost → Prop
  | .out => True
  | .located key lock => w.emitLocks key = some lock
  | .holding h => h.Holds w

/-- The state of an emit that has just taken its lock. -/
def Holding.start (key : TargetKey) (lock : Nat) : Holding := ⟨key, lock, [], [], []⟩

/-- What a call needs for an operation, and where it is after it. -/
def flightRule : Prog.Rule Resp Empty Ghost
  | .emitLock key, Q, g => g = .out ∧ ∀ lock, Q (.ok lock) (.located key lock)
  | .acquire lock, Q, g => ∃ key, g = .located key lock ∧ Q (.ok ()) (.holding (.start key lock))
  | .split key, Q, g => ∃ lock, g = .holding (.start key lock) ∧ ∀ split, Q (.ok split)
      (.holding { Holding.start key lock with
        runnable := split.runnable.entries.map fun e => ⟨key, e.1, e.2⟩ })
  | .start .invalidate who, Q, g => ∃ h, g = .holding h ∧ who ∈ h.runnable ∧
      who ∉ h.launched.map Prod.fst ∧
      ∀ worker, Q (.ok worker) (.holding { h with launched := h.launched ++ [(who, worker)] })
  | .isAlive .invalidate who worker, Q, g => ∃ h, g = .holding h ∧ (who, worker) ∈ h.launched ∧
      Q (.ok true) (.holding h) ∧ Q (.ok false) (.holding { h with ended := worker :: h.ended })
  | .recordOverdue late, Q, g => ∃ h, g = .holding h ∧ List.Sublist late h.launched ∧
      (∀ p ∈ h.launched, p ∈ late ∨ p.2 ∈ h.ended) ∧ Q (.ok ()) (.holding (.start h.key h.lock))
  | .release lock, Q, g => ∃ key, g = .holding (.start key lock) ∧ Q (.ok ()) .out
  | _, Q, g => ∀ r, Q (.ok r) g

/-- An operation that teaches an emit nothing. -/
def Op.Free : Op → Prop
  | .emitLock _ | .acquire _ | .split _ | .start .invalidate _ | .isAlive .invalidate _ _
  | .recordOverdue _ | .release _ => False
  | _ => True

theorem flightRule_free {o : Op} (ho : o.Free) {Q : Except Empty (Resp o) → Ghost → Prop} {g : Ghost} :
    flightRule o Q g ↔ ∀ r, Q (.ok r) g := by
  match o, ho with
  | .subscribe .., _ | .unsubscribe .., _ | .start .forceDrop _, _ | .isAlive .forceDrop _ _, _
  | .errorOf _, _ | .reply _, _ | .overdueSubscribers, _ | .outstandingOverdue, _
  | .finish _, _ => exact Iff.rfl

theorem flightRule_mono : flightRule.Mono := by
  intro o Q Q' g hQ h
  by_cases ho : o.Free
  · rw [flightRule_free ho] at h ⊢
    exact fun r => hQ _ _ (h r)
  · match o, ho with
    | .emitLock _, _ => exact ⟨h.1, fun lock => hQ _ _ (h.2 lock)⟩
    | .acquire _, _ => exact h.imp fun _ h => ⟨h.1, hQ _ _ h.2⟩
    | .split _, _ => exact h.imp fun _ h => ⟨h.1, fun split => hQ _ _ (h.2 split)⟩
    | .start .invalidate _, _ =>
        exact h.imp fun _ h => ⟨h.1, h.2.1, h.2.2.1, fun worker => hQ _ _ (h.2.2.2 worker)⟩
    | .isAlive .invalidate _ _, _ =>
        exact h.imp fun _ h => ⟨h.1, h.2.1, hQ _ _ h.2.2.1, hQ _ _ h.2.2.2⟩
    | .recordOverdue _, _ => exact h.imp fun _ h => ⟨h.1, h.2.1, h.2.2.1, hQ _ _ h.2.2.2⟩
    | .release _, _ => exact h.imp fun _ h => ⟨h.1, hQ _ _ h.2⟩
    | .subscribe .., ho | .unsubscribe .., ho | .start .forceDrop _, ho
    | .isAlive .forceDrop _ _, ho | .errorOf _, ho | .reply _, ho | .overdueSubscribers, ho
    | .outstandingOverdue, ho | .finish _, ho => exact absurd trivial ho

/-- A running invalidate worker that `_overdue` does not have is due. -/
def flight : Discipline Resp Empty World Activity Ghost Nat where
  rule := fun _ => flightRule
  post := fun _ _ g => g = .out
  inv := Ledger
  knows := fun _ w g => g.Holds w
  start := fun _ => .out
  due := fun w worker => ∃ who, w.Invalidates who worker ∧ w.overdue.get? who ≠ some worker
  owns := fun g worker => ∃ h, g = .holding h ∧ ∃ who, (who, worker) ∈ h.launched
  apart := fun g g' => ∀ h h', g = .holding h → g' = .holding h' → h.lock ≠ h'.lock

variable {deadline : String}

/-- What an emit that holds its lock knows survives what does not concern it. -/
theorem Holding.Holds.exec {h : Holding} {w : World} (hw : h.Holds w) {o : Op}
    (hrelease : o ≠ .release h.lock)
    (hrecorded : ∀ who, who.targetKey = h.key → who ∉ o.recorded) : h.Holds (exec o w).2 where
  located := exec_emitLocks o hw.located
  held := exec_held hw.held hrelease
  runnable := fun who hwho =>
    have hold := hw.runnable who hwho
    ⟨hold.1, exec_vacant hold.2 (hrecorded who hold.1)⟩
  nodup := hw.nodup
  launched := fun p hp =>
    have hold := hw.launched p hp
    ⟨hold.1, exec_vacant hold.2.1 (hrecorded p.1 hold.1), (exec_later o w).started hold.2.2⟩
  ended := fun worker hworker => (exec_later o w).finished (hw.ended worker hworker)

/-- An operation that is not `recordOverdue` records nothing. -/
theorem Holding.Holds.exec_quiet {h : Holding} {w : World} (hw : h.Holds w) {o : Op}
    (hrelease : o ≠ .release h.lock) (hquiet : o.recorded = []) : h.Holds (Lifecycle.exec o w).2 :=
  hw.exec hrelease fun _ _ hwho => by rw [hquiet] at hwho; cases hwho

theorem Ghost.Holds.exec_free {g : Ghost} {w : World} (hw : g.Holds w) {o : Op} (ho : o.Free) :
    g.Holds (exec o w).2 := by
  have hrelease : ∀ lock, o ≠ .release lock := by
    rintro lock rfl
    exact ho
  have hquiet : o.recorded = [] := by
    cases o with
    | recordOverdue late => exact absurd ho id
    | _ => rfl
  cases g with
  | out => trivial
  | located key lock => exact exec_emitLocks o hw
  | holding h => exact Holding.Holds.exec_quiet hw (hrelease h.lock) hquiet

/-- An operation that teaches nothing makes nothing due. -/
theorem due_free {o : Op} (ho : o.Free) {w : World} {worker : Nat}
    (h : flight.due (exec o w).2 worker) : flight.due w worker := by
  obtain ⟨who, hrunning, hentry⟩ := h
  have hsame : ∀ {w' : World}, w'.workers = w.workers → w'.Invalidates who worker →
      w.Invalidates who worker := fun h => (NoNewer.of_workers h).invalidates
  have hpruned : w.Invalidates who worker → w.prune.overdue.get? who ≠ some worker →
      w.overdue.get? who ≠ some worker :=
    fun hrunning hentry heq => hentry (prune_overdue.mpr ⟨heq, hrunning.alive⟩)
  match o, ho with
  | .start .forceDrop who', _ =>
      obtain ⟨a, ha, hcall, hwho, hrun⟩ := hrunning
      rcases workers_addWorker ha with ⟨_, rfl⟩ | hold
      · cases hcall
      · exact ⟨who, ⟨a, hold, hcall, hwho, hrun⟩, hentry⟩
  | .finish worker', _ => exact ⟨who, (noNewer_finish w worker').invalidates hrunning, hentry⟩
  | .overdueSubscribers, _ => exact ⟨who, hsame rfl hrunning, hpruned (hsame rfl hrunning) hentry⟩
  | .outstandingOverdue, _ => exact ⟨who, hsame rfl hrunning, hpruned (hsame rfl hrunning) hentry⟩
  | .subscribe .., _ | .unsubscribe .., _ | .isAlive .forceDrop _ _, _ | .errorOf _, _
  | .reply _, _ => exact ⟨who, hsame rfl hrunning, hentry⟩

section Allows

variable {C : Activity → Op → World → Prop} {tag : Activity} {o : Op} {w : World} {g : Ghost}
  {Q : Except Empty (Resp o) → Ghost → Prop}

theorem flight_inv (h : flight.Allows (machine deadline) C tag o w g Q) : Ledger (exec o w).2 := by
  have hw : Ledger w := h.inv
  have hsame : ∀ w' : World, w'.workers = w.workers → w'.emitLocks = w.emitLocks →
      w'.held.length = w.held.length → w'.overdue = w.overdue → w'.lates = w.lates → Ledger w' :=
    fun w' hworkers => hw.of_noNewer (.of_workers hworkers)
  have hrule : flightRule o Q g := h.rule
  have hknows : g.Holds w := h.knows
  cases o with
  | emitLock key =>
      rw [exec]
      split
      · exact hw
      · exact hw.addLock key
  | split key => exact hw.prune
  | overdueSubscribers => exact hw.prune
  | outstandingOverdue => exact hw.prune
  | start call who => exact hw.addWorker call who
  | finish worker => exact hw.of_noNewer (noNewer_finish w worker) rfl rfl rfl rfl
  | recordOverdue late =>
      obtain ⟨mine, rfl, hlate, _, _⟩ := hrule
      have hknows : mine.Holds w := hknows
      exact hw.recordOverdue (hknows.nodup.sublist (hlate.map _)) fun p hp =>
        (hknows.launched p (hlate.subset hp)).2
  | acquire lock => exact hsame _ rfl rfl (List.length_set ..) rfl rfl
  | release lock => exact hsame _ rfl rfl (List.length_set ..) rfl rfl
  | _ => exact hsame _ rfl rfl rfl rfl rfl

/-- What one emit does is none of the others' business. -/
theorem flight_frame (h : flight.Allows (machine deadline) C tag o w g Q) {g' : Ghost}
    (hg' : g'.Holds w) (hapart : flight.apart g g') : g'.Holds (exec o w).2 := by
  have hrule : flightRule o Q g := h.rule
  have hknows : g.Holds w := h.knows
  cases g' with
  | out => trivial
  | located key lock => exact exec_emitLocks o hg'
  | holding h' =>
      have hg' : h'.Holds w := hg'
      cases o with
      | release lock =>
          obtain ⟨key, rfl, _⟩ := hrule
          refine hg'.exec_quiet (fun heq => ?_) rfl
          exact hapart _ h' rfl rfl (Op.release.inj heq)
      | recordOverdue late =>
          obtain ⟨mine, rfl, hlate, _, _⟩ := hrule
          have hknows : mine.Holds w := hknows
          refine hg'.exec nofun fun who hwho hrecorded => ?_
          -- the recorded instances are of another target
          obtain ⟨p, hp, rfl⟩ := List.mem_map.mp hrecorded
          have hkey : mine.key = h'.key :=
            (hknows.launched p (hlate.subset hp)).1.symm.trans hwho
          have hlock := hknows.located
          rw [hkey, hg'.located, Option.some.injEq] at hlock
          exact hapart mine h' rfl rfl hlock.symm
      | _ => exact hg'.exec_quiet nofun rfl

/-- A call that does not take or leave a lock stays apart, and hands on what it owns. -/
theorem flight_hands {w' : World} {h h' : Holding}
    (hdue : ∀ worker, flight.due w' worker → flight.due w worker ∨ ∃ who, (who, worker) ∈ h'.launched)
    (hlaunched : ∀ p ∈ h.launched, p ∈ h'.launched) :
    flight.Hands w w' (.holding h) (.holding h') := by
  intro worker hworker
  by_cases howns : ∃ who, (who, worker) ∈ h'.launched
  · exact .inl ⟨h', rfl, howns⟩
  · refine .inr ⟨(hdue worker hworker).resolve_right howns, ?_⟩
    rintro ⟨_, heq, who, hmem⟩
    cases heq
    exact howns ⟨who, hlaunched _ hmem⟩

theorem flight_apart {h h' : Holding} (hlock : h'.lock = h.lock) :
    flight.StaysApart w (.holding h) (.holding h') := by
  intro _ other _ hapart k k' hk hk'
  cases hk
  rw [hlock]
  exact hapart h k' rfl hk'

/-- A worker that is due after a step that starts and ends none was due before it. -/
theorem due_of_same {w' : World} {worker : Nat} (hworkers : w'.workers = w.workers)
    (hoverdue : w'.overdue = w.overdue) (h : flight.due w' worker) : flight.due w worker := by
  obtain ⟨who, hrunning, hentry⟩ := h
  exact ⟨who, (NoNewer.of_workers hworkers).invalidates hrunning, hoverdue ▸ hentry⟩

theorem flight_learn (h : flight.Allows (machine deadline) C tag o w g Q) :
    ∃ g', g'.Holds (exec o w).2 ∧ Q (exec o w).1 g' ∧ flight.Hands w (exec o w).2 g g' ∧
      flight.StaysApart w g g' := by
  have hrule : flightRule o Q g := h.rule
  have hknows : g.Holds w := h.knows
  have hstays : flight.StaysApart w g g := fun _ _ _ hapart => hapart
  by_cases ho : o.Free
  · rw [flightRule_free ho] at hrule
    have hresult : ∃ r, (exec o w).1 = .ok r := by
      cases hr : (exec o w).1 with
      | error e => cases e
      | ok r => exact ⟨r, rfl⟩
    obtain ⟨r, hr⟩ := hresult
    refine ⟨g, hknows.exec_free ho, hr ▸ hrule r, fun worker hdue => ?_, hstays⟩
    by_cases howns : flight.owns g worker
    · exact .inl howns
    · exact .inr ⟨due_free ho hdue, howns⟩
  · cases o with
    | emitLock key =>
        obtain ⟨rfl, hQ⟩ := hrule
        have hlocated : ∃ lock, (exec (.emitLock key) w).1 = .ok lock ∧
            (exec (.emitLock key) w).2.emitLocks key = some lock := by
          rw [exec]
          split
          · next lock hlock => exact ⟨lock, rfl, hlock⟩
          · exact ⟨_, rfl, Function.update_self ..⟩
        obtain ⟨lock, hresult, hlock⟩ := hlocated
        refine ⟨.located key lock, hlock, hresult ▸ hQ lock, fun worker hdue => ?_, ?_⟩
        · refine .inr ⟨?_, nofun⟩
          rw [exec] at hdue
          split at hdue
          · exact hdue
          · exact due_of_same rfl rfl hdue
        · exact fun _ _ _ _ _ _ heq => nomatch heq
    | acquire lock =>
        obtain ⟨key, rfl, hQ⟩ := hrule
        have hfree : w.held[lock]? = some false := of_decide_eq_true h.ready
        have hlt : lock < w.held.length := (List.getElem?_eq_some_iff.mp hfree).1
        refine ⟨.holding (.start key lock), ?_, hQ, fun worker hdue => ?_, ?_⟩
        · exact ⟨hknows, List.getElem?_set_self hlt, nofun, List.nodup_nil, nofun, nofun⟩
        · exact .inr ⟨due_of_same rfl rfl hdue, nofun⟩
        · -- the lock was free, so nobody else holds it
          rintro _ other hother _ k k' ⟨⟩ rfl heq
          have hheld : w.held[k'.lock]? = some true := Holding.Holds.held hother
          have hlock : lock = k'.lock := heq
          rw [← hlock, hfree] at hheld
          cases hheld
    | split key =>
        obtain ⟨lock, rfl, hQ⟩ := hrule
        have hknows : (Holding.start key lock).Holds w := hknows
        refine ⟨_, ?_, hQ _, flight_hands (fun worker hdue => .inl ?_) (fun p hp => hp),
          flight_apart rfl⟩
        · refine ⟨hknows.located, hknows.held, fun who hwho => ?_, List.nodup_nil, nofun, nofun⟩
          obtain ⟨e, he, rfl⟩ := List.mem_map.mp hwho
          exact ⟨rfl, split_vacant he⟩
        · obtain ⟨who, hrunning, hentry⟩ := hdue
          have hold : w.Invalidates who worker := (NoNewer.of_workers rfl).invalidates hrunning
          exact ⟨who, hold, fun heq => hentry (prune_overdue.mpr ⟨heq, hold.alive⟩)⟩
    | start call who =>
        cases call with
        | forceDrop => exact absurd trivial ho
        | invalidate =>
            obtain ⟨mine, rfl, hrunnable, hnew, hQ⟩ := hrule
            have hknows : mine.Holds w := hknows
            have hlater := hknows.exec_quiet (o := .start .invalidate who) nofun rfl
            refine ⟨_, ?_, hQ _, flight_hands (fun worker hdue => ?_)
              (fun p hp => List.mem_append_left _ hp), flight_apart rfl⟩
            · refine ⟨hlater.located, hlater.held, hlater.runnable, ?_, fun p hp => ?_, hlater.ended⟩
              · rw [List.map_append]
                refine List.nodup_append.mpr ⟨hknows.nodup, List.nodup_singleton _, ?_⟩
                rintro a ha b hb rfl
                have hwho : a = who := List.mem_singleton.mp hb
                exact hnew (hwho ▸ ha)
              · rcases List.mem_append.mp hp with hp | hp
                · exact hlater.launched p hp
                · rw [List.mem_singleton.mp hp]
                  have hwho := hlater.runnable who hrunnable
                  exact ⟨hwho.1, hwho.2, ⟨.invalidate, who, true, none⟩,
                    List.getElem?_concat_length .., rfl, rfl⟩
            · obtain ⟨who', ⟨a, ha, hcall, hwho, hrun⟩, hentry⟩ := hdue
              rcases workers_addWorker ha with ⟨rfl, rfl⟩ | hold
              · exact .inr ⟨who, List.mem_append_right _ (List.mem_singleton_self _)⟩
              · exact .inl ⟨who', ⟨a, hold, hcall, hwho, hrun⟩, hentry⟩
    | isAlive call who worker =>
        cases call with
        | forceDrop => exact absurd trivial ho
        | invalidate =>
            obtain ⟨mine, rfl, hlaunched, hyes, hno⟩ := hrule
            have hknows : mine.Holds w := hknows
            cases halive : w.isAlive worker with
            | true =>
                refine ⟨.holding mine, hknows, ?_,
                  flight_hands (fun _ hdue => .inl hdue) fun p hp => hp, flight_apart rfl⟩
                rw [exec, halive]
                exact hyes
            | false =>
                refine ⟨.holding { mine with ended := worker :: mine.ended },
                  ⟨hknows.located, hknows.held, hknows.runnable, hknows.nodup, hknows.launched,
                    fun other hother => ?_⟩, ?_,
                  flight_hands (fun _ hdue => .inl hdue) fun p hp => hp, flight_apart rfl⟩
                · cases hother with
                  | head =>
                      obtain ⟨a, ha, _⟩ := (hknows.launched _ hlaunched).2.2
                      rw [World.isAlive, ha] at halive
                      exact ⟨a, ha, halive⟩
                  | tail _ hother => exact hknows.ended other hother
                · rw [exec, halive]
                  exact hno
    | recordOverdue late =>
        obtain ⟨mine, rfl, hlate, hall, hQ⟩ := hrule
        have hknows : mine.Holds w := hknows
        refine ⟨.holding (.start mine.key mine.lock),
          ⟨hknows.located, hknows.held, nofun, List.nodup_nil, nofun, nofun⟩, hQ,
          fun worker hdue => ?_, flight_apart rfl⟩
        obtain ⟨who, hrunning, hentry⟩ := hdue
        have hold : w.Invalidates who worker := (NoNewer.of_workers rfl).invalidates hrunning
        have hnodup : (late.map Prod.fst).Nodup := hknows.nodup.sublist (hlate.map _)
        refine .inr ⟨⟨who, hold, fun heq => ?_⟩, ?_⟩
        · -- an entry that was there is still there
          have hwho : who ∉ late.map Prod.fst := by
            intro hwho
            obtain ⟨p, hp, rfl⟩ := List.mem_map.mp hwho
            rw [(hknows.launched p (hlate.subset hp)).2.1] at heq
            cases heq
          exact hentry ((Dict.get?_setAll_of_notMem hwho).trans heq)
        · -- its own workers are recorded or done
          rintro ⟨_, hmine, who', hmem⟩
          cases hmine
          cases hall _ hmem with
          | inr hended => exact hold.not_finished (hknows.ended _ hended)
          | inl hrecorded =>
              have hwho : who' = who :=
                ((hknows.launched _ hmem).2.2).unique hold.started
              exact hentry (hwho ▸ Dict.get?_setAll_of_mem hnodup hrecorded)
    | release lock =>
        obtain ⟨key, rfl, hQ⟩ := hrule
        refine ⟨.out, trivial, hQ, fun worker hdue => .inr ⟨due_of_same rfl rfl hdue, ?_⟩, ?_⟩
        · rintro ⟨_, heq, who, hmem⟩
          cases heq
          cases hmem
        · exact fun _ _ _ _ _ _ heq => nomatch heq
    | _ => exact absurd trivial ho

end Allows

/-! ## The programs -/

/-- A program that teaches nothing needs what its end needs. -/
theorem wp_free {α : Type} {p : Run α} (hp : p.Calls Op.Free) {Q : Except Empty α → Ghost → Prop}
    {g : Ghost} (hQ : ∀ a, Q (.ok a) g) : p.wp flightRule Q g := by
  refine hp.wp (K := fun g' => g' = g) (fun o ho R g' hg' hR => ?_) (fun r g' hg' => ?_) rfl
  · rw [flightRule_free ho]
    exact fun r => hR _ _ hg'
  · cases r with
    | error e => cases e
    | ok a => exact hg' ▸ hQ a

/-- Starting the runnable subscribers. -/
theorem startAll_flight {key : TargetKey} {fns : List (String × Nat)} {h : Holding}
    {Q : Except Empty (List (Instance × Nat)) → Ghost → Prop}
    (hrunnable : ∀ e ∈ fns, ⟨key, e.1, e.2⟩ ∈ h.runnable) (hnodup : (fns.map Prod.fst).Nodup)
    (hnew : ∀ e ∈ fns, ∀ p ∈ h.launched, p.1.name ≠ e.1)
    (hQ : ∀ workers, workers.map Prod.fst = fns.map (fun e => (⟨key, e.1, e.2⟩ : Instance)) →
      Q (.ok workers) (.holding { h with launched := h.launched ++ workers })) :
    (startAll .invalidate key fns).wp flightRule Q (.holding h) := by
  induction fns generalizing h Q with
  | nil =>
      have hend := hQ [] rfl
      rwa [List.append_nil] at hend
  | cons e fns ih =>
      rw [List.map_cons, List.nodup_cons] at hnodup
      rw [startAll, Prog.wp_bind, Prog.wp_perform]
      refine ⟨h, rfl, hrunnable e List.mem_cons_self, fun hmem => ?_, fun worker => ?_⟩
      · obtain ⟨p, hp, hwho⟩ := List.mem_map.mp hmem
        exact hnew e List.mem_cons_self p hp (hwho ▸ rfl)
      · dsimp only
        rw [Prog.wp_bind]
        refine ih (fun e' he' => hrunnable e' (List.mem_cons_of_mem _ he')) hnodup.2
          (fun e' he' p hp => ?_) fun workers hworkers => ?_
        · rcases List.mem_append.mp hp with hp | hp
          · exact hnew e' (List.mem_cons_of_mem _ he') p hp
          · -- the names are distinct
            rw [List.mem_singleton.mp hp]
            exact fun heq => hnodup.1 (List.mem_map.mpr ⟨e', he', heq.symm⟩)
        · have hend := hQ ((⟨key, e.1, e.2⟩, worker) :: workers) (by rw [List.map_cons, hworkers]; rfl)
          simpa [List.append_assoc] using hend

/-- Asking the workers that were started. -/
theorem stillAlive_flight {workers : List (Instance × Nat)} {h : Holding}
    {Q : Except Empty (List (Instance × Nat)) → Ghost → Prop}
    (hworkers : ∀ p ∈ workers, p ∈ h.launched)
    (hQ : ∀ alive ended, List.Sublist alive workers → (∀ worker ∈ h.ended, worker ∈ ended) →
      (∀ p ∈ workers, p ∈ alive ∨ p.2 ∈ ended) →
      Q (.ok alive) (.holding { h with ended := ended })) :
    (stillAlive .invalidate workers).wp flightRule Q (.holding h) := by
  induction workers generalizing h Q with
  | nil => exact hQ [] h.ended (List.Sublist.refl _) (fun _ hended => hended) nofun
  | cons p workers ih =>
      rw [stillAlive, Prog.wp_bind, Prog.wp_perform]
      have hrest : ∀ q ∈ workers, q ∈ h.launched :=
        fun q hq => hworkers q (List.mem_cons_of_mem _ hq)
      refine ⟨h, rfl, hworkers p List.mem_cons_self, ?_, ?_⟩
      · -- it is alive
        dsimp only
        rw [Prog.wp_bind]
        refine ih hrest fun alive ended hsub hmore hall => ?_
        refine hQ _ ended (hsub.cons_cons p) hmore fun q hq => ?_
        cases hq with
        | head => exact .inl List.mem_cons_self
        | tail _ hq => exact (hall q hq).imp_left (List.mem_cons_of_mem _)
      · -- it is done
        dsimp only
        rw [Prog.wp_bind]
        refine ih hrest fun alive ended hsub hmore hall => ?_
        refine hQ _ ended (hsub.cons p)
          (fun worker hworker => hmore worker (List.mem_cons_of_mem _ hworker)) fun q hq => ?_
        cases hq with
        | head => exact .inr (hmore p.2 List.mem_cons_self)
        | tail _ hq => exact hall q hq

theorem collectErrors_free (alive : List String) (workers : List (Instance × Nat))
    (errors : Dict String String) : (collectErrors alive workers errors).Calls Op.Free := by
  induction workers generalizing errors with
  | nil => trivial
  | cons p workers ih =>
      rw [collectErrors]
      split
      · exact ih errors
      · refine .bind (.call trivial) fun error => ?_
        cases error with
        | none => exact ih errors
        | some error => exact ih _

theorem settleDrops_free (alive : List String) (workers : List (Instance × Nat))
    (dropped : Dropped) : (settleDrops alive workers dropped).Calls Op.Free := by
  induction workers generalizing dropped with
  | nil => trivial
  | cons p workers ih =>
      rw [settleDrops]
      split
      · exact ih _
      · refine .bind (.call trivial) fun error => ?_
        cases error with
        | none => exact ih _
        | some error => exact ih _

theorem startAll_free (key : TargetKey) (fns : List (String × Nat)) :
    (startAll .forceDrop key fns).Calls Op.Free := by
  induction fns with
  | nil => trivial
  | cons e fns ih => exact .bind (.call trivial) fun _ => .bind ih fun _ => trivial

theorem stillAlive_free (workers : List (Instance × Nat)) :
    (stillAlive .forceDrop workers).Calls Op.Free := by
  induction workers with
  | nil => trivial
  | cons p workers ih => exact .bind (.call trivial) fun _ => .bind ih fun _ => trivial

theorem forceDrop_free (deadline : String) (key : TargetKey) (late : List (Instance × Nat))
    (errors : Dict String String) :
    (forceDropNewlyOverdue deadline key late errors).Calls Op.Free := by
  rw [forceDropNewlyOverdue]
  split
  · trivial
  · refine .bind ?_ fun drops => settleDrops_free _ _ _
    exact .bind (startAll_free key _) fun workers => .bind (stillAlive_free workers) fun _ => trivial

theorem emit_flight (deadline : String) (event : LifecycleEvent) :
    (emit deadline event).wp flightRule (fun _ g => g = .out) .out := by
  rw [emit, Prog.wp_bind, Prog.wp_perform]
  refine ⟨rfl, fun lock => ?_⟩
  dsimp only
  rw [Prog.wp_bind, Prog.wp_perform]
  refine ⟨event.targetKey, rfl, ?_⟩
  dsimp only
  rw [Prog.wp_bind, Prog.wp_perform]
  refine ⟨lock, rfl, fun split => ?_⟩
  dsimp only
  rw [runBounded, Prog.wp_bind, Prog.wp_bind]
  refine startAll_flight (fun e he => List.mem_map.mpr ⟨e, he, rfl⟩) split.runnable.nodup nofun
    fun workers hworkers => ?_
  dsimp only
  rw [Prog.wp_bind]
  refine stillAlive_flight (fun p hp => List.mem_append_right _ hp) fun alive ended hsub _ hall => ?_
  dsimp only
  rw [Prog.wp_pure]
  dsimp only
  rw [Prog.wp_bind, Prog.wp_perform]
  refine ⟨_, rfl, hsub.trans (List.sublist_append_right _ _), hall, ?_⟩
  dsimp only
  rw [Prog.wp_bind]
  refine wp_free (collectErrors_free _ _ _) fun errors => ?_
  dsimp only
  rw [Prog.wp_bind]
  refine wp_free (forceDrop_free _ _ _ _) fun dropped => ?_
  dsimp only
  rw [Prog.wp_bind, Prog.wp_perform]
  refine fun _ => ?_
  dsimp only
  rw [Prog.wp_perform]
  exact ⟨event.targetKey, rfl, rfl⟩

theorem body_flight (deadline : String) (tag : Activity) :
    ((machine deadline).body tag).wp flightRule (fun _ g => g = .out) .out := by
  have hfree : ∀ {p : Run Unit}, p.Calls Op.Free → p.wp flightRule (fun _ g => g = .out) .out :=
    fun hp => wp_free hp fun _ => rfl
  have hact : ∀ {o : Op}, o.Free → (act o).Calls Op.Free := fun ho => .call ho
  cases tag with
  | worker worker => exact hfree (hact (o := .finish worker) trivial)
  | call c =>
      cases c with
      | emit event => exact emit_flight deadline event
      | subscribe key name subscriber =>
          exact hfree (hact (o := .subscribe key name subscriber) trivial)
      | unsubscribe key name => exact hfree (hact (o := .unsubscribe key name) trivial)
      | overdueSubscribers => exact hfree (.void (hact (o := .overdueSubscribers) trivial))
      | outstandingOverdue => exact hfree (.void (hact (o := .outstandingOverdue) trivial))

/-! ## Every reachable state -/

theorem flight_sound (deadline : String) :
    Sound (machine deadline) flight fun _ _ _ => True where
  inv := flight_inv
  learn := flight_learn
  frame := fun h _ _ hg' hapart => flight_frame h hg' hapart
  spawn := fun _ tag' _ => ⟨trivial, body_flight deadline tag'⟩
  fresh := fun _ _ _ => ⟨fun _ _ => nofun, fun _ _ _ => nofun, trivial⟩
  symm := fun _ _ hapart h h' hh hh' heq => hapart h' h hh' hh heq.symm

/-- The discipline holds of every reachable state. -/
theorem dispatched_sat (deadline : String) (raises : Nat → Option String) (calls : List Call)
    (schedule : List Nat) : flight.Sat (dispatched deadline raises calls schedule) := by
  have : Inhabited Ghost := ⟨.out⟩
  refine (flight_sound deadline).sat_run ?_ (Runs.along_of_forall (fun _ _ _ _ _ => trivial) _ _)
  refine Discipline.sat_pool _ (ledger_fresh raises) ?_ (fun tag _ => ?_) fun _ _ _ _ => nofun
  · rintro worker ⟨who, ⟨a, ha, _⟩, _⟩
    cases ha
  · exact ⟨trivial, body_flight deadline tag⟩

/-- What a running invalidate worker is: recorded, or started by an emit that holds the
lock of its target. -/
theorem recorded_or_launched {P : Pool Resp Empty World Activity} {ghost : Nat → Ghost}
    (hghost : flight.Ghosts P ghost) {who : Instance} {worker : Nat}
    (h : P.world.Invalidates who worker) :
    P.world.overdue.get? who = some worker ∨
      ∃ i mine, i < P.threads.length ∧ ghost i = .holding mine ∧ mine.Holds P.world ∧
        (who, worker) ∈ mine.launched := by
  by_cases hentry : P.world.overdue.get? who = some worker
  · exact .inl hentry
  · obtain ⟨i, t, hi, mine, hmine, who', hmem⟩ := hghost.owned worker ⟨who, h, hentry⟩
    have hholds : mine.Holds P.world := by
      have hknows := (hghost.keeps i t hi).knows
      rw [hmine] at hknows
      exact hknows
    have hwho : who' = who := (hholds.launched _ hmem).2.2.unique h.started
    exact .inr ⟨i, mine, (List.getElem?_eq_some_iff.mp hi).1, hmine, hholds, hwho ▸ hmem⟩

/-- Two emits that hold the lock of one target are one. -/
theorem holding_unique {P : Pool Resp Empty World Activity} {ghost : Nat → Ghost}
    (hghost : flight.Ghosts P ghost) {i j : Nat} {mine other : Holding}
    (hi : i < P.threads.length) (hj : j < P.threads.length) (hmine : ghost i = .holding mine)
    (hother : ghost j = .holding other) (hholds : mine.Holds P.world)
    (hholds' : other.Holds P.world) (hkey : mine.key = other.key) : i = j := by
  by_contra hne
  have hlock := hholds.located
  rw [hkey, hholds'.located, Option.some.injEq] at hlock
  exact hghost.apart i j hi hj hne mine other hmine hother hlock.symm

/-- At most one worker of a subscriber is running. -/
theorem invalidates_unique {P : Pool Resp Empty World Activity} (hP : flight.Sat P)
    {who : Instance} {worker other : Nat} (h : P.world.Invalidates who worker)
    (h' : P.world.Invalidates who other) : worker = other := by
  obtain ⟨_, ghost, hghost⟩ := hP
  rcases recorded_or_launched hghost h with hentry | ⟨i, mine, hi, hmine, hholds, hmem⟩
  · rcases recorded_or_launched hghost h' with hentry' | ⟨j, yours, hj, hyours, hholds', hmem'⟩
    · rw [hentry, Option.some.injEq] at hentry'
      exact hentry'
    · rw [(hholds'.launched _ hmem').2.1] at hentry
      cases hentry
  · rcases recorded_or_launched hghost h' with hentry' | ⟨j, yours, hj, hyours, hholds', hmem'⟩
    · rw [(hholds.launched _ hmem).2.1] at hentry'
      cases hentry'
    · -- one emit started both
      have hkey : mine.key = yours.key :=
        (hholds.launched _ hmem).1.symm.trans (hholds'.launched _ hmem').1
      have hij := holding_unique hghost hi hj hmine hyours hholds hholds' hkey
      rw [hij, hyours] at hmine
      cases hmine
      exact Association.eq_of_mem hholds.nodup hmem hmem'

end Kdive.Lifecycle

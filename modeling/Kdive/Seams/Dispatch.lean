import Kdive.Lib.History
import Kdive.Seams.SingleFlight
import Mathlib.Data.List.Induction

/-!
# What an emit does to its subscribers

The record of an emit has the world in which it looked at the subscribers, the workers it
started, what it found when it asked them at the deadline, what it recorded, whom it
dropped by force, and its outcome.

*One emit.*  `emit_record` says what the record is at the end of an emit, whatever the
other threads did meanwhile.  Every runnable subscriber is invoked once and asked once,
and those that are late are recorded and dropped.

*All of them.*  The split goes by `_overdue`, and a subscriber has a live entry there
exactly when some worker of it is running, since the workers of the target are all
recorded while nobody holds its emit lock.

*Deviations.*  An emit reports a subscriber it did not invoke, also when the old worker
ends before the deadline.  A worker that was found late is not listed before it is
recorded.
-/

namespace Kdive.Lifecycle

open Program Interleaving Dictionary

/-- What an emit has done. -/
structure EmitRecord where
  /-- The worlds in which it looked at the subscribers of a target. -/
  snapshots : List (TargetKey × World)
  /-- The invalidate workers it started. -/
  invoked : List (Instance × Nat)
  /-- The invalidate workers it asked, and whether they were alive. -/
  checks : List ((Instance × Nat) × Bool)
  /-- The workers it recorded as overdue. -/
  recorded : List (Instance × Nat)
  /-- The `force_drop` workers it started. -/
  dropped : List (Instance × Nat)
  replies : List InvalidationResult

namespace EmitRecord

def empty : EmitRecord := ⟨[], [], [], [], [], []⟩

/-- The workers it found alive at the deadline. -/
def late (r : EmitRecord) : List (Instance × Nat) := (r.checks.filter Prod.snd).map Prod.fst

/-- The record after one more operation. -/
def add (r : EmitRecord) (m : Move Op World) : EmitRecord :=
  match m.op with
  | .split key => { r with snapshots := r.snapshots ++ [(key, m.world)] }
  | .start .invalidate who => { r with invoked := r.invoked ++ [(who, m.world.workers.length)] }
  | .start .forceDrop who => { r with dropped := r.dropped ++ [(who, m.world.workers.length)] }
  | .isAlive .invalidate who worker =>
      { r with checks := r.checks ++ [((who, worker), m.world.isAlive worker)] }
  | .recordOverdue late => { r with recorded := r.recorded ++ late }
  | .reply result => { r with replies := r.replies ++ [result] }
  | _ => r

/-- A subscriber is invoked once, and dropped once it was found late. -/
def Permits (r : EmitRecord) : Op → Prop
  | .start .invalidate who => who ∉ r.invoked.map Prod.fst
  | .start .forceDrop who => who ∈ r.late.map Prod.fst ∧ who ∉ r.dropped.map Prod.fst
  | _ => True

/-- The record after some workers were started. -/
def launch (r : EmitRecord) (workers : List (Instance × Nat)) : Teardown → EmitRecord
  | .invalidate => { r with invoked := r.invoked ++ workers }
  | .forceDrop => { r with dropped := r.dropped ++ workers }

/-- The record after some workers were asked. -/
def check (r : EmitRecord) (checks : List ((Instance × Nat) × Bool)) : Teardown → EmitRecord
  | .invalidate => { r with checks := r.checks ++ checks }
  | .forceDrop => r

/-- The subscribers whose worker for a call was started. -/
def launched (r : EmitRecord) : Teardown → List Instance
  | .invalidate => r.invoked.map Prod.fst
  | .forceDrop => r.dropped.map Prod.fst

end EmitRecord

/-- The record of some moves. -/
def emitRecord (g : List (Move Op World)) : EmitRecord := g.foldl .add .empty

@[simp] theorem emitRecord_concat (g : List (Move Op World)) (m : Move Op World) :
    emitRecord (g ++ [m]) = (emitRecord g).add m := by
  simp [emitRecord]

/-- A recorded snapshot was a move. -/
theorem mem_snapshots {g : List (Move Op World)} {key : TargetKey} {w : World}
    (h : (key, w) ∈ (emitRecord g).snapshots) : ⟨.split key, w⟩ ∈ g := by
  induction g using List.reverseRecOn with
  | nil => cases h
  | append_singleton g m ih =>
      rw [emitRecord_concat] at h
      obtain ⟨o, w'⟩ := m
      have hold : (key, w) ∈ (emitRecord g).snapshots → ⟨.split key, w⟩ ∈ g ++ [⟨o, w'⟩] :=
        fun h => List.mem_append_left _ (ih h)
      match o with
      | .split key' =>
          rcases List.mem_append.mp h with h | h
          · exact hold h
          · cases List.mem_singleton.mp h
            exact List.mem_append_right _ (List.mem_singleton_self _)
      | .start .invalidate _ | .start .forceDrop _ | .isAlive .invalidate _ _
      | .isAlive .forceDrop _ _ | .recordOverdue _ | .reply _ | .subscribe .. | .unsubscribe ..
      | .emitLock _ | .acquire _ | .errorOf _ | .release _ | .overdueSubscribers
      | .outstandingOverdue | .finish _ => exact hold h

/-! ## One emit -/

/-- What an emit meets before each operation, and what its moves are. -/
abbrev recording : Prog.Rule Resp Empty (List (Move Op World)) :=
  tracing exec fun o g => (emitRecord g).Permits o

/-- An operation the record leaves out. -/
def Op.Silent (o : Op) : Prop := ∀ r : EmitRecord, r.Permits o ∧ ∀ w, r.add ⟨o, w⟩ = r

theorem wp_silent {α : Type} {p : Run α} (hp : p.Calls Op.Silent)
    {Q : Except Empty α → List (Move Op World) → Prop} {g : List (Move Op World)}
    (hQ : ∀ a g', emitRecord g' = emitRecord g → Q (.ok a) g') : p.wp recording Q g := by
  refine hp.wp (K := fun g' => emitRecord g' = emitRecord g) (fun o ho R g' hg' hR => ?_)
    (fun r g' hg' => ?_) rfl
  · refine ⟨(ho _).1, fun w => hR _ _ ?_⟩
    rw [emitRecord_concat, (ho _).2, hg']
  · cases r with
    | error e => cases e
    | ok a => exact hQ a g' hg'

/-- Starting the workers of a call. -/
theorem startAll_record {call : Teardown} {key : TargetKey} {fns : List (String × Nat)}
    {g : List (Move Op World)} {Q : Except Empty (List (Instance × Nat)) → List (Move Op World) → Prop}
    (hnodup : (fns.map Prod.fst).Nodup)
    (hnew : ∀ e ∈ fns, ⟨key, e.1, e.2⟩ ∉ (emitRecord g).launched call)
    (hlate : call = .forceDrop → ∀ e ∈ fns, ⟨key, e.1, e.2⟩ ∈ (emitRecord g).late.map Prod.fst)
    (hQ : ∀ workers g', workers.map Prod.fst = fns.map (fun e => (⟨key, e.1, e.2⟩ : Instance)) →
      emitRecord g' = (emitRecord g).launch workers call → Q (.ok workers) g') :
    (startAll call key fns).wp recording Q g := by
  induction fns generalizing g Q with
  | nil =>
      refine hQ [] g rfl ?_
      cases call <;> simp [EmitRecord.launch]
  | cons e fns ih =>
      rw [List.map_cons, List.nodup_cons] at hnodup
      rw [startAll, Prog.wp_bind, Prog.wp_perform]
      have hpermits : (emitRecord g).Permits (.start call ⟨key, e.1, e.2⟩) := by
        have hfirst := hnew e List.mem_cons_self
        cases call with
        | invalidate => exact hfirst
        | forceDrop => exact ⟨hlate rfl e List.mem_cons_self, hfirst⟩
      refine ⟨hpermits, fun w => ?_⟩
      dsimp only [exec]
      rw [Prog.wp_bind]
      have hadd : emitRecord (g ++ [⟨.start call ⟨key, e.1, e.2⟩, w⟩]) =
          (emitRecord g).launch [(⟨key, e.1, e.2⟩, w.workers.length)] call := by
        rw [emitRecord_concat]
        cases call <;> rfl
      refine ih hnodup.2 (fun e' he' => ?_) (fun hcall e' he' => ?_) fun workers g' hworkers hg' => ?_
      · -- the names are distinct
        have hne : (⟨key, e'.1, e'.2⟩ : Instance) ≠ ⟨key, e.1, e.2⟩ := by
          intro heq
          exact hnodup.1 (List.mem_map.mpr ⟨e', he', (Instance.mk.inj heq).2.1⟩)
        have hold := hnew e' (List.mem_cons_of_mem _ he')
        rw [hadd]
        cases call <;>
          simpa [EmitRecord.launched, EmitRecord.launch, hne] using hold
      · rw [hadd]
        subst hcall
        exact hlate rfl e' (List.mem_cons_of_mem _ he')
      · refine hQ _ g' (by rw [List.map_cons, List.map_cons, hworkers]) ?_
        rw [hg', hadd]
        cases call <;> simp [EmitRecord.launch]

/-- Asking the workers of a call. -/
theorem stillAlive_record {call : Teardown} {workers : List (Instance × Nat)}
    {g : List (Move Op World)} {Q : Except Empty (List (Instance × Nat)) → List (Move Op World) → Prop}
    (hQ : ∀ checks g', checks.map Prod.fst = workers → emitRecord g' = (emitRecord g).check checks call →
      Q (.ok ((checks.filter Prod.snd).map Prod.fst)) g') :
    (stillAlive call workers).wp recording Q g := by
  induction workers generalizing g Q with
  | nil =>
      refine hQ [] g rfl ?_
      cases call <;> simp [EmitRecord.check]
  | cons p workers ih =>
      rw [stillAlive, Prog.wp_bind, Prog.wp_perform]
      refine ⟨by cases call <;> trivial, fun w => ?_⟩
      dsimp only [exec]
      rw [Prog.wp_bind]
      have hadd : emitRecord (g ++ [⟨.isAlive call p.1 p.2, w⟩]) =
          (emitRecord g).check [(p, w.isAlive p.2)] call := by
        rw [emitRecord_concat]
        cases call <;> rfl
      refine ih fun checks g' hchecks hg' => ?_
      have hend := hQ ((p, w.isAlive p.2) :: checks) g' (by rw [List.map_cons, hchecks]) (by
        rw [hg', hadd]
        cases call <;> simp [EmitRecord.check])
      cases halive : w.isAlive p.2 with
      | true => simpa [halive] using hend
      | false => simpa [halive] using hend

theorem collectErrors_silent (alive : List String) (workers : List (Instance × Nat))
    (errors : Dict String String) : (collectErrors alive workers errors).Calls Op.Silent := by
  induction workers generalizing errors with
  | nil => trivial
  | cons p workers ih =>
      rw [collectErrors]
      split
      · exact ih errors
      · refine .bind (.call fun _ => ⟨trivial, fun _ => rfl⟩) fun error => ?_
        cases error with
        | none => exact ih errors
        | some error => exact ih _

theorem settleDrops_silent (alive : List String) (workers : List (Instance × Nat))
    (dropped : Dropped) : (settleDrops alive workers dropped).Calls Op.Silent := by
  induction workers generalizing dropped with
  | nil => trivial
  | cons p workers ih =>
      rw [settleDrops]
      split
      · exact ih _
      · refine .bind (.call fun _ => ⟨trivial, fun _ => rfl⟩) fun error => ?_
        cases error with
        | none => exact ih _
        | some error => exact ih _

/-- Dropping the late subscribers by force. -/
theorem forceDrop_record {deadline : String} {key : TargetKey} {late : List (Instance × Nat)}
    {errors : Dict String String} {g : List (Move Op World)}
    {Q : Except Empty Dropped → List (Move Op World) → Prop}
    (hlate : (emitRecord g).late = late) (hkey : ∀ p ∈ late, p.1.targetKey = key)
    (hnodup : (names late).Nodup) (hnew : (emitRecord g).dropped = [])
    (hQ : ∀ dropped drops g', drops.map Prod.fst = late.map Prod.fst →
      emitRecord g' = { emitRecord g with dropped := drops } → Q (.ok dropped) g') :
    (forceDropNewlyOverdue deadline key late errors).wp recording Q g := by
  rw [forceDropNewlyOverdue]
  split
  · next hnil => exact hQ _ [] g (by rw [hnil]) (by rw [← hnew])
  · rw [Prog.wp_bind, runBounded, Prog.wp_bind]
    have hfns : ∀ e ∈ late.map (fun l => (l.1.name, l.1.subscriber)),
        ∃ p ∈ late, (⟨key, e.1, e.2⟩ : Instance) = p.1 := by
      intro e he
      obtain ⟨p, hp, rfl⟩ := List.mem_map.mp he
      exact ⟨p, hp, by rw [← hkey p hp]⟩
    refine startAll_record ?_ (fun e _ => ?_) (fun _ e he => ?_) fun workers g₁ hworkers hg₁ => ?_
    · rwa [List.map_map]
    · rw [EmitRecord.launched, hnew]
      exact List.not_mem_nil
    · obtain ⟨p, hp, heq⟩ := hfns e he
      rw [hlate, heq]
      exact List.mem_map_of_mem hp
    · dsimp only
      rw [Prog.wp_bind]
      refine stillAlive_record fun checks g₂ _ hg₂ => ?_
      dsimp only
      rw [Prog.wp_pure]
      dsimp only
      refine wp_silent (settleDrops_silent _ _ _) fun dropped g₃ hg₃ => ?_
      refine hQ dropped workers g₃ ?_ ?_
      · rw [hworkers, List.map_map]
        refine List.map_congr_left fun p hp => ?_
        rw [← hkey p hp]
        rfl
      · rw [hg₃, hg₂, hg₁, EmitRecord.check, EmitRecord.launch, hnew, List.nil_append]

/-- The record of an emit that looked at the subscribers in `w`. -/
structure Recorded (event : LifecycleEvent) (w : World) (result : InvalidationResult)
    (r : EmitRecord) : Prop where
  snapshots : r.snapshots = [(event.targetKey, w)]
  replies : r.replies = [result]
  invoked : r.invoked.map Prod.fst = (w.prune.split event.targetKey).runnable.entries.map
    fun e => ⟨event.targetKey, e.1, e.2⟩
  checks : r.checks.map Prod.fst = r.invoked
  recorded : r.recorded = r.late
  dropped : r.dropped.map Prod.fst = r.late.map Prod.fst
  overdue : result.overdue = (w.prune.split event.targetKey).alreadyOverdue ++ names r.late

/-- What an emit has done when it returns. -/
theorem emit_record (deadline : String) (event : LifecycleEvent) :
    (emit deadline event).wp recording
      (fun _ g => ∃ w result, Recorded event w result (emitRecord g)) [] := by
  rw [emit, Prog.wp_bind, Prog.wp_perform]
  refine ⟨trivial, fun w₀ => ?_⟩
  generalize (exec (.emitLock event.targetKey) w₀).1 = lock
  obtain lock | lock := lock
  · cases lock
  dsimp only
  rw [Prog.wp_bind, Prog.wp_perform]
  refine ⟨trivial, fun _ => ?_⟩
  dsimp only [exec]
  rw [Prog.wp_bind, Prog.wp_perform]
  refine ⟨trivial, fun w => ?_⟩
  dsimp only [exec]
  generalize hg : _ ++ [(⟨.split event.targetKey, w⟩ : Move Op World)] = g
  have hstart : emitRecord g = { EmitRecord.empty with snapshots := [(event.targetKey, w)] } := by
    rw [← hg]
    rfl
  rw [runBounded, Prog.wp_bind, Prog.wp_bind]
  have hnodup := (w.prune.split event.targetKey).runnable.nodup
  refine startAll_record hnodup (fun e _ => ?_) (by intros; contradiction) fun workers g₁ hworkers hg₁ => ?_
  · rw [hstart]
    exact List.not_mem_nil
  dsimp only
  rw [Prog.wp_bind]
  refine stillAlive_record fun checks g₂ hchecks hg₂ => ?_
  dsimp only
  rw [Prog.wp_pure]
  dsimp only
  rw [Prog.wp_bind, Prog.wp_perform]
  refine ⟨trivial, fun _ => ?_⟩
  dsimp only [exec]
  generalize hg₃ : g₂ ++ [_] = g₃
  have hrecord : emitRecord g₃ =
      ⟨[(event.targetKey, w)], workers, checks, (checks.filter Prod.snd).map Prod.fst, [], []⟩ := by
    rw [← hg₃, emitRecord_concat, hg₂, hg₁, hstart]
    rfl
  rw [Prog.wp_bind]
  refine wp_silent (collectErrors_silent _ _ _) fun errors g₄ hg₄ => ?_
  dsimp only
  rw [Prog.wp_bind]
  -- the late workers are among those that were started
  have hlate : List.Sublist ((checks.filter Prod.snd).map Prod.fst) workers :=
    hchecks ▸ List.filter_sublist.map _
  have hinstance : ∀ p ∈ workers, ∃ e ∈ (w.prune.split event.targetKey).runnable.entries,
      ⟨event.targetKey, e.1, e.2⟩ = p.1 := fun p hp =>
    List.mem_map.mp (hworkers ▸ List.mem_map_of_mem hp)
  have hnames : names workers = (w.prune.split event.targetKey).runnable.entries.map Prod.fst := by
    have hmap := congrArg (List.map Instance.name) hworkers
    rwa [List.map_map, List.map_map] at hmap
  refine forceDrop_record (by rw [hg₄, hrecord]; rfl) (fun p hp => ?_)
    ((hnames ▸ hnodup).sublist (hlate.map _)) (by rw [hg₄, hrecord])
    fun dropped drops g₅ hdrops hg₅ => ?_
  · obtain ⟨e, _, heq⟩ := hinstance p (hlate.subset hp)
    rw [← heq]
  dsimp only
  rw [Prog.wp_bind, Prog.wp_perform]
  refine ⟨trivial, fun _ => ?_⟩
  dsimp only [exec]
  rw [Prog.wp_perform]
  refine ⟨trivial, fun _ => ?_⟩
  dsimp only
  rw [emitRecord_concat, emitRecord_concat, hg₅, hg₄, hrecord]
  exact ⟨w, _, rfl, rfl, hworkers, hchecks, rfl, hdrops, rfl⟩

/-! ## The split -/

theorem mem_alreadyOverdue {w : World} {key : TargetKey} {name : String} :
    name ∈ (w.split key).alreadyOverdue ↔ ∃ subscriber,
      (w.subscribers key).get? name = some subscriber ∧
        (w.overdue.get? ⟨key, name, subscriber⟩).isSome = true := by
  rw [World.split, World.alreadyOverdue, Dict.keys, List.mem_map]
  constructor
  · rintro ⟨e, he, rfl⟩
    obtain ⟨hmem, hentry⟩ := List.mem_filter.mp he
    exact ⟨e.2, Dict.get?_eq_some.mpr hmem, hentry⟩
  · rintro ⟨subscriber, hget, hentry⟩
    exact ⟨(name, subscriber), List.mem_filter.mpr ⟨Dict.get?_eq_some.mp hget, hentry⟩, rfl⟩

theorem mem_runnable {w : World} {key : TargetKey} {name : String} {subscriber : Nat} :
    (name, subscriber) ∈ (w.split key).runnable.entries ↔
      (w.subscribers key).get? name = some subscriber ∧ name ∉ (w.split key).alreadyOverdue := by
  rw [Dict.get?_eq_some]
  exact List.mem_filter.trans (and_congr Iff.rfl decide_eq_true_iff)

/-- While an emit has started nothing, a subscriber of its target is busy when `_overdue`
has a live entry of it. -/
theorem busy_iff {P : Pool Resp Empty World Activity} {ghost : Nat → Ghost}
    (hP : Ledger P.world) (hghost : flight.Ghosts P ghost) {i lock : Nat} {key : TargetKey}
    (hi : i < P.threads.length) (hstart : ghost i = .holding (.start key lock))
    (hholds : (Holding.start key lock).Holds P.world) {who : Instance} (hwho : who.targetKey = key) :
    P.world.Busy who ↔ (P.world.prune.overdue.get? who).isSome = true := by
  rw [Option.isSome_iff_exists]
  refine exists_congr fun worker => ?_
  rw [prune_overdue]
  constructor
  · intro hrunning
    refine ⟨?_, hrunning.alive⟩
    rcases recorded_or_launched hghost hrunning with hentry | ⟨j, other, hj, hother, hholds', hmem⟩
    · exact hentry
    · -- nobody else holds the lock of the target
      have hkey : (Holding.start key lock).key = other.key :=
        hwho.symm.trans (hholds'.launched _ hmem).1
      have hij := holding_unique hghost hi hj hstart hother hholds hholds' hkey
      rw [← hij, hstart] at hother
      cases hother
      cases hmem
  · rintro ⟨hentry, halive⟩
    exact (hP.started who worker (hP.listed who worker hentry)).invalidates halive

/-! ## Every reachable state -/

/-- The moves of a call. -/
def movesOf (deadline : String) (raises : Nat → Option String) (calls : List Call)
    (schedule : List Nat) (i : Nat) : List (Move Op World) :=
  (machine deadline).moves i schedule ((machine deadline).pool (.fresh raises) (calls.map .call))

/-- What the record of an emit that returned says of each subscriber. -/
structure Reported (event : LifecycleEvent) (w : World) (result : InvalidationResult)
    (r : EmitRecord) : Prop where
  /-- It looked at the subscribers once, in `w`. -/
  snapshot : r.snapshots = [(event.targetKey, w)]
  reply : r.replies = [result]
  /-- A subscriber that was busy is reported and not invoked.  Any other is invoked once
  and asked once at the deadline, and it is reported if it was alive then. -/
  targets : ∀ name subscriber, (w.subscribers event.targetKey).get? name = some subscriber →
    w.Busy ⟨event.targetKey, name, subscriber⟩ ∧
      ⟨event.targetKey, name, subscriber⟩ ∉ r.invoked.map Prod.fst ∧ name ∈ result.overdue ∨
    ¬ w.Busy ⟨event.targetKey, name, subscriber⟩ ∧ ∃ worker alive,
      r.invoked.filter (fun p => p.1 = ⟨event.targetKey, name, subscriber⟩) =
        [(⟨event.targetKey, name, subscriber⟩, worker)] ∧
      r.checks.filter (fun c => c.1.1 = ⟨event.targetKey, name, subscriber⟩) =
        [((⟨event.targetKey, name, subscriber⟩, worker), alive)] ∧
      (name ∈ result.overdue ↔ alive = true)
  /-- Nobody else is invoked or reported. -/
  others : (∀ p ∈ r.invoked, p.1.targetKey = event.targetKey ∧
      (w.subscribers event.targetKey).get? p.1.name = some p.1.subscriber) ∧
    ∀ name ∈ result.overdue, ∃ subscriber,
      (w.subscribers event.targetKey).get? name = some subscriber
  /-- Those that were late are recorded, and dropped once each. -/
  late : r.recorded = r.late ∧ r.dropped.map Prod.fst = r.late.map Prod.fst

/-- What the dispatcher keeps to, whatever the calls, the schedule and the workers are. -/
structure Supervised (deadline : String) (raises : Nat → Option String) (calls : List Call)
    (schedule : List Nat) : Prop where
  /-- Of the workers of a subscriber at most one is running. -/
  flight : ∀ who worker other,
    (dispatched deadline raises calls schedule).world.Invalidates who worker →
    (dispatched deadline raises calls schedule).world.Invalidates who other → worker = other
  /-- An emit that returned has reported on every subscriber. -/
  emits : ∀ i event, calls[i]? = some (.emit event) →
    (dispatched deadline raises calls schedule).threads[i]? = some ⟨.call (.emit event), .ret ()⟩ →
    ∃ w result, Reported event w result (emitRecord (movesOf deadline raises calls schedule i))
  /-- An emit invokes a subscriber that it has not invoked, and drops one that it has just
  found late. -/
  starts : ∀ i event tag call who, calls[i]? = some (.emit event) →
    (machine deadline).next? (dispatched deadline raises calls schedule) i =
      some (tag, .start call who) →
    (emitRecord (movesOf deadline raises calls schedule i)).Permits (.start call who)
  /-- The list of overdue subscribers has those whose recorded worker is running. -/
  lists : ∃ listed, (exec .overdueSubscribers (dispatched deadline raises calls schedule).world).1 =
      .ok listed ∧
    ∀ who, who ∈ listed ↔
      ∃ worker, (who, worker) ∈ (dispatched deadline raises calls schedule).world.lates ∧
        (dispatched deadline raises calls schedule).world.isAlive worker = true

/-- An emit looks at the subscribers while it holds the lock of the target and has started
nothing. -/
theorem splits_busy {deadline : String} {raises : Nat → Option String} {calls : List Call}
    {schedule : List Nat} {i : Nat} {key : TargetKey} {w : World}
    (hmove : ⟨.split key, w⟩ ∈ movesOf deadline raises calls schedule i) {who : Instance}
    (hwho : who.targetKey = key) :
    w.Busy who ↔ (w.prune.overdue.get? who).isSome = true := by
  obtain ⟨before, since, tag, _, hnext, hworld⟩ := Machine.exists_of_mem_moves hmove
  obtain ⟨hP, ghost, hghost⟩ := dispatched_sat deadline raises calls before
  cases (machine deadline).step_cases i (dispatched deadline raises calls before) with
  | inl hidle => exact absurd (hidle.1.symm.trans hnext) nofun
  | inr hmoved =>
      obtain ⟨tag', o, next, hi, _, hnext', _⟩ := hmoved
      have hop := hnext'.symm.trans hnext
      rw [Option.some.injEq, Prod.mk.injEq] at hop
      obtain ⟨rfl, rfl⟩ := hop
      have hkeeps := hghost.keeps i _ hi
      obtain ⟨lock, hstart, _⟩ := hkeeps.wp
      have hholds : (Holding.start key lock).Holds (dispatched deadline raises calls before).world := by
        have hknows := hkeeps.knows
        rw [hstart] at hknows
        exact hknows
      have hbusy := busy_iff hP hghost (List.getElem?_eq_some_iff.mp hi).1 hstart hholds hwho
      have hw : (dispatched deadline raises calls before).world = w := hworld
      rwa [hw] at hbusy

/-- The report of an emit, from its record. -/
theorem Recorded.reported {event : LifecycleEvent} {w : World} {result : InvalidationResult}
    {r : EmitRecord} (h : Recorded event w result r)
    (hbusy : ∀ who : Instance, who.targetKey = event.targetKey →
      (w.Busy who ↔ (w.prune.overdue.get? who).isSome = true)) : Reported event w result r := by
  have hmem : ∀ name subscriber, (name, subscriber) ∈
      (w.prune.split event.targetKey).runnable.entries ↔
        (⟨event.targetKey, name, subscriber⟩ : Instance) ∈ r.invoked.map Prod.fst := by
    intro name subscriber
    rw [h.invoked, List.mem_map]
    constructor
    · exact fun he => ⟨_, he, rfl⟩
    · rintro ⟨e, he, heq⟩
      obtain ⟨_, hname, hsubscriber⟩ := Instance.mk.inj heq
      rwa [← hname, ← hsubscriber]
  have hnodup : (r.invoked.map Prod.fst).Nodup := by
    rw [h.invoked]
    refine .of_map Instance.name ?_
    rw [List.map_map]
    exact (w.prune.split event.targetKey).runnable.nodup
  have hchecks : (r.checks.map fun c => c.1.1).Nodup := by
    rw [← h.checks, List.map_map] at hnodup
    exact hnodup
  constructor
  case snapshot => exact h.snapshots
  case reply => exact h.replies
  case late => exact ⟨h.recorded, h.dropped⟩
  case targets =>
    intro name subscriber hget
    have hwho := hbusy ⟨event.targetKey, name, subscriber⟩ rfl
    by_cases hentry : (w.prune.overdue.get? ⟨event.targetKey, name, subscriber⟩).isSome = true
    · -- already overdue
      have halready : name ∈ (w.prune.split event.targetKey).alreadyOverdue :=
        mem_alreadyOverdue.mpr ⟨subscriber, hget, hentry⟩
      refine .inl ⟨hwho.mpr hentry, fun hinvoked => ?_, ?_⟩
      · exact (mem_runnable.mp ((hmem name subscriber).mpr hinvoked)).2 halready
      · rw [h.overdue]
        exact List.mem_append_left _ halready
    · -- invoked now
      have hnot : name ∉ (w.prune.split event.targetKey).alreadyOverdue := by
        intro hname
        obtain ⟨subscriber', hget', hentry'⟩ := mem_alreadyOverdue.mp hname
        have heq : subscriber' = subscriber := Option.some.inj (hget'.symm.trans hget)
        exact hentry (heq ▸ hentry')
      obtain ⟨p, hp, hpwho⟩ :=
        List.mem_map.mp ((hmem name subscriber).mp (mem_runnable.mpr ⟨hget, hnot⟩))
      obtain ⟨c, hc, hcp⟩ := List.mem_map.mp (h.checks.symm ▸ hp : p ∈ r.checks.map Prod.fst)
      obtain ⟨who, worker⟩ := p
      obtain ⟨q, alive⟩ := c
      dsimp only at hpwho hcp
      subst hpwho hcp
      refine .inr ⟨fun hb => hentry (hwho.mp hb), worker, alive,
        Association.filter_eq_singleton hnodup hp, Association.filter_eq_singleton hchecks hc, ?_⟩
      rw [h.overdue, List.mem_append, or_iff_right hnot, names, List.mem_map]
      constructor
      · -- its own worker was alive
        rintro ⟨p, hp', hname⟩
        obtain ⟨c, hc', rfl⟩ := List.mem_map.mp hp'
        obtain ⟨hc', halive⟩ := List.mem_filter.mp hc'
        have hinvoked : c.1 ∈ r.invoked := h.checks ▸ List.mem_map_of_mem hc'
        have hinstance : c.1.1 ∈ r.invoked.map Prod.fst := List.mem_map_of_mem hinvoked
        rw [h.invoked] at hinstance
        obtain ⟨e, he, heq⟩ := List.mem_map.mp hinstance
        have hget' := (mem_runnable.mp (show (e.1, e.2) ∈ _ from he)).1
        have he₁ : e.1 = name := (congrArg Instance.name heq).trans hname
        rw [he₁] at hget'
        have he₂ : e.2 = subscriber := Option.some.inj (hget'.symm.trans hget)
        have hsame : c.1.1 = ⟨event.targetKey, name, subscriber⟩ := by rw [← heq, he₁, he₂]
        have hceq := List.inj_on_of_nodup_map hchecks hc' hc hsame
        rw [hceq] at halive
        exact halive
      · intro halive
        exact ⟨(⟨event.targetKey, name, subscriber⟩, worker),
          List.mem_map.mpr ⟨_, List.mem_filter.mpr ⟨hc, halive⟩, rfl⟩, rfl⟩
  case others =>
    have hinvoked : ∀ p ∈ r.invoked, p.1.targetKey = event.targetKey ∧
        (w.subscribers event.targetKey).get? p.1.name = some p.1.subscriber := by
      intro p hp
      have hinstance : p.1 ∈ r.invoked.map Prod.fst := List.mem_map_of_mem hp
      rw [h.invoked] at hinstance
      obtain ⟨e, he, heq⟩ := List.mem_map.mp hinstance
      rw [← heq]
      exact ⟨rfl, (mem_runnable.mp (show (e.1, e.2) ∈ _ from he)).1⟩
    refine ⟨hinvoked, fun name hname => ?_⟩
    rw [h.overdue, List.mem_append] at hname
    rcases hname with halready | hlate
    · obtain ⟨subscriber, hget, _⟩ := mem_alreadyOverdue.mp halready
      exact ⟨subscriber, hget⟩
    · obtain ⟨p, hp, rfl⟩ := List.mem_map.mp hlate
      obtain ⟨c, hc, rfl⟩ := List.mem_map.mp hp
      exact ⟨_, (hinvoked c.1 (h.checks ▸ List.mem_map_of_mem (List.mem_filter.mp hc).1)).2⟩

/-- What `overdue_subscribers` returns. -/
theorem listed_iff {w : World} (hw : Ledger w) (who : Instance) :
    who ∈ w.prune.overdue.keys ↔ ∃ worker, (who, worker) ∈ w.lates ∧ w.isAlive worker = true := by
  rw [Dict.keys, Association.mem_keys]
  refine exists_congr fun worker => ?_
  have hpruned : w.prune.overdue.get? who = some worker ↔
      w.overdue.get? who = some worker ∧ w.isAlive worker = true := prune_overdue
  refine hpruned.trans ⟨fun h => ⟨hw.listed who worker h.1, h.2⟩, fun h => ⟨?_, h.2⟩⟩
  exact hw.kept who worker h.1 h.2

/-- Every subscriber an emit targets is invoked once or still busy, the late ones are
reported, dropped and listed, and no subscriber has two workers running. -/
theorem dispatcher_supervised (deadline : String) (raises : Nat → Option String)
    (calls : List Call) (schedule : List Nat) : Supervised deadline raises calls schedule := by
  have hsat := dispatched_sat deadline raises calls schedule
  have hmap : ∀ {i : Nat} {event}, calls[i]? = some (Call.emit event) →
      (calls.map Activity.call)[i]? = some (Activity.call (.emit event)) := by
    intro i event hcall
    rw [List.getElem?_map, hcall, Option.map_some]
  constructor
  case flight => exact fun who worker other h h' => invalidates_unique hsat h h'
  case lists => exact ⟨_, rfl, listed_iff hsat.1⟩
  case starts =>
    intro i event tag call who hcall hnext
    exact Machine.moves_next (hmap hcall) (emit_record deadline event) hnext
  case emits =>
    intro i event hcall hdone
    obtain ⟨w, result, hrecord⟩ :=
      Machine.moves_done (hmap hcall) (emit_record deadline event) hdone
    have hsnapshot : (event.targetKey, w) ∈
        (emitRecord (movesOf deadline raises calls schedule i)).snapshots := by
      rw [movesOf, hrecord.snapshots]
      exact List.mem_singleton_self _
    exact ⟨w, result, hrecord.reported fun who hwho => splits_busy (mem_snapshots hsnapshot) hwho⟩

/-- A target. -/
def sampleKey : TargetKey := ⟨"local-qemu", "run-1"⟩

/-- Two subscribers, the first of which is overdue when the second registers. -/
def sampleCalls : List Call :=
  [.subscribe sampleKey "stuck" 1, .emit ⟨sampleKey, .crashed⟩, .subscribe sampleKey "other" 2,
    .emit ⟨sampleKey, .crashed⟩]

/-- The first emit leaves its worker behind, and the second one starts another. -/
def secondEmit : List Nat :=
  [0, 1, 1, 1, 1, 1, 1, 1, 5, 1, 1, 1, 1, 2, 3, 3, 3, 3]

/-- A subscriber whose worker ends before the deadline of an emit is reported by it, and a
worker that was found late is not listed before it is recorded. -/
theorem reported_done_and_unlisted_late :
    ((dispatched "5.0" (fun _ => none) sampleCalls (secondEmit ++ [4])).world.isAlive 0 = false ∧
      (emitRecord (movesOf "5.0" (fun _ => none) sampleCalls (secondEmit ++ [4]) 3)).checks = [] ∧
      (emitRecord (movesOf "5.0" (fun _ => none) sampleCalls
        (secondEmit ++ [4, 6] ++ List.replicate 5 3) 3)).replies.map (·.overdue) = [["stuck"]]) ∧
    (emitRecord (movesOf "5.0" (fun _ => none) sampleCalls [0, 1, 1, 1, 1, 1] 1)).late =
        [(⟨sampleKey, "stuck", 1⟩, 0)] ∧
      (dispatched "5.0" (fun _ => none) sampleCalls [0, 1, 1, 1, 1, 1]).world.isAlive 0 = true ∧
      (exec .overdueSubscribers
        (dispatched "5.0" (fun _ => none) sampleCalls [0, 1, 1, 1, 1, 1]).world).1.toOption =
        some [] := by
  decide +kernel

end Kdive.Lifecycle

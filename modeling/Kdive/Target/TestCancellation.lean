import Kdive.Target.SshDisposal
import Kdive.Target.TestRun

/-!
# A cancelled run of tests winds down

Once the runner's event is set no command lives longer than one more look of its runner:
the one that runs then is killed, and so is every one that is started after it, unless it
ends by itself before that.  Where a required command is killed and failures stop the suite,
only the kernel log follows.  No success is recorded.

*The monitor.*  `Watch` reads the log event by event and refuses what must not happen.  Each
step of the runner is an event that it accepts (`Follows`), and `WindsDown` is what an accepted
log says about its commands.

*The fence.*  The event is set only while the handle is cancelled (`Fenced`), a cancelled
handle is not completed, and a completed one is not cancelled any more (`Free`).
-/

namespace Kdive

open Program

/-! ## Cancelled for good -/

namespace AdmissionService

/-- A handle out of the table is not cancelled any more. -/
theorem Change.uncancelled {c : Call} {s s' : AdmissionService} (hc : Change c s s')
    (hv : s.Valid) {h : AdmissionHandle} (hi : h ∈ s.issued) (hgone : h ∉ s.bindings h.targetKey)
    (hfree : ¬ s.Cancelled h) : ¬ s'.Cancelled h := by
  -- a binding that is cancelled and has its identity is the handle itself
  have hother : ∀ k, ∀ h' ∈ s.bindings k, h'.handleId ≠ h.handleId := by
    intro k h' hm heq
    obtain rfl := hv.eq_of_id (hv.issued_of_mem hm) hi heq
    obtain ⟨-, rfl, -⟩ := (hv.table _ _).mp hm
    exact hgone hm
  have hset : ∀ (h' : AdmissionHandle) (f : HandleFlags),
      f.cancelled = (s.flags h'.handleId).cancelled → ¬ (s.setFlags h' f).Cancelled h := by
    intro h' f hf hcancelled
    rw [Cancelled, setFlags_flags] at hcancelled
    by_cases hid : h.handleId = h'.handleId
    · rw [hid, Function.update_self, hf, ← hid] at hcancelled
      exact hfree hcancelled
    · rw [Function.update_of_ne hid] at hcancelled
      exact hfree hcancelled
  cases hc with
  | refl | publish | note | reopen | recovery => exact hfree
  | register h' => exact hfree
  | promote h' => exact hset h' _ rfl
  | dispose h' => exact hset h' _ rfl
  | reap h' => exact hset h' _ rfl
  | cancel k hs listed =>
      intro hcancelled
      rcases (cancelAll_cancelled s hs _).mp hcancelled with ⟨h', hm, heq⟩ | hold
      · exact hother k h' (listed h' hm) heq
      · exact hfree hold
  | close k g =>
      intro hcancelled
      rcases (cancelAll_cancelled _ _ _).mp hcancelled with ⟨h', hm, heq⟩ | hold
      · exact hother k h' hm heq
      · exact hfree hold

end AdmissionService

namespace TestRun

open AdmissionService SshTier

variable {handle : AdmissionHandle} {plan : TestPlan} {world : World}

/-! ## The monitor -/

/-- What a monitor knows of a log: whether the event is set, the command that runs, whether it
was found running since, and whether a required command was killed, after which only the
kernel log may be started. -/
structure Watch where
  set : Bool
  running : Option PlannedTestCommand
  looked : Bool
  halted : Bool
  dmesg : Option PlannedTestCommand

/-- A log begins. -/
def Watch.start (plan : TestPlan) : Watch := ⟨false, none, false, false, plan.dmesgCommand⟩

/-- The next event, unless it must not happen. -/
def Watch.step (stopOnFailure : Bool) (watch : Watch) : Event → Option Watch
  | .start command =>
      if watch.running ≠ none then none
      else if watch.halted then
        if watch.dmesg = some command then
          some { watch with running := some command, looked := false, dmesg := none }
        else none
      else some { watch with running := some command, looked := false }
  | .look command =>
      if watch.running = some command ∧ watch.looked = false then
        some { watch with looked := watch.set }
      else none
  | .exit command _ =>
      if watch.running = some command then some { watch with running := none } else none
  | .kill command =>
      if watch.running = some command then
        some { watch with
          running := none, halted := watch.halted || stopOnFailure && command.required }
      else none
  | .set => if watch.set then none else some { watch with set := true }

/-- A whole log. -/
def Watch.read (stopOnFailure : Bool) (watch : Watch) (log : List Event) : Option Watch :=
  log.foldlM (Watch.step stopOnFailure) watch

/-- The commands that a log starts. -/
def starts (log : List Event) : List PlannedTestCommand :=
  log.filterMap fun
    | .start command => some command
    | _ => none

section Monitor

variable {stop : Bool} {w w' : Watch} {command : PlannedTestCommand} {before after log : List Event}

theorem read_nil : w.read stop [] = some w := rfl

theorem read_cons (event : Event) (log : List Event) :
    w.read stop (event :: log) = (w.step stop event).bind fun next => next.read stop log := rfl

theorem read_append (before after : List Event) :
    w.read stop (before ++ after) = (w.read stop before).bind fun next => next.read stop after := by
  rw [Watch.read, List.foldlM_append]
  rfl

theorem read_append_of {event : Event} (h : w.read stop log = some w') :
    w.read stop (log ++ [event]) = w'.step stop event := by
  rw [read_append, h, Option.bind_some, read_cons]
  cases w'.step stop event <;> rfl

/-- A log that goes on was accepted up to there. -/
theorem read_split {event : Event} (h : w.read stop (before ++ event :: after) = some w') :
    ∃ mid next, w.read stop before = some mid ∧ mid.step stop event = some next ∧
      next.read stop after = some w' := by
  rw [read_append] at h
  obtain ⟨mid, hmid, h⟩ := Option.bind_eq_some_iff.mp h
  rw [read_cons] at h
  obtain ⟨next, hnext, h⟩ := Option.bind_eq_some_iff.mp h
  exact ⟨mid, next, hmid, hnext, h⟩

theorem step_start (h : w.step stop (.start command) = some w') :
    w.running = none ∧ w'.running = some command ∧ w'.set = w.set ∧
      (w.halted = true → w'.halted = true ∧ w.dmesg = some command ∧ w'.dmesg = none) := by
  obtain ⟨hidle, h⟩ := Option.ite_none_left_eq_some.mp h
  refine ⟨not_not.mp hidle, ?_⟩
  split at h
  · next hhalted =>
      obtain ⟨hdmesg, h⟩ := Option.ite_none_right_eq_some.mp h
      obtain rfl := Option.some.inj h
      exact ⟨rfl, rfl, fun _ => ⟨hhalted, hdmesg, rfl⟩⟩
  · next hhalted =>
      obtain rfl := Option.some.inj h
      exact ⟨rfl, rfl, fun h => absurd h hhalted⟩

theorem step_look (h : w.step stop (.look command) = some w') :
    w.running = some command ∧ w.looked = false ∧ w' = { w with looked := w.set } := by
  obtain ⟨hrunning, h⟩ := Option.ite_none_right_eq_some.mp h
  exact ⟨hrunning.1, hrunning.2, (Option.some.inj h).symm⟩

theorem step_exit {returncode : Int} (h : w.step stop (.exit command returncode) = some w') :
    w.running = some command ∧ w' = { w with running := none } := by
  obtain ⟨hrunning, h⟩ := Option.ite_none_right_eq_some.mp h
  exact ⟨hrunning, (Option.some.inj h).symm⟩

theorem step_kill (h : w.step stop (.kill command) = some w') :
    w.running = some command ∧
      w' = { w with running := none, halted := w.halted || stop && command.required } := by
  obtain ⟨hrunning, h⟩ := Option.ite_none_right_eq_some.mp h
  exact ⟨hrunning, (Option.some.inj h).symm⟩

theorem step_set (h : w.step stop .set = some w') :
    w.set = false ∧ w' = { w with set := true } := by
  obtain ⟨hset, h⟩ := Option.ite_none_left_eq_some.mp h
  exact ⟨Bool.not_eq_true _ ▸ hset, (Option.some.inj h).symm⟩

theorem step_start_of (h : w.running = none) (hhalted : w.halted = false) :
    w.step stop (.start command) = some { w with running := some command, looked := false } := by
  rw [Watch.step, if_neg (not_not.mpr h), hhalted]
  rfl

theorem step_start_dmesg (h : w.running = none) (hhalted : w.halted = true)
    (hdmesg : w.dmesg = some command) : w.step stop (.start command) =
      some { w with running := some command, looked := false, dmesg := none } := by
  rw [Watch.step, if_neg (not_not.mpr h), if_pos hhalted, if_pos hdmesg]

theorem step_look_of (h : w.running = some command) (hlooked : w.looked = false) :
    w.step stop (.look command) = some { w with looked := w.set } := if_pos ⟨h, hlooked⟩

theorem step_exit_of (h : w.running = some command) (returncode : Int) :
    w.step stop (.exit command returncode) = some { w with running := none } := if_pos h

theorem step_kill_of (h : w.running = some command) : w.step stop (.kill command) =
    some { w with running := none, halted := w.halted || stop && command.required } := if_pos h

theorem step_set_of (h : w.set = false) : w.step stop .set = some { w with set := true } :=
  if_neg (by simp [h])

/-- The end of a command. -/
def Ends (command : PlannedTestCommand) (event : Event) : Prop :=
  event = .kill command ∨ ∃ returncode, event = .exit command returncode

/-- A command that runs is looked at until it ends. -/
theorem life_of_read (h : w.read stop log = some w') (hrunning : w.running = some command)
    (hend : w'.running = none) :
    ∃ looks event rest, log = looks ++ event :: rest ∧ Ends command event ∧
      ∀ x ∈ looks, x = .look command ∨ x = .set := by
  induction log generalizing w with
  | nil =>
      obtain rfl := Option.some.inj h
      rw [hrunning] at hend
      cases hend
  | cons event log ih =>
      rw [read_cons] at h
      obtain ⟨next, hnext, h⟩ := Option.bind_eq_some_iff.mp h
      have hmore (hevent : event = .look command ∨ event = .set) (hrunning : next.running = some command) :
          ∃ looks event' rest, event :: log = looks ++ event' :: rest ∧ Ends command event' ∧
            ∀ x ∈ looks, x = .look command ∨ x = .set := by
        obtain ⟨looks, last, rest, rfl, hlast, hlooks⟩ := ih h hrunning
        exact ⟨event :: looks, last, rest, rfl, hlast, List.forall_mem_cons.mpr ⟨hevent, hlooks⟩⟩
      cases event with
      | start other =>
          rw [(step_start hnext).1] at hrunning
          cases hrunning
      | look other =>
          obtain ⟨hother, -, rfl⟩ := step_look hnext
          obtain rfl := Option.some.inj (hrunning.symm.trans hother)
          exact hmore (.inl rfl) hrunning
      | exit other returncode =>
          obtain ⟨hother, -⟩ := step_exit hnext
          obtain rfl := Option.some.inj (hrunning.symm.trans hother)
          exact ⟨[], _, log, rfl, .inr ⟨returncode, rfl⟩, fun _ hx => by cases hx⟩
      | kill other =>
          obtain ⟨hother, -⟩ := step_kill hnext
          obtain rfl := Option.some.inj (hrunning.symm.trans hother)
          exact ⟨[], _, log, rfl, .inl rfl, fun _ hx => by cases hx⟩
      | set =>
          obtain ⟨-, rfl⟩ := step_set hnext
          exact hmore (.inr rfl) hrunning

/-- A monitor knows whether the event is set. -/
theorem set_of_read (h : w.read stop log = some w') :
    w'.set = true ↔ w.set = true ∨ .set ∈ log := by
  induction log generalizing w with
  | nil =>
      obtain rfl := Option.some.inj h
      simp
  | cons event log ih =>
      rw [read_cons] at h
      obtain ⟨next, hnext, h⟩ := Option.bind_eq_some_iff.mp h
      rw [ih h, List.mem_cons]
      cases event with
      | start other => simp [(step_start hnext).2.2.1]
      | look other => simp [(step_look hnext).2.2]
      | exit other returncode => simp [(step_exit hnext).2]
      | kill other => simp [(step_kill hnext).2]
      | set => simp [(step_set hnext).2]

/-- A command that was found running since the event is set ends before anything else. -/
theorem ends_of_read (h : w.read stop log = some w') (hrunning : w.running = some command)
    (hlooked : w.looked = true) (hset : w.set = true) (hend : w'.running = none) :
    ∃ event rest, log = event :: rest ∧ Ends command event := by
  obtain ⟨looks, event, rest, rfl, hevent, hlooks⟩ := life_of_read h hrunning hend
  cases looks with
  | nil => exact ⟨event, rest, rfl, hevent⟩
  | cons first looks =>
      rw [List.cons_append, read_cons] at h
      obtain ⟨next, hnext, -⟩ := Option.bind_eq_some_iff.mp h
      rcases hlooks first List.mem_cons_self with rfl | rfl
      · rw [(step_look hnext).2.1] at hlooked
        cases hlooked
      · rw [(step_set hnext).1] at hset
        cases hset

/-- What is known of the kernel log changes only where a command starts. -/
theorem step_kept {event : Event} (hevent : ∀ command, event ≠ .start command)
    (h : w.step stop event = some w') :
    w'.dmesg = w.dmesg ∧ (w.halted = true → w'.halted = true) := by
  cases event with
  | start command => exact absurd rfl (hevent command)
  | look command =>
      obtain ⟨-, -, rfl⟩ := step_look h
      exact ⟨rfl, id⟩
  | exit command returncode =>
      obtain ⟨-, rfl⟩ := step_exit h
      exact ⟨rfl, id⟩
  | kill command =>
      obtain ⟨-, rfl⟩ := step_kill h
      exact ⟨rfl, fun hhalted => by simp [hhalted]⟩
  | set =>
      obtain ⟨-, rfl⟩ := step_set h
      exact ⟨rfl, id⟩

theorem starts_cons_of_ne {event : Event} (hevent : ∀ command, event ≠ .start command)
    (log : List Event) : starts (event :: log) = starts log := by
  cases event with
  | start command => exact absurd rfl (hevent command)
  | look | exit | kill | set => rfl

/-- Only the kernel log is started once a required command was killed. -/
theorem starts_of_halted (h : w.read stop log = some w') (hhalted : w.halted = true) :
    starts log <+: w.dmesg.toList := by
  induction log generalizing w with
  | nil => exact List.nil_prefix
  | cons event log ih =>
      rw [read_cons] at h
      obtain ⟨next, hnext, htail⟩ := Option.bind_eq_some_iff.mp h
      by_cases hevent : ∀ command, event ≠ .start command
      · obtain ⟨hdmesg, hstill⟩ := step_kept hevent hnext
        rw [starts_cons_of_ne hevent, ← hdmesg]
        exact ih htail (hstill hhalted)
      · push Not at hevent
        obtain ⟨command, rfl⟩ := hevent
        obtain ⟨hstill, hdmesg, hnone⟩ := (step_start hnext).2.2.2 hhalted
        have hrest := ih htail hstill
        rw [hnone] at hrest
        rw [hdmesg]
        exact List.cons_prefix_cons.mpr ⟨rfl, hrest⟩

/-- The kernel log that may be started is the plan's. -/
theorem dmesg_of_read (h : w.read stop log = some w') : w'.dmesg.toList <+: w.dmesg.toList := by
  induction log generalizing w with
  | nil =>
      obtain rfl := Option.some.inj h
      exact List.prefix_refl _
  | cons event log ih =>
      rw [read_cons] at h
      obtain ⟨next, hnext, htail⟩ := Option.bind_eq_some_iff.mp h
      refine (ih htail).trans ?_
      by_cases hevent : ∀ command, event ≠ .start command
      · have hkept : next.dmesg = w.dmesg := (step_kept hevent hnext).1
        exact hkept ▸ List.prefix_refl _
      · push Not at hevent
        obtain ⟨command, rfl⟩ := hevent
        obtain ⟨-, hnext⟩ := Option.ite_none_left_eq_some.mp hnext
        split at hnext
        · obtain ⟨-, hnext⟩ := Option.ite_none_right_eq_some.mp hnext
          obtain rfl := Option.some.inj hnext
          exact List.nil_prefix
        · obtain rfl := Option.some.inj hnext
          exact List.prefix_refl _

end Monitor

/-! ## Following the runner -/

/-- The command that runs. -/
def Process.running? : Process → Option PlannedTestCommand
  | .running command => some command
  | .none | .ended _ => Option.none

/-- The monitor accepts the log so far, and knows of the event and the process what is true. -/
def Follows (plan : TestPlan) (looked halted : Bool) (dmesg : Option PlannedTestCommand)
    (world : World) : Prop :=
  (Watch.start plan).read plan.stopOnFailure world.log =
    some ⟨world.runnerCancel, world.process.running?, looked, halted, dmesg⟩

section Moments

variable {looked halted : Bool} {dmesg : Option PlannedTestCommand}

theorem Follows.watches (h : Follows plan looked halted dmesg world) (watched : Bool) :
    Follows plan looked halted dmesg (world.watches handle watched) := by
  unfold World.watches
  split
  · next hset =>
      exact (read_append_of h).trans (step_set_of hset.2.2)
  · exact h

theorem Follows.exits (h : Follows plan looked halted dmesg world) (exit : Option Int) :
    Follows plan looked halted dmesg (world.exits exit) := by
  unfold World.exits
  split
  · next command returncode hrunning =>
      rw [Follows, hrunning] at h
      exact (read_append_of h).trans (step_exit_of rfl returncode)
  · exact h

/-- What a moment leaves of the process. -/
def Process.Leads (process next : Process) : Prop :=
  next = process ∨ ∃ command returncode, process = .running command ∧ next = .ended returncode

theorem leads_exits (world : World) (exit : Option Int) :
    world.process.Leads (world.exits exit).process := by
  unfold World.exits
  split
  · next command returncode hrunning => exact .inr ⟨command, returncode, hrunning, rfl⟩
  · exact .inl rfl

theorem watches_process (world : World) (watched : Bool) :
    (world.watches handle watched).process = world.process := by
  unfold World.watches
  split <;> rfl

theorem exits_runnerCancel (world : World) (exit : Option Int) :
    (world.exits exit).runnerCancel = world.runnerCancel := by
  unfold World.exits
  split <;> rfl

theorem watches_runnerCancel (world : World) (watched : Bool) (h : world.runnerCancel = true) :
    (world.watches handle watched).runnerCancel = true := by
  unfold World.watches
  split
  · rfl
  · exact h

/-- What a moment does to the world. -/
structure Passes (plan : TestPlan) (world next : World) : Prop where
  follows : ∀ {looked halted dmesg}, Follows plan looked halted dmesg world →
    Follows plan looked halted dmesg next
  process : world.process.Leads next.process
  stays : world.runnerCancel = true → next.runnerCancel = true

theorem passes_pass (world : World) : Passes plan world (world.pass handle).2 := by
  unfold World.pass
  split
  · exact ⟨id, .inl rfl, id⟩
  · next moment moments _ =>
      have hwatches : (({ world with moments := moments } : World).watches handle
          moment.watched).process = world.process := watches_process _ _
      refine ⟨fun {looked halted dmesg} h => ?_, ?_, fun h => ?_⟩
      · have hmoment : Follows plan looked halted dmesg { world with moments := moments } := h
        exact (hmoment.watches moment.watched).exits moment.exit
      · have hleads := leads_exits ({ world with moments := moments }.watches handle moment.watched)
          moment.exit
        rwa [hwatches] at hleads
      · exact (exits_runnerCancel _ _).trans (watches_runnerCancel _ _ h)

theorem passes_turn (world : World) : Passes plan world (world.turn handle).2.2 := by
  have hpass : Passes plan { world with desk := (world.desk.turn handle).2 }
      (world.turn handle).2.2 := passes_pass _
  exact ⟨hpass.follows, hpass.process, hpass.stays⟩

end Moments

/-! ## One command -/

/-- No command runs. -/
structure Idle (plan : TestPlan) (halted : Bool) (dmesg : Option PlannedTestCommand)
    (world : World) : Prop where
  process : world.process = .none
  follows : ∃ looked, Follows plan looked halted dmesg world

/-- A command runs, or it has ended and the runner has not seen it. -/
structure Held (plan : TestPlan) (command : PlannedTestCommand) (halted : Bool)
    (dmesg : Option PlannedTestCommand) (world : World) : Prop where
  process : world.process = .running command ∨ ∃ returncode, world.process = .ended returncode
  follows : ∃ looked, Follows plan looked halted dmesg world
  /-- If it runs it was not found running since the event is set. -/
  unseen : world.process = .running command → Follows plan false halted dmesg world

/-- A command was just found running. -/
structure Found (plan : TestPlan) (command : PlannedTestCommand) (halted : Bool)
    (dmesg : Option PlannedTestCommand) (world : World) : Prop where
  process : world.process = .running command
  follows : ∃ looked, Follows plan looked halted dmesg world ∧
    (looked = true → world.runnerCancel = true)

/-- The runner is done with a command for this reason. -/
def Rests (plan : TestPlan) (command : PlannedTestCommand) (halted : Bool)
    (dmesg : Option PlannedTestCommand) (reason : SshStopReason) (world : World) : Prop :=
  ∃ halted', Idle plan halted' dmesg world ∧ (halted' = true →
    halted = true ∨ plan.stopOnFailure = true ∧ RequiredFailed command reason.result)

section Steps

/-- The steps of a run, executed one after the other. -/
abbrev byTurns (handle : AdmissionHandle) : Prog.Rule Answer Failure World :=
  Prog.Rule.ofExec (exec handle)

theorem byTurns_mono (handle : AdmissionHandle) : (byTurns handle).Mono := Prog.Rule.ofExec_mono _

variable {command : PlannedTestCommand} {halted : Bool} {dmesg : Option PlannedTestCommand}

theorem Idle.pass (h : Idle plan halted dmesg world) {next : World} (hpass : Passes plan world next) :
    Idle plan halted dmesg next := by
  obtain ⟨looked, hfollows⟩ := h.follows
  refine ⟨?_, looked, hpass.follows hfollows⟩
  rcases hpass.process with hsame | ⟨command, _, hrunning, _⟩
  · exact hsame.trans h.process
  · rw [h.process] at hrunning
    cases hrunning

/-- A look sees the end of the command, or finds it running. -/
theorem held_wait {Q : Except Failure (Option Int) → World → Prop}
    (h : Held plan command halted dmesg world)
    (hended : ∀ returncode world', Idle plan halted dmesg world' → Q (.ok (some returncode)) world')
    (hfound : ∀ world', Found plan command halted dmesg world' → Q (.ok none) world') :
    byTurns handle .wait Q world := by
  have hpass : Passes plan world (world.turn handle).2.2 := passes_turn world
  rw [byTurns, Prog.Rule.ofExec, exec]
  generalize world.turn handle = turn at hpass ⊢
  obtain ⟨result, found, next⟩ := turn
  dsimp only at hpass ⊢
  have hseen (returncode : Int) (hprocess : next.process = .ended returncode) :
      Idle plan halted dmesg { next with process := .none } := by
    obtain ⟨looked, hfollows⟩ := h.follows
    have hnext := hpass.follows hfollows
    rw [Follows, hprocess] at hnext
    exact ⟨rfl, looked, hnext⟩
  cases hprocess : next.process with
  | none =>
      rcases hpass.process with hsame | ⟨_, _, _, hends⟩
      · rw [hprocess] at hsame
        rcases h.process with hrunning | ⟨_, hends⟩
        · rw [hrunning] at hsame
          cases hsame
        · rw [hends] at hsame
          cases hsame
      · rw [hprocess] at hends
        cases hends
  | ended returncode => exact hended returncode _ (hseen returncode hprocess)
  | running command' =>
      rcases hpass.process with hsame | ⟨_, _, _, hends⟩
      · rw [hprocess] at hsame
        rcases h.process with hrunning | ⟨_, hends⟩
        · obtain rfl : command' = command := Process.running.inj (hsame.trans hrunning)
          have hnext := hpass.follows (h.unseen hrunning)
          rw [Follows, hprocess] at hnext
          exact hfound _ ⟨rfl, next.runnerCancel,
            (read_append_of hnext).trans (step_look_of rfl rfl), id⟩
        · rw [hends] at hsame
          cases hsame
      · rw [hprocess] at hends
        cases hends

/-- Where the event is not set the command was not found running since. -/
theorem found_isSet {Q : Except Failure Bool → World → Prop}
    (h : Found plan command halted dmesg world)
    (hset : ∀ world', (world'.process = .running command ∨
        ∃ returncode, world'.process = .ended returncode) →
      (∃ looked, Follows plan looked halted dmesg world') → Q (.ok true) world')
    (hunset : ∀ world', Held plan command halted dmesg world' → Q (.ok false) world') :
    byTurns handle .isSet Q world := by
  have hpass : Passes plan world (world.turn handle).2.2 := passes_turn world
  rw [byTurns, Prog.Rule.ofExec, exec]
  generalize world.turn handle = turn at hpass ⊢
  obtain ⟨result, found, next⟩ := turn
  dsimp only at hpass ⊢
  obtain ⟨looked, hfollows, hlooked⟩ := h.follows
  have hprocess : next.process = .running command ∨ ∃ returncode, next.process = .ended returncode := by
    rcases hpass.process with hsame | ⟨_, returncode, _, hends⟩
    · exact .inl (hsame.trans h.process)
    · exact .inr ⟨returncode, hends⟩
  cases hcancel : next.runnerCancel with
  | true => exact hset next hprocess ⟨looked, hpass.follows hfollows⟩
  | false =>
      cases looked with
      | true =>
          rw [hpass.stays (hlooked rfl)] at hcancel
          cases hcancel
      | false =>
          exact hunset next
            ⟨hprocess, ⟨false, hpass.follows hfollows⟩, fun _ => hpass.follows hfollows⟩

/-- A command that is killed, or has ended before that. -/
theorem held_terminate {Q : Except Failure Unit → World → Prop}
    (hprocess : world.process = .running command ∨ ∃ returncode, world.process = .ended returncode)
    (hfollows : ∃ looked, Follows plan looked halted dmesg world)
    (hQ : ∀ halted' world', Idle plan halted' dmesg world' →
      (halted' = true → halted = true ∨ plan.stopOnFailure = true ∧ command.required = true) →
      Q (.ok ()) world') :
    byTurns handle .terminateAndWait Q world := by
  have hpass : Passes plan world (world.turn handle).2.2 := passes_turn world
  rw [byTurns, Prog.Rule.ofExec, exec]
  generalize world.turn handle = turn at hpass ⊢
  obtain ⟨result, found, next⟩ := turn
  dsimp only at hpass ⊢
  obtain ⟨looked, hfollows⟩ := hfollows
  have hnext := hpass.follows hfollows
  cases hnow : next.process with
  | running command' =>
      have hcommand : command' = command := by
        rcases hpass.process with hsame | ⟨_, _, _, hends⟩
        · rw [hnow] at hsame
          rcases hprocess with hrunning | ⟨_, hends⟩
          · exact Process.running.inj (hsame.trans hrunning)
          · rw [hends] at hsame
            cases hsame
        · rw [hnow] at hends
          cases hends
      subst hcommand
      rw [Follows, hnow] at hnext
      refine hQ (halted || plan.stopOnFailure && command'.required) _ ⟨rfl, looked, ?_⟩ fun h => ?_
      · exact (read_append_of hnext).trans (step_kill_of rfl)
      · simpa using h
  | none | ended =>
      rw [Follows, hnow] at hnext
      exact hQ halted _ ⟨rfl, looked, hnext⟩ .inl

theorem idle_files {what : FileWork} {Q : Except Failure Unit → World → Prop}
    (h : Idle plan halted dmesg world)
    (hQ : ∀ result world', Idle plan halted dmesg world' → Q result world') :
    byTurns handle (.files what) Q world := by
  have hpass : Passes plan world (world.turn handle).2.2 := passes_turn world
  rw [byTurns, Prog.Rule.ofExec, exec]
  generalize world.turn handle = turn at hpass ⊢
  obtain ⟨result, found, next⟩ := turn
  cases result with
  | error failure => exact hQ _ next (h.pass hpass)
  | ok status => exact hQ _ next (h.pass hpass)

theorem idle_which {Q : Except Failure Bool → World → Prop} (h : Idle plan halted dmesg world)
    (hQ : ∀ found world', Idle plan halted dmesg world' → Q (.ok found) world') :
    byTurns handle .which Q world := by
  rw [byTurns, Prog.Rule.ofExec, exec]
  exact hQ _ _ (h.pass (passes_turn world))

/-- The kernel log is left, or it is the command that starts. -/
def MayStart (halted : Bool) (dmesg : Option PlannedTestCommand) (command : PlannedTestCommand)
    (left : Option PlannedTestCommand) : Prop :=
  halted = false ∧ left = dmesg ∨ halted = true ∧ dmesg = some command ∧ left = none

theorem idle_start {Q : Except Failure Unit → World → Prop} {left : Option PlannedTestCommand}
    (h : Idle plan halted dmesg world) (hstart : MayStart halted dmesg command left)
    (herror : ∀ failure world', Idle plan halted dmesg world' → Q (.error failure) world')
    (hheld : ∀ world', Held plan command halted left world' → Q (.ok ()) world') :
    byTurns handle (.start command) Q world := by
  have hpass : Passes plan world (world.turn handle).2.2 := passes_turn world
  rw [byTurns, Prog.Rule.ofExec, exec]
  generalize world.turn handle = turn at hpass ⊢
  obtain ⟨result, found, next⟩ := turn
  have hnext := h.pass hpass
  cases result with
  | error failure => exact herror failure next hnext
  | ok status =>
      obtain ⟨looked, hfollows⟩ := hnext.follows
      rw [Follows, hnext.process] at hfollows
      have hstarted : Follows plan false halted left
          { next with process := .running command, log := next.log ++ [.start command] } := by
        rcases hstart with ⟨rfl, rfl⟩ | ⟨rfl, rfl, rfl⟩
        · exact (read_append_of hfollows).trans (step_start_of rfl rfl)
        · exact (read_append_of hfollows).trans (step_start_dmesg rfl rfl rfl)
      exact hheld _ ⟨.inl rfl, ⟨false, hstarted⟩, fun _ => hstarted⟩

/-- A pass of the loop ends the command, kills it, or leaves it to the next pass. -/
theorem pollOnce_leaves {next : Script SshStopReason} {Q : Except Failure SshStopReason → World → Prop}
    (h : Held plan command halted dmesg world)
    (hrests : ∀ reason world', Rests plan command halted dmesg reason world' → Q (.ok reason) world')
    (hnext : ∀ world', Held plan command halted dmesg world' → next.wp (byTurns handle) Q world') :
    (pollOnce next).wp (byTurns handle) Q world := by
  rw [pollOnce, Prog.wp_bind, Prog.wp_perform]
  refine held_wait h (fun returncode world₁ h₁ => ?_) fun world₁ h₁ => ?_
  · exact hrests _ _ ⟨halted, h₁, .inl⟩
  · dsimp only
    rw [Prog.wp_bind, Prog.wp_perform]
    refine found_isSet h₁ (fun world₂ hprocess hfollows => ?_) fun world₂ h₂ => hnext world₂ h₂
    simp only [if_true]
    rw [Prog.wp_bind, Prog.wp_perform]
    refine held_terminate hprocess hfollows fun halted' world₃ hidle hhalted => ?_
    refine hrests _ _ ⟨halted', hidle, fun h => (hhalted h).imp_right fun hstop => ?_⟩
    exact ⟨hstop.1, hstop.2, .inl (by decide)⟩

theorem pollUntilStop_leaves (passes : Nat) {Q : Except Failure SshStopReason → World → Prop}
    (h : Held plan command halted dmesg world)
    (hrests : ∀ reason world', Rests plan command halted dmesg reason world' →
      Q (.ok reason) world') :
    (pollUntilStop passes).wp (byTurns handle) Q world := by
  induction passes generalizing world with
  | zero =>
      refine pollOnce_leaves h hrests fun world₁ h₁ => ?_
      rw [Prog.wp_bind, Prog.wp_perform]
      refine held_terminate h₁.process h₁.follows fun halted' world₂ hidle hhalted => ?_
      refine hrests _ _ ⟨halted', hidle, fun h => (hhalted h).imp_right fun hstop => ?_⟩
      exact ⟨hstop.1, hstop.2, .inl (by decide)⟩
  | succ passes ih => exact pollOnce_leaves h hrests fun world₁ h₁ => ih h₁

/-- No command runs, whatever may still be started. -/
def Quiet (plan : TestPlan) (world : World) : Prop := ∃ halted dmesg, Idle plan halted dmesg world

/-- The runner leaves no command behind. -/
theorem runCommand_leaves {left : Option PlannedTestCommand}
    {Q : Except Failure SshCommandResult → World → Prop} (h : Idle plan halted dmesg world)
    (hstart : MayStart halted dmesg command left)
    (herror : ∀ failure world', Quiet plan world' → Q (.error failure) world')
    (hresult : ∀ result world' halted', Idle plan halted' left world' →
      (halted' = true → halted = true ∨ plan.stopOnFailure = true ∧ RequiredFailed command result) →
      Q (.ok result) world') :
    (runCommand command).wp (byTurns handle) Q world := by
  rw [runCommand, Prog.wp_bind, Prog.wp_perform]
  refine idle_files h fun result world₁ h₁ => ?_
  cases result with
  | error failure => exact herror _ _ ⟨_, _, h₁⟩
  | ok u =>
      dsimp only
      rw [Prog.wp_bind, Prog.wp_perform]
      refine idle_start h₁ hstart (fun failure world₂ h₂ => herror _ _ ⟨_, _, h₂⟩) fun world₂ h₂ => ?_
      dsimp only
      rw [Prog.wp_bind]
      refine pollUntilStop_leaves _ h₂ fun reason world₃ h₃ => ?_
      obtain ⟨halted', hidle, hhalted⟩ := h₃
      dsimp only
      rw [Prog.wp_bind, Prog.wp_perform]
      refine idle_files hidle fun result world₄ h₄ => ?_
      cases result with
      | error failure => exact herror _ _ ⟨_, _, h₄⟩
      | ok u => exact hresult _ _ halted' h₄ hhalted

/-- Nothing of the suite follows a required command that was killed where failures stop it. -/
theorem runCommands_leaves (commands : List PlannedTestCommand) (requiredFailed : Bool)
    {Q : Except Failure Bool → World → Prop} (h : Idle plan false dmesg world)
    (herror : ∀ failure world', Quiet plan world' → Q (.error failure) world')
    (hend : ∀ failed world' halted', Idle plan halted' dmesg world' → Q (.ok failed) world') :
    (runCommands plan.stopOnFailure commands requiredFailed).wp (byTurns handle) Q world := by
  induction commands generalizing world requiredFailed with
  | nil => exact hend _ _ false h
  | cons command commands ih =>
      rw [runCommands, Prog.wp_bind]
      refine runCommand_leaves h (.inl ⟨rfl, rfl⟩) herror fun result world₁ halted' h₁ hhalted => ?_
      dsimp only
      rw [Prog.wp_bind, Prog.wp_perform]
      refine idle_files h₁ fun written world₂ h₂ => ?_
      cases written with
      | error failure => exact herror _ _ ⟨_, _, h₂⟩
      | ok u =>
          dsimp only
          have hgoes (hnot : ¬ (plan.stopOnFailure = true ∧ RequiredFailed command result)) :
              Idle plan false dmesg world₂ := by
            cases halted' with
            | false => exact h₂
            | true =>
                rcases hhalted rfl with hfalse | hstop
                · cases hfalse
                · exact absurd hstop hnot
          by_cases hfailed : RequiredFailed command result
          · rw [if_pos hfailed]
            cases hstop : plan.stopOnFailure with
            | true => exact hend _ _ halted' h₂
            | false =>
                rw [hstop] at ih hgoes
                exact ih true (hgoes fun h => Bool.false_ne_true h.1)
          · rw [if_neg hfailed]
            exact ih requiredFailed (hgoes fun h => hfailed h.2)

/-- A run of tests leaves no command behind. -/
theorem executeTests_leaves (h : Idle plan false plan.dmesgCommand world) :
    (executeTests plan).wp (byTurns handle) (fun _ world' => Quiet plan world') world := by
  rw [executeTests, Prog.wp_bind, Prog.wp_perform]
  refine idle_files h fun made world₁ h₁ => ?_
  cases made with
  | error failure => exact ⟨_, _, h₁⟩
  | ok u =>
      dsimp only
      rw [Prog.wp_bind, Prog.wp_perform]
      refine idle_which h₁ fun found world₂ h₂ => ?_
      have hsummary {halted : Bool} {dmesg : Option PlannedTestCommand} {world₃ : World}
          {status : StepStatus} (h₃ : Idle plan halted dmesg world₃) :
          (do
            Prog.perform (Step.files .writeSummary)
            return status : Script StepStatus).wp (byTurns handle)
            (fun _ world' => Quiet plan world') world₃ := by
        rw [Prog.wp_bind, Prog.wp_perform]
        refine idle_files h₃ fun written world₄ h₄ => ?_
        cases written with
        | error failure => exact ⟨_, _, h₄⟩
        | ok u => exact ⟨_, _, h₄⟩
      cases found with
      | false => exact hsummary h₂
      | true =>
          simp only [if_true]
          rw [Prog.wp_bind]
          refine runCommands_leaves plan.commands false h₂ (fun failure world' hquiet => hquiet)
            fun failed world₃ halted h₃ => ?_
          dsimp only
          rw [Prog.wp_bind]
          cases hdmesg : plan.dmesgCommand with
          | none => exact hsummary h₃
          | some command =>
              rw [hdmesg] at h₃
              rw [Prog.forSome, Prog.wp_void]
              have hstart : MayStart halted (some command) command
                  (if halted then none else some command) := by
                cases halted with
                | false => exact .inl ⟨rfl, rfl⟩
                | true => exact .inr ⟨rfl, rfl, rfl⟩
              refine runCommand_leaves h₃ hstart (fun failure world' hquiet => hquiet)
                fun result world₄ halted' h₄ _ => ?_
              exact hsummary h₄

end Steps

/-! ## The handler around it -/

section Handler

variable {halted : Bool} {dmesg : Option PlannedTestCommand}

/-- A step of the handler leaves the runner alone. -/
theorem idle_tier {o : SshTier.Op} {Q : Except Failure (SshTier.Resp o) → World → Prop}
    (h : Idle plan halted dmesg world)
    (hQ : ∀ result world', Idle plan halted dmesg world' → Q result world') :
    byTurns handle (.tier o) Q world := by
  have hpass : Passes plan world (world.pass handle).2 := passes_pass world
  have hnext := h.pass hpass
  exact hQ _ _ ⟨hnext.process, hnext.follows⟩

/-- The rule of the handler, whose one step is a run of tests. -/
abbrev inDetail (plan : TestPlan) (handle : AdmissionHandle) : Prog.Rule SshTier.Resp Failure World :=
  (byTurns handle).expand (detail plan)

/-- Steps of the handler behind the tests. -/
def Late : SshTier.Op → Prop
  | .work .executeTests => False
  | _ => True

theorem quiet_detail {o : SshTier.Op} (ho : Late o)
    {Q : Except Failure (SshTier.Resp o) → World → Prop} (h : Quiet plan world)
    (hQ : ∀ result world', Quiet plan world' → Q result world') :
    inDetail plan handle o Q world := by
  obtain ⟨halted, dmesg, hidle⟩ := h
  have htier : ∀ o : SshTier.Op, ∀ Q : Except Failure (SshTier.Resp o) → World → Prop,
      (∀ result world', Quiet plan world' → Q result world') →
      (Prog.perform (Step.tier o) : Script (SshTier.Resp o)).wp (byTurns handle) Q world :=
    fun o Q hQ => (Prog.wp_perform _).mpr
      (idle_tier hidle fun result world' h' => hQ result world' ⟨halted, dmesg, h'⟩)
  cases o with
  | complete => exact htier .complete Q hQ
  | rollback => exact htier .rollback Q hQ
  | record status => exact htier (.record status) Q hQ
  | work what =>
      cases what with
      | executeTests => exact ho.elim
      | startWatcher | redactResult | makeDirectories | renderWrapper | persistFiles | buildArgv
      | runSsh | chmodOutputs | readStderr | writeArtifacts | finalize => exact htier (.work _) Q hQ

theorem quiet_late {α : Type} {p : SshTier.Run α} (hp : p.Calls Late) (h : Quiet plan world)
    {Q : Except Failure α → World → Prop}
    (hQ : ∀ result world', Quiet plan world' → Q result world') :
    p.wp (inDetail plan handle) Q world :=
  hp.wp (fun _ ho _ _ h hR => quiet_detail ho h hR) hQ h

/-- A step of the handler in front of the tests. -/
theorem idle_detail {o : SshTier.Op} {Q : Except Failure (SshTier.Resp o) → World → Prop}
    (hdetail : detail plan o = Prog.perform (Step.tier o)) (h : Idle plan halted dmesg world)
    (hQ : ∀ result world', Idle plan halted dmesg world' → Q result world') :
    inDetail plan handle o Q world := by
  rw [inDetail, Prog.Rule.expand, hdetail]
  exact (Prog.wp_perform _).mpr (idle_tier h hQ)

/-- A whole run leaves no command behind. -/
theorem runTests_leaves (h : Idle plan false plan.dmesgCommand world) :
    (runTests plan).wp (byTurns handle) (fun _ world' => Quiet plan world') world := by
  rw [runTests, Prog.wp_expand, SshTier.runTests, Prog.wp_bind, Prog.wp_perform]
  refine idle_detail rfl h fun recorded world₁ h₁ => ?_
  cases recorded with
  | error failure => exact ⟨_, _, h₁⟩
  | ok u =>
      dsimp only
      have hfailed : ∀ world', Quiet plan world' → ((do
          Prog.suppress (Prog.perform Op.rollback)
          Prog.perform (Op.record .failed)) : SshTier.Run Unit).wp (inDetail plan handle)
            (fun _ world'' => Quiet plan world'') world' := by
        intro world' hquiet
        refine quiet_late ?_ hquiet fun _ _ h => h
        exact .bind (.suppress (.call trivial)) fun _ => .call trivial
      have hdone : ∀ status world', Quiet plan world' → ((do
          let _ ← Prog.perform (Op.work .redactResult)
          Prog.perform (Op.record status)) : SshTier.Run Unit).wp (inDetail plan handle)
            (fun _ world'' => Quiet plan world'') world' := by
        intro status world' hquiet
        refine quiet_late ?_ hquiet fun _ _ h => h
        exact .bind (.call trivial) fun _ => .call trivial
      rw [runTestsRecorded, Prog.wp_bind, Prog.wp_attempt, executeTestsUnderGate, Prog.wp_bind,
        Prog.wp_perform]
      refine idle_detail rfl h₁ fun started world₂ h₂ => ?_
      cases started with
      | error failure => exact hfailed _ ⟨_, _, h₂⟩
      | ok u =>
          dsimp only
          rw [Prog.wp_bind, Prog.wp_perform]
          refine Prog.wp_mono (byTurns_mono handle) (fun executed world₃ h₃ => ?_)
            (executeTests_leaves h₂)
          cases executed with
          | error failure => exact hfailed _ h₃
          | ok status =>
              dsimp only
              rw [Prog.wp_bind, Prog.wp_perform]
              have hcomplete : Late .complete := trivial
              refine quiet_detail hcomplete h₃ fun completed world₄ h₄ => ?_
              cases completed with
              | error failure => exact hfailed _ h₄
              | ok u => exact hdone status _ h₄

end Handler

/-! ## The fence of the handle -/

section Fence

/-- The handle is in force, the event is set only while it is cancelled, and no success was
recorded. -/
structure Fenced (handle : AdmissionHandle) (world : World) : Prop where
  inForce : InForce handle world.desk.service
  fenced : world.runnerCancel = true → world.desk.service.Cancelled handle
  unrecorded : .succeeded ∉ world.desk.recorded

/-- The handle was completed: it was not cancelled and nobody can cancel it any more. -/
structure Free (handle : AdmissionHandle) (world : World) : Prop where
  out : Out handle world.desk.service
  free : ¬ world.desk.service.Cancelled handle
  unset : world.runnerCancel = false

theorem interfere_cancelled {s : AdmissionService} (h : s.Cancelled handle) (calls : List Call) :
    (interfere handle calls s).Cancelled handle := by
  unfold interfere
  induction calls.filter fun c => takes c ≠ some handle.handleId generalizing s with
  | nil => exact h
  | cons c calls ih => exact ih ((after_evolves c s).cancelled _ h)

theorem interfere_free {s : AdmissionService} (hout : Out handle s) (h : ¬ s.Cancelled handle)
    (calls : List Call) : ¬ (interfere handle calls s).Cancelled handle := by
  unfold interfere
  induction calls.filter fun c => takes c ≠ some handle.handleId generalizing s with
  | nil => exact h
  | cons c calls ih =>
      have hchange := perform_change c s
      exact ih ⟨hout.valid.after c, (after_evolves c s).issued.subset hout.issued,
        hchange.gone hout.valid hout.issued hout.gone⟩
        (hchange.uncancelled hout.valid hout.issued hout.gone h)

theorem exits_desk (world : World) (exit : Option Int) : (world.exits exit).desk = world.desk := by
  unfold World.exits
  split <;> rfl

theorem watches_desk (world : World) (watched : Bool) :
    (world.watches handle watched).desk = world.desk := by
  unfold World.watches
  split <;> rfl

theorem pass_desk (world : World) : (world.pass handle).2.desk = world.desk := by
  unfold World.pass
  split
  · rfl
  · exact (exits_desk _ _).trans (watches_desk _ _)

/-- The event becomes set only while the handle is cancelled. -/
theorem pass_runnerCancel (world : World) (h : (world.pass handle).2.runnerCancel = true) :
    world.runnerCancel = true ∨ world.desk.service.Cancelled handle := by
  unfold World.pass at h
  split at h
  · exact .inl h
  · rw [exits_runnerCancel] at h
    unfold World.watches at h
    split at h
    · next hwatched => exact .inr hwatched.2.1
    · exact .inl h

theorem Fenced.pass (h : Fenced handle world) : Fenced handle (world.pass handle).2 := by
  have hdesk : (world.pass handle).2.desk = world.desk := pass_desk world
  refine ⟨hdesk ▸ h.inForce, fun hset => ?_, hdesk ▸ h.unrecorded⟩
  rw [hdesk]
  exact (pass_runnerCancel world hset).elim h.fenced id

theorem Free.pass (h : Free handle world) : Free handle (world.pass handle).2 := by
  have hdesk : (world.pass handle).2.desk = world.desk := pass_desk world
  refine ⟨hdesk ▸ h.out, hdesk ▸ h.free, ?_⟩
  cases hset : (world.pass handle).2.runnerCancel with
  | false => rfl
  | true =>
      rcases pass_runnerCancel world hset with hbefore | hcancelled
      · rw [h.unset] at hbefore
        cases hbefore
      · exact absurd hcancelled h.free

/-- The calls of others. -/
theorem Fenced.others (h : Fenced handle world) :
    Fenced handle { world with desk := (world.desk.turn handle).2 } := by
  unfold Desk.turn
  split
  · exact h
  · exact ⟨h.inForce.interfere _, fun hset => interfere_cancelled (h.fenced hset) _, h.unrecorded⟩

theorem Free.others (h : Free handle world) :
    Free handle { world with desk := (world.desk.turn handle).2 } := by
  unfold Desk.turn
  split
  · exact h
  · exact ⟨h.out.interfere _, interfere_free h.out h.free _, h.unset⟩

/-- A step of the runner. -/
def Own : Step → Prop
  | .tier _ => False
  | _ => True

/-- A step of the runner changes the process and the log and nothing else. -/
theorem exec_own {step : Step} (hstep : Own step) (world : World) :
    (exec handle step world).2.desk = (world.turn handle).2.2.desk ∧
      (exec handle step world).2.runnerCancel = (world.turn handle).2.2.runnerCancel := by
  cases step with
  | tier o => exact hstep.elim
  | which | isSet => exact ⟨rfl, rfl⟩
  | files | start =>
      rw [exec]
      generalize world.turn handle = turn
      obtain ⟨result, found, next⟩ := turn
      cases result <;> exact ⟨rfl, rfl⟩
  | wait | terminateAndWait =>
      rw [exec]
      generalize world.turn handle = turn
      obtain ⟨result, found, next⟩ := turn
      dsimp only
      cases next.process <;> exact ⟨rfl, rfl⟩

theorem fenced_own {step : Step} (hstep : Own step) {Q : Except Failure (Answer step) → World → Prop}
    (h : Fenced handle world) (hQ : ∀ result world', Fenced handle world' → Q result world') :
    byTurns handle step Q world := by
  have hown : (exec handle step world).2.desk = (world.turn handle).2.2.desk ∧
      (exec handle step world).2.runnerCancel = (world.turn handle).2.2.runnerCancel :=
    exec_own hstep world
  obtain ⟨hdesk, hset⟩ := hown
  have hturn : Fenced handle (world.turn handle).2.2 := h.others.pass
  refine hQ _ _ ⟨hdesk ▸ hturn.inForce, fun h => ?_, hdesk ▸ hturn.unrecorded⟩
  rw [hdesk]
  exact hturn.fenced (hset ▸ h)

theorem pollUntilStop_own (passes : Nat) : (pollUntilStop passes).Calls Own := by
  have honce {next : Script SshStopReason} (hnext : next.Calls Own) : (pollOnce next).Calls Own := by
    refine .bind (.call trivial) fun returncode => ?_
    cases returncode with
    | some returncode => trivial
    | none =>
        refine .bind (.call trivial) fun set => ?_
        cases set with
        | true => exact .bind (.call trivial) fun _ => trivial
        | false => exact hnext
  induction passes with
  | zero => exact honce (.bind (.call trivial) fun _ => trivial)
  | succ passes ih => exact honce ih

theorem runCommand_own (command : PlannedTestCommand) : (runCommand command).Calls Own :=
  .bind (.call trivial) fun _ => .bind (.call trivial) fun _ =>
    .bind (pollUntilStop_own _) fun _ => .bind (.call trivial) fun _ => trivial

theorem runCommands_own (stop : Bool) (commands : List PlannedTestCommand) (requiredFailed : Bool) :
    (runCommands stop commands requiredFailed).Calls Own := by
  induction commands generalizing requiredFailed with
  | nil => trivial
  | cons command commands ih =>
      refine .bind (runCommand_own command) fun result => .bind (.call trivial) fun _ => ?_
      split
      · cases stop with
        | true => trivial
        | false => exact ih true
      · exact ih requiredFailed

theorem executeTests_own (plan : TestPlan) : (executeTests plan).Calls Own := by
  refine .bind (.call trivial) fun _ => .bind (.call trivial) fun found => ?_
  cases found with
  | false => exact .bind (.call trivial) fun _ => trivial
  | true =>
      refine .bind (runCommands_own _ _ _) fun _ => .bind ?_ fun _ => .bind (.call trivial) fun _ => trivial
      exact .forSome fun command _ => .void (runCommand_own command)

/-- Work and records of no success leave the handle in force. -/
theorem fenced_tier {o : SshTier.Op} {Q : Except Failure (SshTier.Resp o) → World → Prop}
    (ho : (∃ what, o = .work what) ∨ ∃ status, o = .record status ∧ status ≠ .succeeded)
    (h : Fenced handle world) (hQ : ∀ result world', Fenced handle world' → Q result world') :
    byTurns handle (.tier o) Q world := by
  have hturn := h.pass.others
  rcases ho with ⟨what, rfl⟩ | ⟨status, rfl, hstatus⟩
  · exact hQ _ _ hturn
  · rw [byTurns, Prog.Rule.ofExec, exec, SshTier.exec]
    generalize (world.pass handle).2.desk.turn handle = turn at hturn ⊢
    obtain ⟨result, desk⟩ := turn
    cases result with
    | error failure => exact hQ _ _ hturn
    | ok status' =>
        exact hQ _ _ ⟨hturn.inForce, hturn.fenced, not_mem_recorded hturn.unrecorded hstatus⟩

/-- A completion is refused, or the event is not set and stays so. -/
theorem fenced_complete {Q : Except Failure Unit → World → Prop} (h : Fenced handle world)
    (hfree : ∀ world', Free handle world' → Q (.ok ()) world')
    (hfenced : ∀ failure world', Fenced handle world' → Q (.error failure) world') :
    byTurns handle (.tier .complete) Q world := by
  have hturn := h.pass.others
  rw [byTurns, Prog.Rule.ofExec, exec, SshTier.exec]
  generalize (world.pass handle).2.desk.turn handle = turn at hturn ⊢
  obtain ⟨result, desk⟩ := turn
  dsimp only at hturn ⊢
  cases hresult : desk.service.complete handle with
  | error error => exact hfenced _ _ hturn
  | ok answer =>
      obtain ⟨u, service⟩ := answer
      obtain ⟨hfree', _, _, _, _, rfl⟩ := complete_eq_ok.mp hresult
      refine hfree _ ⟨hturn.inForce.disposed not_completed_live, fun hcancelled => ?_, ?_⟩
      · refine hfree' ?_
        have hflags : ((desk.service.disposed handle .completed).flags handle.handleId).cancelled =
            (desk.service.flags handle.handleId).cancelled := by
          rw [disposed_flags, Function.update_self]
        exact hflags.symm.trans hcancelled
      · cases hset : (world.pass handle).2.runnerCancel with
        | false => rfl
        | true => exact absurd (hturn.fenced hset) hfree'

/-- Once it is completed the handler changes nothing about the handle. -/
theorem free_tier {o : SshTier.Op} {Q : Except Failure (SshTier.Resp o) → World → Prop}
    (ho : (∃ what, o = .work what) ∨ ∃ status, o = .record status)
    (h : Free handle world) (hQ : ∀ result world', Free handle world' → Q result world') :
    byTurns handle (.tier o) Q world := by
  have hturn := h.pass.others
  rcases ho with ⟨what, rfl⟩ | ⟨status, rfl⟩
  · exact hQ _ _ hturn
  · rw [byTurns, Prog.Rule.ofExec, exec, SshTier.exec]
    generalize (world.pass handle).2.desk.turn handle = turn at hturn ⊢
    obtain ⟨result, desk⟩ := turn
    cases result with
    | error failure => exact hQ _ _ hturn
    | ok status' => exact hQ _ _ ⟨hturn.out, hturn.free, hturn.unset⟩

theorem turn_recorded (desk : Desk) : (desk.turn handle).2.recorded = desk.recorded := by
  unfold Desk.turn
  split <;> rfl

/-- A failure records no success. -/
theorem unrecorded_tier {o : SshTier.Op} {Q : Except Failure (SshTier.Resp o) → World → Prop}
    (ho : o = .rollback ∨ o = .record .failed) (h : .succeeded ∉ world.desk.recorded)
    (hQ : ∀ result (world' : World), .succeeded ∉ world'.desk.recorded → Q result world') :
    byTurns handle (.tier o) Q world := by
  have hturn : .succeeded ∉ ((world.pass handle).2.desk.turn handle).2.recorded := by
    rwa [turn_recorded, pass_desk]
  rw [byTurns, Prog.Rule.ofExec, exec]
  rcases ho with rfl | rfl
  · rw [SshTier.exec]
    generalize ((world.pass handle).2.desk.turn handle).2 = desk at hturn ⊢
    dsimp only
    cases desk.service.rollback handle with
    | error error => exact hQ _ _ hturn
    | ok answer => exact hQ _ _ hturn
  · rw [SshTier.exec]
    generalize (world.pass handle).2.desk.turn handle = turn at hturn ⊢
    obtain ⟨result, desk⟩ := turn
    cases result with
    | error failure => exact hQ _ _ hturn
    | ok status => exact hQ _ _ (not_mem_recorded hturn (by decide))

/-- The event is not set, or no success is recorded. -/
def Honest (world : World) : Prop := world.runnerCancel = false ∨ .succeeded ∉ world.desk.recorded

theorem failure_honest (h : .succeeded ∉ world.desk.recorded) :
    ((do
      Prog.suppress (Prog.perform Op.rollback)
      Prog.perform (Op.record .failed)) : SshTier.Run Unit).wp (inDetail plan handle)
      (fun _ world' => Honest world') world := by
  rw [Prog.wp_bind, Prog.wp_suppress, Prog.wp_perform, inDetail, Prog.Rule.expand]
  refine (Prog.wp_perform _).mpr (unrecorded_tier (.inl rfl) h fun _ world₁ h₁ => ?_)
  rw [Prog.wp_perform, Prog.Rule.expand]
  exact (Prog.wp_perform _).mpr (unrecorded_tier (.inr rfl) h₁ fun _ _ h₂ => .inr h₂)

theorem success_honest {status : StepStatus} (h : Free handle world) :
    ((do
      let _ ← Prog.perform (Op.work .redactResult)
      Prog.perform (Op.record status)) : SshTier.Run Unit).wp (inDetail plan handle)
      (fun _ world' => Honest world') world := by
  rw [Prog.wp_bind, Prog.wp_perform, inDetail, Prog.Rule.expand]
  refine (Prog.wp_perform _).mpr (free_tier (.inl ⟨_, rfl⟩) h fun redacted world₁ h₁ => ?_)
  cases redacted with
  | error failure => exact .inl h₁.unset
  | ok u =>
      dsimp only
      rw [Prog.wp_perform, Prog.Rule.expand]
      exact (Prog.wp_perform _).mpr
        (free_tier (.inr ⟨_, rfl⟩) h₁ fun _ _ h₂ => .inl h₂.unset)

/-- A run whose event was set records no success. -/
theorem runTests_honest (h : Fenced handle world) :
    (runTests plan).wp (byTurns handle) (fun _ world' => Honest world') world := by
  have htier {o : SshTier.Op} {Q : Except Failure (SshTier.Resp o) → World → Prop} {world : World}
      (hdetail : detail plan o = Prog.perform (Step.tier o))
      (hrule : byTurns handle (.tier o) Q world) : inDetail plan handle o Q world := by
    rw [inDetail, Prog.Rule.expand, hdetail]
    exact (Prog.wp_perform _).mpr hrule
  rw [runTests, Prog.wp_expand, SshTier.runTests, Prog.wp_bind, Prog.wp_perform]
  refine htier rfl (fenced_tier (.inr ⟨_, rfl, by decide⟩) h fun recorded world₁ h₁ => ?_)
  cases recorded with
  | error failure => exact .inr h₁.unrecorded
  | ok u =>
      dsimp only
      rw [runTestsRecorded, Prog.wp_bind, Prog.wp_attempt, executeTestsUnderGate, Prog.wp_bind,
        Prog.wp_perform]
      refine htier rfl (fenced_tier (.inl ⟨_, rfl⟩) h₁ fun started world₂ h₂ => ?_)
      cases started with
      | error failure => exact failure_honest h₂.unrecorded
      | ok u =>
          dsimp only
          rw [Prog.wp_bind, Prog.wp_perform]
          refine (executeTests_own plan).wp (fun step hstep _ _ h hR => fenced_own hstep h hR)
            (fun executed world₃ h₃ => ?_) h₂
          cases executed with
          | error failure => exact failure_honest h₃.unrecorded
          | ok status =>
              dsimp only
              rw [Prog.wp_bind, Prog.wp_perform]
              refine htier rfl (fenced_complete h₃ (fun world₄ h₄ => success_honest h₄)
                fun failure world₄ h₄ => failure_honest h₄.unrecorded)

end Fence

/-! ## The result -/

/-- What a run of tests does about its commands, with or without a cancellation. -/
structure WindsDown (plan : TestPlan) (world : World) : Prop where
  /-- A command that was started is looked at until it ends or is killed. -/
  ends : ∀ before command after, world.log = before ++ .start command :: after →
    ∃ looks event rest, after = looks ++ event :: rest ∧ Ends command event ∧
      ∀ x ∈ looks, x = .look command ∨ x = .set
  /-- Once the event is set a look that finds a command running is the last one. -/
  last : ∀ before command after, world.log = before ++ .look command :: after → .set ∈ before →
    ∃ event rest, after = event :: rest ∧ Ends command event
  /-- Where failures stop the suite, only the kernel log follows a required command that was
  killed. -/
  stops : ∀ before command after, world.log = before ++ .kill command :: after →
    command.required = true → plan.stopOnFailure = true →
      starts after <+: plan.dmesgCommand.toList
  /-- No success is recorded of a run whose event was set. -/
  unrecorded : .set ∈ world.log → .succeeded ∉ world.desk.recorded

/-- What an accepted log says. -/
theorem windsDown_of_quiet (h : Quiet plan world) (hhonest : Honest world) :
    WindsDown plan world := by
  obtain ⟨halted, dmesg, hprocess, looked, hfollows⟩ := h
  rw [Follows, hprocess] at hfollows
  refine ⟨fun before command after hlog => ?_, fun before command after hlog hset => ?_,
    fun before command after hlog hrequired hstop => ?_, fun hset => ?_⟩
  · rw [hlog] at hfollows
    obtain ⟨mid, next, -, hnext, hrest⟩ := read_split hfollows
    exact life_of_read hrest (step_start hnext).2.1 rfl
  · rw [hlog] at hfollows
    obtain ⟨mid, next, hmid, hnext, hrest⟩ := read_split hfollows
    have hmidset : mid.set = true := (set_of_read hmid).mpr (.inr hset)
    obtain ⟨hrunning, -, rfl⟩ := step_look hnext
    exact ends_of_read hrest hrunning hmidset hmidset rfl
  · rw [hlog] at hfollows
    obtain ⟨mid, next, hmid, hnext, hrest⟩ := read_split hfollows
    obtain ⟨-, rfl⟩ := step_kill hnext
    exact (starts_of_halted hrest (by simp [hstop, hrequired])).trans (dmesg_of_read hmid)
  · have hcancel : world.runnerCancel = true := (set_of_read hfollows).mpr (.inr hset)
    rcases hhonest with hunset | hunrecorded
    · rw [hcancel] at hunset
      cases hunset
    · exact hunrecorded

/-- Whatever others call, whenever the watcher looks and however the commands end, a run of
tests winds down once its event is set. -/
theorem runTests_windsDown (ttl : Int) (nextId : Nat) (calls : List Call) (k : TargetKey) (g : Int)
    (platform : PlatformMetadata) (lease : Option LeaseInfo) (minLeaseTtl : Option Int)
    (proof : Option ExecutionProof) (now : Instant) (handle : AdmissionHandle)
    (s' : AdmissionService) (plan : TestPlan) (turns : List Turn) (moments : List Moment)
    (hadmission : (Runs.run after calls (AdmissionService.fresh ttl nextId)).admitSshTier k g
      platform lease minLeaseTtl proof now = .ok (handle, s')) :
    WindsDown plan ((runTests plan).run (exec handle) (admitted s' turns moments)).2 := by
  have hheld := held_admitted (valid_of_run ttl nextId calls) hadmission turns
  have hidle : Idle plan false plan.dmesgCommand (admitted s' turns moments) :=
    ⟨rfl, false, rfl⟩
  have hfenced : Fenced handle (admitted s' turns moments) :=
    ⟨hheld.inForce, fun h => Bool.noConfusion h, hheld.quiet⟩
  exact windsDown_of_quiet (Prog.wp_ofExec.mp (runTests_leaves hidle))
    (Prog.wp_ofExec.mp (runTests_honest hfenced))

/-- Two optional commands and the kernel log. -/
def probes : TestPlan where
  commands := [⟨"uname", false, 30⟩, ⟨"lsmod", false, 30⟩]
  dmesgCommand := some ⟨"dmesg", false, 10⟩
  stopOnFailure := true

/-- The kernel halts while the first of them runs, and each one hangs. -/
def haltTurns : List Turn :=
  List.replicate 7 ⟨[], .ok .running⟩ ++ [⟨[.cancelSshTier (localTarget "run") 1 0], .ok .running⟩]

/-- The watcher sees it at its next look. -/
def haltMoments : List Moment :=
  List.replicate 7 ⟨none, false, true⟩ ++ [⟨none, true, true⟩]

theorem runTests_windsDown_halt :
    WindsDown probes ((runTests probes).run (exec firstHandle)
      (admitted ((Runs.run after bootedCalls (fresh 60 0)).registered firstHandle)
        haltTurns haltMoments)).2 :=
  runTests_windsDown 60 0 bootedCalls (localTarget "run") 1 (bootPlatform true) none none none 0
    firstHandle _ probes haltTurns haltMoments firstHandle_admission

/-- The commands behind it are started all the same, and killed at their first look. -/
example :
    ((runTests probes).run (exec firstHandle)
      (admitted ((Runs.run after bootedCalls (fresh 60 0)).registered firstHandle)
        haltTurns haltMoments)).2.log =
      [.start ⟨"uname", false, 30⟩, .look ⟨"uname", false, 30⟩, .set, .kill ⟨"uname", false, 30⟩,
        .start ⟨"lsmod", false, 30⟩, .look ⟨"lsmod", false, 30⟩, .kill ⟨"lsmod", false, 30⟩,
        .start ⟨"dmesg", false, 10⟩, .look ⟨"dmesg", false, 10⟩, .kill ⟨"dmesg", false, 10⟩] := by
  rfl

end TestRun

end Kdive

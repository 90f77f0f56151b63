import Kdive.Target.CrashedStep

/-!
# When a crashed step can be run again

`crashed_runs_again_iff` puts the two tools together: whatever the tool was that the
server died in and wherever it died, a later call runs the step again exactly when it
finds none of the lock files it takes, or answers with a recorded outcome.
-/

namespace Kdive.Steps

open Program Artifacts

variable {Json : Type} [DecidableEq Json]

/-- A call of one of the two tools. -/
inductive StepCall (Json : Type) where
  | boot (c : BootCall Json)
  | tests (c : TestsCall Json)

namespace StepCall

/-- The program of a call. -/
def program : StepCall Json → StoreRun Json (Answer Json)
  | .boot c => c.program
  | .tests c => c.program

/-- The step it runs. -/
def stepName : StepCall Json → String
  | .boot _ => "boot"
  | .tests _ => "run_tests"

/-- The JSON value that marks a recovered result. -/
def jsonTrue : StepCall Json → Json
  | .boot c => c.jsonTrue
  | .tests c => c.jsonTrue

/-- It gets as far as the locks, nothing it calls fails, and its work ends. -/
def Ready (m : RunManifest Json) : StepCall Json → Prop
  | .boot c => c.Ready m
  | .tests c => c.Ready m

/-- The recorded outcome of the step is its answer. -/
def Answered (m : RunManifest Json) : StepCall Json → Prop
  | .boot c => ((m.result? "boot").filter c.shortCircuits).isSome = true
  | .tests c => (c.recorded? (m.result? "run_tests")).isSome = true

/-- The lock files it creates. -/
def lockFiles (m : RunManifest Json) : StepCall Json → List LockFile
  | .boot c =>
      match c.inputs m with
      | .ok inputs => BootCall.lockFiles inputs
      | .error _ => []
  | .tests _ => TestsCall.lockFiles

/-- None of the lock files it creates exists. -/
def Unlocked (c : StepCall Json) (d : Disk Json) (m : RunManifest Json) : Prop :=
  ∀ file ∈ c.lockFiles m, d.locks file = false

theorem program_safe (c : StepCall Json) : Safe c.program := by
  cases c with
  | boot c => exact c.program_safe
  | tests c => exact c.program_safe

end StepCall

/-- The call runs the step again: it is not refused, the step ends with an outcome, no
attempt and no other result is lost, and a stale result is recovered on the way. -/
structure RunsAgain (c : StepCall Json) (d : Disk Json) (m : RunManifest Json) : Prop where
  finishes : Finishes c.stepName c.program d m
  recovers : Recovers c.stepName c.jsonTrue c.program d m

section Cases

variable {d : Disk Json} {m : RunManifest Json}

omit [DecidableEq Json] in
theorem not_finishes_of_refused {stepName : String} {p : StoreRun Json (Answer Json)}
    (h : AnswersRefused p d) : ¬ Finishes stepName p d m := by
  rintro ⟨answer, d', m', hrun, hanswer, _⟩
  obtain ⟨answer', d'', hrun', hrefuses⟩ := h
  rw [hrun, Prod.mk.injEq, Except.ok.injEq] at hrun'
  exact hanswer (hrun'.1 ▸ hrefuses)

omit [DecidableEq Json] in
/-- What holds of a program depends on how it runs. -/
theorem Finishes.of_run_eq {stepName : String} {p q : StoreRun Json (Answer Json)}
    (h : Finishes stepName p d m) (hrun : q.run diskExec d = p.run diskExec d) :
    Finishes stepName q d m := by
  obtain ⟨answer, d', m', heq, hrest⟩ := h
  exact ⟨answer, d', m', hrun.trans heq, hrest⟩

omit [DecidableEq Json] in
theorem Finishes.of_recorded {stepName : String} {p : StoreRun Json (Answer Json)}
    {answer : Answer Json} {result : StepResult Json} (hd : d.stored = some m)
    (hrun : p.run diskExec d = (.ok answer, d)) (hanswer : ¬ answer.Refuses)
    (hresult : m.result? stepName = some result)
    (hstatus : result.status = .succeeded ∨ result.status = .failed) :
    Finishes stepName p d m :=
  ⟨answer, d, m, hrun, hanswer, hd, rfl, .refl, result, hresult, hstatus⟩

omit [DecidableEq Json] in
/-- A recorded outcome is not stale. -/
theorem Recovers.of_recorded {stepName : String} {p : StoreRun Json (Answer Json)} {jsonTrue : Json}
    {result : StepResult Json} (hresult : m.result? stepName = some result)
    (hstatus : result.status = .succeeded ∨ result.status = .failed) :
    Recovers stepName jsonTrue p d m := by
  intro stale hstale hrunning
  obtain rfl := Option.some.inj (hresult.symm.trans hstale)
  rw [hrunning] at hstatus
  rcases hstatus with hstatus | hstatus <;> cases hstatus

/-- The iff of one tool, from what its handler does with and without the locks. -/
theorem runsAgain_iff_of_locks {c : StepCall Json} {q : StoreRun Json (Answer Json)}
    (hrun : c.program.run diskExec d = q.run diskExec d)
    (hfinishes : c.Unlocked d m → Finishes c.stepName q d m)
    (hrecovers : c.Unlocked d m → Recovers c.stepName c.jsonTrue c.program d m)
    (hrefused : (∃ file ∈ c.lockFiles m, d.locks file = true) → AnswersRefused q d) :
    RunsAgain c d m ↔ c.Unlocked d m := by
  constructor
  · intro h file hfile
    cases hlock : d.locks file with
    | false => rfl
    | true =>
        have hq := h.finishes.of_run_eq hrun.symm
        exact absurd hq (not_finishes_of_refused (hrefused ⟨file, hfile, hlock⟩))
  · exact fun h => ⟨(hfinishes h).of_run_eq hrun, hrecovers h⟩

theorem BootCall.runsAgain_iff {c : BootCall Json} (h : c.Ready m) (hd : d.stored = some m) :
    RunsAgain (.boot c) d m ↔ (StepCall.boot c).Answered m ∨ (StepCall.boot c).Unlocked d m := by
  obtain ⟨inputs, hinputs⟩ := h.inputs
  have hrun : (StepCall.boot c).program.run diskExec d = _ := c.program_run h hd hinputs
  have hlocks : (StepCall.boot c).lockFiles m = BootCall.lockFiles inputs := by
    simp [StepCall.lockFiles, hinputs]
  rw [StepCall.Unlocked, hlocks]
  cases hrecorded : (m.result? "boot").filter c.shortCircuits with
  | some result =>
      have hanswered : (StepCall.boot c).Answered m := by simp [StepCall.Answered, hrecorded]
      obtain ⟨hresult, hshort⟩ := Option.filter_eq_some_iff.mp hrecorded
      have hstatus : result.status = .succeeded := by
        simp only [BootCall.shortCircuits, Bool.and_eq_true, decide_eq_true_eq] at hshort
        exact hshort.1.1
      rw [hrecorded] at hrun
      refine iff_of_true ⟨?_, ?_⟩ (.inl hanswered)
      · exact .of_recorded hd hrun (Answer.not_refuses_succeeded _) hresult (.inl hstatus)
      · exact .of_recorded hresult (.inl hstatus)
  | none =>
      have hanswered : ¬ (StepCall.boot c).Answered m := by simp [StepCall.Answered, hrecorded]
      rw [hrecorded] at hrun
      rw [or_iff_right hanswered, ← hlocks]
      refine runsAgain_iff_of_locks hrun ?_ ?_ ?_
      · rw [StepCall.Unlocked, hlocks]
        exact fun hfree => underLocks_finishes h hd hrecorded hfree _
      · rw [StepCall.Unlocked, hlocks]
        exact fun hfree => program_recovers h hd hinputs hrecorded hfree
      · rw [hlocks]
        exact fun hheld => underLocks_refused h hd hrecorded hheld _

theorem TestsCall.runsAgain_iff {c : TestsCall Json} (h : c.Ready m) (hd : d.stored = some m) :
    RunsAgain (.tests c) d m ↔
      (StepCall.tests c).Answered m ∨ (StepCall.tests c).Unlocked d m := by
  have hrun : (StepCall.tests c).program.run diskExec d = _ := c.program_run h hd
  cases hrecorded : c.recorded? (m.result? "run_tests") with
  | some answer =>
      have hanswered : (StepCall.tests c).Answered m := by simp [StepCall.Answered, hrecorded]
      rw [hrecorded] at hrun
      obtain ⟨result, hresult, hstatus, hanswer⟩ := recorded?_eq_some c hrecorded
      refine iff_of_true ⟨?_, ?_⟩ (.inl hanswered)
      · exact .of_recorded hd hrun hanswer hresult hstatus
      · exact .of_recorded hresult hstatus
  | none =>
      have hanswered : ¬ (StepCall.tests c).Answered m := by simp [StepCall.Answered, hrecorded]
      rw [hrecorded] at hrun
      rw [or_iff_right hanswered]
      exact runsAgain_iff_of_locks hrun (fun hfree => underLocks_finishes h hd hrecorded hfree _)
        (fun hfree => program_recovers h hd hrecorded hfree)
        (fun hheld => underLocks_refused h hd hrecorded hheld _)

end Cases

/-- Wherever the server dies in one of the tools, a later call of one of them runs its step
again exactly when it finds none of the lock files it takes, unless the outcome of the
step is recorded and is the answer. -/
theorem crashed_runs_again_iff (first : StepCall Json) (d₀ d : Disk Json)
    (hreadable : d₀.stored.isSome = true) (hcut : first.program.Reaches diskExec d₀ d) :
    ∃ m, d.stored = some m ∧ ∀ later : StepCall Json, later.Ready m →
      (RunsAgain later d m ↔ later.Answered m ∨ later.Unlocked d m) := by
  obtain ⟨m, hm⟩ := Option.isSome_iff_exists.mp (first.program_safe.reaches hreadable hcut)
  refine ⟨m, hm, fun later hready => ?_⟩
  cases later with
  | boot c => exact BootCall.runsAgain_iff hready hm
  | tests c => exact TestsCall.runsAgain_iff hready hm

/-- A boot that goes well. -/
def sampleBoot : StepCall Unit := .boot {
  run := ⟨"run-1", "/artifacts/run-1"⟩
  jsonTrue := ()
  forceReboot := false
  hasNewBootOverrides := false
  permitted := true
  inputs := fun _ => .ok ⟨"linux-debug", (), ()⟩
  plan := .ok ⟨"/artifacts/run-1/target/boot.log", []⟩
  execution := .ok ⟨.succeeded, "target booted", [], [], none⟩ }

theorem sampleBoot_ready (m : RunManifest Unit) : sampleBoot.Ready m where
  faults := rfl
  inputs := ⟨_, rfl⟩
  permitted := rfl
  plan := fun s h => by cases h
  ends := by
    intro execution h
    cases h
    exact .inl rfl

/-- A server that died while the kernel booted: the attempt is recorded as running, and the
boot lock and the target lock are held. -/
def diedBooting : Disk Unit := sampleBoot.program.cut diskExec 16 Disk.fresh

/-- A server that died before it took a lock leaves a boot that can be run again. -/
theorem crashed_runs_again_iff_unlocked :
    RunsAgain sampleBoot (sampleBoot.program.cut diskExec 2 Disk.fresh) .create := by
  obtain ⟨m, hm, hruns⟩ := crashed_runs_again_iff sampleBoot Disk.fresh _ rfl
    (Prog.reaches_cut 2 sampleBoot.program Disk.fresh)
  obtain rfl := Option.some.inj hm
  refine (hruns sampleBoot (sampleBoot_ready _)).mpr (.inr ?_)
  intro file _
  rfl

/-- The later boot is answered that the dead one is running. -/
theorem diedBooting_answers_running :
    sampleBoot.program.Reaches diskExec Disk.fresh diedBooting ∧
      ∃ m result, diedBooting.stored = some m ∧ sampleBoot.Ready m ∧
        (sampleBoot.program.run diskExec diedBooting).1 = .ok (.running result) :=
  ⟨Prog.reaches_cut 16 _ _, _, _, rfl, sampleBoot_ready _, rfl⟩

end Kdive.Steps
